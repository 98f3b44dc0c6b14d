/-
This file proves what the users at the two ends of a TCP connection can rely on, for the loops
of the crate and not only for their machines: when neither end drives the other into Error, that
the one user gets in order what the other gave, and that undisturbed ends associate and lose
nothing. The loops simulate the pair of machines, so the results about the pair carry over. What
the pair does not have is the last step, from the receive queue to the user.
-/

import Fmtp.Agreement
import Fmtp.Opening
import Fmtp.Refinement

namespace Fmtp.Tokio

open TransitionSystem

/-! ### From the receive queue to the user -/

/-- What the machine pushes goes to the end of the queue, and nothing is delivered. -/
def Connection.Gathers (before after : Connection) : Prop :=
  ∃ news, pushed after.log = pushed before.log ++ news ∧
    after.ctx.recvQueue = before.ctx.recvQueue ++ news ∧
    delivered after.log = delivered before.log

namespace Connection.Gathers

variable {first before after : Connection} {actions : List Action}

theorem plain (gathers : first.Gathers before) (log : after.log = before.log ++ actions)
    (ctx : after.ctx = before.ctx) (delivers : delivered actions = [])
    (pushes : pushed actions = []) : first.Gathers after := by
  obtain ⟨news, gathered, queued, same⟩ := gathers
  refine ⟨news, ?_, ?_, ?_⟩
  · rw [log, pushed_append, pushes, List.append_nil, gathered]
  · rw [ctx, queued]
  · rw [log, delivered_append, delivers, List.append_nil, same]

theorem refl (connection : Connection) : connection.Gathers connection :=
  ⟨[], (List.append_nil _).symm, (List.append_nil _).symm, rfl⟩

theorem reports (gathers : first.Gathers before) (reports : before.Reports after) :
    first.Gathers after := by
  obtain ⟨actions, stays, plain⟩ := reports
  refine gathers.plain stays.log stays.ctx ?_ ?_
  · exact List.flatMap_eq_nil_iff.mpr fun action member => (plain action member).delivered
  · exact List.flatMap_eq_nil_iff.mpr fun action member => (plain action member).pushed

theorem dispatches {entry : Dispatched} (gathers : first.Gathers before)
    (dispatches : before.Dispatches after entry) : first.Gathers after := by
  obtain ⟨news, gathered, queued, same⟩ := gathers
  refine ⟨news ++ entry.messages, ?_, ?_, ?_⟩
  · rw [dispatches.log, pushed_append, gathered, List.append_assoc]
    exact congrArg (fun messages => pushed first.log ++ (news ++ messages)) (List.append_nil _)
  · rw [dispatches.ctx]
    show before.ctx.recvQueue ++ entry.messages = _
    rw [queued, List.append_assoc]
  · rw [dispatches.log, delivered_append, same]
    exact List.append_nil _

theorem once {raises : Event → Prop} (gathers : first.Gathers before)
    (once : Connection.Once raises before after) : first.Gathers after := by
  obtain ⟨middle, reports, rfl | ⟨entry, _, dispatched⟩⟩ := once
  · exact gathers.reports reports
  · exact (gathers.reports reports).dispatches dispatched

theorem kept (first : Connection) : Loop.Kept first.Gathers where
  dispatch := fun gathers handled => by
    obtain ⟨entry, _, dispatched⟩ := Connection.dispatch_spec handled
    exact gathers.dispatches dispatched
  connected := fun _ _ gathers => gathers.plain rfl rfl rfl rfl
  shut := fun _ gathers => gathers.plain rfl rfl rfl rfl

/-- Every arm but that of a received message only gathers. -/
theorem arm {loop : Loop} (gathers : first.Gathers loop.connection) (offer : Offer)
    {branch : Branch} (other : ∀ msg, branch ≠ .receive msg) :
    first.Gathers (loop.arm offer branch).connection := by
  by_cases busy : branch = .machine .idle
  · subst busy
    exact (kept first).idleArm gathers
  · exact gathers.once (loop.arm_once offer other busy)

end Connection.Gathers

/-- The front of the receive queue leaves it, to the user or not, and what the machine pushes goes
to the end. -/
structure Loop.Passes (loop next : Loop) (gave news : List FmtpMessage) : Prop where
  front : gave = [] ∨ gave = loop.connection.ctx.recvQueue.head?.toList
  delivers : delivered next.connection.log = delivered loop.connection.log ++ gave
  queue : next.connection.ctx.recvQueue = loop.connection.ctx.recvQueue.tail ++ news
  pushes : pushed next.connection.log = pushed loop.connection.log ++ news

namespace Loop

variable {loop next : Loop} {offer : Offer}

/-- Every iteration passes the front of the queue on or drops it, and it drops none for a user who
listens unless the message is overtaken. -/
theorem iterate_passes (move : loop.iterate offer = some next) :
    ∃ gave news, Passes loop next gave news ∧
      (offer.Listens → ¬ Overtaken loop offer →
        gave = loop.connection.ctx.recvQueue.head?.toList) := by
  obtain ⟨_, branch, selected, reports⟩ := loop.iterate_spec offer move
  by_cases received : ∃ msg, branch = .receive msg
  · obtain ⟨msg, rfl⟩ := received
    have front := (select_receive selected).1
    by_cases listening : offer.listening (.dataReceived msg) = true
    · have arm : loop.pop.arm offer (.receive msg) =
          loop.pop.record (.sent (.dataReceived msg)) := if_pos listening
      rw [arm] at reports
      obtain ⟨news, pushes, queue, delivers⟩ :=
        (Connection.Gathers.refl (loop.pop.record (.sent (.dataReceived msg))).connection).reports
          reports
      have hand : [msg] = loop.connection.ctx.recvQueue.head?.toList := by
        rw [front]
        rfl
      refine ⟨[msg], news, ⟨Or.inr hand, ?_, queue, ?_⟩, fun _ _ => hand⟩
      · rw [delivers]
        exact delivered_append _ _
      · rw [pushes]
        show pushed (loop.connection.log ++ [.sent (.dataReceived msg)]) ++ news = _
        rw [pushed_append]
        exact congrArg (· ++ news) (List.append_nil _)
    · have arm : loop.pop.arm offer (.receive msg) = loop.pop.leave offer := if_neg listening
      rw [arm] at reports
      obtain ⟨news, pushes, queue, delivers⟩ :=
        ((Connection.Gathers.refl loop.pop.connection).reports
          (loop.pop.leave_reports offer)).reports reports
      refine ⟨[], news, ⟨Or.inl rfl, ?_, queue, pushes⟩, fun listens => ?_⟩
      · rw [delivers]
        exact (List.append_nil _).symm
      · exact absurd (listens _) listening
  · have other : ∀ msg, branch ≠ .receive msg := fun msg same => received ⟨msg, same⟩
    obtain ⟨news, pushes, queue, delivers⟩ :=
      ((Connection.Gathers.refl loop.pop.connection).arm offer other).reports reports
    refine ⟨[], news, ⟨Or.inl rfl, ?_, queue, pushes⟩, fun _ clear => ?_⟩
    · rw [delivers]
      exact (List.append_nil _).symm
    · cases waiting : loop.connection.ctx.recvQueue with
      | nil => rfl
      | cons msg rest =>
        have same := selected.symm.trans (select_of_not_overtaken waiting clear)
        exact absurd (Option.some.inj same) (other msg)


/-- Nothing is duplicated or reordered, though some may be lost. -/
def InOrder (loop : Loop) : Prop :=
  (delivered loop.connection.log ++ loop.connection.ctx.recvQueue).Sublist
    (pushed loop.connection.log)

theorem inOrder_of_conserved (conserved : Conserved [] loop) : loop.InOrder := by
  unfold InOrder
  rw [conserved]
  exact List.Sublist.refl _

theorem front_append_tail (queue : List FmtpMessage) :
    queue.head?.toList ++ queue.tail = queue := by
  cases queue <;> rfl

/-- An iteration keeps the order, and delivers at most what was pushed before it. -/
theorem InOrder.iterate (inOrder : loop.InOrder) (move : loop.iterate offer = some next) :
    next.InOrder ∧
      (delivered next.connection.log).Sublist (pushed loop.connection.log) := by
  obtain ⟨gave, news, passes, _⟩ := iterate_passes move
  have split := front_append_tail loop.connection.ctx.recvQueue
  have part : gave.Sublist loop.connection.ctx.recvQueue.head?.toList := by
    rcases passes.front with rfl | rfl
    · exact List.nil_sublist _
    · exact List.Sublist.refl _
  have held : (delivered loop.connection.log ++
      (gave ++ loop.connection.ctx.recvQueue.tail)).Sublist (pushed loop.connection.log) := by
    have whole := part.append_right loop.connection.ctx.recvQueue.tail
    rw [split] at whole
    exact (whole.append_left _).trans inOrder
  rw [← List.append_assoc, ← passes.delivers] at held
  refine ⟨?_, (List.sublist_append_left _ _).trans held⟩
  unfold InOrder
  rw [passes.queue, passes.pushes, ← List.append_assoc]
  exact held.append_right news

end Loop

/-- Where the front goes to the user, every message is kept. -/
theorem Loop.Passes.conserved {loop next : Loop} {gave news : List FmtpMessage}
    (passes : loop.Passes next gave news)
    (hand : gave = loop.connection.ctx.recvQueue.head?.toList) (conserved : Conserved [] loop) :
    Conserved [] next ∧ delivered next.connection.log <+: pushed loop.connection.log := by
  have split := Loop.front_append_tail loop.connection.ctx.recvQueue
  rw [← hand] at split
  have held : delivered next.connection.log ++ loop.connection.ctx.recvQueue.tail =
      pushed loop.connection.log := by
    rw [passes.delivers, List.append_assoc, split]
    exact conserved
  refine ⟨?_, ⟨_, held⟩⟩
  unfold Conserved
  rw [passes.queue, passes.pushes, ← List.append_assoc, held]
  rfl

/-! ### Neither end drives the other into Error -/

/-- Both users listen and the environment is orderly. -/
def Network.Regular (network : Network) (label : Network.Label) : Prop :=
  label.offer.Listens ∧ network.orderly label = true

/-- No machine on the connection is in Error. -/
def Network.Sound (network : Network) : Prop :=
  ∀ side, (network.loop side).linked = true →
    (network.loop side).connection.inner.state ≠ .error

/-- A user asks for a shutdown. -/
def Network.stops (network : Network) (label : Network.Label) : Bool :=
  (network.loop label.side).select label.offer = some (.command (some .shutdown))

/-- The network follows a pair in one of the configurations of a session. -/
def Meets (mirror : Mirror) (network : Network) : Prop :=
  ∃ pair, Follows network pair ∧ Fmtp.InSession mirror pair

/-- The network follows a pair whose flows are strict. -/
def MeetsStrictly (mirror : Mirror) (network : Network) : Prop :=
  ∃ pair, Follows network pair ∧ InStrictSession mirror pair

theorem InStrictSession.inSession {mirror : Mirror} {pair : Pair}
    (inSession : InStrictSession mirror pair) : Fmtp.InSession mirror pair := by
  obtain ⟨session, represents, configured, _⟩ := inSession
  exact ⟨session, represents, configured⟩

/-- A step leaves the other side alone, and takes back nothing that was received. -/
theorem Pair.step_keeps {pair pair' : Fmtp.Pair} {label : Fmtp.Label}
    (move : pair.step label = some pair') :
    pair'.peer label.side.other = pair.peer label.side.other ∧
      (pair.peer label.side).ctx.recvQueue <+: (pair'.peer label.side).ctx.recvQueue := by
  obtain ⟨side, deed⟩ := label
  have dispatched {pair pair' : Fmtp.Pair} {event : Event}
      (move : pair.dispatch side event = some pair') :
      pair'.peer side.other = pair.peer side.other ∧
        (pair.peer side).ctx.recvQueue <+: (pair'.peer side).ctx.recvQueue := by
    obtain ⟨_, _, messages, _, rfl⟩ := Pair.dispatch_cases move
    refine ⟨Function.update_of_ne side.other_ne _ _, ?_⟩
    simp only [Function.update_self]
    exact List.prefix_append _ messages
  unfold Fmtp.Pair.step at move
  cases deed with
  | transmit =>
    simp only [ConnectionContext.pollTransmit] at move
    split at move
    · cases move
    · rename_i polled
      obtain ⟨_, rfl⟩ := Prod.mk.inj polled
      obtain rfl := Option.some.inj move
      refine ⟨Function.update_of_ne side.other_ne _ _, ?_⟩
      simp only [Function.update_self]
      exact List.prefix_refl _
  | deliver now =>
    simp only at move
    split at move
    · split at move
      · have kept := dispatched move
        exact kept
      · cases move
    · cases move
  | act event =>
    simp only at move
    split at move
    · exact dispatched move
    · cases move

section Steps

variable {mirror : Mirror} {network next : Network} {pair : Pair} {label : Network.Label}

/-- An iteration that collides delivers one packet. -/
theorem Network.labels_of_collides (collides : network.Collides label) :
    network.labels label = [⟨label.side, .deliver label.offer.clock⟩] := by
  unfold Network.Collides at collides
  dsimp only at collides
  split at collides
  · rename_i chunk selected
    split at collides
    · rename_i packet decoded
      have some : chunk.1 ≠ [] := by
        intro empty
        rw [empty] at decoded
        cases decoded
      simp [Network.labels, Network.deeds, selected, some]
    · exact absurd collides not_false
  · exact absurd collides not_false

/-- Only a user's shutdown is one in the pair. -/
theorem Network.labels_go (goes : network.stops label = false) :
    ∀ deed ∈ network.labels label, ¬ Label.stops deed := by
  intro deed member
  obtain ⟨deed, among, rfl⟩ := List.mem_map.mp member
  rintro ⟨now, same⟩
  dsimp only at same
  subst same
  have unselected := of_decide_eq_false goes
  unfold Network.deeds at among
  dsimp only at among
  split at among
  · split at among <;> simp at among
  · rename_i command selected
    cases command with
    | shutdown => exact unselected selected
    | data | startup | setup | disconnect => simp [commandEvent] at among
  · rename_i event selected
    have turns := turn_spec (Loop.select_chosen selected).2.2.2
    cases turns <;> simp at among
  · split at among
    · simp at among
    · split at among <;> simp at among
  · simp at among
  · simp at among

theorem Follows.sound (follows : Follows next pair) (sound : pair.Sound) : next.Sound := by
  intro side linked
  have each := sound side
  rw [follows.plays side linked] at each
  exact each

theorem Meets.step (meets : Meets mirror network) (regular : network.Regular label)
    (clear : ¬ network.Collides label) (move : network.step label = some next) :
    Meets mirror next ∧ next.Sound := by
  obtain ⟨pair, follows, inSession⟩ := meets
  obtain ⟨pair', run, follows', collides_iff, _⟩ :=
    follows.step inSession regular.1 regular.2 move
  have kept : ∀ pair label pair', Fmtp.InSession mirror pair → ¬ pair.Collides label →
      pair.step label = some pair' → Fmtp.InSession mirror pair' ∧ True :=
    fun _ _ _ inSession clear move => ⟨(inSession.step clear move).1, trivial⟩
  obtain ⟨inSession', _⟩ := EachStep.preserves kept run inSession (collides_iff.mpr clear)
  refine ⟨⟨pair', follows', inSession'⟩, follows'.sound ?_⟩
  obtain ⟨_, represents, _⟩ := inSession'
  exact represents.sound

/-- A loop that reads a packet that its state refuses ends in Error, on the connection. -/
theorem Meets.unsound (meets : Meets mirror network) (regular : network.Regular label)
    (collides : ¬ ¬ network.Collides label) (move : network.step label = some next) :
    ¬ next.Sound := by
  rw [not_not] at collides
  obtain ⟨pair, follows, inSession⟩ := meets
  obtain ⟨pair', run, follows', collides_iff, reader⟩ :=
    follows.step inSession regular.1 regular.2 move
  rw [Network.labels_of_collides collides] at run collides_iff
  cases run with
  | cons step tail =>
    cases tail
    have collided : ¬ ¬ pair.Collides ⟨label.side, .deliver label.offer.clock⟩ := by
      intro clear
      exact collides_iff.mp ((eachStep_cons step).mpr ⟨clear, trivial⟩) collides
    have unsound := inSession.unsound collided step
    obtain ⟨_, represents, _⟩ := inSession
    intro sound
    refine unsound fun side => ?_
    rcases label.side.eq_or_other side with rfl | rfl
    · rw [follows'.plays _ (reader collides)]
      exact sound label.side (reader collides)
    · have same : pair'.peer label.side.other = pair.peer label.side.other :=
        (Pair.step_keeps step).1
      rw [same]
      exact represents.sound label.side.other

theorem MeetsStrictly.step (meets : MeetsStrictly mirror network)
    (regular : network.Regular label ∧ network.stops label = false)
    (move : network.step label = some next) : MeetsStrictly mirror next ∧ next.Sound := by
  obtain ⟨pair, follows, inSession⟩ := meets
  obtain ⟨⟨listens, orderly⟩, goes⟩ := regular
  obtain ⟨pair', run, follows', _⟩ :=
    follows.step (InStrictSession.inSession inSession) listens orderly move
  have kept : ∀ pair label pair', InStrictSession mirror pair → ¬ Label.stops label →
      pair.step label = some pair' → InStrictSession mirror pair' ∧ True :=
    fun _ _ _ inSession goes move => ⟨(inSession.step goes move).1, trivial⟩
  obtain ⟨inSession', _⟩ := EachStep.preserves kept run inSession
    (eachStep_of_forall pair (Network.labels_go goes))
  refine ⟨⟨pair', follows', inSession'⟩, follows'.sound ?_⟩
  obtain ⟨_, represents, _⟩ := inSession'
  exact represents.sound

end Steps

/-! ### The tests' client and server on one connection -/

instance (loop : Loop) (offer : Offer) : Decidable (Overtaken loop offer) :=
  inferInstanceAs (Decidable (_ ∧ (_ ∨ _)))

namespace Sample

def network : Network :=
  (Network.start Fmtp.Sample.mirror answering 0).getD
    { loop := fun _ => client Fmtp.Sample.clientEntry, stream := fun _ => [] }

theorem network_started : Network.start Fmtp.Sample.mirror answering 0 = some network := by
  have opened : (Network.start Fmtp.Sample.mirror answering 0).isSome = true := by decide +kernel
  obtain ⟨first, started⟩ := Option.isSome_iff_exists.mp opened
  rw [network, started]
  rfl

def acceptChunk : Chunk := ⟨FmtpPacket.accept.intoBytes, by decide⟩

/-- Both ends identify themselves and associate, and the client's user sends a byte. -/
def exchange : List Network.Label :=
  [⟨.client, writable⟩, ⟨.server, incoming greetingChunk⟩, ⟨.server, writable⟩,
    ⟨.client, incoming handshakeChunk⟩, ⟨.client, writable⟩, ⟨.client, quiet⟩,
    ⟨.client, writable⟩, ⟨.server, incoming acceptChunk⟩, ⟨.server, quiet⟩, ⟨.server, writable⟩,
    ⟨.server, incoming startupChunk⟩, ⟨.server, writable⟩, ⟨.client, incoming startupChunk⟩,
    ⟨.client, writable⟩, ⟨.client, incoming startupChunk⟩, ⟨.server, incoming startupChunk⟩,
    ⟨.client, commanding (.data (.operational [7]))⟩, ⟨.client, writable⟩,
    ⟨.server, incoming dataChunk⟩, ⟨.server, quiet⟩]

def exchanged : Network := (final Network.step network exchange).getD network

theorem exchange_run : Run Network.step network exchange exchanged :=
  Run.of_enabled _ _ _ (by decide +kernel)

theorem exchange_regular : EachStep Network.step Network.Regular network exchange := by
  have listens : ∀ label ∈ exchange, label.offer.Listens := by
    intro label member event
    fin_cases member <;> rfl
  have orderly : EachStep Network.step
      (fun network label => network.orderly label = true) network exchange := by decide +kernel
  exact EachMove.and (eachStep_of_forall network listens) orderly

theorem exchange_clear : EachStep Network.step (fun network label => ¬ network.Collides label)
    network exchange := by
  decide +kernel

end Sample

/-! ### Runs of a network -/

section Runs

variable {mirror : Mirror} {offer : Offer} {serverNow : Instant} {first last : Network}
  {labels : List Network.Label}

/-- The pair that a connection opens. -/
theorem Network.opens (started : Network.start mirror offer serverNow = some first) :
    ∃ clientNow pair,
      Fmtp.Pair.start mirror (some (mirror.key .client)) clientNow serverNow = some pair ∧
      Follows first pair ∧ Represents mirror pair .fresh := by
  obtain ⟨clientNow, pair, opened, follows⟩ := Follows.start started
  exact ⟨clientNow, pair, opened, follows, .start opened⟩

end Runs

/-! ### What the user gets -/

/-- The pair is in a session that accounts for the messages of both sides. -/
def InAccount (mirror : Mirror) (pair : Pair) : Prop :=
  ∃ session, Represents mirror pair session ∧ session.Configured Loose ∧ session.Accounted

namespace InAccount

variable {mirror : Mirror} {pair pair' : Pair} {label : Fmtp.Label}

theorem inSession (inAccount : InAccount mirror pair) : Fmtp.InSession mirror pair := by
  obtain ⟨session, represents, configured, _⟩ := inAccount
  exact ⟨session, represents, configured⟩

theorem step (inAccount : InAccount mirror pair) (clear : ¬ pair.Collides label)
    (move : pair.step label = some pair') : InAccount mirror pair' := by
  obtain ⟨session, represents, configured, accounted⟩ := inAccount
  obtain ⟨session', after, configured', rfl | ⟨trigger, _, step⟩⟩ :=
    represents.step_clear configured clear move
  · exact ⟨session', after, configured', accounted⟩
  · exact ⟨session', after, configured', accounted.step step⟩

/-- A machine has received from the front of what the other one was given. -/
theorem prefix_given (inAccount : InAccount mirror pair) (side : Side) :
    (pair.peer side).ctx.recvQueue <+: (pair.peer side.other).given := by
  obtain ⟨session, represents, _, accounted⟩ := inAccount
  rw [← represents.received, ← represents.given, accounted side.other, Side.other_other]
  exact List.prefix_append _ _

end InAccount

/-- The deeds of one side leave the other one alone, and receive more. -/
theorem Pair.run_keeps {pair pair' : Fmtp.Pair} {labels : List Fmtp.Label} {side : Side}
    (run : Run Fmtp.Pair.step pair labels pair') (own : ∀ label ∈ labels, label.side = side) :
    pair'.peer side.other = pair.peer side.other ∧
      (pair.peer side).ctx.recvQueue <+: (pair'.peer side).ctx.recvQueue := by
  induction run with
  | nil => exact ⟨rfl, List.prefix_refl _⟩
  | @cons pair next last label rest move _ inductionHypothesis =>
    obtain ⟨same, others⟩ := List.forall_mem_cons.mp own
    obtain ⟨other, more⟩ := inductionHypothesis others
    subst same
    obtain ⟨kept, received⟩ := Pair.step_keeps move
    exact ⟨other.trans kept, received.trans more⟩

/-- The network follows a pair in account. The loop of the side has a property while it is on the
connection, and its user has got what `below` allows of what its machine has received. -/
structure Supplied (mirror : Mirror) (holds : Loop → Prop)
    (below : List FmtpMessage → List FmtpMessage → Prop) (side : Side) (network : Network)
    (pair : Pair) : Prop where
  follows : Follows network pair
  inAccount : InAccount mirror pair
  holds : (network.loop side).linked = true → holds (network.loop side)
  below : below (delivered (network.loop side).connection.log) (pair.peer side).ctx.recvQueue

theorem Network.step_cases {network next : Network} {label : Network.Label}
    (move : network.step label = some next) :
    ∃ loop, (network.loop label.side).linked = true ∧ network.answers label = true ∧
      (network.loop label.side).iterate label.offer = some loop ∧
      next = network.after label loop := by
  unfold Network.step at move
  dsimp only at move
  split at move
  · rename_i allowed
    obtain ⟨loop, iterated, rfl⟩ := Option.map_eq_some_iff.mp move
    exact ⟨loop, allowed.1, allowed.2, iterated, rfl⟩
  · cases move

/-- What each iteration of a side does for its user, the whole run does. -/
theorem Supplied.step {mirror : Mirror} {holds : Loop → Prop}
    {below : List FmtpMessage → List FmtpMessage → Prop} {guard : Loop → Offer → Prop}
    {side : Side} {network next : Network} {pair : Pair} {label : Network.Label}
    (wider : ∀ {some more most}, below some more → more <+: most → below some most)
    (iterates : ∀ {loop next offer}, holds loop → guard loop offer →
      loop.iterate offer = some next →
      holds next ∧ below (delivered next.connection.log) (pushed loop.connection.log))
    (supplied : Supplied mirror holds below side network pair)
    (regular : network.Regular label) (clear : ¬ network.Collides label)
    (guarded : label.side = side → guard (network.loop side) label.offer)
    (move : network.step label = some next) :
    ∃ pair', Supplied mirror holds below side next pair' := by
  obtain ⟨follows, inAccount, held, had⟩ := supplied
  obtain ⟨pair', run, follows', collides_iff, _⟩ :=
    follows.step inAccount.inSession regular.1 regular.2 move
  have kept : ∀ pair label pair', InAccount mirror pair → ¬ pair.Collides label →
      pair.step label = some pair' → InAccount mirror pair' ∧ True :=
    fun _ _ _ inAccount clear move => ⟨inAccount.step clear move, trivial⟩
  obtain ⟨inAccount', _⟩ := EachStep.preserves kept run inAccount (collides_iff.mpr clear)
  have own : ∀ deed ∈ network.labels label, deed.side = label.side := by
    intro deed member
    obtain ⟨_, _, rfl⟩ := List.mem_map.mp member
    rfl
  obtain ⟨other, received⟩ := Pair.run_keeps run own
  obtain ⟨loop, linked, _, iterated, rfl⟩ := Network.step_cases move
  have apart := label.side.other_ne
  rcases label.side.eq_or_other side with rfl | rfl
  · obtain ⟨holds', below'⟩ := iterates (held linked) (guarded rfl) iterated
    refine ⟨pair', follows', inAccount', fun _ => ?_, ?_⟩
    · simpa only [Network.after, Function.update_self] using holds'
    · refine wider ?_ received
      rw [follows.plays label.side linked]
      show below _ (pushed (network.loop label.side).connection.log)
      simpa only [Network.after, Function.update_self] using below'
  · refine ⟨pair', follows', inAccount', ?_, ?_⟩
    · simpa only [Network.after, Function.update_of_ne apart] using held
    · rw [other]
      simpa only [Network.after, Function.update_of_ne apart] using had

/-- Nothing is lost before a connection opens. -/
theorem Network.start_conserved {mirror : Mirror} {offer : Offer} {serverNow : Instant}
    {first : Network} (started : Network.start mirror offer serverNow = some first)
    (side : Side) : (first.loop side).linked = true ∧ Conserved [] (first.loop side) := by
  unfold Network.start at started
  split at started
  · cases started
  · rename_i client move
    split at started
    · rename_i linked
      obtain rfl := Option.some.inj started
      cases side with
      | client =>
        refine ⟨linked, ?_⟩
        obtain ⟨gave, news, passes, _⟩ := Loop.iterate_passes move
        have begun : Begun [] ((Connection.new (mirror.config .client)
          (some (mirror.key .client))).runClient) := ⟨_, rfl, Or.inl rfl⟩
        refine (passes.conserved ?_ begun.conserved).1
        rcases passes.front with rfl | rfl
        · rfl
        · rfl
      | server =>
        have begun : Begun [] ((Connection.new (mirror.config .server) none).runServer
          serverNow) := ⟨_, rfl, Or.inr ⟨serverNow, rfl⟩⟩
        exact ⟨(server_accepted mirror serverNow).2, begun.conserved⟩
    · cases started

section Runs

variable {mirror : Mirror} {offer : Offer} {serverNow : Instant} {first last : Network}
  {labels : List Network.Label}

/-- What a rule for the iterations of a side gives its user in a whole run. -/
theorem Supplied.run (holds : Loop → Prop) (below : List FmtpMessage → List FmtpMessage → Prop)
    (guard : Loop → Offer → Prop) (side : Side)
    (wider : ∀ {some more most}, below some more → more <+: most → below some most)
    (iterates : ∀ {loop next offer}, holds loop → guard loop offer →
      loop.iterate offer = some next →
      holds next ∧ below (delivered next.connection.log) (pushed loop.connection.log))
    (conserves : ∀ loop, Conserved [] loop → holds loop) (least : below [] [])
    (started : Network.start mirror offer serverNow = some first)
    (run : Run Network.step first labels last)
    (regular : EachStep Network.step Network.Regular first labels)
    (clear : EachStep Network.step (fun network label => ¬ network.Collides label) first labels)
    (guarded : EachStep Network.step (fun network label =>
      label.side = side → guard (network.loop side) label.offer) first labels) :
    below (delivered (last.loop side).connection.log)
      (commanded (last.loop side.other).connection.log) := by
  obtain ⟨clientNow, pair, opened, follows, represents⟩ := Network.opens started
  obtain ⟨linked, conserved⟩ := Network.start_conserved started side
  have queued : (pair.peer side).ctx.recvQueue = [] := (represents.received side).symm
  have pushes : pushed (first.loop side).connection.log = [] := by
    have peer := queued
    rw [follows.plays side linked] at peer
    exact peer
  have none : delivered (first.loop side).connection.log = [] := by
    unfold Conserved at conserved
    rw [pushes] at conserved
    exact (List.append_eq_nil_iff.mp conserved).1
  have initial : Supplied mirror holds below side first pair := by
    refine ⟨follows, ⟨.fresh, represents, Session.fresh_configured Loose,
      Session.fresh_accounted⟩, fun _ => conserves _ conserved, ?_⟩
    rw [none, queued]
    exact least
  have kept : ∀ network label next, (∃ pair, Supplied mirror holds below side network pair) →
      ((network.Regular label ∧ ¬ network.Collides label) ∧
        (label.side = side → guard (network.loop side) label.offer)) →
      network.step label = some next →
      (∃ pair, Supplied mirror holds below side next pair) ∧ True := by
    rintro network label next ⟨pair, supplied⟩ ⟨⟨regular, clear⟩, guarded⟩ move
    exact ⟨supplied.step wider iterates regular clear guarded move, trivial⟩
  obtain ⟨⟨pair', supplied⟩, _⟩ := EachStep.preserves kept run ⟨pair, initial⟩
    ((regular.and clear).and guarded)
  refine wider supplied.below ?_
  exact (supplied.inAccount.prefix_given side).trans (supplied.follows.gave side.other)

/-- A user gets in order, and at most once, what the other user gave. -/
theorem Supplied.run_sublist (started : Network.start mirror offer serverNow = some first)
    (run : Run Network.step first labels last)
    (regular : EachStep Network.step Network.Regular first labels)
    (clear : EachStep Network.step (fun network label => ¬ network.Collides label) first labels)
    (side : Side) :
    (delivered (last.loop side).connection.log).Sublist
      (commanded (last.loop side.other).connection.log) := by
  refine Supplied.run Loop.InOrder List.Sublist (fun _ _ => True) side
    (fun some more => some.trans more.sublist) (fun inOrder _ move => inOrder.iterate move)
    (fun _ conserved => Loop.inOrder_of_conserved conserved) (List.Sublist.refl [])
    started run regular clear ?_
  refine EachMove.mono ?_ regular
  intro _ _ _ _ _
  exact trivial

/-- As long as no message is overtaken, nothing of it is left out. -/
theorem Supplied.run_prefix (started : Network.start mirror offer serverNow = some first)
    (run : Run Network.step first labels last)
    (regular : EachStep Network.step Network.Regular first labels)
    (clear : EachStep Network.step (fun network label => ¬ network.Collides label) first labels)
    (side : Side)
    (unovertaken : EachStep Network.step (fun network label =>
      label.side = side → ¬ Overtaken (network.loop side) label.offer) first labels) :
    delivered (last.loop side).connection.log <+:
      commanded (last.loop side.other).connection.log := by
  have iterates {loop next : Loop} {offer : Offer} (conserved : Conserved [] loop)
      (hand : offer.Listens ∧ ¬ Overtaken loop offer) (move : loop.iterate offer = some next) :
      Conserved [] next ∧ delivered next.connection.log <+: pushed loop.connection.log := by
    obtain ⟨gave, news, passes, front⟩ := Loop.iterate_passes move
    exact passes.conserved (front hand.1 hand.2) conserved
  refine Supplied.run (Conserved []) List.IsPrefix
    (fun loop offer => offer.Listens ∧ ¬ Overtaken loop offer) side
    (fun some more => some.trans more) iterates (fun _ conserved => conserved)
    (List.prefix_refl []) started run regular clear ?_
  refine (regular.and unovertaken).mono ?_
  rintro network label _ ⟨⟨listens, _⟩, clear⟩ own
  subst own
  exact ⟨listens, clear rfl⟩

end Runs

/-! ### Undisturbed ends associate in agreement -/

namespace Network

/-- The iterations of two undisturbed ends: nobody shuts down or disconnects, and only the timers
that keep the association go off. -/
def calm (network : Network) (label : Label) : Bool :=
  let loop := network.loop label.side
  match loop.select label.offer with
  | some (.command (some .shutdown)) | some (.command (some .disconnect)) => false
  | some (.machine (.raised event)) =>
    match event, loop.connection.inner.state with
    | .lStartup _, _ | .tsTimeout _, _ => true
    | .trTimeout _, .associationPending _ => true
    | _, _ => false
  | _ => true

/-- Nothing is under way, and no end is about to associate. -/
def Drained (network : Network) : Prop :=
  ∀ side, network.stream side = [] ∧
    (network.loop side).connection.ctx.sendQueue = [] ∧
    ¬ ((∃ tr, (network.loop side).connection.inner.state = .ready tr) ∧
      (network.loop side).connection.inner.storage.target = .dataReady)

/-- What the users of undisturbed ends can rely on. -/
structure Agreed (network : Network) : Prop where
  alive : ∀ side, (network.loop side).linked = true ∧
    (network.loop side).connection.inner.state ≠ .idle ∧
    (network.loop side).connection.inner.state ≠ .error
  ordered : ∀ side, delivered (network.loop side).connection.log <+:
    commanded (network.loop side.other).connection.log
  associated : network.Drained → ∀ side,
    (∃ tr ts, (network.loop side).connection.inner.state = .dataReady tr ts) ∧
      delivered (network.loop side).connection.log ++
          (network.loop side).connection.ctx.recvQueue =
        commanded (network.loop side.other).connection.log

end Network

/-- Both loops are on the connection, lose nothing, and follow an undisturbed pair. -/
structure Untroubled (mirror : Mirror) (network : Network) (pair : Pair) : Prop where
  follows : Follows network pair
  undisturbed : ∃ session, Undisturbed mirror pair session
  linked : ∀ side, (network.loop side).linked = true
  conserved : ∀ side, Conserved [] (network.loop side)

namespace Untroubled

variable {mirror : Mirror} {network next : Network} {pair : Pair} {label : Network.Label}

theorem agreed (untroubled : Untroubled mirror network pair) : network.Agreed := by
  obtain ⟨follows, ⟨session, undisturbed⟩, linked, conserved⟩ := untroubled
  have agreed := undisturbed.agreed
  have plays := fun side => follows.plays side (linked side)
  have state : ∀ side, (pair.peer side).machine = (network.loop side).connection.inner := by
    intro side
    rw [plays]
    rfl
  have given : ∀ side, (pair.peer side).given = commanded (network.loop side).connection.log := by
    intro side
    rw [plays]
    rfl
  have received : ∀ side, (pair.peer side).ctx.recvQueue =
      pushed (network.loop side).connection.log := by
    intro side
    rw [plays]
    rfl
  refine ⟨fun side => ⟨linked side, ?_⟩, fun side => ?_, fun drained side => ?_⟩
  · rw [← state]
    exact agreed.alive side
  · have ordered := agreed.ordered side
    rw [received, given, ← show delivered _ ++ _ = pushed _ from conserved side] at ordered
    exact (List.prefix_append _ _).trans ordered
  · have empty : pair.Drained := by
      intro side
      obtain ⟨stream, queue, settled⟩ := drained side
      refine ⟨follows.wire_nil (linked side.other) stream, ?_, ?_⟩
      · rw [plays]
        exact queue
      · rw [state]
        exact settled
    obtain ⟨ready, all⟩ := agreed.associated empty side
    rw [state] at ready
    rw [received, given] at all
    exact ⟨ready, (conserved side).trans all⟩

/-- The deed of a calm iteration is calm. -/
theorem deeds_calm (untroubled : Untroubled mirror network pair) (regular : network.Regular label)
    (answers : network.answers label = true) (calm : network.calm label = true) :
    network.deeds label = [] ∨
      ∃ deed, network.deeds label = [deed] ∧ pair.calm ⟨label.side, deed⟩ = true := by
  obtain ⟨side, offer⟩ := label
  have present : network.atEnd side = false := by
    unfold Network.atEnd
    rw [untroubled.linked side.other]
    rfl
  have state : (pair.peer side).machine.state = (network.loop side).connection.inner.state := by
    rw [untroubled.follows.plays side (untroubled.linked side)]
    rfl
  have orderly := regular.2
  unfold Network.orderly at orderly
  unfold Network.answers at answers
  unfold Network.calm at calm
  dsimp only at orderly answers calm
  cases selected : (network.loop side).select offer with
  | none => exact Or.inl (by simp [Network.deeds, selected])
  | some branch =>
    rw [selected] at orderly answers calm
    cases branch with
    | transmit packet =>
      rw [present, Bool.or_false] at answers
      refine Or.inr ⟨.transmit, ?_, rfl⟩
      have written : offer.write.isNone = false := by simpa using answers
      simp [Network.deeds, selected, written]
    | command received =>
      cases received with
      | none => cases orderly
      | some command =>
        refine Or.inr ⟨_, by simp [Network.deeds, selected]; rfl, ?_⟩
        cases command with
        | startup | data => rfl
        | setup => cases orderly
        | shutdown | disconnect => cases calm
    | receive msg => exact Or.inl (by simp [Network.deeds, selected])
    | machine turned =>
      cases turned with
      | idle | failed | slept => exact Or.inl (by simp [Network.deeds, selected])
      | raised event =>
        refine Or.inr ⟨.act event, by simp [Network.deeds, selected], ?_⟩
        cases turn_spec (Loop.select_chosen selected).2.2.2 with
        | startup | heartbeat => rfl
        | association pending =>
          unfold Pair.calm
          rw [state, pending]
        | silence pending =>
          rw [pending] at calm
          cases calm
        | identification | acceptance => cases calm
    | read received =>
      rw [present] at answers
      cases received with
      | none => cases answers
      | some chunk =>
        by_cases empty : chunk.1 = []
        · simp [empty] at answers
        · exact Or.inr ⟨.deliver offer.clock, by simp [Network.deeds, selected, empty], rfl⟩

/-- Calm iterations keep both loops on the connection. -/
theorem step (untroubled : Untroubled mirror network pair) (regular : network.Regular label)
    (calm : network.calm label = true)
    (clear : ¬ Overtaken (network.loop label.side) label.offer)
    (move : network.step label = some next) : ∃ pair', Untroubled mirror next pair' := by
  obtain ⟨loop, linked, answers, iterated, same⟩ := Network.step_cases move
  have quiet := untroubled.deeds_calm regular answers calm
  obtain ⟨follows, ⟨session, undisturbed⟩, present, conserved⟩ := untroubled
  have inSession : Fmtp.InSession mirror pair :=
    ⟨session, undisturbed.represents, undisturbed.configured⟩
  obtain ⟨pair', run, follows', _⟩ := follows.step inSession regular.1 regular.2 move
  have after : ∃ session, Undisturbed mirror pair' session := by
    rcases quiet with none | ⟨deed, one, calm⟩
    · rw [Network.labels, none] at run
      cases run
      exact ⟨session, undisturbed⟩
    · rw [Network.labels, one] at run
      cases run with
      | cons step tail =>
        cases tail
        exact undisturbed.step calm step
  have others : ∀ side, side ≠ label.side → next.loop side = network.loop side := by
    intro side apart
    rw [same]
    exact Function.update_of_ne apart _ _
  have moved : next.loop label.side = loop := by
    rw [same]
    exact Function.update_self _ _ _
  obtain ⟨gave, news, passes, hand⟩ := Loop.iterate_passes iterated
  refine ⟨pair', follows', after, fun side => ?_, fun side => ?_⟩
  all_goals rcases label.side.eq_or_other side with rfl | rfl
  · -- A loop leaves the connection in Idle, and an undisturbed machine never is.
    by_contra gone
    obtain ⟨_, undisturbed'⟩ := after
    refine (undisturbed'.agreed.alive label.side).1 ?_
    refine follows'.left label.side (Bool.eq_false_iff.mpr gone) ?_
    rw [others _ label.side.other_ne]
    exact present label.side.other
  · rw [others _ label.side.other_ne]
    exact present label.side.other
  · rw [moved]
    exact (passes.conserved (hand regular.1 clear) (conserved label.side)).1
  · rw [others _ label.side.other_ne]
    exact conserved label.side.other

end Untroubled

/-- Calm iterations that overtake nothing leave two ends undisturbed. -/
theorem Untroubled.run {mirror : Mirror} {offer : Offer} {serverNow : Instant}
    {first last : Network} {labels : List Network.Label}
    (started : Network.start mirror offer serverNow = some first)
    (run : Run Network.step first labels last)
    (regular : EachStep Network.step Network.Regular first labels)
    (calm : EachStep Network.step (fun network label => network.calm label = true) first labels)
    (clear : EachStep Network.step (fun network label =>
      ¬ Overtaken (network.loop label.side) label.offer) first labels) :
    (∃ pair, Untroubled mirror last pair) ∧ EachState Network.step Network.Agreed first labels := by
  obtain ⟨clientNow, pair, opened, follows, represents⟩ := Network.opens started
  have initial : Untroubled mirror first pair := by
    refine ⟨follows, ⟨.fresh, represents, Session.fresh_configured Loose,
      Session.fresh_configured Strict, Session.fresh_accounted, fun side => ?_⟩,
      fun side => (Network.start_conserved started side).1,
      fun side => (Network.start_conserved started side).2⟩
    cases side <;> nofun
  have kept : ∀ network label next, (∃ pair, Untroubled mirror network pair) →
      ((network.Regular label ∧ network.calm label = true) ∧
        ¬ Overtaken (network.loop label.side) label.offer) →
      network.step label = some next →
      (∃ pair, Untroubled mirror next pair) ∧ next.Agreed := by
    rintro network label next ⟨pair, untroubled⟩ ⟨⟨regular, calm⟩, clear⟩ move
    obtain ⟨pair', after⟩ := untroubled.step regular calm clear move
    exact ⟨⟨pair', after⟩, after.agreed⟩
  obtain ⟨lasting, each⟩ :=
    EachStep.preserves kept run ⟨pair, initial⟩ ((regular.and calm).and clear)
  exact ⟨lasting, initial.agreed, each⟩

end Fmtp.Tokio
