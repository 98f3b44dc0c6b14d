/-
This file proves that no packet leaks from one session to the next and that none is left behind.
Nothing clears the queue between sessions, and a packet that is queued without a socket would be
dropped; but packets are queued only in a session, which has the socket that opened it, and a
queued packet goes before everything else the loop can do.

The ledger of a log keeps the socket that each queued packet belongs to and the socket that each
transmitted one was given to. The invariant is that the two lists differ by the queue.
-/

import Fmtp.Commands

namespace Fmtp.Tokio

open TransitionSystem

/-! ### The packets of a log and their sockets -/

/-- What a log says of the transport: the last socket opened, the socket of the last session, and
the packets queued and transmitted, in order, each with the socket of the session it was queued
in or the socket it was given to. -/
structure Ledger where
  opened : Option Nat
  session : Option Nat
  queued : List (Option Nat × FmtpPacket)
  handed : List (Option Nat × FmtpPacket)

/-- The event opens a session on the last socket opened. -/
def Opens : Event → Bool
  | .rSetup _ => true
  | _ => false

namespace Ledger

def enter (ledger : Ledger) : Action → Ledger
  | .dispatched entry =>
    let session := if Opens entry.event then ledger.opened else ledger.session
    { ledger with session, queued := ledger.queued ++ entry.packets.map (session, ·) }
  | .connected socket _ => { ledger with opened := some socket }
  | .wrote socket packet _ => { ledger with handed := ledger.handed ++ [(some socket, packet)] }
  | .shut _ | .sent _ => ledger

/-- The ledger of a run that starts with the accepted socket, if there is one. -/
def of (accepted : Option Nat) (log : List Action) : Ledger :=
  log.foldl enter ⟨accepted, none, [], []⟩

theorem of_append (accepted : Option Nat) (log : List Action) (action : Action) :
    of accepted (log ++ [action]) = (of accepted log).enter action := by
  rw [of, List.foldl_append]
  rfl

end Ledger

/-- The action takes a socket out of use: a new one is opened, or it is shut down. -/
def Action.Closes : Action → Prop
  | .connected _ _ | .shut _ => True
  | .dispatched _ | .wrote _ _ _ | .sent _ => False

/-- Everything queued so far had been transmitted whenever a socket went out of use. -/
def Timely (accepted : Option Nat) (log : List Action) : Prop :=
  ∀ before action after, log = before ++ action :: after → action.Closes →
    (Ledger.of accepted before).queued = (Ledger.of accepted before).handed

theorem Timely.append {accepted : Option Nat} {log : List Action} (timely : Timely accepted log)
    {action : Action} (even : action.Closes →
      (Ledger.of accepted log).queued = (Ledger.of accepted log).handed) :
    Timely accepted (log ++ [action]) := by
  intro before closing after split closes
  rcases Trace.split_append split with ⟨rest, old⟩ | ⟨start, rfl, new⟩
  · exact timely before closing rest old closes
  · cases start with
    | nil =>
      obtain ⟨rfl, _⟩ := List.cons.inj new
      rw [List.append_nil]
      exact even closes
    | cons head tail =>
      obtain ⟨_, nothing⟩ := List.cons.inj new
      exact absurd nothing.symm (List.append_ne_nil_of_right_ne_nil tail (List.cons_ne_nil _ _))

/-! ### Packets are queued in a session -/

/-- The states of a session, from its TCP connection on. -/
def InSession : State → Bool
  | .idPending _ | .acceptPending _ | .ready _ | .associationPending _ | .dataReady _ _ => true
  | .idle | .connectionPending | .error => false

/-- Only the TCP connection starts a session, and packets are queued only then or in one. -/
theorem Reaction.inSession {self self' : ConnectionState} {state state' : State} {event : Event}
    {packets : List FmtpPacket} {messages : List FmtpMessage} (other : Opens event = false)
    (reaction : Reaction self state event self' state' packets messages)
    (active : InSession state' = true ∨ packets ≠ []) : InSession state = true := by
  cases reaction with
  | ignored | released | refused | missing | untimed | setUp | unknownId =>
    rcases active with active | queued
    · first
        | exact active
        | cases active
    · exact absurd rfl queued
  | served | connected => cases other
  | _ => rfl

/-- At every point of a run, the packets queued are those transmitted and those that wait, which
belong to the session; a session and a waiting packet have the socket that the session was
opened on. -/
structure Balanced (accepted socket : Option Nat) (connection : Connection) : Prop where
  exact : (Ledger.of accepted connection.log).queued = (Ledger.of accepted connection.log).handed ++
    connection.ctx.sendQueue.map ((Ledger.of accepted connection.log).session, ·)
  timely : Timely accepted connection.log
  session : InSession connection.inner.state = true ∨ connection.ctx.sendQueue ≠ [] →
    ∃ number, socket = some number ∧ (Ledger.of accepted connection.log).session = some number

/-- Nothing waits: what was queued was transmitted. -/
structure Settled (accepted : Option Nat) (connection : Connection) : Prop where
  even : (Ledger.of accepted connection.log).queued = (Ledger.of accepted connection.log).handed
  timely : Timely accepted connection.log
  empty : connection.ctx.sendQueue = []

variable {accepted socket : Option Nat} {connection before after : Connection}

namespace Settled

/-- Without a session, any socket will do. -/
theorem balanced (settled : Settled accepted connection)
    (outside : InSession connection.inner.state = false) (socket : Option Nat) :
    Balanced accepted socket connection where
  exact := by
    rw [settled.empty, List.map_nil, List.append_nil]
    exact settled.even
  timely := settled.timely
  session := by
    rintro (active | waiting)
    · cases outside.symm.trans active
    · exact absurd settled.empty waiting

/-- A dispatch that queues nothing leaves the account as it is. -/
theorem dispatches {entry : Dispatched} (settled : Settled accepted before)
    (dispatches : before.Dispatches after entry) (none : entry.packets = []) :
    Settled accepted after where
  even := by
    rw [dispatches.log, Ledger.of_append]
    simp only [Ledger.enter, none, List.map_nil, List.append_nil]
    exact settled.even
  timely := by
    rw [dispatches.log]
    exact settled.timely.append fun closes => absurd closes not_false
  empty := by
    rw [dispatches.ctx, none]
    show before.ctx.sendQueue ++ [] = []
    rw [settled.empty, List.append_nil]

/-- A socket may go out of use. -/
theorem closes (settled : Settled accepted connection) {action : Action} (closing : action.Closes) :
    Settled accepted (connection.record action) where
  even := by
    show (Ledger.of accepted (connection.log ++ [action])).queued =
      (Ledger.of accepted (connection.log ++ [action])).handed
    rw [Ledger.of_append]
    cases action with
    | connected | shut => exact settled.even
    | dispatched | wrote | sent => exact absurd closing not_false
  timely := settled.timely.append fun _ => settled.even
  empty := settled.empty

/-- The TCP connection opens a session on the socket just opened. -/
theorem opens {entry : Dispatched} (settled : Settled accepted before)
    (dispatches : before.Dispatches after entry) (opening : Opens entry.event = true) {number : Nat}
    (opened : (Ledger.of accepted before.log).opened = some number) :
    Balanced accepted (some number) after where
  exact := by
    have waiting : after.ctx.sendQueue = entry.packets := by
      rw [dispatches.ctx]
      show before.ctx.sendQueue ++ entry.packets = entry.packets
      rw [settled.empty, List.nil_append]
    rw [dispatches.log, Ledger.of_append, waiting]
    simp only [Ledger.enter, opening, if_true, settled.even]
  timely := by
    rw [dispatches.log]
    exact settled.timely.append fun closes => absurd closes not_false
  session := by
    intro _
    refine ⟨number, rfl, ?_⟩
    rw [dispatches.log, Ledger.of_append]
    simp only [Ledger.enter, opening, if_true]
    exact opened

end Settled

namespace Balanced

theorem settled (balanced : Balanced accepted socket connection)
    (empty : connection.ctx.sendQueue = []) : Settled accepted connection where
  even := by
    have exact := balanced.exact
    rw [empty, List.map_nil, List.append_nil] at exact
    exact exact
  timely := balanced.timely
  empty := empty

/-- What a dispatch queues in a session belongs to it. -/
theorem dispatches {entry : Dispatched} (balanced : Balanced accepted socket before)
    (dispatches : before.Dispatches after entry) (other : Opens entry.event = false) :
    Balanced accepted socket after where
  exact := by
    rw [dispatches.log, Ledger.of_append, dispatches.ctx]
    simp only [Ledger.enter, other, Bool.false_eq_true, if_false, ConnectionContext.extend,
      List.map_append]
    rw [balanced.exact, List.append_assoc]
  timely := by
    rw [dispatches.log]
    exact balanced.timely.append fun closes => absurd closes not_false
  session := by
    intro active
    have same :
        (Ledger.of accepted after.log).session = (Ledger.of accepted before.log).session := by
      rw [dispatches.log, Ledger.of_append]
      simp only [Ledger.enter, other, Bool.false_eq_true, if_false]
    rw [same]
    refine balanced.session ?_
    by_cases waiting : before.ctx.sendQueue = []
    · refine Or.inl (Reaction.inSession other dispatches.reaction ?_)
      refine active.imp_right fun queued => ?_
      rintro none
      refine queued ?_
      rw [dispatches.ctx, none]
      show before.ctx.sendQueue ++ [] = []
      rw [waiting, List.append_nil]
    · exact Or.inr waiting

/-- An event for the user does not concern the account. -/
theorem sent (balanced : Balanced accepted socket connection) (event : ConnectionEvent) :
    Balanced accepted socket (connection.record (.sent event)) := by
  have same : Ledger.of accepted (connection.record (.sent event)).log =
      Ledger.of accepted connection.log := Ledger.of_append accepted connection.log _
  refine ⟨?_, balanced.timely.append fun closes => absurd closes not_false, ?_⟩
  · rw [same]
    exact balanced.exact
  · rw [same]
    exact balanced.session

/-- A socket may be shut down while nothing waits. -/
theorem shut (balanced : Balanced accepted socket connection)
    (empty : connection.ctx.sendQueue = []) (number : Nat) :
    Balanced accepted socket (connection.record (.shut number)) := by
  have same : Ledger.of accepted (connection.record (.shut number)).log =
      Ledger.of accepted connection.log := Ledger.of_append accepted connection.log _
  refine ⟨?_, balanced.timely.append fun _ => (balanced.settled empty).even, ?_⟩
  · rw [same]
    exact balanced.exact
  · rw [same]
    exact balanced.session

end Balanced

/-! ### Dialling -/

/-- Dialling opens a session on the socket that answers, or leaves nothing behind. -/
theorem Settled.dialAll {key : String} {config : ConnectionConfig} {dial : Nat → Option Instant}
    {number count : Nat} {addresses : List SocketAddr} {answer : Outcome (SocketAddr × Nat)}
    (settled : Settled accepted before) (dialable : Dialable key config before)
    (dialled : before.dialAll key dial number addresses count = .ok (after, answer)) :
    (∀ address socket, answer = .ok (address, socket) → Balanced accepted (some socket) after) ∧
      (∀ fault, answer = .error fault → Settled accepted after ∧ after.inner.state = .idle) := by
  induction addresses generalizing before count with
  | nil =>
    obtain ⟨rfl, rfl⟩ := Prod.mk.inj (Except.ok.inj dialled)
    refine ⟨fun address socket same => ?_, fun _ _ => ⟨settled, dialable.idle⟩⟩
    cases same
  | cons address rest inductionHypothesis =>
    obtain ⟨ready, entry, setUp, pending, _⟩ := dialable.setUp
    have prepared := settled.dispatches setUp.dispatches setUp.silent
    unfold Connection.dialAll at dialled
    simp only [setUp.handled] at dialled
    cases first : dial count with
    | none =>
      obtain ⟨idle, entry', refused, again, _⟩ := pending.refuse
      simp only [first, refused.handled] at dialled
      exact inductionHypothesis (prepared.dispatches refused.dispatches refused.silent) again
        dialled
    | some now =>
      simp only [first] at dialled
      have fresh : Settled accepted (ready.record (.connected number address)) :=
        prepared.closes trivial
      have opened : (Ledger.of accepted (ready.record (.connected number address)).log).opened =
          some number := congrArg Ledger.opened (Ledger.of_append accepted ready.log _)
      split at dialled
      · cases dialled
      · rename_i next answered
        obtain ⟨rfl, rfl⟩ := Prod.mk.inj (Except.ok.inj dialled)
        obtain ⟨entry', raised, dispatches⟩ := Connection.dispatch_spec answered
        have opening : Opens entry'.event = true := by rw [raised]; rfl
        refine ⟨?_, ?_⟩
        · rintro _ _ same
          obtain ⟨_, rfl⟩ := Prod.mk.inj (Except.ok.inj same)
          exact fresh.opens dispatches opening opened
        · rintro fault same
          cases same

/-! ### The loop -/

/-- The account of a loop: it is balanced, and a run that has ended left nothing waiting. -/
structure Accounted (accepted : Option Nat) (loop : Loop) : Prop where
  balanced : Balanced accepted loop.socket loop.connection
  ended : loop.result ≠ none → loop.connection.ctx.sendQueue = []

section Queue

variable {loop : Loop}

/-- A waiting packet is selected before everything else. -/
theorem Balanced.select (balanced : Balanced accepted loop.socket loop.connection)
    {packet : FmtpPacket} (front : loop.connection.ctx.sendQueue.head? = some packet)
    (offer : Offer) : loop.select offer = some (.transmit packet) := by
  have waiting : loop.connection.ctx.sendQueue ≠ [] := by
    intro empty
    rw [empty] at front
    cases front
  obtain ⟨number, socketed, _⟩ := balanced.session (Or.inr waiting)
  unfold Loop.select
  simp only [socketed, ConnectionContext.pollTransmit, front]

/-- Where the loop is drained, nothing waits. -/
theorem Balanced.empty (balanced : Balanced accepted loop.socket loop.connection)
    (drained : loop.Drained) : loop.connection.ctx.sendQueue = [] := by
  rcases drained with absent | empty
  · by_contra waiting
    obtain ⟨number, socketed, _⟩ := balanced.session (Or.inr waiting)
    cases absent.symm.trans socketed
  · exact empty

/-- Where nothing waits, the future over the queue drops nothing. -/
theorem Balanced.pop (balanced : Balanced accepted loop.socket loop.connection)
    (empty : loop.connection.ctx.sendQueue = []) :
    Balanced accepted loop.pop.socket loop.pop.connection ∧
      loop.pop.connection.ctx.sendQueue = [] := by
  have same : loop.pop.connection.ctx.sendQueue = loop.connection.ctx.sendQueue := by
    show loop.connection.ctx.sendQueue.tail = _
    rw [empty]
    rfl
  refine ⟨⟨?_, balanced.timely, ?_⟩, same.trans empty⟩
  · rw [same]
    exact balanced.exact
  · rw [same]
    exact balanced.session

end Queue

namespace Accounted

variable {loop : Loop} {offer : Offer}

theorem of_running (balanced : Balanced accepted loop.socket loop.connection)
    (running : loop.result = none) : Accounted accepted loop :=
  ⟨balanced, fun ended => absurd running ended⟩

theorem fail (balanced : Balanced accepted loop.socket loop.connection)
    (empty : loop.connection.ctx.sendQueue = []) (fault : Fault) :
    Accounted accepted (loop.fail fault) :=
  ⟨balanced, fun _ => empty⟩

/-- A dispatch in the loop either succeeds or ends the run while nothing waits. -/
theorem dispatch (balanced : Balanced accepted loop.socket loop.connection)
    (running : loop.result = none) {event : Event} (other : Opens event = false)
    (calm : loop.connection.ctx.sendQueue = [] ∨
      ∃ next, loop.connection.dispatch event = .ok next) :
    Accounted accepted (loop.dispatch event) := by
  unfold Loop.dispatch
  cases handled : loop.connection.dispatch event with
  | ok connection =>
    obtain ⟨entry, rfl, dispatches⟩ := Connection.dispatch_spec handled
    exact of_running (balanced.dispatches dispatches other) running
  | error fault =>
    rcases calm with empty | ⟨next, handled'⟩
    · exact fail balanced empty fault
    · cases handled.symm.trans handled'

theorem leave (balanced : Balanced accepted loop.socket loop.connection)
    (empty : loop.connection.ctx.sendQueue = []) (offer : Offer) :
    Accounted accepted (loop.leave offer) := by
  unfold Loop.leave
  split
  · exact ⟨balanced, fun _ => empty⟩
  · rename_i number _
    have shut : Balanced accepted loop.socket (loop.record (.shut number)).connection :=
      balanced.shut empty number
    dsimp only
    split
    · exact ⟨shut, fun _ => empty⟩
    · exact ⟨shut, fun _ => empty⟩

/-- The front of the queue is given to the socket of its session. -/
theorem transmit {packet : FmtpPacket} (balanced : Balanced accepted loop.socket loop.connection)
    (running : loop.result = none)
    (front : loop.connection.ctx.sendQueue.head? = some packet) :
    Accounted accepted (loop.pop.sendPacket offer packet) := by
  obtain ⟨rest, queue⟩ := List.head?_eq_some_iff.mp front
  have waiting : loop.connection.ctx.sendQueue ≠ [] := by
    rw [queue]
    exact List.cons_ne_nil packet rest
  obtain ⟨number, socketed, session⟩ := balanced.session (Or.inr waiting)
  have wrote (bytes : List Byte) :
      Balanced accepted loop.socket (loop.pop.record (.wrote number packet bytes)).connection := by
    have logged : Ledger.of accepted (loop.pop.record (.wrote number packet bytes)).connection.log =
        (Ledger.of accepted loop.connection.log).enter (.wrote number packet bytes) :=
      Ledger.of_append accepted loop.connection.log _
    have left : (loop.pop.record (.wrote number packet bytes)).connection.ctx.sendQueue = rest := by
      show loop.connection.ctx.sendQueue.tail = rest
      rw [queue]
      rfl
    refine ⟨?_, balanced.timely.append fun closes => absurd closes not_false, ?_⟩
    · have exact := balanced.exact
      rw [logged, left]
      rw [queue, session, List.map_cons] at exact
      simp only [Ledger.enter, exact, session, List.append_assoc, List.singleton_append]
    · intro _
      rw [logged]
      exact ⟨number, socketed, session⟩
  have socketed' : loop.pop.socket = some number := socketed
  unfold Loop.sendPacket
  rw [socketed']
  dsimp only
  split
  · exact of_running (wrote _) running
  · let failed := loop.pop.record (.wrote number packet [])
    have other : ∀ now msg, Event.rDisconnect ≠ .lData now msg := nofun
    have closed : Opens .rDisconnect = false := rfl
    exact @dispatch accepted failed (wrote []) running _ closed
      (Or.inr (failed.connection.dispatch_ok other))

/-- A new socket carries a new session; without one, nothing is left behind. -/
theorem reconnect {id : String} {otherwise : Loop → Loop}
    (settled : Settled accepted loop.connection)
    (idle : loop.connection.inner.state = .idle) (running : loop.result = none)
    (keeps : ∀ loop : Loop, Settled accepted loop.connection →
      loop.connection.inner.state = .idle → loop.result = none →
      Accounted accepted (otherwise loop)) :
    Accounted accepted (loop.reconnect offer id otherwise) := by
  have outside : InSession loop.connection.inner.state = false := by rw [idle]; rfl
  unfold Loop.reconnect Connection.connect
  cases found : loop.connection.inner.storage.config.connections.lookup id with
  | none => exact keeps loop settled idle running
  | some config =>
    have dialable : Dialable id config loop.connection := ⟨idle, found⟩
    dsimp only
    split
    · exact fail (settled.balanced outside loop.socket) settled.empty _
    · rename_i connection address socket dialled
      exact of_running ((settled.dialAll dialable dialled).1 address socket rfl) running
    · rename_i connection fault dialled
      obtain ⟨settled', idle'⟩ := (settled.dialAll dialable dialled).2 fault rfl
      exact keeps { loop with connection } settled' idle' running

theorem idleArm (settled : Settled accepted loop.connection)
    (idle : loop.connection.inner.state = .idle) (running : loop.result = none) :
    Accounted accepted (loop.idleArm offer) := by
  have balanced {loop : Loop} (settled : Settled accepted loop.connection)
      (idle : loop.connection.inner.state = .idle) :
      Balanced accepted loop.socket loop.connection :=
    settled.balanced (by rw [idle]; rfl) loop.socket
  unfold Loop.idleArm
  split
  · exact leave (balanced settled idle) settled.empty offer
  · rename_i id _
    split
    · refine reconnect settled idle running fun loop settled idle running => ?_
      split
      · exact of_running (balanced settled idle) running
      · exact leave (balanced settled idle) settled.empty offer
    · rename_i number _
      split
      · have shut : Settled accepted (loop.record (.shut number)).connection :=
          settled.closes trivial
        dsimp only
        split
        · exact fail (balanced shut idle) shut.empty _
        · exact reconnect shut idle running fun loop settled idle running =>
            of_running (balanced settled idle) running
      · exact leave (balanced settled idle) settled.empty offer

/-- What a read decodes is dispatched, unless it is refused while nothing waits. -/
theorem readArm (balanced : Balanced accepted loop.socket loop.connection)
    (empty : loop.connection.ctx.sendQueue = []) (running : loop.result = none)
    (received : Option Chunk) : Accounted accepted (loop.readArm offer received) := by
  unfold Loop.readArm
  cases received with
  | none =>
    have closed : Opens .rDisconnect = false := rfl
    exact dispatch balanced running closed (Or.inl empty)
  | some chunk =>
    dsimp only
    split
    · rename_i connection handled
      obtain ⟨event, remote, dispatched⟩ := Connection.handleRemotePacket_dispatch handled
      obtain ⟨entry, rfl, dispatches⟩ := Connection.dispatch_spec dispatched
      have other : Opens entry.event = false := by
        cases event : entry.event with
        | rSetup now =>
          rw [event] at remote
          cases remote
        | _ => rfl
      exact of_running (balanced.dispatches dispatches other) running
    · rename_i fault _
      exact ⟨balanced, fun _ => empty⟩

/-- The selected arm keeps the account. -/
theorem arm (accounted : Accounted accepted loop) (running : loop.result = none) {branch : Branch}
    (selected : loop.select offer = some branch)
    (listening : ∀ event, offer.listening event = true) :
    Accounted accepted (loop.pop.arm offer branch) := by
  have chosen := Loop.select_chosen selected
  have other {event : Event} (raised : branch.Raises offer.clock event) : Opens event = false := by
    cases event with
    | rSetup now => exact absurd rfl ((Loop.raises_setUp chosen raised).1 now)
    | _ => rfl
  have idle {loop : Loop} (drained : loop.Drained)
      (balanced : Balanced accepted loop.socket loop.connection) :=
    balanced.pop (balanced.empty drained)
  cases branch with
  | transmit packet => exact transmit accounted.balanced running chosen.2
  | command received =>
    obtain ⟨balanced, empty⟩ := idle chosen.1 accounted.balanced
    cases received with
    | none => exact leave balanced empty offer
    | some command => exact dispatch balanced running (other ⟨command, rfl, rfl⟩) (Or.inl empty)
  | receive msg =>
    obtain ⟨balanced, empty⟩ := idle chosen.1 accounted.balanced
    have delivers : loop.pop.arm offer (.receive msg) =
        loop.pop.record (.sent (.dataReceived msg)) := if_pos (listening (.dataReceived msg))
    rw [delivers]
    exact of_running (balanced.sent _) running
  | machine turned =>
    obtain ⟨balanced, empty⟩ := idle chosen.1 accounted.balanced
    cases turned with
    | idle => exact idleArm (balanced.settled empty) (turn_idle chosen.2.2.2) running
    | failed text => exact leave balanced empty offer
    | slept => exact of_running balanced running
    | raised event => exact dispatch balanced running (other rfl) (Or.inl empty)
  | read received =>
    obtain ⟨balanced, empty⟩ := idle chosen.1 accounted.balanced
    exact readArm balanced empty running received

/-- A report to a user who listens is one more event sent. -/
theorem send (accounted : Accounted accepted loop) {event : ConnectionEvent}
    (listening : offer.listening event = true) : Accounted accepted (loop.send offer event) := by
  rw [Loop.send, if_pos listening]
  exact ⟨accounted.balanced.sent event, accounted.ended⟩

theorem reportId (accounted : Accounted accepted loop)
    (listening : ∀ event, offer.listening event = true) :
    Accounted accepted (loop.reportId offer) := by
  unfold Loop.reportId
  split
  · rename_i id _ _
    have named : Accounted accepted { loop with id := some id } :=
      ⟨accounted.balanced, accounted.ended⟩
    exact named.send (listening _)
  · exact accounted

theorem reportState (accounted : Accounted accepted loop)
    (listening : ∀ event, offer.listening event = true) :
    Accounted accepted (loop.reportState offer) := by
  unfold Loop.reportState
  split
  · exact accounted
  · have known : Accounted accepted { loop with state := loop.connection.inner.state } :=
      ⟨accounted.balanced, accounted.ended⟩
    exact known.send (listening _)

theorem andThen (accounted : Accounted accepted loop) {step : Loop → Loop}
    (keeps : ∀ loop : Loop, Accounted accepted loop → Accounted accepted (step loop)) :
    Accounted accepted (loop.andThen step) := by
  unfold Loop.andThen
  split
  · exact keeps loop accounted
  · exact accounted

/-- Every iteration keeps the account, as long as the user listens. -/
theorem iterate {next : Loop} (accounted : Accounted accepted loop)
    (listening : ∀ event, offer.listening event = true)
    (move : loop.iterate offer = some next) : Accounted accepted next := by
  unfold Loop.iterate at move
  split at move
  · cases move
  · rename_i running
    obtain ⟨branch, selected, rfl⟩ := Option.map_eq_some_iff.mp move
    exact ((accounted.arm running selected listening).andThen
      fun _ accounted => accounted.reportId listening).andThen
        fun _ accounted => accounted.reportState listening

end Accounted

/-! ### Every packet is transmitted on the socket of its session -/

/-- The loops that `run_client` and `run_server` start on a connection with nothing queued:
`run_server` whatever the machine has been through, `run_client` outside a session, of which it
would not have the socket. -/
def Starts (accepted : Option Nat) (loop : Loop) : Prop :=
  ∃ connection : Connection, connection.ctx.sendQueue = [] ∧
    ((accepted = none ∧ InSession connection.inner.state = false ∧ loop = connection.runClient) ∨
      accepted = some 0 ∧ ∃ now, loop = connection.runServer now)

/-- A new connection is one of these, however it is run. -/
theorem starts_new (cfg : Config) (connectionId : Option String) :
    Starts none (Connection.new cfg connectionId).runClient ∧
      ∀ now, Starts (some 0) ((Connection.new cfg connectionId).runServer now) :=
  ⟨⟨_, rfl, Or.inl ⟨rfl, rfl, rfl⟩⟩, fun now => ⟨_, rfl, Or.inr ⟨rfl, now, rfl⟩⟩⟩

theorem Starts.accounted {loop : Loop} (starts : Starts accepted loop) :
    Accounted accepted loop := by
  have nothing (accepted : Option Nat) : Timely accepted [] :=
    fun before action after split => absurd split.symm (by simp)
  obtain ⟨connection, empty, ⟨rfl, outside, rfl⟩ | ⟨rfl, now, rfl⟩⟩ := starts
  · have settled : Settled none (Loop.start connection none 0).connection :=
      ⟨rfl, nothing none, empty⟩
    exact .of_running (settled.balanced outside none) rfl
  · have settled : Settled (some 0) (Loop.start connection (some 0) 1).connection :=
      ⟨rfl, nothing (some 0), empty⟩
    obtain ⟨next, handled⟩ : ∃ next,
        (Loop.start connection (some 0) 1).connection.dispatch (.rSetup now) = .ok next :=
      Connection.dispatch_ok _ nofun
    obtain ⟨entry, raised, dispatches⟩ := Connection.dispatch_spec handled
    have opening : Opens entry.event = true := by rw [raised]; rfl
    unfold Connection.runServer Loop.dispatch
    rw [handled]
    exact .of_running (settled.opens dispatches opening rfl) rfl

/-- As long as the user listens, at every point of a run the packets queued are those transmitted,
each on the socket of the session it was queued in, and those still queued; nothing is left in
the queue when a socket is replaced or shut down, nor when the run has ended; and as long as a
packet is queued, transmitting the first is all that an iteration can select. -/
theorem transmission {loop last : Loop} {offers : List Offer} (starts : Starts accepted loop)
    (run : Run Loop.iterate loop offers last)
    (listening : EachStep Loop.iterate (fun _ offer => ∀ event, offer.listening event = true)
      loop offers) :
    EachState Loop.iterate (Accounted accepted) loop offers ∧
      EachStep Loop.iterate (fun loop offer => ∀ branch, loop.select offer = some branch →
        (∀ packet, branch ≠ .transmit packet) → loop.connection.ctx.sendQueue = []) loop offers ∧
      EachState Loop.iterate (fun loop => ∀ packet offer,
        loop.connection.ctx.sendQueue.head? = some packet →
          loop.select offer = some (.transmit packet)) loop offers := by
  have kept : ∀ (loop : Loop) (offer : Offer) (next : Loop), Accounted accepted loop →
      (∀ event, offer.listening event = true) → loop.iterate offer = some next →
      Accounted accepted next ∧ Accounted accepted loop ∧ Accounted accepted next := by
    intro loop offer next accounted listening move
    have accounted' := accounted.iterate listening move
    exact ⟨accounted', accounted, accounted'⟩
  have start := starts.accounted
  obtain ⟨_, moves⟩ := EachStep.preserves kept run start listening
  refine ⟨⟨start, moves.mono fun _ _ _ step => step.2⟩, ?_,
    ⟨fun _ offer front => start.balanced.select front offer,
      moves.mono fun _ _ _ step _ offer front => step.2.balanced.select front offer⟩⟩
  refine moves.mono fun loop offer _ step branch selected other => ?_
  cases queue : loop.connection.ctx.sendQueue with
  | nil => rfl
  | cons packet rest =>
    have front : loop.connection.ctx.sendQueue.head? = some packet := by
      rw [queue]
      rfl
    have transmits := step.1.balanced.select front offer
    exact absurd (Option.some.inj (selected.symm.trans transmits)) (other packet)

namespace Sample

/-- A system packet that there is not. -/
def strangeChunk : Chunk :=
  ⟨(FmtpPacket.ofPayload .system [57, 57] (by decide)).intoBytes, by decide⟩

/-- The client associates and reads it, which ends the run in DataReady. -/
def refusing : List Offer := association ++ [incoming strangeChunk]

def refused : Loop :=
  (final Loop.iterate (client Fmtp.Sample.clientEntry) refusing).getD
    (client Fmtp.Sample.clientEntry)

/-- The user sends two messages. -/
def requesting : List Offer :=
  [commanding (.data (.operational [7])), commanding (.data (.operational [8]))]

end Sample

/-- A client that is run again after a run that has ended in the middle of a session has no socket,
and drops the packet of a message. -/
theorem transmission_drops : ¬ ∀ (cfg : Config) (connectionId : Option String)
    (offers offers' : List Offer) (before last : Loop),
    Run Loop.iterate (Connection.new cfg connectionId).runClient offers before →
    before.result ≠ none →
    Run Loop.iterate before.connection.runClient offers' last →
    (∀ offer ∈ offers ++ offers', ∀ event, offer.listening event = true) →
    (Ledger.of none last.connection.log).queued.map Prod.snd =
      (Ledger.of none last.connection.log).handed.map Prod.snd ++
        last.connection.ctx.sendQueue := by
  intro claim
  have first := Run.of_enabled Loop.iterate (Sample.client Fmtp.Sample.clientEntry)
    Sample.refusing (by decide +kernel)
  have second := Run.of_enabled Loop.iterate Sample.refused.connection.runClient
    Sample.requesting (by decide +kernel)
  have listens : ∀ offer ∈ Sample.refusing ++ Sample.requesting,
      ∀ event, offer.listening event = true := by
    simp [Sample.refusing, Sample.requesting, Sample.association, Sample.answering, Sample.writable,
      Sample.incoming, Sample.commanding, Sample.quiet]
  have ended : Sample.refused.result.isSome = true := by decide +kernel
  exact absurd (claim _ _ _ _ _ _ first (Option.isSome_iff_ne_none.mp ended) second listens)
    (by decide +kernel)

/-- The account of the tests' client while it associates. -/
theorem transmission_association :
    EachState Loop.iterate (Accounted none) (Sample.client Fmtp.Sample.clientEntry)
        Sample.association ∧
      EachStep Loop.iterate (fun loop offer => ∀ branch, loop.select offer = some branch →
        (∀ packet, branch ≠ .transmit packet) → loop.connection.ctx.sendQueue = [])
        (Sample.client Fmtp.Sample.clientEntry) Sample.association ∧
      EachState Loop.iterate (fun loop => ∀ packet offer,
        loop.connection.ctx.sendQueue.head? = some packet →
          loop.select offer = some (.transmit packet))
        (Sample.client Fmtp.Sample.clientEntry) Sample.association := by
  have run := Run.of_enabled Loop.iterate (Sample.client Fmtp.Sample.clientEntry)
    Sample.association (by decide +kernel)
  exact transmission (starts_new _ _).1 run (eachStep_of_forall _ Sample.association_listens)

end Fmtp.Tokio
