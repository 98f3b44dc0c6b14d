/-
This file proves when the HTTP node stands still. A handler that waits for a full command channel
keeps the lock of the registry, and the event tasks need the lock for every state that they enter.
So where the loop behind the channel has more to send than its event task can take without the
lock, the two wait for each other: no entry changes and no handler is answered, until the client of
the first one goes away. In every other case the tasks of that one connection can free the lock.
-/

import Fmtp.Tracking
import Mathlib.Logic.Relation

open TransitionSystem

namespace Fmtp.Http

open Tokio

/-! ### What an event task does without the lock -/

/-- The room for messages after an event. -/
def roomAfter (room : Nat) : ConnectionEvent → Nat
  | .dataReceived _ => room - 1
  | .stateChanged _ | .connectionIdDetermined _ => room

/-- The event task handles the event without the lock and without waiting. -/
def passes (role : Role) (room : Nat) : ConnectionEvent → Bool
  | .dataReceived _ => 0 < room
  | .connectionIdDetermined _ => role = .client
  | .stateChanged _ => false

/-- How many of some events an event task handles before it has to wait. -/
def passing (role : Role) : Nat → List ConnectionEvent → Nat
  | _, [] => 0
  | room, event :: rest =>
    if passes role room event then passing role (roomAfter room event) rest + 1 else 0

/-- The messages after an event. -/
def stored (messages : List FmtpMessage) : ConnectionEvent → List FmtpMessage
  | .dataReceived msg => messages ++ [msg]
  | .stateChanged _ | .connectionIdDetermined _ => messages

namespace Link

/-- The room for messages. -/
def spare (link : Link) : Nat :=
  channelSize - link.messages.length

/-- A loop that goes on cannot send all its events while the lock is held: one event may be in the
hand of the event task, and the channel may be full. -/
def Blocked (role : Role) (link : Link) : Prop :=
  passing role link.spare link.queue + 1 + channelSize < link.queue.length

/-- The channel of the commands is full, and the loop behind it goes on and is blocked. -/
structure Jammed (role : Role) (link : Link) : Prop where
  alive : link.cancelled = false
  running : link.loop.result = none
  full : channelSize ≤ link.commands.length
  blocked : link.Blocked role

/-- What the tasks of a connection do without the lock, on offers of a kind. -/
inductive Unlocked (role : Role) (allowed : Offer → Prop) (closed : Bool) (link : Link) :
    Link → Prop
  | iterated {offer : Offer} {loop : Loop} (offered : allowed offer)
      (alive : link.cancelled = false) (sent : link.pending = [])
      (move : link.loop.iterate (link.offer closed true offer) = some loop) :
      Unlocked role allowed closed link
        { link with
          loop
          pending := eventsSince link.loop loop
          commands := link.commands.drop
            (received link.loop (link.offer closed true offer)).length
          offers := link.offers ++ [link.offer closed true offer] }
  | sent {event : ConnectionEvent} {pending : List ConnectionEvent}
      (alive : link.cancelled = false) (first : link.pending = event :: pending)
      (room : link.channel.length < channelSize) :
      Unlocked role allowed closed link { link with pending, channel := link.channel ++ [event] }
  | took {event : ConnectionEvent} {channel : List ConnectionEvent} (empty : link.hand = none)
      (first : link.channel = event :: channel) :
      Unlocked role allowed closed link { link with channel, hand := some (some event) }
  | handled {event : ConnectionEvent} (hand : link.hand = some (some event))
      (free : passes role link.spare event = true) :
      Unlocked role allowed closed link
        { link with hand := none, messages := stored link.messages event }

variable {role : Role} {allowed : Offer → Prop} {closed : Bool} {link after : Link}
  {event : ConnectionEvent}

theorem spare_handled (event : ConnectionEvent) :
    spare { link with hand := none, messages := stored link.messages event } =
      roomAfter link.spare event := by
  cases event with
  | dataReceived msg =>
    show channelSize - (link.messages ++ [msg]).length = channelSize - link.messages.length - 1
    rw [List.length_append, ← Nat.sub_sub]
    rfl
  | stateChanged | connectionIdDetermined => rfl

/-- An event that is handled makes as much room as it takes. -/
theorem passing_handled (hand : link.hand = some (some event))
    (free : passes role link.spare event = true) :
    let next : Link := { link with hand := none, messages := stored link.messages event }
    link.queue.length = next.queue.length + 1 ∧
      passing role link.spare link.queue = passing role next.spare next.queue + 1 := by
  intro next
  have queue : link.queue = event :: next.queue := queue_of_handled hand
  have spare : next.spare = roomAfter link.spare event := spare_handled event
  rw [queue, spare, passing, if_pos free]
  exact ⟨rfl, rfl⟩

/-- What the tasks do without the lock leaves a jam as it is. -/
theorem Jammed.unlocked (jammed : link.Jammed role) (bounded : link.channel.length ≤ channelSize)
    (step : Unlocked role allowed closed link after) : after.Jammed role := by
  obtain ⟨alive, running, full, blocked⟩ := jammed
  unfold Blocked at blocked
  cases step with
  | iterated _ _ sent =>
    have short : link.queue.length ≤ 1 + channelSize := by
      rw [queue, sent, List.append_nil, List.length_append]
      exact Nat.add_le_add (by cases link.hand.join <;> simp) bounded
    exact absurd blocked (by omega)
  | sent _ first =>
    refine ⟨alive, running, full, ?_⟩
    rw [Blocked, queue_of_sent first]
    exact blocked
  | took empty first =>
    refine ⟨alive, running, full, ?_⟩
    rw [Blocked, queue_of_taken empty first]
    exact blocked
  | handled hand free =>
    obtain ⟨length, passed⟩ := passing_handled hand free
    refine ⟨alive, running, full, ?_⟩
    unfold Blocked
    omega

/-! ### A connection that is not blocked -/

/-- A running loop that has reported what it has to, and whose events its event task can take
without the lock. -/
structure Fluid (role : Role) (link : Link) : Prop where
  alive : link.cancelled = false
  running : link.loop.result = none
  unhung : link.hand ≠ some none
  bounded : link.channel.length ≤ channelSize
  fluent : ¬ link.Blocked role
  unsent : link.offers = [] → link.queue = []
  settled : link.offers ≠ [] → link.loop.idNews = [] ∧ link.loop.stateNews = []

/-- The messages that the event task has stored, and those among the events. -/
def load (link : Link) : Nat :=
  link.queue.countP ConnectionEvent.Forwarded + (channelSize - link.spare)

/-- What the tasks leave alone while they move events. -/
structure Alike (link after : Link) : Prop where
  loop : after.loop = link.loop
  commands : after.commands = link.commands
  load : after.load = link.load

theorem load_of_queue (same : after.queue = link.queue)
    (messages : after.messages = link.messages) : after.load = link.load := by
  rw [load, load, same, spare, messages]
  rfl

/-- A message that is handled is stored. -/
theorem load_handled (hand : link.hand = some (some event))
    (free : passes role link.spare event = true) :
    load { link with hand := none, messages := stored link.messages event } = link.load := by
  have bounded : link.spare ≤ channelSize := Nat.sub_le _ _
  rw [load, load, @queue_of_handled link _ (stored link.messages event) hand, Option.toList_some,
    List.singleton_append]
  cases event with
  | stateChanged => cases free
  | connectionIdDetermined => rfl
  | dataReceived msg =>
    have room : 0 < link.spare := of_decide_eq_true free
    have less := @spare_handled link (.dataReceived msg)
    rw [less, roomAfter, List.countP_cons_of_pos rfl]
    omega

/-- The event task takes no more messages than it has room for. -/
theorem passing_le (role : Role) (room : Nat) (events : List ConnectionEvent) :
    events.countP ConnectionEvent.Forwarded + passing role room events ≤ room + events.length := by
  induction events generalizing room with
  | nil => exact Nat.zero_le _
  | cons event rest inductionHypothesis =>
    have all : rest.countP ConnectionEvent.Forwarded ≤ rest.length := List.countP_le_length
    rw [passing, List.length_cons]
    cases event with
    | dataReceived msg =>
      rw [List.countP_cons_of_pos rfl]
      split
      · rename_i free
        have positive : 0 < room := of_decide_eq_true free
        have rest := inductionHypothesis (room - 1)
        show _ + 1 + (passing role (_ - 1) _ + 1) ≤ _
        omega
      · omega
    | stateChanged | connectionIdDetermined =>
      rw [List.countP_cons_of_neg Bool.false_ne_true]
      split
      · have rest := inductionHypothesis room
        show _ + (passing role room _ + 1) ≤ _
        omega
      · omega

/-- With more messages than the channels, the store and the hand have room for, it is blocked. -/
theorem blocked_of_load (heavy : 2 * channelSize + 1 < link.load) : link.Blocked role := by
  have bounded : link.spare ≤ channelSize := Nat.sub_le _ _
  have taken := passing_le role link.spare link.queue
  unfold load at heavy
  unfold Blocked
  omega

/-- The steps that the events have before them. -/
def debt (link : Link) : Nat :=
  3 * link.pending.length + 2 * link.channel.length + link.hand.toList.length

/-- While the loop has events to send, they can move on. -/
theorem Fluid.flows (fluid : link.Fluid role) (allowed : Offer → Prop) (closed : Bool)
    (unsent : link.pending ≠ []) :
    ∃ after, Unlocked role allowed closed link after ∧ after.Fluid role ∧ link.Alike after ∧
      after.debt < link.debt := by
  obtain ⟨alive, running, unhung, bounded, fluent, fresh, settled⟩ := fluid
  obtain ⟨event, pending, first⟩ := List.exists_cons_of_ne_nil unsent
  by_cases room : link.channel.length < channelSize
  · have queue := queue_of_sent first
    refine ⟨_, .sent alive first room, ⟨alive, running, unhung, ?_, ?_, fun none => ?_, settled⟩,
      ⟨rfl, rfl, load_of_queue queue rfl⟩, ?_⟩
    · rw [List.length_append]
      exact room
    · rw [Blocked, queue]
      exact fluent
    · exact queue.trans (fresh none)
    · simp only [debt, first, List.length_append, List.length_cons, List.length_nil]
      omega
  · have filled : link.channel.length = channelSize := Nat.le_antisymm bounded (Nat.not_lt.mp room)
    cases hand : link.hand with
    | none =>
      have nonempty : link.channel ≠ [] := by
        intro empty
        rw [empty] at filled
        cases filled
      obtain ⟨front, channel, taken⟩ := List.exists_cons_of_ne_nil nonempty
      have queue := queue_of_taken hand taken
      refine ⟨_, .took hand taken, ⟨alive, running, ?_, ?_, ?_, fun none => ?_, settled⟩,
        ⟨rfl, rfl, load_of_queue queue rfl⟩, ?_⟩
      · intro same
        cases same
      · rw [taken, List.length_cons] at bounded
        exact Nat.le_of_succ_le bounded
      · rw [Blocked, queue]
        exact fluent
      · exact queue.trans (fresh none)
      · simp only [debt, hand, taken, List.length_cons, Option.toList_none, Option.toList_some,
          List.length_nil]
        omega
    | some received =>
      cases received with
      | none => exact absurd hand unhung
      | some front =>
        -- The channel and the hand are full, so the event in the hand is not the one that waits.
        have long : 1 + channelSize < link.queue.length := by
          rw [queue, hand, first, List.length_append, List.length_append, filled, List.length_cons]
          show _ < 1 + channelSize + _
          omega
        have free : passes role link.spare front = true := by
          by_contra stuck
          refine fluent ?_
          rw [Blocked, @queue_of_handled link _ link.messages hand]
          show passing role link.spare (front :: _) + 1 + channelSize < _
          rw [passing, if_neg stuck]
          rw [@queue_of_handled link _ link.messages hand] at long
          omega
        obtain ⟨length, passed⟩ := passing_handled hand free
        refine ⟨_, .handled hand free, ⟨alive, running, (fun same => by cases same), bounded, ?_,
          fun none => ?_, settled⟩, ⟨rfl, rfl, load_handled hand free⟩, ?_⟩
        · unfold Blocked at fluent ⊢
          omega
        · rw [← List.length_eq_zero_iff]
          have empty := fresh none
          rw [← List.length_eq_zero_iff] at empty
          omega
        · simp only [debt, hand, Option.toList_none, Option.toList_some, List.length_cons,
            List.length_nil]
          omega

/-- So the loop can send them all. -/
theorem Fluid.flushes (fluid : link.Fluid role) (allowed : Offer → Prop) (closed : Bool) :
    ∃ after, Relation.ReflTransGen (Unlocked role allowed closed) link after ∧ after.Fluid role ∧
      link.Alike after ∧ after.pending = [] := by
  generalize owed : link.debt = debt
  induction debt using Nat.strong_induction_on generalizing link with
  | _ debt inductionHypothesis =>
    by_cases sent : link.pending = []
    · exact ⟨link, .refl, fluid, ⟨rfl, rfl, rfl⟩, sent⟩
    · obtain ⟨middle, step, flows, alike, less⟩ := fluid.flows allowed closed sent
      obtain ⟨after, steps, fluid, alike', sent⟩ :=
        inductionHypothesis _ (owed ▸ less) flows rfl
      exact ⟨after, .head step steps, fluid,
        ⟨alike'.loop.trans alike.loop, alike'.commands.trans alike.commands,
          alike'.load.trans alike.load⟩, sent⟩

end Link

end Fmtp.Http

namespace Fmtp.Tokio.Loop

/-- A loop that goes on after a transmission has reported what there was to report. -/
theorem iterate_transmit {loop : Loop} {offer : Offer} {packet : FmtpPacket} {accepted : Nat}
    (listens : offer.Listens) (running : loop.result = none)
    (selected : loop.select offer = some (.transmit packet)) (write : offer.write = some accepted) :
    ∃ next, loop.iterate offer = some next ∧ next.result = none ∧ next.socket = loop.socket ∧
      next.connection.ctx = loop.connection.ctx.pollTransmit.2.pollReceive.2 ∧
      eventsSince loop next = loop.idNews ++ loop.stateNews ∧ next.idNews = [] ∧
      next.stateNews = [] := by
  obtain ⟨socket, socketed⟩ := Option.ne_none_iff_exists'.mp (select_chosen selected).1
  let wrote := loop.pop.record (.wrote socket packet (packet.intoBytes.take accepted))
  have arm : loop.pop.arm offer (.transmit packet) = wrote := by
    show loop.pop.sendPacket offer packet = wrote
    unfold sendPacket
    rw [show loop.pop.socket = some socket from socketed, write]
  obtain ⟨next, move⟩ : ∃ next, loop.iterate offer = some next := by
    simp only [iterate, running, selected, Option.map_some]
    exact ⟨_, rfl⟩
  have tells := iterate_tells listens selected move
  rw [arm] at tells
  rcases tells with ⟨ended, _⟩ | ⟨_, tells, state, id⟩
  · exact absurd running ended
  · refine ⟨next, move, tells.result.trans running, tells.socket, tells.ctx, ?_, ?_, ?_⟩
    · have logged : next.connection.log = loop.connection.log ++
          (.wrote socket packet (packet.intoBytes.take accepted) ::
            (loop.idNews ++ loop.stateNews).map .sent) := by
        rw [tells.log]
        show (loop.connection.log ++ [_]) ++ _ = _
        rw [List.append_assoc]
        rfl
      rw [eventsSince_of_log logged]
      show events ((loop.idNews ++ loop.stateNews).map .sent) = _
      rw [events, List.filterMap_map]
      exact List.filterMap_some
    · unfold idNews
      split
      · rename_i unknown
        rw [unknown] at id
        rw [(Option.or_eq_none_iff.mp id.symm).2]
        rfl
      · rfl
    · rw [stateNews, if_pos state.symm]

/-- A loop with nothing to transmit takes the command that it is offered. -/
theorem select_command {loop : Loop} {offer : Offer} {command : UserCommand}
    (drained : loop.Drained) (offered : offer.command = some (some command)) :
    loop.select offer = some (.command (some command)) := by
  unfold select
  dsimp only [ConnectionContext.pollTransmit, ConnectionContext.pollReceive]
  rcases drained with none | empty
  · rw [none, offered]
  · rw [empty, offered]
    cases loop.socket <;> rfl

end Fmtp.Tokio.Loop

namespace Fmtp.Http

open Tokio

namespace Link

variable {role : Role} {closed : Bool} {link after : Link}

/-- Whatever is offered. -/
def Any (_ : Offer) : Prop := True

/-- The iteration that receives a command. -/
theorem iterates_command {command : UserCommand} {rest : List UserCommand}
    (alive : link.cancelled = false) (running : link.loop.result = none) (sent : link.pending = [])
    (drained : link.loop.Drained) (waits : link.commands = command :: rest) (closed : Bool) :
    ∃ after, Unlocked role Any closed link after ∧ after.commands = rest := by
  let offer := link.offer closed true Tokio.Sample.quiet
  have offered : (link.offer closed true Tokio.Sample.quiet).command = some (some command) := by
    simp only [Link.offer, waits]
  have selected : link.loop.select offer = some (.command (some command)) :=
    Loop.select_command drained offered
  obtain ⟨loop, move⟩ : ∃ loop, link.loop.iterate offer = some loop := by
    simp only [Loop.iterate, running, selected, Option.map_some]
    exact ⟨_, rfl⟩
  refine ⟨_, .iterated trivial alive sent move, ?_⟩
  show link.commands.drop (received link.loop offer).length = rest
  rw [received, selected, waits]
  rfl

/-- The iteration that transmits a packet. -/
theorem Fluid.transmits {socket : Nat} {packet : FmtpPacket} {packets : List FmtpPacket}
    (fluid : link.Fluid role) (sent : link.pending = [])
    (socketed : link.loop.socket = some socket)
    (queued : link.loop.connection.ctx.sendQueue = packet :: packets) (closed : Bool) :
    ∃ after, Unlocked role Any closed link after ∧ after.Fluid role ∧
      after.commands = link.commands ∧ after.loop.connection.ctx.sendQueue = packets := by
  obtain ⟨alive, running, unhung, bounded, fluent, fresh, settled⟩ := fluid
  let offer := link.offer closed true Tokio.Sample.writable
  have selected : link.loop.select offer = some (.transmit packet) := by
    unfold Loop.select
    dsimp only [ConnectionContext.pollTransmit]
    rw [socketed, queued]
    rfl
  obtain ⟨loop, move, goes, _, ctx, since, told, shown⟩ :=
    Loop.iterate_transmit (fun _ => rfl) running selected rfl
  have none_received : received link.loop offer = [] := by
    rw [received, selected]
  have next : ∀ commands offers, queue { link with
      loop, pending := eventsSince link.loop loop, commands, offers } =
        link.queue ++ (link.loop.idNews ++ link.loop.stateNews) := by
    intro commands offers
    rw [queue, queue, sent, List.append_nil, since]
  refine ⟨_, .iterated trivial alive sent move, ⟨alive, goes, unhung, bounded, ?_, fun none => ?_,
    fun _ => ⟨told, shown⟩⟩, ?_, ?_⟩
  · unfold Blocked at fluent ⊢
    rw [next]
    by_cases begun : link.offers = []
    · have few : (link.loop.idNews ++ link.loop.stateNews).length ≤ 2 := by
        have ids : link.loop.idNews.length ≤ 1 := by
          unfold Loop.idNews
          split
          · cases link.loop.connection.inner.storage.id <;> simp
          · exact Nat.zero_le 1
        have states : link.loop.stateNews.length ≤ 1 := by
          unfold Loop.stateNews
          split
          · exact Nat.zero_le 1
          · exact le_rfl
        rw [List.length_append]
        exact Nat.add_le_add ids states
      rw [fresh begun, List.nil_append]
      unfold channelSize
      omega
    · obtain ⟨told, shown⟩ := settled begun
      rw [told, shown, List.append_nil, List.append_nil]
      exact fluent
  · exact absurd none (List.append_ne_nil_of_right_ne_nil _ (List.cons_ne_nil _ _))
  · show link.commands.drop (received link.loop offer).length = _
    rw [none_received]
    rfl
  · show loop.connection.ctx.sendQueue = packets
    rw [ctx]
    show link.loop.connection.ctx.sendQueue.tail = packets
    rw [queued]
    rfl

/-- A loop that is not blocked comes to take a command. -/
theorem Fluid.drains {command : UserCommand} {rest : List UserCommand} (fluid : link.Fluid role)
    (waits : link.commands = command :: rest) (closed : Bool) :
    ∃ after, Relation.ReflTransGen (Unlocked role Any closed) link after ∧
      after.commands = rest := by
  generalize queued : link.loop.connection.ctx.sendQueue = packets
  induction packets generalizing link with
  | nil =>
    obtain ⟨middle, steps, fluid, alike, sent⟩ := fluid.flushes Any closed
    have drained : middle.loop.Drained := Or.inr (alike.loop ▸ queued)
    obtain ⟨after, step, taken⟩ := iterates_command fluid.alive fluid.running sent drained
      (alike.commands.trans waits) closed
    exact ⟨after, steps.tail step, taken⟩
  | cons packet packets inductionHypothesis =>
    obtain ⟨middle, steps, fluid, alike, sent⟩ := fluid.flushes Any closed
    cases socketed : middle.loop.socket with
    | none =>
      obtain ⟨after, step, taken⟩ := iterates_command fluid.alive fluid.running sent
        (Or.inl socketed) (alike.commands.trans waits) closed
      exact ⟨after, steps.tail step, taken⟩
    | some socket =>
      obtain ⟨next, step, fluid, same, queued⟩ :=
        fluid.transmits sent socketed (alike.loop ▸ queued) closed
      obtain ⟨after, later, taken⟩ :=
        inductionHypothesis fluid (same.trans (alike.commands.trans waits)) queued
      exact ⟨after, (steps.tail step).trans later, taken⟩

end Link

/-- At a time, the socket of a loop gives the packet of a message, or nothing. -/
structure PeerSends (now : Instant) (offer : Offer) : Prop where
  clock : offer.clock = now
  read : offer.read = none ∨ ∃ chunk packet msg, offer.read = some (some chunk) ∧
    chunk.1 = FmtpPacket.intoBytes packet ∧ packet.tryToMsg = .ok msg

/-- What an association at rest is offered until it is blocked. -/
theorem peerSends_data (now : Instant) :
    PeerSends now (Tokio.Sample.givingAt now Tokio.Sample.dataChunk) :=
  ⟨rfl, Or.inr ⟨_, .ofPayload .operational [7] (by decide), _, rfl, rfl, rfl⟩⟩

theorem peerSends_quiet (now : Instant) : PeerSends now (Tokio.Sample.quietAt now) :=
  ⟨rfl, Or.inl rfl⟩

/-! ### A handler that waits with the lock -/

namespace Node

/-- A step that inserts an entry into the registry. -/
def enters : Label → Bool
  | .insert _ _ | .client _ | .reinsert _ => true
  | .accept _ _ _ | .iterate _ _ | .send _ _ | .take _ | .handle _ | .call _ _ | .acquire _
  | .complete _ | .drop _ | .abort _ | .cancel _ | .cancelAccept => false

/-- A step of the tasks of one connection, on an offer of a kind. -/
def Inner (task : Nat) (allowed : Offer → Prop) : Label → Prop
  | .iterate other offer => other = task ∧ allowed offer
  | .send other _ | .take other | .handle other => other = task
  | .accept _ _ _ | .insert _ _ | .client _ | .reinsert _ | .call _ _ | .acquire _ | .complete _
  | .drop _ | .abort _ | .cancel _ | .cancelAccept => False

/-- A client posts a command to a connection, and its handler goes on. -/
def Asks (connId : String) (command : UserCommand) : Label → Prop
  | .call _ call => call = .post connId command
  | .acquire _ | .complete _ => True
  | .accept _ _ _ | .insert _ _ | .client _ | .iterate _ _ | .send _ _ | .take _ | .handle _
  | .reinsert _ | .drop _ | .abort _ | .cancel _ | .cancelAccept => False

/-- The event task of a connection waits for an event. -/
structure Attached (config : Config) (node : Node) (connId : String) (task : Nat) (role : Role)
    (link : Link) : Prop where
  tracked : node.Tracked config
  waiting : node.daemon.tasks task = .waiting role connId
  linked : node.links task = some link

/-- A handler holds the lock and waits for the channel of the connection. -/
structure Stalls (config : Config) (node : Node) (request : Nat) (connId : String) (task : Nat)
    (command : UserCommand) (role : Role) (link : Link) : Prop
    extends Attached config node connId task role link where
  sending : node.requests request = .sending connId task command

/-- A run of the tasks of one connection, without the lock. -/
structure Moved (config : Config) (node : Node) (connId : String) (task : Nat) (role : Role)
    (allowed : Offer → Prop) (after : Link) (labels : List Label) (last : Node) : Prop where
  run : Run Node.step node labels last
  inner : ∀ label ∈ labels, Inner task allowed label
  daemon : last.daemon = node.daemon
  requests : last.requests = node.requests
  holder : last.holder = node.holder
  attached : Attached config last connId task role after

theorem Moved.refl {config : Config} {node : Node} {connId : String} {task : Nat} {role : Role}
    {allowed : Offer → Prop} {link : Link}
    (attached : Attached config node connId task role link) :
    Moved config node connId task role allowed link [] node :=
  ⟨.nil node, List.forall_mem_nil _, rfl, rfl, rfl, attached⟩

theorem Moved.trans {config : Config} {node middle last : Node} {connId : String} {task : Nat}
    {role : Role} {allowed : Offer → Prop} {link after : Link} {labels labels' : List Label}
    (moved : Moved config node connId task role allowed link labels middle)
    (moved' : Moved config middle connId task role allowed after labels' last) :
    Moved config node connId task role allowed after (labels ++ labels') last :=
  ⟨moved.run.append moved'.run, List.forall_mem_append.mpr ⟨moved.inner, moved'.inner⟩,
    moved'.daemon.trans moved.daemon, moved'.requests.trans moved.requests,
    moved'.holder.trans moved.holder, moved'.attached⟩

variable {config : Config} {node next last : Node} {label : Label} {labels : List Label}
  {request task : Nat} {connId : String} {command : UserCommand} {role : Role}
  {allowed : Offer → Prop} {link after : Link}

/-- Neither inserts an entry. -/
theorem enters_of_inner (inner : Inner task allowed label) : enters label = false := by
  cases label with
  | insert | client | reinsert => cases inner
  | _ => rfl

theorem enters_of_asks (asks : Asks connId command label) : enters label = false := by
  cases label with
  | insert | client | reinsert => cases asks
  | _ => rfl

/-- Such a step is orderly where it inserts nothing. -/
theorem orderly_of_enters (node : Node) (other : enters label = false) : node.Orderly label := by
  intro entry member id inserts
  cases label with
  | insert | client | reinsert => cases other
  | accept =>
    obtain rfl := Option.some.inj member
    cases inserts
  | iterate | send | take | call | acquire | complete | drop | abort | cancel | cancelAccept =>
    cases member
  | handle task =>
    obtain ⟨link, _, member⟩ := Option.bind_eq_some_iff.mp member
    obtain ⟨received, _, rfl⟩ := Option.map_eq_some_iff.mp member
    cases received with
    | none => cases inserts
    | some event => cases event <;> cases inserts

/-- While the lock is held, nothing is inserted. -/
theorem Moves.enters_of_held (moves : node.Moves label next) (held : node.holder ≠ none) :
    enters label = false := by
  cases moves with
  | inserted free | started free | reinserted free => exact absurd free held
  | accepted | handled | iterated | sent | broken | took | hungUp | called | answered | acquired
  | refused | posted | dropped | abandoned | aborted | cancelled | unbound => rfl

theorem Tracked.goesOn (tracked : node.Tracked config) (other : enters label = false)
    (move : node.step label = some next) : next.Tracked config :=
  tracked.step (orderly_of_enters node other) (step_moves move)

namespace Attached

variable (attached : Attached config node connId task role link)

include attached

/-- The connection's own step, without the lock. -/
theorem unlocked (step : Link.Unlocked role allowed (node.closed task) link after) :
    ∃ label, Inner task allowed label ∧ node.step label = some (node.setLink task after) := by
  have listens : node.listens task = true := by
    unfold Node.listens
    rw [attached.waiting]
    rfl
  cases step with
  | @iterated offer loop offered alive sent move =>
    refine ⟨.iterate task offer, ⟨rfl, offered⟩, ?_⟩
    show (node.links task).bind _ = _
    rw [attached.linked, Option.bind_some, listens]
    unfold Link.iterate
    rw [alive, sent]
    dsimp only
    rw [move]
    rfl
  | @sent event pending alive first room =>
    refine ⟨.send task Tokio.Sample.quiet, rfl, ?_⟩
    show (node.links task).bind _ = _
    rw [attached.linked, Option.bind_some, listens]
    unfold Link.send
    rw [alive, first]
    dsimp only
    rw [if_pos rfl, if_pos room]
    rfl
  | @took event channel empty first =>
    refine ⟨.take task, rfl, ?_⟩
    unfold Node.step
    dsimp only
    rw [attached.waiting]
    dsimp only
    rw [attached.linked, Option.bind_some, Link.take, empty, first]
    rfl
  | @handled event hand free =>
    refine ⟨.handle task, rfl, ?_⟩
    show node.handle task = _
    unfold Node.handle
    rw [attached.linked, attached.waiting]
    dsimp only
    rw [hand]
    dsimp only
    cases event with
    | stateChanged state => cases free
    | connectionIdDetermined told =>
      have client : role = .client := of_decide_eq_true free
      have waiting := attached.waiting
      subst client
      have move : node.daemon.step ⟨task, deed (some (.connectionIdDetermined told))⟩ =
          some node.daemon := by
        simp only [Daemon.step, deed, waiting]
      dsimp only
      rw [if_neg fun both => Bool.false_ne_true both.1, move]
      rfl
    | dataReceived msg =>
      have receives := attached.tracked.consistent.receives attached.waiting
      have room : link.messages.length < channelSize := Nat.lt_of_sub_pos (of_decide_eq_true free)
      have move : node.daemon.step ⟨task, deed (some (.dataReceived msg))⟩ = some node.daemon := by
        simp only [Daemon.step, deed, attached.waiting, receives, if_true]
      dsimp only
      rw [if_pos receives, if_pos room, move]
      rfl

/-- What the connection can do by itself, the node can do. -/
theorem reaches
    (steps : Relation.ReflTransGen (Link.Unlocked role allowed (node.closed task)) link after) :
    ∃ labels last, Moved config node connId task role allowed after labels last := by
  induction steps with
  | refl => exact ⟨[], node, .refl attached⟩
  | @tail middle after _ step inductionHypothesis =>
    obtain ⟨labels, last, moved⟩ := inductionHypothesis
    have closed : last.closed task = node.closed task := by
      unfold Node.closed
      rw [moved.daemon]
    rw [← closed] at step
    obtain ⟨label, inner, move⟩ := moved.attached.unlocked step
    exact ⟨labels ++ [label], last.setLink task after, moved.run.append (.cons move (.nil _)),
      List.forall_mem_append.mpr ⟨moved.inner, List.forall_mem_singleton.mpr inner⟩,
      moved.daemon, moved.requests, moved.holder,
      moved.attached.tracked.goesOn (enters_of_inner inner) move, moved.attached.waiting,
      last.setLink_self task after⟩

/-- What the link has been through, and whose it is. -/
theorem traced : link.role = role ∧ ∃ first, link.Traced first ∧ link.Hung := by
  cases attached.tracked.tracks task link attached.linked with
  | @waiting _ _ first _ waiting registered hung =>
    injection attached.waiting.symm.trans waiting with same
    exact ⟨registered.played.trans same.symm, first, registered.traced, hung⟩
  | accepted handler | rekeying handler | ended handler =>
    cases attached.waiting.symm.trans handler

/-- A connection that is not blocked is fluid. -/
theorem fluid (alive : link.cancelled = false) (running : link.loop.result = none)
    (fluent : ¬ link.Blocked role) : link.Fluid role := by
  obtain ⟨_, first, traced, hung⟩ := attached.traced
  refine ⟨alive, running, fun closed => ((hung closed).over alive).1 running, traced.bounded,
    fluent, traced.unsent, fun begun => ?_⟩
  obtain ⟨state, id⟩ := reports_settled traced.run traced.listens begun running
  refine ⟨?_, ?_⟩
  · unfold Loop.idNews
    split
    · rename_i unknown
      rw [id unknown]
      rfl
    · rfl
  · rw [Loop.stateNews, if_pos state.symm]

/-- Its commands have a sender, in its entry. -/
theorem not_closed : node.closed task = false := by
  have receives := attached.tracked.consistent.receives attached.waiting
  unfold Node.closed
  rw [attached.waiting]
  cases role with
  | server => rfl
  | client => rw [receives, Bool.not_true]

/-- Where it is not blocked and no command waits, the loop comes to its next iteration. -/
theorem iterates {offer : Offer} {loop : Loop} (offered : allowed offer)
    (idle : link.commands = []) (alive : link.cancelled = false)
    (running : link.loop.result = none) (fluent : ¬ link.Blocked role)
    (quiet : offer.command = none) (listening : offer.listening = fun _ => true)
    (move : link.loop.iterate offer = some loop) :
    ∃ labels last after, Moved config node connId task role allowed after labels last ∧
      after.loop = loop ∧ after.cancelled = false ∧ after.commands = [] ∧
      after.load = link.load + (eventsSince link.loop loop).countP ConnectionEvent.Forwarded := by
  obtain ⟨middle, steps, fluid, alike, sent⟩ :=
    (attached.fluid alive running fluent).flushes allowed (node.closed task)
  have none_waits : middle.commands = [] := alike.commands.trans idle
  have same : middle.offer (node.closed task) true offer = offer := by
    unfold Link.offer
    rw [none_waits, attached.not_closed, ← quiet, ← listening]
    rfl
  have iterated : middle.loop.iterate (middle.offer (node.closed task) true offer) = some loop := by
    rw [same, alike.loop]
    exact move
  obtain ⟨labels, last, moved⟩ :=
    attached.reaches (steps.tail (.iterated offered fluid.alive sent iterated))
  refine ⟨labels, last, _, moved, rfl, fluid.alive, ?_, ?_⟩
  · show middle.commands.drop _ = []
    rw [none_waits, List.drop_nil]
  · rw [← alike.load, ← alike.loop]
    show (middle.hand.join.toList ++ middle.channel ++ eventsSince _ _).countP _ + _ = _
    rw [Link.load, Link.queue, sent, List.append_nil, List.countP_append, Nat.add_right_comm]
    rfl

/-- A peer that goes on sending messages blocks the loop. -/
theorem fills {now : Instant} (idle : link.commands = []) (alive : link.cancelled = false)
    (receptive : Receptive now [] link.loop) :
    ∃ labels last after, Moved config node connId task role (PeerSends now) after labels last ∧
      after.loop.result = none ∧ after.cancelled = false ∧ after.commands = [] ∧
      after.Blocked role := by
  generalize owed : 2 * channelSize + 2 - link.load = more
  induction more using Nat.strong_induction_on generalizing node link with
  | _ more inductionHypothesis =>
    by_cases blocked : link.Blocked role
    · exact ⟨[], node, link, .refl attached, receptive.running, alive, idle, blocked⟩
    · have light : link.load ≤ 2 * channelSize + 1 :=
        Nat.not_lt.mp fun heavy => blocked (Link.blocked_of_load heavy)
      obtain ⟨loop, reads, filled⟩ := receptive.read
      obtain ⟨labels, middle, after, moved, rfl, alive, idle, kept⟩ :=
        attached.iterates (peerSends_data now) idle alive receptive.running blocked rfl rfl reads
      by_cases blocked : after.Blocked role
      · exact ⟨labels, middle, after, moved, filled.running, alive, idle, blocked⟩
      · obtain ⟨loop, gives, rested, given⟩ := filled.give
        obtain ⟨labels', next, after', moved', rfl, alive, idle, stored⟩ :=
          moved.attached.iterates (peerSends_quiet now) idle alive filled.running blocked rfl rfl
            gives
        have more : link.load < after'.load := by omega
        obtain ⟨labels'', last, final, moved'', running, alive, idle, blocked⟩ :=
          inductionHypothesis _ (by omega) moved'.attached idle alive rested rfl
        exact ⟨_, last, final, (moved.trans moved').trans moved'', running, alive, idle, blocked⟩

/-- A handler is called and takes the free lock for its command. -/
theorem acquires (free : node.holder = none) (absent : node.requests request = .absent)
    (command : UserCommand) :
    ∃ labels last, Run Node.step node labels last ∧
      (∀ label ∈ labels, Asks connId command label) ∧
      Stalls config last request connId task command role link ∧ last.daemon = node.daemon ∧
      last.requests = Function.update node.requests request (.sending connId task command) := by
  let called : Node :=
    { node with
      requests := Function.update node.requests request (.calling (.post connId command)) }
  let acquired : Node :=
    { called with
      requests := Function.update called.requests request (.sending connId task command)
      holder := some request }
  have calls : node.step (.call request (.post connId command)) = some called := by
    simp only [Node.step, absent]
    rfl
  have takes : called.step (.acquire request) = some acquired := by
    obtain ⟨connection, found, owner⟩ :=
      attached.tracked.consistent.holds task role connId attached.waiting
    have calling : called.requests request = .calling (.post connId command) :=
      Function.update_self _ _ _
    have free : called.holder = none := free
    have found : called.daemon.connections.lookup connId = some connection := found
    simp only [Node.step, Node.acquire, free, calling, found, owner]
    rfl
  have tracked : acquired.Tracked config :=
    (attached.tracked.goesOn rfl calls).goesOn rfl takes
  refine ⟨[.call request (.post connId command), .acquire request], acquired,
    .cons calls (.cons takes (.nil acquired)), ?_,
    ⟨⟨tracked, attached.waiting, attached.linked⟩, Function.update_self _ _ _⟩, rfl,
    Function.update_idem _ _ _⟩
  exact List.forall_mem_cons.mpr ⟨rfl, List.forall_mem_singleton.mpr trivial⟩

/-- Handlers fill the channel of the commands while its loop does nothing. -/
theorem posts (alive : link.cancelled = false) (running : link.loop.result = none)
    (free : node.holder = none)
    (fresh : ∀ other, request ≤ other → node.requests other = .absent) {count : Nat}
    (room : link.commands.length + count = channelSize) (command : UserCommand) :
    ∃ labels last after request', Run Node.step node labels last ∧
      (∀ label ∈ labels, Asks connId command label) ∧ last.daemon = node.daemon ∧
      last.holder = none ∧ last.requests request' = .absent ∧
      Attached config last connId task role after ∧ after.cancelled = false ∧
      after.loop = link.loop ∧ after.queue = link.queue ∧ after.messages = link.messages ∧
      after.commands.length = channelSize := by
  induction count generalizing node link request with
  | zero =>
    exact ⟨[], node, link, request, .nil node, List.forall_mem_nil _, rfl, free,
      fresh request le_rfl, attached, alive, rfl, rfl, rfl, room⟩
  | succ count inductionHypothesis =>
    obtain ⟨labels, middle, run, asks, stalls, daemon, requests⟩ :=
      attached.acquires free (fresh request le_rfl) command
    have space : link.commands.length < channelSize := by omega
    let posted := (middle.setLink task (link.post command)).answer request .ok
    have move : middle.step (.complete request) = some posted := by
      show middle.complete request = _
      simp only [Node.complete, stalls.sending, stalls.linked, alive, running, space, ne_eq,
        Bool.false_eq_true, not_true_eq_false, or_self, if_true, if_false]
      rfl
    have next : Attached config posted connId task role (link.post command) :=
      ⟨stalls.tracked.goesOn rfl move, stalls.waiting, middle.setLink_self task _⟩
    have fresh : ∀ other, request + 1 ≤ other → posted.requests other = .absent := by
      intro other above
      have distinct : other ≠ request := Nat.ne_of_gt above
      show Function.update middle.requests request _ other = _
      rw [Function.update_of_ne distinct, requests, Function.update_of_ne distinct]
      exact fresh other (Nat.le_of_succ_le above)
    have room : (link.post command).commands.length + count = channelSize := by
      show (link.commands ++ [command]).length + count = channelSize
      rw [List.length_append, List.length_singleton]
      omega
    obtain ⟨labels', last, after, request', run', asks', same, done⟩ :=
      inductionHypothesis next alive running rfl fresh room
    exact ⟨_, last, after, request', (run.append (.cons move (.nil posted))).append run',
      List.forall_mem_append.mpr ⟨List.forall_mem_append.mpr
        ⟨asks, List.forall_mem_singleton.mpr trivial⟩, asks'⟩, same.trans daemon, done⟩

end Attached

namespace Stalls

variable (stalls : Stalls config node request connId task command role link)

include stalls

theorem held : node.holder ≠ none := by
  rw [(stalls.tracked.held request connId task command stalls.sending).1]
  exact Option.some_ne_none request

/-- The handler is answered where the loop is gone or the channel has room. -/
theorem completes
    (ready : (link.cancelled = true ∨ link.loop.result ≠ none) ∨
      link.commands.length < channelSize) :
    ∃ last, node.step (.complete request) = some last ∧ last.holder = none := by
  show ∃ last, node.complete request = some last ∧ _
  unfold Node.complete
  rw [stalls.sending]
  dsimp only
  rw [stalls.linked]
  dsimp only
  by_cases ended : link.cancelled = true ∨ link.loop.result ≠ none
  · rw [if_pos ended]
    exact ⟨_, rfl, rfl⟩
  · rw [if_neg ended, if_pos (ready.resolve_left ended)]
    exact ⟨_, rfl, rfl⟩

/-- Where the connection is not jammed, the handler gives the lock back. -/
theorem releases (clear : ¬ link.Jammed role) :
    ∃ labels last, Run Node.step node labels last ∧
      (∀ label ∈ labels, Inner task Link.Any label ∨ label = .complete request) ∧
      last.holder = none := by
  by_cases ready : (link.cancelled = true ∨ link.loop.result ≠ none) ∨
      link.commands.length < channelSize
  · obtain ⟨last, move, free⟩ := stalls.completes ready
    exact ⟨[.complete request], last, .cons move (.nil last),
      List.forall_mem_singleton.mpr (Or.inr rfl), free⟩
  · obtain ⟨runs, full⟩ := not_or.mp ready
    obtain ⟨uncancelled, running⟩ := not_or.mp runs
    have alive := Bool.eq_false_of_not_eq_true uncancelled
    have running := not_not.mp running
    have full := Nat.not_lt.mp full
    have fluid := stalls.fluid alive running fun blocked => clear ⟨alive, running, full, blocked⟩
    obtain ⟨_, first, traced, _⟩ := stalls.traced
    obtain ⟨front, rest, waits⟩ : ∃ front rest, link.commands = front :: rest := by
      refine List.exists_cons_of_ne_nil fun empty => ?_
      rw [empty] at full
      cases full
    obtain ⟨after, steps, taken⟩ := fluid.drains waits (node.closed task)
    obtain ⟨labels, middle, moved⟩ := stalls.reaches steps
    have room : after.commands.length < channelSize := by
      have bound := traced.room
      rw [waits, List.length_cons] at bound
      rw [taken]
      exact bound
    have stalls : Stalls config middle request connId task command role after :=
      ⟨moved.attached, (congrFun moved.requests request).trans stalls.sending⟩
    obtain ⟨last, move, free⟩ := stalls.completes (Or.inr room)
    exact ⟨labels ++ [.complete request], last, moved.run.append (.cons move (.nil last)),
      List.forall_mem_append.mpr ⟨fun label member => Or.inl (moved.inner label member),
        List.forall_mem_singleton.mpr (Or.inr rfl)⟩, free⟩

/-- Where it is jammed, no step frees the lock, changes an entry or answers a handler, unless the
client of the one that waits goes away, or the task of the connection is cancelled. -/
theorem stays (jammed : link.Jammed role) (moves : node.Moves label next)
    (kept : label ≠ .drop request) (uncancelled : role = .client → label ≠ .cancel task) :
    (∃ after, Stalls config next request connId task command role after ∧ after.Jammed role) ∧
      next.daemon.connections = node.daemon.connections ∧
      ∀ other response, next.requests other = .answered response →
        node.requests other = .answered response := by
  have held := stalls.held
  have tracked := stalls.tracked.step (orderly_of_enters node (moves.enters_of_held held)) moves
  obtain ⟨played, first, traced, _⟩ := stalls.traced
  -- A step that leaves the link, the handler and the daemon alone.
  have alone {links : Nat → Option Link} {requests : Nat → Request}
      (moved : Tracked config { node with links, requests })
      (same : links task = node.links task) (sending : requests request = node.requests request) :
      ∃ after, Stalls config { node with links, requests } request connId task command role after ∧
        after.Jammed role :=
    ⟨link, ⟨⟨moved, stalls.waiting, same.trans stalls.linked⟩, sending.trans stalls.sending⟩,
      jammed⟩
  -- A step of a connection without the lock.
  have own {other : Nat} {before after : Link} (linked : node.links other = some before)
      (moved : Tracked config (node.setLink other after))
      (step : other = task → Link.Unlocked role Link.Any (node.closed task) before after) :
      ∃ after', Stalls config (node.setLink other after) request connId task command role after' ∧
        after'.Jammed role := by
    by_cases same : other = task
    · subst same
      obtain rfl := Option.some.inj (stalls.linked.symm.trans linked)
      exact ⟨after, ⟨⟨moved, stalls.waiting, node.setLink_self other after⟩, stalls.sending⟩,
        jammed.unlocked traced.bounded (step rfl)⟩
    · exact alone moved (node.setLink_other after fun equal => same equal.symm) rfl
  have waits {other : Nat} {id : String} {role' : Role}
      (waiting : node.daemon.tasks other = .waiting role' id) (same : other = task) :
      role' = role := by
    subst same
    injection waiting.symm.trans stalls.waiting
  cases moves with
  | inserted free | started free | reinserted free | answered free | acquired free =>
    exact absurd free held
  | @accepted other remoteAddr now daemon _ move =>
    have distinct : task ≠ other := by
      rintro rfl
      simp only [Daemon.step, stalls.waiting] at move
      cases move
    have effect := Daemon.step_effect move
    have entries : daemon.connections = node.daemon.connections := by
      cases effect with
      | accepted => rfl
      | lost waiting =>
        simp only [Daemon.step, waiting] at move
        cases move
    exact ⟨⟨link, ⟨⟨tracked, (effect.others distinct).trans stalls.waiting,
      (node.setLink_other _ distinct).trans stalls.linked⟩, stalls.sending⟩, jammed⟩, entries,
      fun _ _ answered => answered⟩
  | @iterated other offer before loop linked alive sent move =>
    refine ⟨own linked tracked fun same => ?_, rfl, fun _ _ answered => answered⟩
    subst same
    have listens : node.listens other = true := by
      unfold Node.listens
      rw [stalls.waiting]
      rfl
    rw [listens] at move ⊢
    exact .iterated trivial alive sent move
  | sent linked alive first room =>
    exact ⟨own linked tracked fun _ => .sent alive first room, rfl, fun _ _ answered => answered⟩
  | broken linked alive unsent deaf =>
    exact absurd ((stalls.tracked.gone deaf linked).over alive).2 unsent
  | took waiting linked empty first =>
    exact ⟨own linked tracked fun _ => .took empty first, rfl, fun _ _ answered => answered⟩
  | @hungUp other role' id before waiting linked empty drained gone =>
    have distinct : other ≠ task := by
      rintro rfl
      obtain rfl := Option.some.inj (stalls.linked.symm.trans linked)
      exact (gone.over jammed.alive).1 jammed.running
    exact ⟨alone tracked (node.setLink_other _ distinct.symm) rfl, rfl,
      fun _ _ answered => answered⟩
  | @handled other role' id before received messages daemon waiting linked hand free room quiet
      move =>
    have unlocked : locks role' received = false :=
      Bool.eq_false_iff.mpr fun locked => held (free locked)
    obtain rfl := stalls.tracked.handles waiting unlocked move
    refine ⟨own linked tracked fun same => ?_, rfl, fun _ _ answered => answered⟩
    obtain rfl := waits waiting same
    cases received with
    | none => cases unlocked
    | some event =>
      cases event with
      | stateChanged => cases unlocked
      | connectionIdDetermined told =>
        have client : passes role' before.spare (.connectionIdDetermined told) = true := by
          cases role' with
          | client => rfl
          | server => cases unlocked
        have same := quiet fun msg equal => by cases equal
        rw [same]
        exact .handled hand client
      | dataReceived msg =>
        obtain ⟨spare, same⟩ := room msg rfl (stalls.tracked.consistent.receives waiting)
        have free : passes role' before.spare (.dataReceived msg) = true :=
          decide_eq_true (Nat.sub_pos_of_lt spare)
        rw [same]
        exact .handled hand free
  | @called other call absent =>
    have distinct : request ≠ other := by
      rintro rfl
      cases absent.symm.trans stalls.sending
    exact ⟨alone tracked rfl (Function.update_of_ne distinct _ _), rfl,
      fun _ _ => answered_of_update fun same => by cases same⟩
  | @refused other task' connId' command' before sending linked ended =>
    obtain rfl := stalls.tracked.only stalls.sending sending
    injection stalls.sending.symm.trans sending with _ same
    subst same
    obtain rfl := Option.some.inj (stalls.linked.symm.trans linked)
    rcases ended with cancelled | ended
    · cases jammed.alive.symm.trans cancelled
    · exact absurd jammed.running ended
  | @posted other task' connId' command' before sending linked _ running room =>
    obtain rfl := stalls.tracked.only stalls.sending sending
    injection stalls.sending.symm.trans sending with _ same
    subst same
    obtain rfl := Option.some.inj (stalls.linked.symm.trans linked)
    exact absurd room (Nat.not_lt.mpr jammed.full)
  | @dropped other call calling =>
    have distinct : request ≠ other := by
      rintro rfl
      cases calling.symm.trans stalls.sending
    exact ⟨alone tracked rfl (Function.update_of_ne distinct _ _), rfl,
      fun _ _ => answered_of_update fun same => by cases same⟩
  | abandoned sending =>
    obtain rfl := stalls.tracked.only stalls.sending sending
    exact absurd rfl kept
  | @cancelled other before aborted linked client runs =>
    have distinct : task ≠ other := by
      rintro rfl
      obtain rfl := Option.some.inj (stalls.linked.symm.trans linked)
      exact uncancelled (played.symm.trans client) rfl
    exact ⟨alone tracked (node.setLink_other _ distinct) rfl, rfl, fun _ _ answered => answered⟩
  | aborted | unbound =>
    exact ⟨⟨link, ⟨⟨tracked, stalls.waiting, stalls.linked⟩, stalls.sending⟩, jammed⟩, rfl,
      fun _ _ answered => answered⟩

/-- So it stays, whatever the others do. -/
theorem stays_run (jammed : link.Jammed role) (run : Run Node.step node labels last)
    (kept : .drop request ∉ labels) (uncancelled : role = .client → .cancel task ∉ labels) :
    last.holder = some request ∧ last.daemon.connections = node.daemon.connections ∧
      ∀ other response, last.requests other = .answered response →
        node.requests other = .answered response := by
  induction run generalizing link with
  | nil node =>
    exact ⟨(stalls.tracked.held request connId task command stalls.sending).1, rfl,
      fun _ _ answered => answered⟩
  | cons move _ inductionHypothesis =>
    obtain ⟨now, later⟩ := List.ne_and_not_mem_of_not_mem_cons kept
    obtain ⟨⟨after, stalls, jammed⟩, same, unanswered⟩ :=
      stalls.stays jammed (step_moves move) now.symm fun client equal =>
        uncancelled client (equal ▸ List.mem_cons_self)
    obtain ⟨held, same', unanswered'⟩ := inductionHypothesis stalls jammed later
      fun client member => uncancelled client (List.mem_cons_of_mem _ member)
    refine ⟨held, same'.trans same, fun other response answered => ?_⟩
    exact unanswered other response (unanswered' other response answered)

end Stalls

/-- There are always handlers that are not yet called. -/
theorem Moves.fresh (moves : node.Moves label next)
    (fresh : ∃ request, ∀ other, request ≤ other → node.requests other = .absent) :
    ∃ request, ∀ other, request ≤ other → next.requests other = .absent := by
  obtain ⟨request, fresh⟩ := fresh
  have updated (called : Nat) (state : Request) : ∃ request, ∀ other, request ≤ other →
      Function.update node.requests called state other = .absent := by
    refine ⟨max request (called + 1), fun other above => ?_⟩
    obtain ⟨before, distinct⟩ := Nat.max_le.mp above
    exact (Function.update_of_ne (Nat.ne_of_gt distinct) _ _).trans (fresh other before)
  cases moves with
  | accepted | inserted | started | iterated | sent | broken | took | hungUp | handled
  | reinserted | aborted | cancelled | unbound => exact ⟨request, fresh⟩
  | called | answered | acquired | refused | posted | dropped | abandoned => exact updated _ _

end Node

section Runs

variable {config : Config} {first last : Node} {labels : List Label}

/-- A handler that holds the lock can be rid of it, without any client going away, exactly where
the connection that it waits for is not jammed. Where it is, no step of any task changes an entry
of the registry or answers a handler until that one's client goes away. Only the cancellation of a
client's own task, once another client's has panicked, ends a jam otherwise. -/
theorem lock_released_iff (started : Node.start config = .ok first)
    (run : Run Node.step first labels last)
    (orderly : EachStep Node.step Node.Orderly first labels) {request task : Nat}
    {connId : String} {command : UserCommand}
    (sending : last.requests request = .sending connId task command) :
    ∃ role link, last.daemon.tasks task = .waiting role connId ∧ last.links task = some link ∧
      ((∃ more after, Run Node.step last more after ∧ (∀ other, .drop other ∉ more) ∧
        (role = .client → .cancel task ∉ more) ∧ after.holder = none) ↔ ¬ link.Jammed role) ∧
      (link.Jammed role → ∀ more after, Run Node.step last more after → .drop request ∉ more →
        (role = .client → .cancel task ∉ more) →
          after.holder = some request ∧ after.daemon.connections = last.daemon.connections ∧
            ∀ other response, after.requests other = .answered response →
              last.requests other = .answered response) := by
  obtain ⟨tracked, _⟩ := Node.Tracked.run started run orderly
  obtain ⟨_, role, waiting⟩ := tracked.held request connId task command sending
  obtain ⟨link, linked⟩ := tracked.linked task fun absent => by
    cases absent.symm.trans waiting
  have stalls : Node.Stalls config last request connId task command role link :=
    ⟨⟨tracked, waiting, linked⟩, sending⟩
  refine ⟨role, link, waiting, linked, ⟨?_, fun clear => ?_⟩,
    fun jammed more after later kept uncancelled =>
      stalls.stays_run jammed later kept uncancelled⟩
  · rintro ⟨more, after, later, kept, uncancelled, free⟩ jammed
    obtain ⟨held, _⟩ := stalls.stays_run jammed later (kept request) uncancelled
    cases free.symm.trans held
  · obtain ⟨more, after, later, own, free⟩ := stalls.releases clear
    refine ⟨more, after, later, fun other member => ?_, fun _ member => ?_, free⟩
    all_goals
      rcases own _ member with inner | same
      · exact inner
      · cases same

/-- Whenever the lock is free, an association at rest that has no command to take can be brought to
a jam behind a handler that holds the lock. Until then only its peer sends messages, its own tasks
move them, and clients ask for the association; the registry and all event tasks stay as they are,
and it takes no time. -/
theorem standstill_reached (started : Node.start config = .ok first)
    (run : Run Node.step first labels last)
    (orderly : EachStep Node.step Node.Orderly first labels) (free : last.holder = none)
    {task : Nat} {role : Role} {connId : String} {link : Link}
    (waiting : last.daemon.tasks task = .waiting role connId)
    (linked : last.links task = some link) (alive : link.cancelled = false)
    (idle : link.commands = []) {now : Instant} (receptive : Receptive now [] link.loop) :
    ∃ more after request link', Run Node.step last more after ∧
      (∀ label ∈ more,
        Node.Inner task (PeerSends now) label ∨ Node.Asks connId .startup label) ∧
      EachStep Node.step Node.Orderly last more ∧ after.daemon = last.daemon ∧
      after.requests request = .sending connId task .startup ∧
      after.links task = some link' ∧ link'.Jammed role := by
  obtain ⟨tracked, _⟩ := Node.Tracked.run started run orderly
  obtain ⟨request, fresh⟩ :=
    run.preserves (fun _ _ _ fresh move => (Node.step_moves move).fresh fresh)
      ⟨0, fun other _ => (Node.start_spec started).2.2 other⟩
  have attached : Node.Attached config last connId task role link := ⟨tracked, waiting, linked⟩
  obtain ⟨sends, middle, filled, moved, running, alive, idle, blocked⟩ :=
    attached.fills idle alive receptive
  rw [← moved.requests] at fresh
  have room : filled.commands.length + channelSize = channelSize := by
    rw [idle]
    exact Nat.zero_add channelSize
  obtain ⟨asks, next, full, request, posts, asking, daemon, free, absent, attached, alive, loop,
    queue, messages, length⟩ :=
    moved.attached.posts alive running (moved.holder.trans free) fresh room .startup
  obtain ⟨takes, after, acquires, asking', stalls, daemon', _⟩ :=
    attached.acquires free absent .startup
  have all : ∀ label ∈ sends ++ asks ++ takes,
      Node.Inner task (PeerSends now) label ∨ Node.Asks connId .startup label := by
    refine List.forall_mem_append.mpr ⟨List.forall_mem_append.mpr ⟨?_, ?_⟩, ?_⟩
    · exact fun label member => Or.inl (moved.inner label member)
    · exact fun label member => Or.inr (asking label member)
    · exact fun label member => Or.inr (asking' label member)
  refine ⟨_, after, request, full, (moved.run.append posts).append acquires, all, ?_,
    daemon'.trans (daemon.trans moved.daemon), stalls.sending, stalls.linked, alive,
    (congrArg Loop.result loop).trans running, length.ge, ?_⟩
  · exact EachMove.mono (fun node _ _ other => Node.orderly_of_enters node other)
      (eachStep_of_forall last fun label member =>
        (all label member).elim Node.enters_of_inner Node.enters_of_asks)
  · unfold Link.Blocked Link.spare at blocked ⊢
    rw [queue, messages]
    exact blocked

end Runs

/-! ### A node that asks, and one that calls -/

namespace Sample

open Tokio.Sample

/-- The node that serves while its handler has the lock. -/
def asking : Node :=
  (final Node.step node (serving.take 12)).getD node

theorem asking_run : Run Node.step node (serving.take 12) asking :=
  Run.of_enabled Node.step node (serving.take 12) (by decide +kernel)

/-- The connection of the client's node associates, and no event is handled. -/
def calls : List Label :=
  [.client 0, .iterate 0 answering, .send 0 quiet, .send 0 quiet, .iterate 0 writable,
    .iterate 0 (incoming handshakeChunk), .send 0 quiet, .iterate 0 writable, .iterate 0 quiet,
    .send 0 quiet, .iterate 0 writable, .iterate 0 (incoming startupChunk), .send 0 quiet,
    .iterate 0 writable]

def associated : Node :=
  (final Node.step caller calls).getD caller

theorem associated_run : Run Node.step caller calls associated :=
  Run.of_enabled Node.step caller calls (by decide +kernel)

/-- The link of the connection. -/
def calling : Link :=
  (associated.links 0).getD (.new .client (client Fmtp.Sample.clientEntry))

theorem calling_receptive : associated.links 0 = some calling ∧ calling.cancelled = false ∧
    calling.commands = [] ∧ Receptive 2 [] calling.loop := by
  have reached : (associated.links 0).isSome = true ∧ calling.cancelled = false ∧
      calling.commands = [] ∧ calling.loop.result.isNone = true ∧ calling.loop.socket ≠ none ∧
      calling.loop.id ≠ none ∧
      calling.loop.connection.ctx = ⟨[], []⟩ ∧
      calling.loop.connection.inner.state = .dataReady ⟨41⟩ ⟨16⟩ ∧
      calling.loop.connection.inner.storage.entry = some Fmtp.Sample.clientEntry := by
    decide +kernel
  obtain ⟨present, alive, idle, running, socketed, reported, queues, associated, found⟩ := reached
  obtain ⟨link, linked⟩ := Option.isSome_iff_exists.mp present
  have same : calling = link := by
    unfold calling
    rw [linked, Option.getD_some]
  exact ⟨same ▸ linked, alive, idle, Option.isNone_iff_eq_none.mp running, socketed, reported,
    queues,
    ⟨⟨41⟩, ⟨16⟩, associated, by decide, by decide⟩, Fmtp.Sample.clientEntry, found, by decide⟩

end Sample

/-- The handler of the served node can give the lock back. -/
theorem lock_released_iff_asking : ∃ role link,
    Sample.asking.daemon.tasks 0 = .waiting role "test" ∧ Sample.asking.links 0 = some link ∧
      ((∃ more after, Run Node.step Sample.asking more after ∧ (∀ other, .drop other ∉ more) ∧
        (role = .client → .cancel 0 ∉ more) ∧ after.holder = none) ↔ ¬ link.Jammed role) ∧
      (link.Jammed role → ∀ more after, Run Node.step Sample.asking more after → .drop 0 ∉ more →
        (role = .client → .cancel 0 ∉ more) →
          after.holder = some 0 ∧ after.daemon.connections = Sample.asking.daemon.connections ∧
            ∀ other response, after.requests other = .answered response →
              Sample.asking.requests other = .answered response) :=
  lock_released_iff Sample.node_started Sample.asking_run (by decide +kernel)
    (by decide +kernel : Sample.asking.requests 0 = .sending "test" 0 .disconnect)

/-- A second after the association. -/
theorem standstill_reached_calling : ∃ more after request link',
    Run Node.step Sample.associated more after ∧
      (∀ label ∈ more, Node.Inner 0 (PeerSends 2) label ∨ Node.Asks "test" .startup label) ∧
      EachStep Node.step Node.Orderly Sample.associated more ∧
      after.daemon = Sample.associated.daemon ∧
      after.requests request = .sending "test" 0 .startup ∧
      after.links 0 = some link' ∧ link'.Jammed .client := by
  obtain ⟨linked, alive, idle, receptive⟩ := Sample.calling_receptive
  exact standstill_reached Sample.caller_started Sample.associated_run (by decide +kernel)
    (by decide +kernel) (by decide +kernel) linked alive idle receptive

end Fmtp.Http
