/-
This file runs two loops over one TCP connection: the loop of a client that has connected, the
loop of the server that has accepted it, and the two byte streams between them. The bytes that a
side writes are appended to its stream, and a read takes bytes from the front of the other side's
stream. As long as every write is whole and every read gives one packet, the loops and the bytes
do what the pair of machines and its channels of packets do, a step of the one for some steps of
the other.
-/

import Fmtp.Agreement
import Fmtp.Framing
import Fmtp.Reports
import Fmtp.Writing

namespace Fmtp.Tokio

open TransitionSystem

/-! ### Two loops and two streams -/

/-- The stream of a side holds the bytes that it has written and the other side has not read. Both
sides number the socket of their connection 0. -/
structure Network where
  loop : Side → Loop
  stream : Side → List Byte

/-- The loop runs and has not shut its end of the connection down. -/
def Loop.linked (loop : Loop) : Bool :=
  loop.result.isNone ∧ loop.socket = some 0 ∧ loop.connection.log.all fun
    | .shut socket => socket ≠ 0
    | _ => true

/-- The bytes that an iteration has written on the connection. -/
def written (loop next : Loop) : List Byte :=
  acceptedBytes 0 (next.connection.log.drop loop.connection.log.length)

/-- The bytes that an iteration reads. -/
def taken (loop : Loop) (offer : Offer) : List Byte :=
  match loop.select offer with
  | some (.read (some chunk)) => chunk.1
  | _ => []

namespace Network

structure Label where
  side : Side
  offer : Offer

/-- The other side has left and everything it wrote is read. -/
def atEnd (network : Network) (side : Side) : Bool :=
  !(network.loop side.other).linked && network.stream side.other = []

/-- What TCP can answer to a write or a read: bytes from the front of the other side's stream, and
the end of the connection or an error only once it is over. -/
def answers (network : Network) (label : Label) : Bool :=
  match (network.loop label.side).select label.offer with
  | some (.transmit _) => label.offer.write.isSome || network.atEnd label.side
  | some (.read (some chunk)) =>
    if chunk.1 = [] then network.atEnd label.side
    else chunk.1.isPrefixOf (network.stream label.side.other)
  | some (.read none) => network.atEnd label.side
  | _ => true

/-- A side has iterated: its stream holds what it has written, the other stream no longer what it
has read. -/
def after (network : Network) (label : Label) (next : Loop) : Network where
  loop := Function.update network.loop label.side next
  stream := Function.update
    (Function.update network.stream label.side
      (network.stream label.side ++ written (network.loop label.side) next))
    label.side.other
    ((network.stream label.side.other).drop
      (taken (network.loop label.side) label.offer).length)

/-- One iteration of a side that is linked. -/
def step (network : Network) (label : Label) : Option Network :=
  let loop := network.loop label.side
  if loop.linked ∧ network.answers label then
    (loop.iterate label.offer).map (network.after label)
  else none

/-- The client has connected in its first iteration, and the server runs on the accepted socket. -/
def start (mirror : Mirror) (offer : Offer) (serverNow : Instant) : Option Network :=
  match ((Connection.new (mirror.config .client) (some (mirror.key .client))).runClient).iterate
    offer with
  | none => none
  | some client =>
    if client.linked then
      some
        { loop := fun
            | .client => client
            | .server => (Connection.new (mirror.config .server) none).runServer serverNow
          stream := fun _ => [] }
    else none

end Network

/-! ### An orderly environment -/

/-- The commands of a correct user: a startup in Ready, a shutdown and data in the states of the
association, a disconnect at any time. -/
def admits (state : State) : UserCommand → Bool
  | .disconnect => true
  | .startup =>
    match state with
    | .ready _ => true
    | _ => false
  | .shutdown =>
    match state with
    | .associationPending _ | .dataReady _ _ => true
    | _ => false
  | .data msg =>
    match state with
    | .dataReady _ _ => msg.data.length ≤ 10240
    | _ => false
  | .setup _ => false

/-- The bytes are the encoding of one packet. -/
def isPacket (bytes : List Byte) : Bool :=
  match FmtpPacket.fromBytes bytes with
  | .ok packet => packet.intoBytes = bytes
  | .error _ => false

/-- Every write is whole, every read gives one packet, and the users are correct and keep their
ends of the channels. -/
def Network.orderly (network : Network) (label : Network.Label) : Bool :=
  let loop := network.loop label.side
  match loop.select label.offer with
  | some (.transmit packet) =>
    match label.offer.write with
    | some accepted => packet.intoBytes.length ≤ accepted
    | none => true
  | some (.command (some command)) => admits loop.connection.inner.state command
  | some (.command none) => false
  | some (.read (some chunk)) => chunk.1 = [] ∨ isPacket chunk.1
  | _ => true

/-! ### The peer that a loop is -/

/-- The messages that a user's commands gave in an action. -/
def Action.commanded : Action → List FmtpMessage
  | .dispatched entry => entry.event.given
  | .connected _ _ | .wrote _ _ _ | .shut _ | .sent _ => []

def commanded (log : List Action) : List FmtpMessage :=
  log.flatMap Action.commanded

theorem commanded_append (log later : List Action) :
    commanded (log ++ later) = commanded log ++ commanded later :=
  List.flatMap_append

theorem flatMap_sent {Value : Type} {look : Action → List Value}
    (silent : ∀ event, look (.sent event) = []) (news : List ConnectionEvent) :
    (news.map Action.sent).flatMap look = [] := by
  refine List.flatMap_eq_nil_iff.mpr ?_
  rintro action member
  obtain ⟨event, _, rfl⟩ := List.mem_map.mp member
  exact silent event

namespace Loop

/-- The machine with its send queue, everything that the machine received, and everything that
its user gave. -/
def peer (loop : Loop) : Peer where
  machine := loop.connection.inner
  ctx := { sendQueue := loop.connection.ctx.sendQueue, recvQueue := pushed loop.connection.log }
  given := commanded loop.connection.log

variable {loop before after : Loop} {offer : Offer}

theorem Tells.peer {sent : List ConnectionEvent} (tells : Tells before after sent) :
    after.peer = before.peer := by
  have pushes : pushed after.connection.log = pushed before.connection.log := by
    rw [tells.log, pushed_append, pushed, pushed, flatMap_sent fun _ => rfl, List.append_nil]
  have commands : commanded after.connection.log = commanded before.connection.log := by
    rw [tells.log, commanded_append, commanded, commanded, flatMap_sent fun _ => rfl,
      List.append_nil]
  rw [Loop.peer, Loop.peer, tells.inner, tells.ctx, pushes, commands]

theorem linked_iff : loop.linked = true ↔ loop.result = none ∧ loop.socket = some 0 ∧
    Action.shut 0 ∉ loop.connection.log := by
  unfold linked
  rw [decide_eq_true_iff, Option.isNone_iff_eq_none, List.all_eq_true]
  refine and_congr_right fun _ => and_congr_right fun _ => ?_
  constructor
  · intro each member
    have other := each _ member
    exact absurd rfl (of_decide_eq_true other)
  · intro absent action member
    cases action with
    | shut socket =>
      refine decide_eq_true ?_
      rintro rfl
      exact absent member
    | dispatched | connected | wrote | sent => rfl

/-- What leaves the result and the socket and shuts nothing leaves the link. -/
theorem linked_of {actions : List Action} (result : after.result = before.result)
    (socket : after.socket = before.socket)
    (log : after.connection.log = before.connection.log ++ actions)
    (open_ : .shut 0 ∉ actions) : after.linked = before.linked := by
  rw [Bool.eq_iff_iff, linked_iff, linked_iff, result, socket, log]
  simp only [List.mem_append, open_, or_false]

theorem Tells.linked {sent : List ConnectionEvent} (tells : Tells before after sent) :
    after.linked = before.linked := by
  refine linked_of tells.result tells.socket tells.log ?_
  intro member
  obtain ⟨event, _, same⟩ := List.mem_map.mp member
  cases same

/-- A dispatch of the loop's machine is one of its peer. -/
theorem peer_dispatch {event : Event} {entry : Dispatched} (raised : entry.event = event)
    (dispatches : Connection.Dispatches before.connection after.connection entry) :
    before.peer.dispatch event = some after.peer := by
  have reaction := dispatches.reaction
  rw [raised] at reaction
  have handled := Fmtp.Connection.handleWithContext_of_reaction before.peer.ctx reaction
  have pushes : pushed after.connection.log =
      pushed before.connection.log ++ entry.messages := by
    rw [dispatches.log, pushed_append]
    exact congrArg _ (List.append_nil _)
  have commands : commanded after.connection.log =
      commanded before.connection.log ++ event.given := by
    rw [dispatches.log, commanded_append, ← raised]
    exact congrArg _ (List.append_nil _)
  unfold Peer.dispatch
  simp only [Loop.peer] at handled ⊢
  rw [handled]
  simp only [ConnectionContext.extend, pushes, commands, dispatches.ctx]

/-- A command of a message that fits does not panic, nor does any other event. -/
theorem dispatch_small (connection : Connection) {event : Event}
    (small : ∀ now msg, event = .lData now msg → msg.data.length ≤ 10240) :
    ∃ next, connection.dispatch event = .ok next := by
  obtain ⟨inner, ctx, handled⟩ := connection.inner.handleWithContext_ok connection.ctx
    fun now msg given => ⟨_, fromMsg_small ⟨msg, small now msg given⟩⟩
  unfold Connection.dispatch
  rw [handled]
  exact ⟨_, rfl⟩

/-- A socket and nothing to transmit leave nothing for the pop to take of the send queue. -/
theorem pop_peer (linked : loop.linked = true) (drained : loop.Drained) :
    loop.pop.peer = loop.peer := by
  have empty : loop.connection.ctx.sendQueue = [] := by
    refine drained.resolve_left fun absent => ?_
    rw [(linked_iff.mp linked).2.1] at absent
    cases absent
  show Peer.mk _ ⟨loop.connection.ctx.sendQueue.tail, _⟩ _ =
    Peer.mk _ ⟨loop.connection.ctx.sendQueue, _⟩ _
  rw [empty]
  rfl

theorem writes_sent (news : List ConnectionEvent) : writes (news.map .sent) = [] := by
  rw [writes, List.filterMap_map]
  exact List.filterMap_eq_nil_iff.mpr fun _ _ => rfl

/-- What an iteration writes is what its arm logs. -/
theorem written_of_tells {next arm : Loop} {sent : List ConnectionEvent} {actions : List Action}
    (logged : arm.connection.log = loop.connection.log ++ actions) (tells : Tells arm next sent) :
    written loop next = acceptedBytes 0 actions := by
  rw [written, tells.log, logged, List.append_assoc, List.drop_left, acceptedBytes, acceptedBytes,
    writes_append, writes_sent, List.append_nil]

section Iterations

variable {next : Loop} {branch : Branch} (linked : loop.linked = true)
  (listens : offer.Listens) (selected : loop.select offer = some branch)
  (move : loop.iterate offer = some next)

include linked listens selected move

/-- An arm that only logs what is not written leaves a linked loop linked. -/
theorem iterate_goes {actions : List Action}
    (result : (loop.pop.arm offer branch).result = none)
    (socket : (loop.pop.arm offer branch).socket = loop.socket)
    (log : (loop.pop.arm offer branch).connection.log = loop.connection.log ++ actions)
    (open_ : .shut 0 ∉ actions) :
    next.peer = (loop.pop.arm offer branch).peer ∧ next.linked = true ∧
      written loop next = acceptedBytes 0 actions := by
  rcases iterate_tells listens selected move with ⟨ended, _⟩ | ⟨_, tells, _, _⟩
  · exact absurd result ended
  · refine ⟨tells.peer, ?_, written_of_tells log tells⟩
    have same : (loop.pop.arm offer branch).result = loop.result :=
      result.trans (linked_iff.mp linked).1.symm
    rw [tells.linked, linked_of same socket log open_]
    exact linked

/-- An arm that logs something and dispatches an event does what the peer does with the event. -/
theorem iterate_handles {event : Event} {before : Loop} {earlier : List Action}
    {connection : Connection} (logged : before.connection.log = loop.connection.log ++ earlier)
    (open_ : .shut 0 ∉ earlier) (handled : before.connection.dispatch event = .ok connection)
    (result : (loop.pop.arm offer branch).result = none)
    (socket : (loop.pop.arm offer branch).socket = loop.socket)
    (same : (loop.pop.arm offer branch).connection = connection) :
    before.peer.dispatch event = some next.peer ∧ next.linked = true ∧
      written loop next = acceptedBytes 0 earlier := by
  subst same
  obtain ⟨entry, raised, dispatches⟩ := Connection.dispatch_spec handled
  have log : (loop.pop.arm offer branch).connection.log =
      loop.connection.log ++ (earlier ++ [.dispatched entry]) := by
    rw [dispatches.log, logged, List.append_assoc]
  obtain ⟨peer, still, wrote⟩ := iterate_goes linked listens selected move result socket log
    (by simp [open_])
  refine ⟨?_, still, ?_⟩
  · rw [peer]
    exact peer_dispatch raised dispatches
  · rw [wrote, acceptedBytes, acceptedBytes, writes_append]
    exact congrArg _ (congrArg _ (List.append_nil _))

/-- An arm that is a dispatch does what the peer does. -/
theorem iterate_dispatches {event : Event} (drained : loop.Drained)
    (arm : loop.pop.arm offer branch = loop.pop.dispatch event)
    (small : ∀ now msg, event = .lData now msg → msg.data.length ≤ 10240) :
    loop.peer.dispatch event = some next.peer ∧ next.linked = true ∧
      written loop next = [] := by
  obtain ⟨connection, handled⟩ := dispatch_small loop.pop.connection small
  have armed : loop.pop.arm offer branch = { loop.pop with connection } := by
    rw [arm, dispatch, handled]
  rw [← pop_peer linked drained]
  have origin : loop.pop.connection.log = loop.connection.log ++ [] := (List.append_nil _).symm
  refine iterate_handles linked listens selected move origin List.not_mem_nil handled ?_ ?_ ?_
  · rw [armed]
    exact (linked_iff.mp linked).1
  · rw [armed]
    rfl
  · rw [armed]

/-- An arm that only sends events leaves the peer alone. -/
theorem iterate_stays {news : List ConnectionEvent} (drained : loop.Drained)
    (tells : Tells loop.pop (loop.pop.arm offer branch) news) :
    next.peer = loop.peer ∧ next.linked = true ∧ written loop next = [] := by
  have open_ : .shut 0 ∉ news.map Action.sent := by
    intro member
    obtain ⟨event, _, same⟩ := List.mem_map.mp member
    cases same
  have result := tells.result.trans (linked_iff.mp linked).1
  obtain ⟨peer, still, wrote⟩ := iterate_goes linked listens selected move result tells.socket
    tells.log open_
  refine ⟨?_, still, ?_⟩
  · rw [peer, tells.peer, pop_peer linked drained]
  · rw [wrote, acceptedBytes, writes_sent]
    rfl

end Iterations

/-! ### What an iteration does on the connection -/

theorem peer_wrote (loop : Loop) (packet : FmtpPacket) (bytes : List Byte) :
    (loop.record (.wrote 0 packet bytes)).peer = loop.peer := by
  show Peer.mk _ ⟨_, pushed (loop.connection.log ++ [.wrote 0 packet bytes])⟩
    (commanded (loop.connection.log ++ [.wrote 0 packet bytes])) = _
  rw [pushed_append, commanded_append]
  exact congrArg₂ (fun messages => Peer.mk _ ⟨_, messages⟩) (List.append_nil _) (List.append_nil _)

section Branches

variable {next : Loop} (linked : loop.linked = true) (listens : offer.Listens)
  (move : loop.iterate offer = some next)

include linked listens move

/-- A packet whose write is accepted leaves the queue. -/
theorem iterate_transmits {packet : FmtpPacket} {accepted : Nat}
    (selected : loop.select offer = some (.transmit packet))
    (write : offer.write = some accepted) :
    loop.peer.ctx.pollTransmit = (some packet, loop.pop.peer.ctx) ∧
      next.peer = loop.pop.peer ∧ next.linked = true ∧
      written loop next = packet.intoBytes.take accepted := by
  have front := (select_chosen selected).2
  have arm : loop.pop.arm offer (.transmit packet) =
      loop.pop.record (.wrote 0 packet (packet.intoBytes.take accepted)) := by
    have socket : loop.pop.socket = some 0 := (linked_iff.mp linked).2.1
    show loop.pop.sendPacket offer packet = _
    rw [sendPacket, socket, write]
  have log : (loop.pop.arm offer (.transmit packet)).connection.log =
      loop.connection.log ++ [.wrote 0 packet (packet.intoBytes.take accepted)] := by
    rw [arm]
    rfl
  have result : (loop.pop.arm offer (.transmit packet)).result = none := by
    rw [arm]
    exact (linked_iff.mp linked).1
  have socket : (loop.pop.arm offer (.transmit packet)).socket = loop.socket := by
    rw [arm]
    rfl
  obtain ⟨peer, still, wrote⟩ := iterate_goes linked listens selected move result socket log
    (by simp)
  refine ⟨?_, ?_, still, ?_⟩
  · show (loop.connection.ctx.sendQueue.head?, _) = _
    rw [front]
    rfl
  · rw [peer, arm, peer_wrote]
  · rw [wrote]
    exact List.append_nil _

/-- A packet whose write fails leaves the queue, and the peer loses its connection. -/
theorem iterate_breaks {packet : FmtpPacket}
    (selected : loop.select offer = some (.transmit packet)) (write : offer.write = none) :
    loop.peer.ctx.pollTransmit = (some packet, loop.pop.peer.ctx) ∧
      loop.pop.peer.dispatch .rDisconnect = some next.peer ∧ next.linked = true ∧
      written loop next = [] := by
  have front := (select_chosen selected).2
  obtain ⟨connection, handled⟩ : ∃ next,
      (loop.pop.record (.wrote 0 packet [])).connection.dispatch .rDisconnect = .ok next :=
    Connection.dispatch_ok _ nofun
  have arm : loop.pop.arm offer (.transmit packet) =
      { loop.pop.record (.wrote 0 packet []) with connection } := by
    have socket : loop.pop.socket = some 0 := (linked_iff.mp linked).2.1
    show loop.pop.sendPacket offer packet = _
    simp only [sendPacket, socket, write, dispatch, handled]
  have result : (loop.pop.arm offer (.transmit packet)).result = none := by
    rw [arm]
    exact (linked_iff.mp linked).1
  have socket : (loop.pop.arm offer (.transmit packet)).socket = loop.socket := by
    rw [arm]
    rfl
  have log : (loop.pop.record (.wrote 0 packet [])).connection.log =
      loop.connection.log ++ [.wrote 0 packet []] := rfl
  obtain ⟨peer, still, wrote⟩ := iterate_handles linked listens selected move log (by simp)
    handled result socket (by rw [arm])
  rw [peer_wrote] at peer
  refine ⟨?_, peer, still, wrote⟩
  show (loop.connection.ctx.sendQueue.head?, _) = _
  rw [front]
  rfl

/-- Bytes that decode to a packet and mean an event for the machine. -/
theorem iterate_reads {chunk : Chunk} {packet : FmtpPacket} {event : Event}
    (selected : loop.select offer = some (.read (some chunk)))
    (decoded : FmtpPacket.fromBytes (loop.buffer.fill chunk).1 = .ok packet)
    (means : Event.fromIncomingPacket chunk.1.length packet offer.clock
      loop.connection.inner.storage.config loop.connection.inner.storage.id = .ok event)
    (small : ∀ now msg, event = .lData now msg → msg.data.length ≤ 10240) :
    loop.peer.dispatch event = some next.peer ∧ next.linked = true ∧
      written loop next = [] := by
  have drained := (select_chosen selected).1
  obtain ⟨connection, handled⟩ := dispatch_small loop.pop.connection small
  have arm : loop.pop.arm offer (.read (some chunk)) =
      { loop.pop with buffer := loop.pop.buffer.fill chunk, connection } := by
    have front : FmtpPacket.fromBytes (loop.pop.buffer.fill chunk).1 = .ok packet := decoded
    have translated : Event.fromIncomingPacket chunk.1.length packet offer.clock
        loop.pop.connection.inner.storage.config loop.pop.connection.inner.storage.id =
        .ok event := means
    show loop.pop.readArm offer (some chunk) = _
    simp only [readArm, Connection.handleRemotePacket, front, translated, handled]
  have origin : loop.pop.connection.log = loop.connection.log ++ [] := (List.append_nil _).symm
  rw [← pop_peer linked drained]
  refine iterate_handles linked listens selected move origin List.not_mem_nil handled ?_ ?_ ?_
  · rw [arm]
    exact (linked_iff.mp linked).1
  · rw [arm]
    rfl
  · rw [arm]

omit linked in
/-- A read that leaves nothing to decode at the front of the buffer ends the run. -/
theorem iterate_undecoded {chunk : Chunk} {fault : Fault}
    (selected : loop.select offer = some (.read (some chunk)))
    (undecoded : FmtpPacket.fromBytes (loop.buffer.fill chunk).1 = .error fault) :
    next.linked = false := by
  have front : FmtpPacket.fromBytes (loop.pop.buffer.fill chunk).1 = .error fault := undecoded
  have ended : (loop.pop.arm offer (.read (some chunk))).result = some (.error fault) := by
    show (loop.pop.readArm offer (some chunk)).result = _
    simp only [readArm, Connection.handleRemotePacket, front, fail]
  rcases iterate_tells listens selected move with ⟨_, rfl⟩ | ⟨goes, _⟩
  · unfold Loop.linked
    rw [ended]
    rfl
  · rw [ended] at goes
    cases goes

/-- The arm of Idle shuts the socket down, or leaves the loop. -/
theorem iterate_leaves (selected : loop.select offer = some (.machine .idle)) :
    next.linked = false := by
  have socket : loop.pop.socket = some 0 := (linked_iff.mp linked).2.1
  have shut : .shut 0 ∈ (loop.pop.idleArm offer).connection.log := by
    have recorded : .shut 0 ∈ (loop.pop.record (.shut 0)).connection.log :=
      List.mem_append_right _ (List.mem_singleton.mpr rfl)
    have kept : Kept fun connection => .shut 0 ∈ connection.log := by
      refine ⟨?_, fun _ _ => List.mem_append_left _, fun _ => List.mem_append_left _⟩
      intro before after event member handled
      obtain ⟨entry, _, dispatches⟩ := Connection.dispatch_spec handled
      rw [dispatches.log]
      exact List.mem_append_left _ member
    have left : .shut 0 ∈ (loop.pop.leave offer).connection.log := by
      unfold leave
      rw [socket]
      dsimp only
      split
      · exact recorded
      · exact recorded
    unfold idleArm
    split
    · exact left
    · rw [socket]
      dsimp only
      split
      · split
        · exact recorded
        · exact kept.reconnect recorded fun _ member => member
      · exact left
  have unlinked : (loop.pop.arm offer (.machine .idle)).linked = false := by
    refine Bool.eq_false_iff.mpr fun linked => ?_
    exact (linked_iff.mp linked).2.2 shut
  rcases iterate_tells listens selected move with ⟨_, rfl⟩ | ⟨_, tells, _, _⟩
  · exact unlinked
  · rw [tells.linked]
    exact unlinked

omit linked listens in
/-- Only a transmission writes. -/
theorem written_of_other (other : ∀ packet, loop.select offer ≠ some (.transmit packet)) :
    written loop next = [] := by
  obtain ⟨actions, logged, _⟩ := loop.iterate_logs offer move
  have same := iterate_writes_of_other other move
  rw [logged, writes_append] at same
  have none : writes actions = [] := List.append_cancel_left (same.trans (List.append_nil _).symm)
  rw [written, logged, List.drop_left, acceptedBytes, none]
  rfl

end Branches

end Loop

end Fmtp.Tokio
