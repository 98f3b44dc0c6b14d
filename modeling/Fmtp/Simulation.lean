/-
This file proves that two loops on one TCP connection do what the pair of machines and its
channels of packets do. Every iteration stands for at most two deeds of the pair: a transmission
for a write, a delivery for a read, the event for a command or a timer. While both sides are on
the connection, each loop is the peer of the pair up to its record, and the bytes on the way are
the encodings of the packets on the wire.
-/

import Fmtp.Commands
import Fmtp.Network
import Fmtp.Stream

namespace Fmtp.Tokio

open TransitionSystem

namespace Network

/-- The deeds of the pair that an iteration stands for. A failed write first puts its packet on
the wire, which nobody reads any more. -/
def deeds (network : Network) (label : Label) : List Deed :=
  let loop := network.loop label.side
  match loop.select label.offer with
  | some (.transmit _) =>
    if label.offer.write.isNone ∧ loop.connection.inner.state.connected then
      [.transmit, .act .rDisconnect]
    else [.transmit]
  | some (.command (some command)) => [.act (commandEvent label.offer.clock command)]
  | some (.machine (.raised event)) => [.act event]
  | some (.read (some chunk)) =>
    if chunk.1 ≠ [] then [.deliver label.offer.clock]
    else
      match FmtpPacket.fromBytes (loop.buffer.fill chunk).1 with
      | .ok _ => [.act .rDisconnect]
      | .error _ => []
  | some (.read none) => [.act .rDisconnect]
  | _ => []

def labels (network : Network) (label : Label) : List Fmtp.Label :=
  (network.deeds label).map (⟨label.side, ·⟩)

/-- The packet that is read is one that the state of its reader refuses. -/
def Collides (network : Network) (label : Label) : Prop :=
  let loop := network.loop label.side
  match loop.select label.offer with
  | some (.read (some chunk)) =>
    match FmtpPacket.fromBytes chunk.1 with
    | .ok packet => loop.connection.inner.state.collides packet = true
    | .error _ => False
  | _ => False

instance (network : Network) (label : Label) : Decidable (network.Collides label) := by
  unfold Collides
  dsimp only
  split
  · split <;> infer_instance
  · infer_instance

end Network

/-! ### The pair behind a network -/

/-- The loops on the connection are the peers of the pair, a loop that left first was in Idle, the
stream to a loop on the connection is the wire to its peer, and no loop has been given less than
its peer. -/
structure Follows (network : Network) (pair : Pair) : Prop where
  plays : ∀ side, (network.loop side).linked = true → pair.peer side = (network.loop side).peer
  left : ∀ side, (network.loop side).linked = false →
    (network.loop side.other).linked = true → (pair.peer side).machine.state = .idle
  stream : ∀ side, (network.loop side.other).linked = true →
    network.stream side = (pair.wire side).flatMap FmtpPacket.intoBytes
  gave : ∀ side, (pair.peer side).given <+: commanded (network.loop side).connection.log

namespace Follows

variable {network next : Network} {pair : Pair} {label : Network.Label} {side : Side}

/-- A stream is empty only if its wire is. -/
theorem wire_nil (follows : Follows network pair)
    (reader : (network.loop side.other).linked = true) (empty : network.stream side = []) :
    pair.wire side = [] := by
  have stream := follows.stream side reader
  rw [empty] at stream
  cases wire : pair.wire side with
  | nil => rfl
  | cons packet rest =>
    rw [wire, List.flatMap_cons] at stream
    exact absurd (List.append_eq_nil_iff.mp stream.symm).1 packet.intoBytes_ne_nil

/-- What a side may take for the end of the connection is one. -/
theorem atEnd (follows : Follows network pair) (linked : (network.loop side).linked = true)
    (atEnd : network.atEnd side = true) :
    (network.loop side.other).linked = false ∧
      (pair.peer side.other).machine.state = .idle ∧ pair.wire side.other = [] := by
  unfold Network.atEnd at atEnd
  simp only [Bool.and_eq_true, Bool.not_eq_true', decide_eq_true_eq] at atEnd
  obtain ⟨gone, empty⟩ := atEnd
  have back : (network.loop side.other.other).linked = true := by
    rw [Side.other_other]
    exact linked
  exact ⟨gone, follows.left side.other gone back, follows.wire_nil back empty⟩

/-- One side moves, writes the packets it sends and reads up to those that are left. -/
theorem update (follows : Follows network pair) {loop : Loop} {peer : Peer}
    (sent rest : List FmtpPacket) {bytes left : List Byte}
    (linked : (network.loop side).linked = true)
    (plays : loop.linked = true → peer = loop.peer)
    (gone : loop.linked = false → (network.loop side.other).linked = true →
      peer.machine.state = .idle)
    (gave : peer.given <+: commanded loop.connection.log)
    (wrote : (network.loop side.other).linked = true →
      bytes = sent.flatMap FmtpPacket.intoBytes)
    (read : loop.linked = true → left = rest.flatMap FmtpPacket.intoBytes) :
    Follows
      { loop := Function.update network.loop side loop
        stream := Function.update
          (Function.update network.stream side (network.stream side ++ bytes)) side.other left }
      { peer := Function.update pair.peer side peer
        wire := Function.update
          (Function.update pair.wire side (pair.wire side ++ sent)) side.other rest } := by
  have apart : side.other ≠ side := side.other_ne
  refine ⟨fun which => ?_, fun which => ?_, fun which => ?_, fun which => ?_⟩
  all_goals rcases side.eq_or_other which with rfl | rfl
  · simpa only [Function.update_self] using plays
  · simpa only [Function.update_of_ne apart] using follows.plays side.other
  · simpa only [Function.update_self, Function.update_of_ne apart] using gone
  · simp only [Function.update_of_ne apart, Side.other_other, Function.update_self]
    intro gone _
    refine follows.left side.other gone ?_
    rw [Side.other_other]
    exact linked
  · simp only [Function.update_self, Function.update_of_ne apart, Function.update_of_ne apart.symm,
      List.flatMap_append]
    intro reads
    rw [follows.stream which reads, wrote reads]
  · simp only [Function.update_self, Side.other_other]
    exact read
  · simpa only [Function.update_self] using gave
  · simpa only [Function.update_of_ne apart] using follows.gave side.other

/-- A side that neither writes nor reads. -/
theorem moves (follows : Follows network pair) {loop : Loop} {peer : Peer}
    (linked : (network.loop side).linked = true)
    (plays : loop.linked = true → peer = loop.peer)
    (gone : loop.linked = false → (network.loop side.other).linked = true →
      peer.machine.state = .idle) (gave : peer.given <+: commanded loop.connection.log) :
    Follows
      { loop := Function.update network.loop side loop
        stream := Function.update
          (Function.update network.stream side (network.stream side ++ [])) side.other
          ((network.stream side.other).drop 0) }
      { pair with peer := Function.update pair.peer side peer } := by
  have wires : Function.update (Function.update pair.wire side (pair.wire side ++ [])) side.other
      (pair.wire side.other) = pair.wire := by
    rw [List.append_nil, Function.update_eq_self, Function.update_eq_self]
  have after := follows.update [] (pair.wire side.other) linked plays gone gave
    (fun _ => rfl) fun _ => follows.stream side.other (by rw [Side.other_other]; exact linked)
  rw [wires] at after
  exact after

end Follows

/-! ### The steps of the pair -/

namespace Pair

variable {pair : Fmtp.Pair} {side : Side} {peer : Peer}

/-- A side has become a peer and put a packet on its wire. -/
def puts (pair : Fmtp.Pair) (side : Side) (peer : Peer) (packet : FmtpPacket) : Fmtp.Pair where
  peer := Function.update pair.peer side peer
  wire := Function.update pair.wire side (pair.wire side ++ [packet])

theorem step_transmit {packet : FmtpPacket} {ctx : ConnectionContext}
    (poll : (pair.peer side).ctx.pollTransmit = (some packet, ctx)) :
    pair.step ⟨side, .transmit⟩ =
      some (puts pair side { pair.peer side with ctx } packet) := by
  unfold Fmtp.Pair.step puts
  simp only [poll]

theorem step_act {event : Event} (may : pair.may side event = true)
    (dispatched : (pair.peer side).dispatch event = some peer) :
    pair.step ⟨side, .act event⟩ =
      some { pair with peer := Function.update pair.peer side peer } := by
  unfold Fmtp.Pair.step Fmtp.Pair.dispatch
  simp only [may, if_true, dispatched, Option.map_some]

theorem step_deliver {packet : FmtpPacket} {rest : List FmtpPacket} {now : Instant}
    {event : Event} (reads : (pair.peer side).machine.reads = true)
    (onWire : pair.wire side.other = packet :: rest)
    (means : Event.fromIncomingPacket packet.intoBytes.length packet now
      (pair.peer side).machine.storage.config (pair.peer side).machine.storage.id = .ok event)
    (dispatched : (pair.peer side).dispatch event = some peer) :
    pair.step ⟨side, .deliver now⟩ = some
      { peer := Function.update pair.peer side peer
        wire := Function.update pair.wire side.other rest } := by
  unfold Fmtp.Pair.step Fmtp.Pair.dispatch
  simp only [reads, onWire, means, dispatched, Option.map_some]

end Pair

/-- A correct user's command is one that the pair may take. -/
theorem may_of_admits {pair : Fmtp.Pair} {side : Side} {command : UserCommand} (now : Instant)
    (admitted : admits (pair.peer side).machine.state command = true) :
    pair.may side (commandEvent now command) = true := by
  unfold Fmtp.Pair.may
  cases command with
  | disconnect => rfl
  | setup => cases admitted
  | startup =>
    cases state : (pair.peer side).machine.state with
    | ready tr => rfl
    | _ =>
      rw [state] at admitted
      cases admitted
  | shutdown =>
    cases state : (pair.peer side).machine.state with
    | associationPending | dataReady => rfl
    | _ =>
      rw [state] at admitted
      cases admitted
  | data msg =>
    cases state : (pair.peer side).machine.state with
    | dataReady tr ts =>
      rw [state] at admitted
      exact admitted
    | _ =>
      rw [state] at admitted
      cases admitted

/-- What a timer or a machine in Ready raises is something that the pair may take. -/
theorem may_of_turn {pair : Fmtp.Pair} {side : Side} {offer : Offer} {event : Event}
    (raised : turn (pair.peer side).machine offer = some (.raised event)) :
    pair.may side event = true := by
  unfold Fmtp.Pair.may
  cases turn_spec raised with
  | identification state | acceptance state | startup state | association state
  | silence state | heartbeat state => rw [state]

/-- A machine that neither sleeps nor fails reads. -/
theorem reads_of_turn {machine : Fmtp.Connection} {offer : Offer}
    (sleeps : turn machine offer = none) :
    machine.reads = true ∧ machine.state.connected = true := by
  unfold turn at sleeps
  unfold Fmtp.Connection.reads State.connected
  cases state : machine.state with
  | idle | connectionPending | error =>
    rw [state] at sleeps
    cases sleeps
  | ready tr =>
    rw [state] at sleeps
    by_cases target : machine.storage.target = .dataReady
    · simp [target] at sleeps
    · simp [target]
  | idPending | acceptPending | associationPending | dataReady => exact ⟨rfl, rfl⟩

/-- The end of a connection whose other side has gone and is read to its end. -/
theorem may_disconnect {pair : Fmtp.Pair} {side : Side}
    (connected : (pair.peer side).machine.state.connected = true)
    (idle : (pair.peer side.other).machine.state = .idle) (empty : pair.wire side.other = []) :
    pair.may side .rDisconnect = true :=
  decide_eq_true ⟨connected, idle, empty⟩

/-- A settled machine without a connection is in Idle. -/
theorem idle_of_disconnected {mirror : Mirror} {side : Side} {machine : Fmtp.Connection}
    (settled : Fmtp.Settled mirror side machine) (apart : ¬ machine.state.connected = true) :
    machine.state = .idle := by
  have phases := settled.phase_cases
  unfold Fmtp.Connection.phase at phases
  cases state : machine.state with
  | idle => rfl
  | connectionPending | error =>
    rw [state] at phases
    rcases phases with same | same | same | open_
    · cases same
    · cases same
    · cases same
    · exact absurd open_ not_false
  | idPending | acceptPending | ready | associationPending | dataReady =>
    rw [state] at apart
    exact absurd rfl apart

/-- A peer in Idle has no connection to lose. -/
theorem dispatch_disconnect_idle {peer : Peer} (idle : peer.machine.state = .idle) :
    peer.dispatch .rDisconnect = some peer := by
  obtain ⟨⟨state, storage⟩, ctx, given⟩ := peer
  obtain rfl : state = .idle := idle
  show some (Peer.mk _ _ (given ++ [])) = _
  rw [List.append_nil]
  rfl

/-! ### One iteration -/

/-- The deeds of an iteration lead the pair to what follows. -/
def Matched (network : Network) (label : Network.Label) (pair : Pair) (loop : Loop) : Prop :=
  ∃ pair', Run Fmtp.Pair.step pair (network.labels label) pair' ∧
    Follows (network.after label loop) pair'

namespace Follows

variable {mirror : Mirror} {network : Network} {pair : Pair} {side : Side} {offer : Offer}
  {loop : Loop}

section Branches

variable (follows : Follows network pair) (linked : (network.loop side).linked = true)
  (move : (network.loop side).iterate offer = some loop)

include follows linked move

/-- An iteration that transmits and reads nothing, and its deeds. -/
theorem quiet {peer : Peer} (other : ∀ packet,
      (network.loop side).select offer ≠ some (.transmit packet))
    (unread : taken (network.loop side) offer = [])
    (run : Run Fmtp.Pair.step pair (network.labels ⟨side, offer⟩)
      { pair with peer := Function.update pair.peer side peer })
    (plays : loop.linked = true → peer = loop.peer)
    (gone : loop.linked = false → (network.loop side.other).linked = true →
      peer.machine.state = .idle) (gave : peer.given <+: commanded loop.connection.log) :
    Matched network ⟨side, offer⟩ pair loop := by
  refine ⟨_, run, ?_⟩
  unfold Network.after
  rw [Loop.written_of_other move other, unread]
  exact follows.moves linked plays gone gave

/-- An event that the machine handles. -/
theorem acts {event : Event} (other : ∀ packet,
      (network.loop side).select offer ≠ some (.transmit packet))
    (unread : taken (network.loop side) offer = [])
    (deeds : network.deeds ⟨side, offer⟩ = [.act event]) (may : pair.may side event = true)
    (does : (network.loop side).peer.dispatch event = some loop.peer)
    (still : loop.linked = true) : Matched network ⟨side, offer⟩ pair loop := by
  rw [← follows.plays side linked] at does
  have run : Run Fmtp.Pair.step pair (network.labels ⟨side, offer⟩)
      { pair with peer := Function.update pair.peer side loop.peer } := by
    rw [Network.labels, deeds]
    exact .cons (Pair.step_act may does) (.nil _)
  refine follows.quiet linked move other unread run (fun _ => rfl) (fun gone => ?_)
    (List.prefix_refl _)
  rw [still] at gone
  cases gone

/-- Nothing happens to the machine. -/
theorem rests (other : ∀ packet, (network.loop side).select offer ≠ some (.transmit packet))
    (unread : taken (network.loop side) offer = [])
    (deeds : network.deeds ⟨side, offer⟩ = [])
    (plays : loop.linked = true → loop.peer = (network.loop side).peer)
    (gone : loop.linked = false → (network.loop side.other).linked = true →
      (network.loop side).connection.inner.state = .idle) :
    Matched network ⟨side, offer⟩ pair loop := by
  have peer := follows.plays side linked
  have run : Run Fmtp.Pair.step pair (network.labels ⟨side, offer⟩)
      { pair with peer := Function.update pair.peer side (pair.peer side) } := by
    rw [Network.labels, deeds, Function.update_eq_self]
    exact .nil pair
  refine follows.quiet linked move other unread run (fun still => ?_) (fun left other => ?_) ?_
  · rw [peer, plays still]
  · rw [peer]
    exact gone left other
  · obtain ⟨actions, logged, _⟩ := (network.loop side).iterate_logs offer move
    rw [logged, commanded_append]
    exact (follows.gave side).trans (List.prefix_append _ _)

omit move in
/-- An iteration that transmits, and its deeds. -/
theorem sends {peer : Peer} {packet : FmtpPacket}
    (selected : (network.loop side).select offer = some (.transmit packet))
    (run : Run Fmtp.Pair.step pair (network.labels ⟨side, offer⟩)
      (Pair.puts pair side peer packet))
    (plays : peer = loop.peer) (still : loop.linked = true)
    (wrote : (network.loop side.other).linked = true →
      written (network.loop side) loop = packet.intoBytes) :
    Matched network ⟨side, offer⟩ pair loop := by
  have unread : taken (network.loop side) offer = [] := by
    rw [taken, selected]
  have wires : Function.update (Function.update pair.wire side (pair.wire side ++ [packet]))
      side.other (pair.wire side.other) =
      Function.update pair.wire side (pair.wire side ++ [packet]) := by
    refine Function.update_eq_self_iff.mpr ?_
    rw [Function.update_of_ne side.other_ne]
  refine ⟨_, run, ?_⟩
  unfold Pair.puts
  rw [← wires]
  refine follows.update [packet] _ linked (fun _ => plays) (fun gone => ?_) ?_ (fun other => ?_)
    fun _ => ?_
  · rw [still] at gone
    cases gone
  · rw [plays]
    exact List.prefix_refl _
  · rw [wrote other]
    exact (List.append_nil _).symm
  · show (network.stream side.other).drop (taken (network.loop side) offer).length = _
    rw [unread]
    refine follows.stream side.other ?_
    rw [Side.other_other]
    exact linked

/-- A whole packet is written. -/
theorem transmits {packet : FmtpPacket} {accepted : Nat} (listens : offer.Listens)
    (selected : (network.loop side).select offer = some (.transmit packet))
    (write : offer.write = some accepted) (whole : packet.intoBytes.length ≤ accepted) :
    Matched network ⟨side, offer⟩ pair loop := by
  obtain ⟨poll, next, still, wrote⟩ := Loop.iterate_transmits linked listens move selected write
  rw [← follows.plays side linked] at poll
  have deeds : network.deeds ⟨side, offer⟩ = [.transmit] := by
    simp [Network.deeds, selected, write]
  have run : Run Fmtp.Pair.step pair (network.labels ⟨side, offer⟩)
      (Pair.puts pair side { pair.peer side with ctx := (network.loop side).pop.peer.ctx }
        packet) := by
    rw [Network.labels, deeds]
    exact .cons (Pair.step_transmit poll) (.nil _)
  refine follows.sends linked selected run ?_ still fun _ => ?_
  · rw [next, follows.plays side linked]
    rfl
  · rw [wrote, List.take_of_length_le whole]

/-- A write fails, after the other side has left. -/
theorem breaks {packet : FmtpPacket} (listens : offer.Listens)
    (settled : Fmtp.Settled mirror side (pair.peer side).machine)
    (selected : (network.loop side).select offer = some (.transmit packet))
    (write : offer.write = none) (atEnd : network.atEnd side = true) :
    Matched network ⟨side, offer⟩ pair loop := by
  obtain ⟨poll, does, still, wrote⟩ := Loop.iterate_breaks linked listens move selected write
  obtain ⟨gone, idle, read⟩ := follows.atEnd linked atEnd
  have peer := follows.plays side linked
  have machine : (network.loop side).connection.inner = (pair.peer side).machine := by
    rw [peer]
    rfl
  have popped : (network.loop side).pop.peer =
      { pair.peer side with ctx := (network.loop side).pop.peer.ctx } := by
    rw [peer]
    rfl
  rw [← peer] at poll
  rw [popped] at does
  have transmitted := Pair.step_transmit poll
  have unread : (network.loop side.other).linked = true →
      written (network.loop side) loop = packet.intoBytes := by
    intro linked
    rw [gone] at linked
    cases linked
  generalize (network.loop side).pop.peer.ctx = ctx at transmitted does
  by_cases connected : (pair.peer side).machine.state.connected = true
  · have deeds : network.deeds ⟨side, offer⟩ = [.transmit, .act .rDisconnect] := by
      simp [Network.deeds, selected, write, machine, connected]
    have second : (Pair.puts pair side { pair.peer side with ctx } packet).step
        ⟨side, .act .rDisconnect⟩ = some (Pair.puts pair side loop.peer packet) := by
      refine (Pair.step_act (may_disconnect ?_ ?_ ?_)
        (?_ : Peer.dispatch _ _ = some loop.peer)).trans ?_
      · simpa only [Pair.puts, Function.update_self] using connected
      · simpa only [Pair.puts, Function.update_of_ne side.other_ne] using idle
      · simpa only [Pair.puts, Function.update_of_ne side.other_ne] using read
      · simpa only [Pair.puts, Function.update_self] using does
      · simp only [Pair.puts, Function.update_idem]
    have run : Run Fmtp.Pair.step pair (network.labels ⟨side, offer⟩)
        (Pair.puts pair side loop.peer packet) := by
      rw [Network.labels, deeds]
      exact .cons transmitted (.cons second (.nil _))
    exact follows.sends linked selected run rfl still unread
  · have deeds : network.deeds ⟨side, offer⟩ = [.transmit] := by
      simp [Network.deeds, selected, write, machine, connected]
    have run : Run Fmtp.Pair.step pair (network.labels ⟨side, offer⟩)
        (Pair.puts pair side { pair.peer side with ctx } packet) := by
      rw [Network.labels, deeds]
      exact .cons transmitted (.nil _)
    have same : Peer.dispatch { pair.peer side with ctx } .rDisconnect = _ :=
      dispatch_disconnect_idle (idle_of_disconnected settled connected)
    exact follows.sends linked selected run (Option.some.inj (same.symm.trans does)) still unread

omit move in
/-- The packet that is read is the first one on the wire. -/
theorem first {packet : FmtpPacket} (front : packet.intoBytes <+: network.stream side.other) :
    ∃ rest, pair.wire side.other = packet :: rest ∧
      (network.stream side.other).drop packet.intoBytes.length =
        rest.flatMap FmtpPacket.intoBytes := by
  have stream := follows.stream side.other (by rw [Side.other_other]; exact linked)
  obtain ⟨more, split⟩ := front
  cases wire : pair.wire side.other with
  | nil =>
    rw [stream, wire] at split
    exact absurd (List.append_eq_nil_iff.mp split).1 packet.intoBytes_ne_nil
  | cons head rest =>
    have same : packet.intoBytes ++ more =
        head.intoBytes ++ rest.flatMap FmtpPacket.intoBytes := by
      rw [split, stream, wire, List.flatMap_cons]
    obtain ⟨rfl, rfl⟩ := FmtpPacket.prefixFree.cancel same
    exact ⟨rest, rfl, by rw [← split, List.drop_left]⟩

/-- A whole packet is read. -/
theorem delivers {chunk : Chunk} {packet : FmtpPacket} (listens : offer.Listens)
    (inSession : Fmtp.InSession mirror pair)
    (selected : (network.loop side).select offer = some (.read (some chunk)))
    (encodes : chunk.1 = packet.intoBytes)
    (front : chunk.1 <+: network.stream side.other) :
    Matched network ⟨side, offer⟩ pair loop ∧ loop.linked = true ∧
      (pair.Collides ⟨side, .deliver offer.clock⟩ ↔
        (network.loop side).connection.inner.state.collides packet = true) := by
  obtain ⟨session, represents, configured⟩ := inSession
  have peer := follows.plays side linked
  have machine : (pair.peer side).machine = (network.loop side).connection.inner := by
    rw [peer]
    rfl
  rw [encodes] at front
  obtain ⟨rest, onWire, left⟩ := follows.first linked front
  have reads : (pair.peer side).machine.reads = true := by
    rw [machine]
    exact (reads_of_turn (Loop.select_chosen selected).2.2.2.1).1
  obtain ⟨signal, _, _, _, _, means⟩ := represents.incoming offer.clock configured reads onWire
  have small : packet.intoBytes.length ≤ 10240 := by
    rw [← encodes]
    exact chunk.2
  have decoded : FmtpPacket.fromBytes ((network.loop side).buffer.fill chunk).1 = .ok packet :=
    @Buffer.fill_decodes _ _ ⟨packet, small⟩ _
      (encodes.trans (List.append_nil packet.intoBytes).symm)
  have event := means
  rw [machine, ← encodes] at event
  obtain ⟨does, still, wrote⟩ := Loop.iterate_reads linked listens move selected decoded event
    (by cases signal <;> nofun)
  rw [← peer] at does
  have deeds : network.deeds ⟨side, offer⟩ = [.deliver offer.clock] := by
    have nonempty : chunk.1 ≠ [] := by
      rw [encodes]
      exact packet.intoBytes_ne_nil
    simp [Network.deeds, selected, nonempty]
  have run : Run Fmtp.Pair.step pair (network.labels ⟨side, offer⟩)
      { peer := Function.update pair.peer side loop.peer
        wire := Function.update pair.wire side.other rest } := by
    rw [Network.labels, deeds]
    exact .cons (Pair.step_deliver reads onWire means does) (.nil _)
  have wires : Function.update (Function.update pair.wire side (pair.wire side ++ []))
      side.other rest = Function.update pair.wire side.other rest := by
    rw [List.append_nil, Function.update_eq_self]
  refine ⟨⟨_, run, ?_⟩, still, ?_⟩
  · rw [← wires]
    refine follows.update [] rest linked (fun _ => rfl) (fun gone => ?_) (List.prefix_refl _)
      (fun _ => wrote) fun _ => ?_
    · rw [still] at gone
      cases gone
    · show (network.stream side.other).drop (taken (network.loop side) offer).length = _
      rw [taken, selected]
      show (network.stream side.other).drop chunk.1.length = _
      rw [encodes, left]
  · unfold Fmtp.Pair.Collides
    simp only [onWire, machine]

end Branches

/-- Deeds that deliver nothing collide with nothing. -/
theorem clear_of_undelivered {labels : List Fmtp.Label}
    (other : ∀ label ∈ labels, ∀ now, label.deed ≠ .deliver now) (pair : Pair) :
    EachStep Fmtp.Pair.step (fun pair label => ¬ pair.Collides label) pair labels := by
  have silent : EachStep Fmtp.Pair.step (fun _ label => ∀ now, label.deed ≠ .deliver now) pair
      labels := eachStep_of_forall pair other
  refine silent.mono ?_
  rintro pair ⟨side, deed⟩ _ silent
  cases deed with
  | deliver now => exact absurd rfl (silent now)
  | transmit | act => exact not_false

/-- The deeds of an iteration lead the pair to what follows. They collide where the iteration
does, and the reader of a packet stays on the connection. -/
def Simulated (network : Network) (label : Network.Label) (pair : Pair) (next : Network) : Prop :=
  ∃ pair', Run Fmtp.Pair.step pair (network.labels label) pair' ∧ Follows next pair' ∧
    (EachStep Fmtp.Pair.step (fun pair label => ¬ pair.Collides label) pair
        (network.labels label) ↔ ¬ network.Collides label) ∧
    (network.Collides label → (next.loop label.side).linked = true)

/-- An iteration that reads no packet collides with nothing. -/
theorem Matched.simulated {label : Network.Label}
    (matched : Matched network label pair loop)
    (silent : ∀ deed ∈ network.deeds label, ∀ now, deed ≠ .deliver now)
    (clear : ¬ network.Collides label) :
    Simulated network label pair (network.after label loop) := by
  obtain ⟨pair', run, follows⟩ := matched
  refine ⟨pair', run, follows, iff_of_true (clear_of_undelivered ?_ pair) clear,
    fun collides => absurd collides clear⟩
  intro other member now
  obtain ⟨deed, among, rfl⟩ := List.mem_map.mp member
  exact silent deed among now

section Steps

variable (follows : Follows network pair) (inSession : Fmtp.InSession mirror pair)
  (linked : (network.loop side).linked = true) (listens : offer.Listens)
  (orderly : network.orderly ⟨side, offer⟩ = true)
  (answers : network.answers ⟨side, offer⟩ = true)
  (move : (network.loop side).iterate offer = some loop)

include follows linked listens orderly answers move

omit answers in
/-- A command of a correct user. -/
theorem step_command {received : Option UserCommand}
    (selected : (network.loop side).select offer = some (.command received)) :
    Simulated network ⟨side, offer⟩ pair (network.after ⟨side, offer⟩ loop) := by
  unfold Network.orderly at orderly
  dsimp only at orderly
  rw [selected] at orderly
  cases received with
  | none => cases orderly
  | some command =>
    have deeds : network.deeds ⟨side, offer⟩ = [.act (commandEvent offer.clock command)] := by
      simp [Network.deeds, selected]
    have admitted : admits (pair.peer side).machine.state command = true := by
      rw [follows.plays side linked]
      exact orderly
    have may := may_of_admits offer.clock admitted
    have small : ∀ now msg, commandEvent offer.clock command = .lData now msg →
        msg.data.length ≤ 10240 := by
      intro now msg same
      rw [same] at may
      exact Fmtp.Pair.may_small may
    obtain ⟨does, still, _⟩ := Loop.iterate_dispatches linked listens selected move
      (Loop.select_chosen selected).1 rfl small
    refine Matched.simulated (follows.acts linked move (by simp [selected])
      (by rw [taken, selected]) deeds may does still) (by simp [deeds]) ?_
    simp [Network.Collides, selected]

omit orderly answers in
/-- A message for the user. -/
theorem step_receive {msg : FmtpMessage}
    (selected : (network.loop side).select offer = some (.receive msg)) :
    Simulated network ⟨side, offer⟩ pair (network.after ⟨side, offer⟩ loop) := by
  have tells : Loop.Tells (network.loop side).pop
      ((network.loop side).pop.arm offer (.receive msg)) [.dataReceived msg] := by
    have arm : (network.loop side).pop.arm offer (.receive msg) =
        (network.loop side).pop.record (.sent (.dataReceived msg)) := if_pos (listens _)
    rw [arm]
    exact ⟨rfl, rfl, rfl, rfl, rfl, rfl, rfl⟩
  obtain ⟨stays, still, _⟩ := Loop.iterate_stays linked listens selected move
    (Loop.select_chosen selected).1 tells
  have deeds : network.deeds ⟨side, offer⟩ = [] := by simp [Network.deeds, selected]
  refine Matched.simulated (follows.rests linked move (by simp [selected])
    (by rw [taken, selected]) deeds (fun _ => stays) fun gone => ?_) (by simp [deeds]) ?_
  · rw [still] at gone
    cases gone
  · simp [Network.Collides, selected]

include inSession

omit orderly in
/-- A packet to transmit. -/
theorem step_transmit {packet : FmtpPacket}
    (whole : ∀ accepted, offer.write = some accepted → packet.intoBytes.length ≤ accepted)
    (selected : (network.loop side).select offer = some (.transmit packet)) :
    Simulated network ⟨side, offer⟩ pair (network.after ⟨side, offer⟩ loop) := by
  obtain ⟨session, represents, _⟩ := inSession
  refine Matched.simulated ?_ ?_ ?_
  · cases write : offer.write with
    | some accepted => exact follows.transmits linked move listens selected write (whole _ write)
    | none =>
      have atEnd : network.atEnd side = true := by
        unfold Network.answers at answers
        dsimp only at answers
        rw [selected, write] at answers
        exact answers
      exact follows.breaks linked move listens (represents.settled side) selected write atEnd
  · simp only [Network.deeds, selected]
    split <;> simp
  · simp [Network.Collides, selected]

omit orderly answers in
/-- The end of the block over the state. -/
theorem step_machine {turned : Turn}
    (selected : (network.loop side).select offer = some (.machine turned)) :
    Simulated network ⟨side, offer⟩ pair (network.after ⟨side, offer⟩ loop) := by
  obtain ⟨session, represents, _⟩ := inSession
  have settled := represents.settled side
  have chosen := Loop.select_chosen selected
  have clear : ¬ network.Collides ⟨side, offer⟩ := by simp [Network.Collides, selected]
  have other : ∀ packet, (network.loop side).select offer ≠ some (.transmit packet) := by
    simp [selected]
  have unread : taken (network.loop side) offer = [] := by rw [taken, selected]
  have machine : (pair.peer side).machine = (network.loop side).connection.inner := by
    rw [follows.plays side linked]
    rfl
  have turns := turn_spec chosen.2.2.2
  cases turned with
  | idle =>
    have deeds : network.deeds ⟨side, offer⟩ = [] := by simp [Network.deeds, selected]
    have left := Loop.iterate_leaves linked listens move selected
    refine Matched.simulated (follows.rests linked move other unread deeds (fun still => ?_)
      fun _ _ => turn_idle chosen.2.2.2) (by simp [deeds]) clear
    rw [left] at still
    cases still
  | failed text =>
    rw [← machine] at turns
    cases turns with
    | remained pending =>
      have apart := idle_of_disconnected settled (by rw [pending]; nofun)
      rw [pending] at apart
      cases apart
    | failed failed => exact absurd failed settled.state_ne
  | slept =>
    have deeds : network.deeds ⟨side, offer⟩ = [] := by simp [Network.deeds, selected]
    have tells : Loop.Tells (network.loop side).pop
        ((network.loop side).pop.arm offer (.machine .slept)) [] := .refl _
    obtain ⟨stays, still, _⟩ := Loop.iterate_stays linked listens selected move chosen.1 tells
    refine Matched.simulated (follows.rests linked move other unread deeds (fun _ => stays)
      fun gone => ?_) (by simp [deeds]) clear
    rw [still] at gone
    cases gone
  | raised event =>
    have deeds : network.deeds ⟨side, offer⟩ = [.act event] := by
      simp [Network.deeds, selected]
    have raised : turn (pair.peer side).machine offer = some (.raised event) := by
      rw [machine]
      exact chosen.2.2.2
    have small : ∀ now msg, event = .lData now msg → msg.data.length ≤ 10240 := by
      rintro now msg rfl
      cases turns
    obtain ⟨does, still, _⟩ := Loop.iterate_dispatches linked listens selected move chosen.1
      rfl small
    exact Matched.simulated (follows.acts linked move other unread deeds (may_of_turn raised)
      does still) (by simp [deeds]) clear

/-- A read. -/
theorem step_read {received : Option Chunk}
    (selected : (network.loop side).select offer = some (.read received)) :
    Simulated network ⟨side, offer⟩ pair (network.after ⟨side, offer⟩ loop) := by
  have chosen := Loop.select_chosen selected
  have other : ∀ packet, (network.loop side).select offer ≠ some (.transmit packet) := by
    simp [selected]
  have machine : (pair.peer side).machine = (network.loop side).connection.inner := by
    rw [follows.plays side linked]
    rfl
  have connected : (pair.peer side).machine.state.connected = true := by
    rw [machine]
    exact (reads_of_turn chosen.2.2.2.1).2
  have may (atEnd : network.atEnd side = true) : pair.may side .rDisconnect = true := by
    obtain ⟨_, idle, empty⟩ := follows.atEnd linked atEnd
    exact may_disconnect connected idle empty
  unfold Network.orderly at orderly
  unfold Network.answers at answers
  dsimp only at orderly answers
  rw [selected] at orderly answers
  cases received with
  | none =>
    have deeds : network.deeds ⟨side, offer⟩ = [.act .rDisconnect] := by
      simp [Network.deeds, selected]
    have arm : (network.loop side).pop.arm offer (.read none) =
        (network.loop side).pop.dispatch .rDisconnect := rfl
    obtain ⟨does, still, _⟩ := Loop.iterate_dispatches linked listens selected move chosen.1 arm
      nofun
    refine Matched.simulated (follows.acts linked move other (by rw [taken, selected]) deeds
      (may answers) does still) (by simp [deeds]) ?_
    simp [Network.Collides, selected]
  | some chunk =>
    dsimp only at orderly answers
    by_cases empty : chunk.1 = []
    · rw [if_pos empty] at answers
      have unread : taken (network.loop side) offer = [] := by
        rw [taken, selected]
        exact empty
      have clear : ¬ network.Collides ⟨side, offer⟩ := by
        simp only [Network.Collides, selected, empty]
        exact not_false
      cases decoded : FmtpPacket.fromBytes ((network.loop side).buffer.fill chunk).1 with
      | error fault =>
        have deeds : network.deeds ⟨side, offer⟩ = [] := by
          simp [Network.deeds, selected, empty, decoded]
        have left := Loop.iterate_undecoded listens move selected decoded
        refine Matched.simulated (follows.rests linked move other unread deeds (fun still => ?_)
          fun _ present => ?_) (by simp [deeds]) clear
        · rw [left] at still
          cases still
        · rw [(follows.atEnd linked answers).1] at present
          cases present
      | ok packet =>
        have deeds : network.deeds ⟨side, offer⟩ = [.act .rDisconnect] := by
          simp [Network.deeds, selected, empty, decoded]
        have means : Event.fromIncomingPacket chunk.1.length packet offer.clock
            (network.loop side).connection.inner.storage.config
            (network.loop side).connection.inner.storage.id = .ok .rDisconnect := by
          rw [empty]
          rfl
        obtain ⟨does, still, _⟩ := Loop.iterate_reads linked listens move selected decoded means
          nofun
        exact Matched.simulated (follows.acts linked move other unread deeds (may answers) does
          still) (by simp [deeds]) clear
    · rw [if_neg empty] at answers
      have isPacket := (of_decide_eq_true orderly).resolve_left empty
      unfold Tokio.isPacket at isPacket
      split at isPacket
      · rename_i packet decoded
        have encodes := (of_decide_eq_true isPacket).symm
        obtain ⟨⟨pair', run, after⟩, still, collides⟩ :=
          follows.delivers linked move listens inSession selected encodes
            (List.isPrefixOf_iff_prefix.mp answers)
        have labels : network.labels ⟨side, offer⟩ = [⟨side, .deliver offer.clock⟩] := by
          simp [Network.labels, Network.deeds, selected, empty]
        refine ⟨pair', run, after, ?_, fun _ => ?_⟩
        swap
        · simpa only [Network.after, Function.update_self] using still
        have reads : network.Collides ⟨side, offer⟩ ↔
            (network.loop side).connection.inner.state.collides packet = true := by
          simp only [Network.Collides, selected, decoded]
        rw [labels] at run ⊢
        rw [reads, ← collides]
        cases run with
        | cons move _ =>
          rw [eachStep_cons move]
          exact and_iff_left trivial
      · cases isPacket

end Steps

/-- In an orderly environment every iteration does what its deeds do to the pair. -/
theorem step {next : Network} {label : Network.Label} (follows : Follows network pair)
    (inSession : Fmtp.InSession mirror pair) (listens : label.offer.Listens)
    (orderly : network.orderly label = true) (move : network.step label = some next) :
    Simulated network label pair next := by
  obtain ⟨side, offer⟩ := label
  unfold Network.step at move
  dsimp only at move
  split at move
  · rename_i allowed
    obtain ⟨linked, answers⟩ := allowed
    obtain ⟨loop, iterated, rfl⟩ := Option.map_eq_some_iff.mp move
    obtain ⟨branch, selected⟩ : ∃ branch, (network.loop side).select offer = some branch := by
      obtain ⟨_, branch, selected, _⟩ := (network.loop side).iterate_spec offer iterated
      exact ⟨branch, selected⟩
    cases branch with
    | transmit packet =>
      refine follows.step_transmit inSession linked listens answers iterated ?_ selected
      intro accepted write
      unfold Network.orderly at orderly
      dsimp only at orderly
      rw [selected, write] at orderly
      exact of_decide_eq_true orderly
    | command received => exact follows.step_command linked listens orderly iterated selected
    | receive msg => exact follows.step_receive linked listens iterated selected
    | machine turned => exact follows.step_machine inSession linked listens iterated selected
    | read received =>
      exact follows.step_read inSession linked listens orderly answers iterated selected
  · cases move

end Follows

end Fmtp.Tokio
