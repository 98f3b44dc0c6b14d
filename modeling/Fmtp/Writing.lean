/-
This file settles what of a packet reaches the wire. One write is made of each packet, and what it
accepts is taken for the whole: the bytes on a socket are the encodings of its packets exactly
where no write is short.
-/

import Fmtp.Codec
import Fmtp.Iteration

namespace Fmtp.Tokio

open TransitionSystem

/-! ### The writes of a log -/

/-- A call of write: the packet it was to write and the bytes that the socket accepted. -/
structure Write where
  socket : Nat
  packet : FmtpPacket
  bytes : List Byte

namespace Write

/-- The socket accepted some bytes from the front of the packet. -/
def Begins (write : Write) : Prop :=
  write.bytes <+: write.packet.intoBytes

/-- The socket accepted the packet. -/
def Whole (write : Write) : Prop :=
  write.bytes = write.packet.intoBytes

end Write

def writes (log : List Action) : List Write :=
  log.filterMap fun
    | .wrote socket packet bytes => some { socket, packet, bytes }
    | _ => none

theorem writes_append (log later : List Action) :
    writes (log ++ later) = writes log ++ writes later := by
  rw [writes, List.filterMap_append]
  rfl

/-- The bytes that the socket accepted, in order. -/
def acceptedBytes (socket : Nat) (log : List Action) : List Byte :=
  ((writes log).filter (·.socket = socket)).flatMap (·.bytes)

/-- The packets that were to be written on the socket, in order. -/
def transmitted (socket : Nat) (log : List Action) : List FmtpPacket :=
  ((writes log).filter (·.socket = socket)).map (·.packet)

/-- Fronts of packets that are joined to the same bytes as the packets are whole. -/
theorem Write.whole_of_flatMap {writes : List Write} (begin : ∀ write ∈ writes, write.Begins)
    (same : writes.flatMap (·.bytes) = writes.flatMap (·.packet.intoBytes)) :
    ∀ write ∈ writes, write.Whole := by
  have shorter {writes : List Write} (begin : ∀ write ∈ writes, write.Begins) :
      (writes.flatMap (·.bytes)).length ≤ (writes.flatMap (·.packet.intoBytes)).length := by
    induction writes with
    | nil => exact Nat.le_refl _
    | cons write rest inductionHypothesis =>
      obtain ⟨front, others⟩ := List.forall_mem_cons.mp begin
      have head := front.length_le
      have tail := inductionHypothesis others
      rw [List.flatMap_cons, List.flatMap_cons, List.length_append, List.length_append]
      omega
  induction writes with
  | nil => exact List.forall_mem_nil _
  | cons write rest inductionHypothesis =>
    obtain ⟨front, others⟩ := List.forall_mem_cons.mp begin
    rw [List.flatMap_cons, List.flatMap_cons] at same
    have lengths := congrArg List.length same
    rw [List.length_append, List.length_append] at lengths
    have head := front.length_le
    have tail := shorter others
    have whole : write.bytes = write.packet.intoBytes := front.eq_of_length (by omega)
    rw [whole] at same
    exact List.forall_mem_cons.mpr
      ⟨whole, inductionHypothesis others (List.append_cancel_left same)⟩

/-- The bytes on every socket are the encodings of its packets exactly where each is whole. -/
theorem accepted_iff {log : List Action} (begin : ∀ write ∈ writes log, write.Begins) :
    (∀ socket, acceptedBytes socket log = (transmitted socket log).flatMap FmtpPacket.intoBytes) ↔
      ∀ write ∈ writes log, write.Whole := by
  have encoded (socket : Nat) : (transmitted socket log).flatMap FmtpPacket.intoBytes =
      ((writes log).filter (·.socket = socket)).flatMap (·.packet.intoBytes) :=
    List.flatMap_map ..
  constructor
  · intro same write member
    have equal := same write.socket
    rw [encoded] at equal
    refine Write.whole_of_flatMap ?_ equal write ?_
    · exact fun write member => begin write (List.mem_of_mem_filter member)
    · exact List.mem_filter.mpr ⟨member, decide_eq_true rfl⟩
  · intro whole socket
    rw [encoded]
    refine List.flatMap_congr fun write member => ?_
    exact whole write (List.mem_of_mem_filter member)

/-! ### The writes of an iteration -/

namespace Loop

variable {loop next : Loop} {offer : Offer}

/-- A packet is transmitted, and the socket accepts `count` of its bytes. -/
def Transmits (loop : Loop) (offer : Offer) (packet : FmtpPacket) (count : Nat) : Prop :=
  loop.select offer = some (.transmit packet) ∧ offer.write = some count

/-- A write of a packet succeeds and accepts from one to all of its bytes. -/
def Accepts (loop : Loop) (offer : Offer) : Prop :=
  ∀ packet, loop.select offer = some (.transmit packet) →
    ∃ count, offer.write = some count ∧ 1 ≤ count ∧ count ≤ packet.intoBytes.length

/-- A write of a packet accepts all of its bytes. -/
def AcceptsAll (loop : Loop) (offer : Offer) : Prop :=
  ∀ packet count, loop.Transmits offer packet count → count = packet.intoBytes.length

/-- Only the transmission of a packet writes. -/
theorem iterate_writes_of_other (other : ∀ packet, loop.select offer ≠ some (.transmit packet))
    (move : loop.iterate offer = some next) :
    writes next.connection.log = writes loop.connection.log := by
  obtain ⟨_, branch, selected, _⟩ := loop.iterate_spec offer move
  have logged {connection : Connection} {action : Action} (silent : writes [action] = [])
      (same : writes connection.log = writes loop.connection.log) :
      writes (connection.record action).log = writes loop.connection.log := by
    rw [Connection.record, writes_append, silent, List.append_nil, same]
  have kept : Kept (fun connection =>
      writes connection.log = writes loop.connection.log) := by
    refine ⟨?_, fun _ _ => logged rfl, fun _ => logged rfl⟩
    intro before after event same handled
    obtain ⟨entry, _, dispatches⟩ := Connection.dispatch_spec handled
    rw [dispatches.log, writes_append, same]
    exact List.append_nil _
  refine kept.iterate (fun _ same => same) (fun _ => logged rfl) ?_ selected move rfl
  rintro connection packet socket bytes rfl
  exact absurd selected (other packet)

/-- A transmission makes one write, of the front of the packet that the socket accepts. -/
theorem iterate_writes_of_transmits {packet : FmtpPacket} {count : Nat}
    (transmits : loop.Transmits offer packet count) (move : loop.iterate offer = some next) :
    ∃ socket, writes next.connection.log =
      writes loop.connection.log ++ [⟨socket, packet, packet.intoBytes.take count⟩] := by
  obtain ⟨selected, accepted⟩ := transmits
  obtain ⟨socket, socketed⟩ := Option.ne_none_iff_exists'.mp (select_chosen selected).1
  have popped : loop.pop.socket = some socket := socketed
  have arm : loop.pop.arm offer (.transmit packet) =
      loop.pop.record (.wrote socket packet (packet.intoBytes.take count)) := by
    show loop.pop.sendPacket offer packet = _
    rw [sendPacket, popped, accepted]
  refine ⟨socket, ?_⟩
  refine @Kept.reported (fun connection => writes connection.log = _) loop offer _ ?_ next
    selected move ?_
  · intro connection event same
    rw [Connection.record, writes_append, same]
    exact List.append_nil _
  · rw [arm]
    exact writes_append _ _

/-- An iteration whose write succeeds adds fronts of packets, whole ones exactly where the write
accepts all of its packet. -/
theorem iterate_writes (accepts : loop.Accepts offer) (move : loop.iterate offer = some next) :
    ∃ added, writes next.connection.log = writes loop.connection.log ++ added ∧
      (∀ write ∈ added, write.Begins) ∧
      ((∀ write ∈ added, write.Whole) ↔ loop.AcceptsAll offer) := by
  by_cases transmission : ∃ packet, loop.select offer = some (.transmit packet)
  · obtain ⟨packet, selected⟩ := transmission
    obtain ⟨count, accepted, _, bound⟩ := accepts packet selected
    obtain ⟨socket, logged⟩ := iterate_writes_of_transmits ⟨selected, accepted⟩ move
    refine ⟨_, logged, ?_, ?_⟩
    · rw [List.forall_mem_singleton]
      exact List.take_prefix count packet.intoBytes
    · rw [List.forall_mem_singleton]
      constructor
      · rintro whole packet' count' ⟨selected', accepted'⟩
        obtain rfl := Branch.transmit.inj (Option.some.inj (selected.symm.trans selected'))
        obtain rfl := Option.some.inj (accepted.symm.trans accepted')
        have equal : packet.intoBytes.take count = packet.intoBytes := whole
        have length := congrArg List.length equal
        rw [List.length_take, Nat.min_eq_left bound] at length
        exact length
      · intro all
        show packet.intoBytes.take count = packet.intoBytes
        rw [all packet count ⟨selected, accepted⟩, List.take_length]
  · have other : ∀ packet, loop.select offer ≠ some (.transmit packet) :=
      fun packet selected => transmission ⟨packet, selected⟩
    refine ⟨[], ?_, List.forall_mem_nil _, ?_⟩
    · rw [iterate_writes_of_other other move, List.append_nil]
    · refine iff_of_true (List.forall_mem_nil _) ?_
      exact fun packet count transmits => absurd transmits.1 (other packet)

end Loop

/-! ### The writes of a run -/

theorem run_writes {first last : Loop} {offers : List Offer}
    (run : Run Loop.iterate first offers last)
    (accepts : EachStep Loop.iterate Loop.Accepts first offers) :
    ∃ actions, last.connection.log = first.connection.log ++ actions ∧
      (∀ write ∈ writes actions, write.Begins) ∧
      ((∀ write ∈ writes actions, write.Whole) ↔
        EachStep Loop.iterate Loop.AcceptsAll first offers) := by
  induction run with
  | nil loop =>
    refine ⟨[], (List.append_nil _).symm, List.forall_mem_nil _, ?_⟩
    exact iff_of_true (List.forall_mem_nil _) trivial
  | @cons loop next last offer rest move tail inductionHypothesis =>
    obtain ⟨head, others⟩ := (eachStep_cons move).mp accepts
    obtain ⟨later, logged, begin, whole⟩ := inductionHypothesis others
    obtain ⟨now, logged', _⟩ := loop.iterate_logs offer move
    obtain ⟨added, wrote, begin', whole'⟩ := Loop.iterate_writes head move
    obtain rfl : writes now = added := by
      rw [logged', writes_append] at wrote
      exact List.append_cancel_left wrote
    refine ⟨now ++ later, ?_, ?_, ?_⟩
    · rw [logged, logged', List.append_assoc]
    · rw [writes_append]
      exact List.forall_mem_append.mpr ⟨begin', begin⟩
    · rw [writes_append, List.forall_mem_append, whole, whole', eachStep_cons move]

/-- In a run whose writes all succeed and accept at least a byte, the bytes that each socket
accepted are the encodings, in order, of the packets that were transmitted on it, if and only if
every write accepts all of its packet. -/
theorem writing_exact {first last : Loop} {offers : List Offer}
    (run : Run Loop.iterate first offers last)
    (accepts : EachStep Loop.iterate Loop.Accepts first offers) :
    ∃ actions, last.connection.log = first.connection.log ++ actions ∧
      ((∀ socket, acceptedBytes socket actions =
          (transmitted socket actions).flatMap FmtpPacket.intoBytes) ↔
        EachStep Loop.iterate Loop.AcceptsAll first offers) := by
  obtain ⟨actions, logged, begin, whole⟩ := run_writes run accepts
  exact ⟨actions, logged, (accepted_iff begin).trans whole⟩

namespace Sample

/-- The client connects, and its socket accepts five bytes at a time. -/
def congested : List Offer :=
  [{ answering with write := some 5 }, { quiet with write := some 5 }]

theorem congested_accepts (loop : Loop) : EachStep Loop.iterate Loop.Accepts loop congested := by
  have five : ∀ offer ∈ congested, offer.write = some 5 := by simp [congested]
  refine (eachStep_of_forall loop five).mono fun loop offer _ accepted packet _ => ?_
  refine ⟨5, accepted, by decide, ?_⟩
  rw [packet.intoBytes_length, packet.length_eq]
  exact Nat.le_add_right 5 _

end Sample

/-- The writes of a client whose socket is congested. -/
theorem writing_exact_client : ∃ actions,
    ((final Loop.iterate (Sample.client Fmtp.Sample.clientEntry) Sample.congested).getD
        (Sample.client Fmtp.Sample.clientEntry)).connection.log =
      (Sample.client Fmtp.Sample.clientEntry).connection.log ++ actions ∧
    ((∀ socket, acceptedBytes socket actions =
        (transmitted socket actions).flatMap FmtpPacket.intoBytes) ↔
      EachStep Loop.iterate Loop.AcceptsAll (Sample.client Fmtp.Sample.clientEntry)
        Sample.congested) :=
  writing_exact (Run.of_enabled Loop.iterate _ _ (by decide +kernel)) (Sample.congested_accepts _)

/-- Of the client's handshake, its header is all that reaches the wire. -/
theorem writing_truncates : ¬ ∀ (connection : Connection) (offers : List Offer) (last : Loop),
    Run Loop.iterate connection.runClient offers last →
    EachStep Loop.iterate Loop.Accepts connection.runClient offers →
    ∀ socket, acceptedBytes socket last.connection.log =
      (transmitted socket last.connection.log).flatMap FmtpPacket.intoBytes := by
  intro claim
  have session : (final Loop.iterate (Sample.client Fmtp.Sample.clientEntry)
        Sample.congested).isSome = true ∧
      acceptedBytes 0 ((final Loop.iterate (Sample.client Fmtp.Sample.clientEntry)
        Sample.congested).getD (Sample.client Fmtp.Sample.clientEntry)).connection.log ≠
      (transmitted 0 ((final Loop.iterate (Sample.client Fmtp.Sample.clientEntry)
        Sample.congested).getD
          (Sample.client Fmtp.Sample.clientEntry)).connection.log).flatMap
        FmtpPacket.intoBytes := by
    decide +kernel
  obtain ⟨enabled, truncated⟩ := session
  exact truncated (claim _ Sample.congested _ (Run.of_enabled _ _ _ enabled)
    (Sample.congested_accepts _) 0)

end Fmtp.Tokio
