/-
This file studies how the loop cuts the byte stream into packets. Every read overwrites the
front of one persistent buffer, and one packet is decoded from that front, whatever the read
gave; what a read gives beyond its packet is dropped. So the reads of a run come to the packets
that they leave at the front, one after the other, up to the first that ends the run.
-/

import Fmtp.Framing
import Fmtp.Residue
import Fmtp.Tokio

namespace Fmtp.Tokio

/-! ### Receiving by reads -/

/-- What the reads of a run change: the machine, its queues, the buffer, and how the run ends. -/
structure Reception where
  machine : Fmtp.Connection
  ctx : ConnectionContext
  buffer : Buffer
  result : Option Fault

namespace Reception

def new (machine : Fmtp.Connection) (ctx : ConnectionContext) (buffer : Buffer) : Reception where
  machine := machine
  ctx := ctx
  buffer := buffer
  result := none

/-- The read branch, unless the run has ended. -/
def read (now : Instant) (reception : Reception) (chunk : Chunk) : Reception :=
  match reception.result with
  | some _ => reception
  | none =>
    let buffer := reception.buffer.fill chunk
    match reception.machine.handleRemotePacket buffer.1 chunk.1.length now reception.ctx with
    | .ok (machine, ctx) => { machine, ctx, buffer, result := none }
    | .error fault => { reception with buffer, result := some fault }

/-- The successive reads of a run. -/
def receive (now : Instant) (reception : Reception) (chunks : List Chunk) : Reception :=
  chunks.foldl (read now) reception

/-- Two receptions leave the same machine and the same queues. -/
structure Agrees (reception other : Reception) : Prop where
  machine : reception.machine = other.machine
  ctx : reception.ctx = other.ctx

end Reception

/-- The reception of a loop that has not ended in another way. -/
def Loop.reception (loop : Loop) : Reception where
  machine := loop.connection.inner
  ctx := loop.connection.ctx
  buffer := loop.buffer
  result :=
    match loop.result with
    | some (.error fault) => some fault
    | _ => none

/-- The read arm of the loop is one read of its reception. -/
theorem Loop.readArm_reception (loop : Loop) (offer : Offer) (chunk : Chunk)
    (runs : loop.result = none) :
    (loop.readArm offer (some chunk)).reception = loop.reception.read offer.clock chunk := by
  have recorded := loop.connection.handleRemotePacket_eq (loop.buffer.fill chunk).1
    chunk.1.length offer.clock
  unfold readArm Reception.read reception
  simp only [runs]
  rw [← recorded]
  cases loop.connection.handleRemotePacket (loop.buffer.fill chunk).1 chunk.1.length
      offer.clock with
  | ok connection => simp [Except.map]
  | error fault => simp [Except.map, fail]

/-! ### The packets at the front -/

/-- A packet whose encoding fits one read. -/
abbrev SmallPacket := { packet : FmtpPacket // packet.intoBytes.length ≤ 10240 }

/-- The read that gives exactly one packet. -/
def SmallPacket.chunk (packet : SmallPacket) : Chunk := ⟨packet.1.intoBytes, packet.2⟩

/-- Such reads give some bytes. -/
theorem SmallPacket.chunk_nonempty (packets : List SmallPacket) :
    ∀ chunk ∈ packets.map SmallPacket.chunk, chunk.1 ≠ [] := by
  intro chunk member
  obtain ⟨packet, -, rfl⟩ := List.mem_map.mp member
  exact packet.1.intoBytes_ne_nil

/-- A packet that fits one read fits the decoder. -/
theorem SmallPacket.data_length (packet : SmallPacket) : packet.1.data.length ≤ 10235 := by
  have small := packet.2
  rw [FmtpPacket.intoBytes, List.length_append, FmtpPacketHeader.asBytes_length] at small
  omega

/-- A read that starts with a packet leaves the packet at the front. -/
theorem Buffer.fill_decodes (buffer : Buffer) {chunk : Chunk} {packet : SmallPacket}
    {more : List Byte} (starts : chunk.1 = packet.1.intoBytes ++ more) :
    FmtpPacket.fromBytes (buffer.fill chunk).1 = .ok packet.1 := by
  show FmtpPacket.fromBytes (chunk.1 ++ buffer.1.drop chunk.1.length) = _
  rw [starts, List.append_assoc]
  exact FmtpPacket.fromBytes_intoBytes packet.1 _ packet.data_length

/-- The packets that successive reads leave at the front of the buffer, up to the first read that
leaves none there. -/
def Fronts : Buffer → List Chunk → List SmallPacket → Prop
  | _, [], fronts => fronts = []
  | buffer, chunk :: _, [] =>
    ∀ packet : SmallPacket, ¬ packet.1.intoBytes <+: (buffer.fill chunk).1
  | buffer, chunk :: chunks, packet :: fronts =>
    packet.1.intoBytes <+: (buffer.fill chunk).1 ∧ Fronts (buffer.fill chunk) chunks fronts

/-- The reads leave some packets. -/
theorem exists_fronts (buffer : Buffer) (chunks : List Chunk) :
    ∃ fronts, Fronts buffer chunks fronts := by
  induction chunks generalizing buffer with
  | nil => exact ⟨[], rfl⟩
  | cons chunk chunks inductionHypothesis =>
    by_cases front : ∃ packet : SmallPacket, packet.1.intoBytes <+: (buffer.fill chunk).1
    · obtain ⟨packet, begins⟩ := front
      obtain ⟨fronts, rest⟩ := inductionHypothesis (buffer.fill chunk)
      exact ⟨packet :: fronts, begins, rest⟩
    · exact ⟨[], fun packet begins => front ⟨packet, begins⟩⟩

/-- Read one by one, the packets are what the reads leave, whatever the buffer held. -/
theorem fronts_whole (buffer : Buffer) (packets : List SmallPacket) :
    Fronts buffer (packets.map SmallPacket.chunk) packets := by
  induction packets generalizing buffer with
  | nil => rfl
  | cons packet rest inductionHypothesis =>
    exact ⟨List.prefix_append packet.1.intoBytes _, inductionHypothesis _⟩

section Front

variable {buffer : Buffer} {packet : SmallPacket}

/-- The packet at the front of the buffer is the one that the decoder returns. -/
theorem fromBytes_of_front (begins : packet.1.intoBytes <+: buffer.1) :
    FmtpPacket.fromBytes buffer.1 = .ok packet.1 := by
  refine FmtpPacket.fromBytes_eq_ok.mpr ⟨?_, begins⟩
  rw [← packet.1.intoBytes_length]
  exact packet.2

/-- With no packet at the front the decoder fails. -/
theorem fromBytes_of_no_front
    (bare : ∀ packet : SmallPacket, ¬ packet.1.intoBytes <+: buffer.1) :
    ∃ fault, FmtpPacket.fromBytes buffer.1 = .error fault := by
  cases decoded : FmtpPacket.fromBytes buffer.1 with
  | error fault => exact ⟨fault, rfl⟩
  | ok packet =>
    obtain ⟨small, begins⟩ := FmtpPacket.fromBytes_eq_ok.mp decoded
    rw [← packet.intoBytes_length] at small
    exact absurd begins (bare ⟨packet, small⟩)

end Front

/-! ### Hearing a packet -/

/-- There is an event for the packet: a system packet is one that there is. -/
def Understood (packet : FmtpPacket) : Prop :=
  packet.header.typ = .system →
    packet.isStartup = true ∨ packet.isShutdown = true ∨ packet.isHeartbeat = true

instance (packet : FmtpPacket) : Decidable (Understood packet) :=
  inferInstanceAs (Decidable (_ → _))

/-- The packets that a run hears: those at the front, up to the first that it does not
understand. -/
def heard (fronts : List SmallPacket) : List FmtpPacket :=
  (fronts.map (·.1)).takeWhile fun packet => decide (Understood packet)

theorem heard_cons (packet : SmallPacket) (rest : List SmallPacket) :
    heard (packet :: rest) = if Understood packet.1 then packet.1 :: heard rest else [] := by
  simp only [heard, List.map_cons, List.takeWhile_cons, decide_eq_true_eq]

/-- What is heard is understood. -/
theorem understood_of_heard {fronts : List SmallPacket} :
    ∀ packet ∈ heard fronts, Understood packet :=
  fun packet member => of_decide_eq_true (List.all_eq_true.mp List.all_takeWhile packet member)

/-- How many bytes a read gave matters only in being none. -/
theorem Event.fromIncomingPacket_nonzero {bytes bytes' : Nat} (nonzero : bytes ≠ 0)
    (nonzero' : bytes' ≠ 0) (packet : FmtpPacket) (now : Instant) (config : Config)
    (connectionId : Option String) :
    Event.fromIncomingPacket bytes packet now config connectionId =
      Event.fromIncomingPacket bytes' packet now config connectionId := by
  unfold Event.fromIncomingPacket
  rw [if_neg nonzero, if_neg nonzero']

/-- The events of a packet are those of the understood packets. -/
theorem understood_iff {bytes : Nat} (nonzero : bytes ≠ 0) (packet : FmtpPacket) (now : Instant)
    (config : Config) (connectionId : Option String) :
    Understood packet ↔
      ∃ event, Event.fromIncomingPacket bytes packet now config connectionId = .ok event := by
  cases typ : packet.header.typ with
  | operational | operator =>
    obtain ⟨msg, data, -⟩ := packet.tryToMsg_of_typ (by rw [typ]; simp)
    refine iff_of_true ?_ ⟨_, fromIncomingPacket_data nonzero data⟩
    intro system
    cases typ.symm.trans system
  | identification =>
    obtain ⟨event, translated, -⟩ :=
      fromIncomingPacket_identification nonzero typ now config connectionId
    refine iff_of_true ?_ ⟨event, translated⟩
    intro system
    cases typ.symm.trans system
  | system =>
    rcases fromIncomingPacket_system nonzero typ now config connectionId with
      ⟨known, translated⟩ | ⟨unknown, refused⟩
    · exact iff_of_true (fun _ => known) translated
    · refine iff_of_false (fun understood => unknown (understood typ)) ?_
      rintro ⟨event, translated⟩
      cases translated.symm.trans refused

/-- What a packet makes of the machine and its queues. -/
def hear (now : Instant) (pair : Fmtp.Connection × ConnectionContext) (packet : FmtpPacket) :
    Fmtp.Connection × ConnectionContext :=
  match pair.1.answer packet 1 now pair.2 with
  | .ok next => next
  | .error _ => pair

/-- An understood packet is answered. -/
theorem answer_of_understood {bytes : Nat} (nonzero : bytes ≠ 0) {packet : FmtpPacket}
    (understood : Understood packet) (now : Instant) (machine : Fmtp.Connection)
    (ctx : ConnectionContext) :
    machine.answer packet bytes now ctx = .ok (hear now (machine, ctx) packet) := by
  obtain ⟨event, translated⟩ := (understood_iff nonzero packet now machine.storage.config
    machine.storage.id).mp understood
  obtain ⟨next, ctx', handled⟩ := machine.handleWithContext_ok_of_remote
    (Event.fromIncomingPacket_remote translated) ctx
  have one := Event.fromIncomingPacket_nonzero Nat.one_ne_zero nonzero packet now
    machine.storage.config machine.storage.id
  simp only [hear, Fmtp.Connection.answer, one, translated, handled]

/-- Any other packet is an error. -/
theorem answer_of_not_understood {bytes : Nat} (nonzero : bytes ≠ 0) {packet : FmtpPacket}
    (strange : ¬ Understood packet) (now : Instant) (machine : Fmtp.Connection)
    (ctx : ConnectionContext) : ∃ fault, machine.answer packet bytes now ctx = .error fault := by
  unfold Fmtp.Connection.answer
  cases translated : Event.fromIncomingPacket bytes packet now machine.storage.config
      machine.storage.id with
  | error fault => exact ⟨fault, rfl⟩
  | ok event => exact absurd ((understood_iff nonzero _ _ _ _).mpr ⟨event, translated⟩) strange

namespace Reception

variable {now : Instant} {reception : Reception} {chunk : Chunk} {packet : SmallPacket}

/-- A read whose decoding or event fails ends the run and changes neither the machine nor the
queues. -/
theorem read_fails {fault : Fault} (runs : reception.result = none)
    (failed : reception.machine.handleRemotePacket (reception.buffer.fill chunk).1
      chunk.1.length now reception.ctx = .error fault) :
    reception.read now chunk =
      { reception with buffer := reception.buffer.fill chunk, result := some fault } := by
  simp only [read, runs, failed]

/-- A read that leaves an understood packet at the front lets the machine hear it. -/
theorem read_hears (runs : reception.result = none) (nonempty : chunk.1 ≠ [])
    (begins : packet.1.intoBytes <+: (reception.buffer.fill chunk).1)
    (understood : Understood packet.1) :
    reception.read now chunk =
      { machine := (hear now (reception.machine, reception.ctx) packet.1).1
        ctx := (hear now (reception.machine, reception.ctx) packet.1).2
        buffer := reception.buffer.fill chunk
        result := none } := by
  have handled : reception.machine.handleRemotePacket (reception.buffer.fill chunk).1
      chunk.1.length now reception.ctx =
      .ok (hear now (reception.machine, reception.ctx) packet.1) := by
    rw [Fmtp.Connection.handleRemotePacket_of_decoded (fromBytes_of_front begins)]
    exact answer_of_understood (mt List.length_eq_zero_iff.mp nonempty) understood now _ _
  simp only [read, runs, handled]

theorem read_ended {fault : Fault} (ended : reception.result = some fault) (chunk : Chunk) :
    reception.read now chunk = reception := by
  rw [read, ended]

/-- A run that has ended keeps what it has. -/
theorem receive_ended {fault : Fault} (ended : reception.result = some fault)
    (chunks : List Chunk) : reception.receive now chunks = reception := by
  induction chunks with
  | nil => rfl
  | cons chunk rest inductionHypothesis =>
    show receive now (reception.read now chunk) rest = reception
    rw [read_ended ended, inductionHypothesis]

/-- After a failed read nothing more is heard. -/
theorem receive_fails (runs : reception.result = none)
    (failed : ∃ fault, reception.machine.handleRemotePacket (reception.buffer.fill chunk).1
      chunk.1.length now reception.ctx = .error fault) (rest : List Chunk) :
    ((reception.receive now (chunk :: rest)).machine,
      (reception.receive now (chunk :: rest)).ctx) = (reception.machine, reception.ctx) := by
  obtain ⟨fault, failed⟩ := failed
  show (((reception.read now chunk).receive now rest).machine,
    ((reception.read now chunk).receive now rest).ctx) = _
  rw [read_fails runs failed, receive_ended rfl]

/-- The reads of a run come to what it hears. -/
theorem receive_eq (now : Instant) (reception : Reception) {chunks : List Chunk}
    {fronts : List SmallPacket} (runs : reception.result = none)
    (nonempty : ∀ chunk ∈ chunks, chunk.1 ≠ [])
    (left : Fronts reception.buffer chunks fronts) :
    ((reception.receive now chunks).machine, (reception.receive now chunks).ctx) =
      (heard fronts).foldl (hear now) (reception.machine, reception.ctx) := by
  induction chunks generalizing reception fronts with
  | nil =>
    obtain rfl : fronts = [] := left
    rfl
  | cons chunk chunks inductionHypothesis =>
    have first : chunk.1 ≠ [] := nonempty chunk List.mem_cons_self
    cases fronts with
    | nil =>
      obtain ⟨fault, refused⟩ := fromBytes_of_no_front left
      refine receive_fails runs ⟨fault, ?_⟩ chunks
      rw [Fmtp.Connection.handleRemotePacket, refused]
    | cons packet fronts =>
      obtain ⟨begins, rest⟩ := left
      rw [heard_cons]
      by_cases understood : Understood packet.1
      · rw [if_pos understood, List.foldl_cons]
        show (((reception.read now chunk).receive now chunks).machine,
          ((reception.read now chunk).receive now chunks).ctx) = _
        rw [read_hears runs first begins understood]
        exact inductionHypothesis _ rfl
          (fun other member => nonempty other (List.mem_cons_of_mem _ member)) rest
      · rw [if_neg understood]
        obtain ⟨fault, refused⟩ := answer_of_not_understood
          (mt List.length_eq_zero_iff.mp first) understood now reception.machine reception.ctx
        refine receive_fails runs ⟨fault, ?_⟩ chunks
        rw [Fmtp.Connection.handleRemotePacket_of_decoded (fromBytes_of_front begins), refused]

/-- Two receptions of one machine agree where what they hear comes to the same. -/
theorem agrees_iff {machine : Fmtp.Connection} {ctx : ConnectionContext} {buffer buffer' : Buffer}
    {chunks : List Chunk} {fronts packets : List SmallPacket}
    (nonempty : ∀ chunk ∈ chunks, chunk.1 ≠ []) (left : Fronts buffer chunks fronts) :
    ((new machine ctx buffer).receive now chunks).Agrees
        ((new machine ctx buffer').receive now (packets.map SmallPacket.chunk)) ↔
      (heard fronts).foldl (hear now) (machine, ctx) =
        (heard packets).foldl (hear now) (machine, ctx) := by
  have reads := receive_eq now (new machine ctx buffer) rfl nonempty left
  have whole := receive_eq now (new machine ctx buffer') rfl
    (SmallPacket.chunk_nonempty packets) (fronts_whole buffer' packets)
  dsimp only [new] at reads whole
  rw [← reads, ← whole, Prod.mk.injEq]
  exact ⟨fun agrees => ⟨agrees.machine, agrees.ctx⟩, fun same => ⟨same.1, same.2⟩⟩

end Reception

end Fmtp.Tokio
