/-
This file follows bytes that nobody vouches for. The decoder answers every buffer in one of four
ways, and panics where the length field of a well-formed header, which the peer chooses, counts
less than the header itself or more than the buffer holds.
-/

import Fmtp.Recognition

namespace Fmtp

/-! ### What the decoder answers -/

theorem FmtpType.toByte_ofByte {byte : Byte} {typ : FmtpType} (read : ofByte byte = some typ) :
    typ.toByte = byte := by
  unfold ofByte at read
  split_ifs at read with operational operator identification system
  · obtain rfl := Option.some.inj read
    exact operational.symm
  · obtain rfl := Option.some.inj read
    exact operator.symm
  · obtain rfl := Option.some.inj read
    exact identification.symm
  · obtain rfl := Option.some.inj read
    exact system.symm

theorem bigEndian_ofBigEndian (high low : Byte) :
    bigEndian (ofBigEndian high low) = (high, low) := by
  have highBound : high.toNat < 256 := high.toNat_lt
  have lowBound : low.toNat < 256 := low.toNat_lt
  have value : (ofBigEndian high low).toNat = high.toNat * 256 + low.toNat := by
    rw [ofBigEndian, UInt16.toNat_ofNat']
    omega
  have first : (high.toNat * 256 + low.toNat) / 256 = high.toNat := by omega
  have second : (high.toNat * 256 + low.toNat) % 256 = low.toNat := by omega
  rw [bigEndian, value, first, second, UInt8.ofNat_toNat, UInt8.ofNat_toNat]

namespace FmtpPacketHeader

/-- A header is read exactly from the bytes it is written as. -/
theorem tryRefFromPrefix_eq_ok {bytes rest : List Byte} {header : FmtpPacketHeader} :
    tryRefFromPrefix bytes = .ok (header, rest) ↔ bytes = header.asBytes ++ rest := by
  constructor
  · intro read
    unfold tryRefFromPrefix at read
    split at read
    · split at read
      · rename_i version reserved high low typ rest' _ _ _ version' reserved' typ' known clear named
        obtain ⟨rfl, rfl⟩ := Prod.mk.inj (Except.ok.inj read)
        have two : version = FmtpVersion.toByte version' := by
          unfold FmtpVersion.ofByte at known
          split_ifs at known with same
          obtain rfl := Option.some.inj known
          exact same
        have zero : reserved = FmtpReserved.toByte reserved' := by
          unfold FmtpReserved.ofByte at clear
          split_ifs at clear with same
          obtain rfl := Option.some.inj clear
          exact same
        simp only [asBytes, bigEndian_ofBigEndian, FmtpType.toByte_ofByte named, ← two, ← zero,
          List.cons_append, List.nil_append]
      · cases read
    · cases read
  · rintro rfl
    exact tryRefFromPrefix_asBytes header rest

/-- The length field passes the decoder's limit but not its arithmetic: it counts less than the
header, or more than a buffer of `size` bytes. -/
def Overruns (header : FmtpPacketHeader) (size : Nat) : Prop :=
  header.length.toNat ≤ 10240 ∧ (header.length.toNat < 5 ∨ size < header.length.toNat)

end FmtpPacketHeader

/-- A fault that unwinds the task, and not an `Err`. -/
def Fault.Panics : Fault → Prop
  | .panic _ => True
  | .error _ | .decode _ => False

def Panics {Value : Type} (outcome : Outcome Value) : Prop :=
  ∃ fault, outcome = .error fault ∧ fault.Panics

@[simp] theorem panics_error {Value : Type} {fault : Fault} :
    Panics (.error fault : Outcome Value) ↔ fault.Panics := by
  constructor
  · rintro ⟨fault', same, panics⟩
    obtain rfl := Except.error.inj same
    exact panics
  · exact fun panics => ⟨fault, rfl, panics⟩

@[simp] theorem not_panics_ok {Value : Type} (value : Value) : ¬ Panics (.ok value) := by
  rintro ⟨fault, failed, _⟩
  cases failed

namespace FmtpPacket

variable {bytes rest : List Byte} {header : FmtpPacketHeader}

theorem fromBytes_malformed
    (malformed : ∀ (header : FmtpPacketHeader) rest, bytes ≠ header.asBytes ++ rest) :
    ∃ cause, fromBytes bytes = .error (.decode cause) := by
  unfold fromBytes
  cases read : FmtpPacketHeader.tryRefFromPrefix bytes with
  | error cause => exact ⟨cause, rfl⟩
  | ok pair =>
    exact absurd (FmtpPacketHeader.tryRefFromPrefix_eq_ok.mp read) (malformed pair.1 pair.2)

theorem fromBytes_large (large : 10240 < header.length.toNat) :
    fromBytes (header.asBytes ++ rest) =
      .error (.error "Payload must be of size 10240 bytes or less.") := by
  rw [fromBytes, FmtpPacketHeader.tryRefFromPrefix_asBytes]
  dsimp only
  rw [dif_pos large]

theorem fromBytes_overruns (overruns : header.Overruns (header.asBytes ++ rest).length) :
    ∃ message, fromBytes (header.asBytes ++ rest) = .error (.panic message) := by
  obtain ⟨small, short | long⟩ := overruns
  · rw [fromBytes, FmtpPacketHeader.tryRefFromPrefix_asBytes]
    dsimp only
    rw [dif_neg (Nat.not_lt.mpr small), dif_pos short]
    exact ⟨_, rfl⟩
  · rw [List.length_append, header.asBytes_length] at long
    rw [fromBytes, FmtpPacketHeader.tryRefFromPrefix_asBytes]
    dsimp only
    rw [dif_neg (Nat.not_lt.mpr small), dif_neg (by omega), dif_neg (by omega)]
    exact ⟨_, rfl⟩

/-- Any other header has its payload behind it. -/
theorem fromBytes_whole (small : header.length.toNat ≤ 10240)
    (clear : ¬ header.Overruns (header.asBytes ++ rest).length) :
    ∃ packet : FmtpPacket, packet.header = header ∧
      packet.data = rest.take (header.length.toNat - 5) ∧
      fromBytes (header.asBytes ++ rest) = .ok packet := by
  have within := mt (fun overruns => ⟨small, overruns⟩) clear
  rw [not_or, Nat.not_lt, Nat.not_lt, List.length_append, header.asBytes_length] at within
  rw [fromBytes, FmtpPacketHeader.tryRefFromPrefix_asBytes]
  dsimp only
  rw [dif_neg (Nat.not_lt.mpr small), dif_neg (by omega), dif_pos (by omega)]
  exact ⟨_, rfl, rfl, rfl⟩

/-- Without a header that passes the limit, the decoder returns an error. -/
theorem fromBytes_refuses
    (beyond : ∀ (header : FmtpPacketHeader) rest, bytes = header.asBytes ++ rest →
      10240 < header.length.toNat) :
    ∃ fault, fromBytes bytes = .error fault ∧ ¬ fault.Panics := by
  by_cases formed : ∃ (header : FmtpPacketHeader) (rest : List Byte),
      bytes = header.asBytes ++ rest
  · obtain ⟨header, rest, rfl⟩ := formed
    exact ⟨_, fromBytes_large (beyond header rest rfl), not_false⟩
  · obtain ⟨cause, refused⟩ :=
      fromBytes_malformed fun header rest same => formed ⟨header, rest, same⟩
    exact ⟨_, refused, not_false⟩

/-- The decoder refuses the bytes, panics on their header or returns their packet. -/
theorem fromBytes_cases (bytes : List Byte) :
    (∃ fault, fromBytes bytes = .error fault ∧ ¬ fault.Panics) ∨
      (∃ (header : FmtpPacketHeader) (rest : List Byte), bytes = header.asBytes ++ rest ∧
        header.Overruns bytes.length ∧ ∃ message, fromBytes bytes = .error (.panic message)) ∨
      ∃ (packet : FmtpPacket) (rest : List Byte), bytes = packet.header.asBytes ++ rest ∧
        packet.header.length.toNat ≤ 10240 ∧
        packet.data = rest.take (packet.header.length.toNat - 5) ∧
        fromBytes bytes = .ok packet := by
  by_cases passed : ∃ (header : FmtpPacketHeader) (rest : List Byte),
      bytes = header.asBytes ++ rest ∧ header.length.toNat ≤ 10240
  · obtain ⟨header, rest, rfl, small⟩ := passed
    by_cases overruns : header.Overruns (header.asBytes ++ rest).length
    · exact Or.inr (Or.inl ⟨header, rest, rfl, overruns, fromBytes_overruns overruns⟩)
    · obtain ⟨packet, rfl, payload, decoded⟩ := fromBytes_whole small overruns
      exact Or.inr (Or.inr ⟨packet, rest, rfl, small, payload, decoded⟩)
  · refine Or.inl (fromBytes_refuses fun header rest same => ?_)
    exact Nat.lt_of_not_le fun small => passed ⟨header, rest, same, small⟩

end FmtpPacket

/-! ### Exactly when a received buffer makes the receiver panic -/

/-- The decoder panics exactly on a well-formed header that overruns the buffer. -/
theorem FmtpPacket.fromBytes_panics_iff (bytes : List Byte) :
    Panics (fromBytes bytes) ↔
      ∃ (header : FmtpPacketHeader) (rest : List Byte),
        bytes = header.asBytes ++ rest ∧ header.Overruns bytes.length := by
  constructor
  · intro panics
    rcases fromBytes_cases bytes with
      ⟨fault, refused, calm⟩ | ⟨header, rest, same, overruns, _⟩ | ⟨packet, _, _, _, _, decoded⟩
    · rw [refused, panics_error] at panics
      exact absurd panics calm
    · exact ⟨header, rest, same, overruns⟩
    · rw [decoded] at panics
      exact absurd panics (not_panics_ok packet)
  · rintro ⟨header, rest, rfl, overruns⟩
    obtain ⟨message, failed⟩ := fromBytes_overruns overruns
    exact ⟨.panic message, failed, trivial⟩

/-- A packet is translated into an event or refused with an error. -/
theorem Event.fromIncomingPacket_not_panics (bytes : Nat) (packet : FmtpPacket) (now : Instant)
    (config : Config) (connectionId : Option String) :
    ¬ Panics (fromIncomingPacket bytes packet now config connectionId) := by
  rintro ⟨fault, failed, panics⟩
  cases fault with
  | error message => exact panics
  | decode cause => exact panics
  | panic message =>
    unfold fromIncomingPacket FmtpPacket.tryToMsg at failed
    cases typ : packet.header.typ with
    | operational | operator =>
      simp only [typ] at failed
      split at failed
      · cases failed
      · cases failed
    | identification | system =>
      simp only [typ] at failed
      repeat' split at failed
      all_goals cases failed

namespace Connection

/-- What a packet stands for is always dispatched. -/
theorem handleWithContext_ok_of_remote (connection : Connection) {event : Event}
    (remote : event.Remote = true) (context : ConnectionContext) :
    ∃ next context', connection.handleWithContext event context = .ok (next, context') := by
  refine connection.handleWithContext_ok context ?_
  rintro now msg rfl
  cases remote

/-- The receiver panics exactly where the decoder does. -/
theorem handleRemotePacket_panics_iff (connection : Connection) (bytes : List Byte)
    (received : Nat) (now : Instant) (context : ConnectionContext) :
    Panics (connection.handleRemotePacket bytes received now context) ↔
      Panics (FmtpPacket.fromBytes bytes) := by
  unfold handleRemotePacket
  cases decoded : FmtpPacket.fromBytes bytes with
  | error fault => exact panics_error.trans panics_error.symm
  | ok packet =>
    have translation := Event.fromIncomingPacket_not_panics received packet now
      connection.storage.config connection.storage.id
    refine iff_of_false ?_ (not_panics_ok packet)
    dsimp only
    cases translated : Event.fromIncomingPacket received packet now connection.storage.config
        connection.storage.id with
    | error fault =>
      rw [translated, panics_error] at translation
      exact fun panics => translation (panics_error.mp panics)
    | ok event =>
      obtain ⟨next, context', handled⟩ := connection.handleWithContext_ok_of_remote
        (Event.fromIncomingPacket_remote translated) context
      dsimp only
      rw [handled]
      exact not_panics_ok _

end Connection

/-- Neither the decoder nor the receiver panics on a buffer, whatever the connection and the number
of bytes received, exactly where the buffer does not begin with a well-formed header that
overruns it. Instants are numbers here: that the time of a packet and a configured duration add up
to an instant is assumed. -/
theorem receiver_safe_exact (bytes : List Byte) (connection : Connection) (received : Nat)
    (now : Instant) (context : ConnectionContext) :
    (¬ Panics (FmtpPacket.fromBytes bytes) ∧
      ¬ Panics (connection.handleRemotePacket bytes received now context)) ↔
      ∀ (header : FmtpPacketHeader) (rest : List Byte),
        bytes = header.asBytes ++ rest → ¬ header.Overruns bytes.length := by
  rw [connection.handleRemotePacket_panics_iff, and_self_iff, FmtpPacket.fromBytes_panics_iff]
  constructor
  · intro clear header rest same overruns
    exact clear ⟨header, rest, same, overruns⟩
  · rintro clear ⟨header, rest, same, overruns⟩
    exact clear header rest same overruns

/-- Five bytes whose length field is 0 make every receiver panic. -/
theorem receiver_panics : ¬ ∀ (bytes : List Byte) (connection : Connection) (received : Nat)
    (now : Instant) (context : ConnectionContext), ¬ Panics (FmtpPacket.fromBytes bytes) ∧
      ¬ Panics (connection.handleRemotePacket bytes received now context) := by
  intro claim
  exact (claim [2, 0, 0, 0, 1] (.new Sample.serverConfig none) 5 0 .empty).1
    ⟨.panic "attempt to subtract with overflow", rfl, trivial⟩

end Fmtp
