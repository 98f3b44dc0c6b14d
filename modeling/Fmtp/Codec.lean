/-
This file proves when decoding undoes encoding. The header survives the round trip for
every length; the packet survives it exactly when its length field, which counts the
5-byte header, stays within the limit that the decoder applies to it.
-/

import Fmtp.Packet

namespace Fmtp

/-! ### The header round trip -/

theorem FmtpType.ofByte_toByte (typ : FmtpType) : FmtpType.ofByte typ.toByte = some typ := by
  cases typ <;> rfl

theorem ofBigEndian_bigEndian (length : UInt16) :
    ofBigEndian (bigEndian length).1 (bigEndian length).2 = length := by
  have bound : length.toNat < 65536 := length.toNat_lt
  have high : (UInt8.ofNat (length.toNat / 256)).toNat = length.toNat / 256 := by
    rw [UInt8.toNat_ofNat']
    omega
  have low : (UInt8.ofNat (length.toNat % 256)).toNat = length.toNat % 256 := by
    rw [UInt8.toNat_ofNat']
    omega
  have digits : length.toNat / 256 * 256 + length.toNat % 256 = length.toNat := by omega
  rw [ofBigEndian, bigEndian, high, low, digits, UInt16.ofNat_toNat]

namespace FmtpPacketHeader

/-- Reading the header of a buffer that starts with an encoded header gives it back. -/
theorem tryRefFromPrefix_asBytes (header : FmtpPacketHeader) (rest : List Byte) :
    tryRefFromPrefix (header.asBytes ++ rest) = .ok (header, rest) := by
  obtain ⟨version, reserved, length, typ⟩ := header
  cases version
  cases reserved
  simp only [asBytes, List.cons_append, List.nil_append, tryRefFromPrefix, FmtpVersion.toByte,
    FmtpReserved.toByte, FmtpVersion.ofByte, FmtpReserved.ofByte, FmtpType.ofByte_toByte,
    ofBigEndian_bigEndian, if_true]

theorem asBytes_length (header : FmtpPacketHeader) : header.asBytes.length = 5 := rfl

end FmtpPacketHeader

namespace FmtpPacket

/-! ### The packet round trip -/

/-- An encoding is as long as its length field says. -/
theorem intoBytes_length (packet : FmtpPacket) :
    packet.intoBytes.length = packet.header.length.toNat := by
  rw [intoBytes, List.length_append, FmtpPacketHeader.asBytes_length, packet.length_eq]

/-- An encoding has a header. -/
theorem intoBytes_ne_nil (packet : FmtpPacket) : packet.intoBytes ≠ [] := by
  rw [intoBytes]
  exact List.append_ne_nil_of_left_ne_nil (List.cons_ne_nil _ _) _

/-- Within the decoder's limit, a packet comes back whatever follows it in the buffer. -/
theorem fromBytes_intoBytes (packet : FmtpPacket) (trailing : List Byte)
    (small : packet.data.length ≤ 10235) :
    fromBytes (packet.intoBytes ++ trailing) = .ok packet := by
  have length := packet.length_eq
  have payload : packet.header.length.toNat - 5 = packet.data.length := by omega
  have taken : (packet.data ++ trailing).take (packet.header.length.toNat - 5) = packet.data := by
    rw [payload, List.take_left]
  have fits : packet.header.length.toNat - 5 ≤ (packet.data ++ trailing).length := by
    rw [payload, List.length_append]
    omega
  rw [fromBytes, intoBytes, List.append_assoc, FmtpPacketHeader.tryRefFromPrefix_asBytes]
  show (if large : 10240 < packet.header.length.toNat then _ else _) = _
  rw [dif_neg (by omega), dif_neg (by omega), dif_pos fits]
  obtain ⟨header, data, length_eq, data_le⟩ := packet
  simp only [taken]

/-- Beyond the decoder's limit, a packet is refused with the error about its payload. -/
theorem fromBytes_intoBytes_large (packet : FmtpPacket) (trailing : List Byte)
    (large : 10235 < packet.data.length) :
    fromBytes (packet.intoBytes ++ trailing) =
      .error (.error "Payload must be of size 10240 bytes or less.") := by
  have length := packet.length_eq
  rw [fromBytes, intoBytes, List.append_assoc, FmtpPacketHeader.tryRefFromPrefix_asBytes]
  show (if large : 10240 < packet.header.length.toNat then _ else _) = _
  rw [dif_pos (by omega)]

/-- Decoding an accepted packet returns it exactly for payloads of at most 10235 bytes. -/
theorem fromBytes_new_iff (typ : FmtpType) (data : List Byte) (packet : FmtpPacket)
    (accepted : new typ data = .ok packet) (trailing : List Byte) :
    fromBytes (packet.intoBytes ++ trailing) = .ok packet ↔ data.length ≤ 10235 := by
  have payload : packet.data = data := by
    unfold new at accepted
    split at accepted
    · cases accepted
    · cases accepted
      rfl
  constructor
  · intro decoded
    by_contra large
    rw [fromBytes_intoBytes_large packet trailing (by rw [payload]; omega)] at decoded
    cases decoded
  · intro small
    exact fromBytes_intoBytes packet trailing (by rw [payload]; exact small)

theorem fromBytes_new_startup :
    fromBytes (startup.intoBytes ++ [2, 0]) = .ok startup ↔ startupPayload.length ≤ 10235 :=
  fromBytes_new_iff .system startupPayload startup rfl [2, 0]

/-- A payload of 10236 bytes is accepted by the constructor and refused by the decoder. -/
theorem fromBytes_new_10236 :
    ∃ packet, new .operational (List.replicate 10236 0) = .ok packet ∧
      fromBytes (packet.intoBytes ++ []) ≠ .ok packet := by
  have accepted : (List.replicate 10236 (0 : Byte)).length ≤ 10240 := by
    rw [List.length_replicate]
    omega
  refine ⟨_, new_eq_ok accepted, ?_⟩
  rw [fromBytes_intoBytes_large]
  · intro decoded
    cases decoded
  · show 10235 < (List.replicate 10236 (0 : Byte)).length
    rw [List.length_replicate]
    omega

/-! ### Messages that fit a packet -/

/-- A message fits a packet exactly up to the size that its constructors check. -/
theorem fromMsg_ok_iff (msg : FmtpMessage) :
    (∃ packet, fromMsg msg = .ok packet) ↔ msg.data.length ≤ 10240 := by
  have unwrapped (typ : FmtpType) (data : List Byte) :
      (∃ packet, unwrap (new typ data) = .ok packet) ↔ data.length ≤ 10240 := by
    constructor
    · rintro ⟨packet, built⟩
      by_contra large
      rw [new, dif_pos (Nat.lt_of_not_le large)] at built
      cases built
    · intro small
      rw [new_eq_ok small]
      exact ⟨_, rfl⟩
  cases msg with
  | operational data => exact unwrapped .operational data
  | operator data => exact unwrapped .operator data

end FmtpPacket

end Fmtp
