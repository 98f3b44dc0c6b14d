/-
This file says what a frame is on the wire. The decoder accepts the bytes that begin with a whole
frame, and the packet it returns is written as that frame again. The encodings of the packets
form a prefix code, so a stream of them has one reading, whatever the payloads look like.
-/

import Fmtp.PrefixCode
import Fmtp.Received

namespace Fmtp

open PrefixCode

/-! ### Frames -/

/-- The big-endian number in the third and the fourth byte. -/
def announced (bytes : List Byte) : Nat :=
  (bytes.getD 2 0).toNat * 256 + (bytes.getD 3 0).toNat

/-- The bytes begin with a whole frame of at most 10240 bytes. -/
structure Framed (bytes : List Byte) : Prop where
  header : 5 ≤ bytes.length
  version : bytes.getD 0 0 = 2
  reserved : bytes.getD 1 0 = 0
  typ : 1 ≤ bytes.getD 4 0 ∧ bytes.getD 4 0 ≤ 4
  least : 5 ≤ announced bytes
  most : announced bytes ≤ 10240
  whole : announced bytes ≤ bytes.length

/-- The bytes 1 to 4 are those of the types. -/
theorem FmtpType.exists_toByte {byte : Byte} (least : 1 ≤ byte) (most : byte ≤ 4) :
    ∃ typ : FmtpType, typ.toByte = byte := by
  have low : 1 ≤ byte.toNat := least
  have high : byte.toNat ≤ 4 := most
  have value : byte.toNat = 1 ∨ byte.toNat = 2 ∨ byte.toNat = 3 ∨ byte.toNat = 4 := by omega
  rcases value with one | two | three | four
  · exact ⟨.operational, UInt8.toNat_inj.mp one.symm⟩
  · exact ⟨.operator, UInt8.toNat_inj.mp two.symm⟩
  · exact ⟨.identification, UInt8.toNat_inj.mp three.symm⟩
  · exact ⟨.system, UInt8.toNat_inj.mp four.symm⟩

theorem FmtpType.toByte_bounds (typ : FmtpType) : 1 ≤ typ.toByte ∧ typ.toByte ≤ 4 := by
  cases typ <;> decide

theorem ofBigEndian_toNat (high low : Byte) :
    (ofBigEndian high low).toNat = high.toNat * 256 + low.toNat := by
  have highBound : high.toNat < 256 := high.toNat_lt
  have lowBound : low.toNat < 256 := low.toNat_lt
  rw [ofBigEndian, UInt16.toNat_ofNat']
  omega

/-- Five bytes or more have the shape of a header with a rest. -/
theorem exists_cons_of_five {bytes : List Byte} (long : 5 ≤ bytes.length) :
    ∃ first second third fourth fifth rest,
      bytes = first :: second :: third :: fourth :: fifth :: rest :=
  match bytes, long with
  | first :: second :: third :: fourth :: fifth :: rest, _ =>
    ⟨first, second, third, fourth, fifth, rest, rfl⟩

namespace FmtpPacketHeader

/-- The length of a header is the number its bytes announce. -/
theorem announced_asBytes (header : FmtpPacketHeader) (rest : List Byte) :
    announced (header.asBytes ++ rest) = header.length.toNat := by
  show (bigEndian header.length).1.toNat * 256 + (bigEndian header.length).2.toNat = _
  rw [← ofBigEndian_toNat, ofBigEndian_bigEndian]

/-- A frame begins with a header, whose length stays within the decoder's limit and the bytes. -/
theorem exists_of_framed {bytes : List Byte} (framed : Framed bytes) :
    ∃ (header : FmtpPacketHeader) (rest : List Byte), bytes = header.asBytes ++ rest ∧
      header.length.toNat ≤ 10240 ∧ ¬ header.Overruns bytes.length := by
  obtain ⟨long, version, reserved, ⟨typLeast, typMost⟩, least, most, whole⟩ := framed
  obtain ⟨first, second, high, low, fifth, rest, rfl⟩ := exists_cons_of_five long
  obtain rfl : first = 2 := version
  obtain rfl : second = 0 := reserved
  obtain ⟨typ, rfl⟩ : ∃ typ : FmtpType, typ.toByte = fifth :=
    FmtpType.exists_toByte typLeast typMost
  let header : FmtpPacketHeader := ⟨.x02, .x00, ofBigEndian high low, typ⟩
  have same : (2 : Byte) :: 0 :: high :: low :: typ.toByte :: rest = header.asBytes ++ rest := by
    show _ = [_, _, (bigEndian (ofBigEndian high low)).1, (bigEndian (ofBigEndian high low)).2,
      _] ++ rest
    rw [bigEndian_ofBigEndian]
    rfl
  rw [same, header.announced_asBytes] at least most whole
  refine ⟨header, rest, same, most, ?_⟩
  rw [same]
  rintro ⟨_, short | beyond⟩
  · exact absurd least (Nat.not_le.mpr short)
  · exact absurd whole (Nat.not_le.mpr beyond)

end FmtpPacketHeader

/-! ### What the decoder accepts -/

namespace FmtpPacket

variable {bytes : List Byte} {packet : FmtpPacket}

/-- The decoder returns the packet whose encoding, of at most 10240 bytes, begins the bytes. -/
theorem fromBytes_eq_ok :
    fromBytes bytes = .ok packet ↔
      packet.header.length.toNat ≤ 10240 ∧ packet.intoBytes <+: bytes := by
  constructor
  · intro decoded
    rcases fromBytes_cases bytes with
      ⟨fault, refused, _⟩ | ⟨_, _, _, _, message, failed⟩ |
        ⟨packet', rest, rfl, small, payload, decoded'⟩
    · cases refused.symm.trans decoded
    · cases failed.symm.trans decoded
    · obtain rfl : packet' = packet := Except.ok.inj (decoded'.symm.trans decoded)
      refine ⟨small, ?_⟩
      rw [intoBytes, payload, List.prefix_append_right_inj]
      exact List.take_prefix _ rest
  · rintro ⟨small, trailing, rfl⟩
    have length := packet.length_eq
    exact fromBytes_intoBytes packet trailing (by omega)

/-- The front of the bytes is a frame exactly where the decoder accepts it. -/
theorem fromBytes_accepts : (∃ packet, fromBytes bytes = .ok packet) ↔ Framed bytes := by
  constructor
  · rintro ⟨packet, decoded⟩
    obtain ⟨small, trailing, rfl⟩ := fromBytes_eq_ok.mp decoded
    have length := packet.length_eq
    have size : (packet.intoBytes ++ trailing).length =
        packet.header.length.toNat + trailing.length := by
      rw [List.length_append, packet.intoBytes_length]
    have front : announced (packet.intoBytes ++ trailing) = packet.header.length.toNat := by
      rw [intoBytes, List.append_assoc, FmtpPacketHeader.announced_asBytes]
    refine ⟨by omega, ?_, ?_, packet.header.typ.toByte_bounds, ?_, ?_, ?_⟩
    · cases version : packet.header.version
      show packet.header.version.toByte = 2
      rw [version]
      rfl
    · cases reserved : packet.header.reserved
      show packet.header.reserved.toByte = 0
      rw [reserved]
      rfl
    · omega
    · omega
    · omega
  · intro framed
    obtain ⟨header, rest, rfl, small, clear⟩ := FmtpPacketHeader.exists_of_framed framed
    obtain ⟨packet, _, _, decoded⟩ := fromBytes_whole small clear
    exact ⟨packet, decoded⟩

/-- An accepted packet is written as the announced number of bytes at the front. -/
theorem intoBytes_of_fromBytes (decoded : fromBytes bytes = .ok packet) :
    packet.intoBytes = bytes.take (announced bytes) := by
  obtain ⟨_, trailing, rfl⟩ := fromBytes_eq_ok.mp decoded
  have front : announced (packet.intoBytes ++ trailing) = packet.intoBytes.length := by
    rw [packet.intoBytes_length, intoBytes, List.append_assoc, FmtpPacketHeader.announced_asBytes]
  rw [front, List.take_left]

end FmtpPacket

/-- The decoder accepts exactly the bytes that begin with a whole frame. The packet it returns is
written as the announced number of bytes at their front, and is decoded from them again. -/
theorem decoder_exact (bytes : List Byte) :
    ((∃ packet, FmtpPacket.fromBytes bytes = .ok packet) ↔ Framed bytes) ∧
      ∀ packet, FmtpPacket.fromBytes bytes = .ok packet →
        packet.intoBytes = bytes.take (announced bytes) ∧
          FmtpPacket.fromBytes packet.intoBytes = .ok packet := by
  refine ⟨FmtpPacket.fromBytes_accepts, fun packet decoded => ?_⟩
  have small := (FmtpPacket.fromBytes_eq_ok.mp decoded).1
  exact ⟨FmtpPacket.intoBytes_of_fromBytes decoded,
    FmtpPacket.fromBytes_eq_ok.mpr ⟨small, List.prefix_refl _⟩⟩

/-! ### Streams of packets -/

namespace FmtpPacket

/-- Every packet is what the constructor makes of its type and its payload. -/
theorem new_typ_data (packet : FmtpPacket) :
    new packet.header.typ packet.data = .ok packet := by
  obtain ⟨⟨version, reserved, length, typ⟩, data, length_eq, data_le⟩ := packet
  have same : 5 + UInt16.ofNat data.length = length :=
    UInt16.toNat_inj.mp ((length_toNat data_le).trans length_eq.symm)
  subst same
  exact new_eq_ok data_le

theorem ext_of_header {packet packet' : FmtpPacket} (front : packet.header = packet'.header)
    (payload : packet.data = packet'.data) : packet = packet' := by
  obtain ⟨header, data, _, _⟩ := packet
  obtain ⟨header', data', _, _⟩ := packet'
  obtain rfl : header = header' := front
  obtain rfl : data = data' := payload
  rfl

/-- The header at the front and the payload it announces. -/
def readFront (bytes : List Byte) : Option (FmtpPacketHeader × List Byte) :=
  match FmtpPacketHeader.tryRefFromPrefix bytes with
  | .ok (header, rest) => some (header, rest.take (header.length.toNat - 5))
  | .error _ => none

theorem readFront_intoBytes (packet : FmtpPacket) (rest : List Byte) :
    readFront (packet.intoBytes ++ rest) = some (packet.header, packet.data) := by
  have payload : packet.header.length.toNat - 5 = packet.data.length := by
    rw [packet.length_eq, Nat.add_sub_cancel_left]
  rw [readFront, intoBytes, List.append_assoc, FmtpPacketHeader.tryRefFromPrefix_asBytes]
  dsimp only
  rw [payload, List.take_left]

/-- A packet's length field tells where its encoding ends. -/
theorem prefixFree : PrefixFree intoBytes := by
  refine .of_reader readFront (fun packet => some (packet.header, packet.data)) ?_
    intoBytes_ne_nil readFront_intoBytes
  intro packet packet' same
  obtain ⟨front, payload⟩ := Prod.mk.inj (Option.some.inj same)
  exact ext_of_header front payload

end FmtpPacket

/-- Two lists of packets with the same stream of bytes are the same list. No encoding begins
another one. Every packet is built by the constructor, and the length field of an accepted
payload is the length of its encoding. -/
theorem stream_decodable :
    (Function.Injective fun packets : List FmtpPacket => packets.flatMap FmtpPacket.intoBytes) ∧
      InformationTheory.UniquelyDecodable (Set.range FmtpPacket.intoBytes) ∧
      (∀ packet packet' : FmtpPacket, packet.intoBytes <+: packet'.intoBytes →
        packet = packet') ∧
      (∀ packet : FmtpPacket, FmtpPacket.new packet.header.typ packet.data = .ok packet) ∧
      ∀ (typ : FmtpType) (data : List Byte) (packet : FmtpPacket),
        FmtpPacket.new typ data = .ok packet →
          packet.header.length.toNat = packet.intoBytes.length ∧
            packet.intoBytes.length = 5 + data.length := by
  refine ⟨FmtpPacket.prefixFree.flatMap_injective, FmtpPacket.prefixFree.uniquelyDecodable,
    fun packet packet' => FmtpPacket.prefixFree.eq_of_begins, FmtpPacket.new_typ_data, ?_⟩
  intro typ data packet accepted
  refine ⟨packet.intoBytes_length.symm, ?_⟩
  unfold FmtpPacket.new at accepted
  split at accepted
  · cases accepted
  · rename_i small
    obtain rfl := Except.ok.inj accepted
    rw [FmtpPacket.intoBytes_length]
    exact FmtpPacket.length_toNat (Nat.le_of_not_lt small)

end Fmtp
