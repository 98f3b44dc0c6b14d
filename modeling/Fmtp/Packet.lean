/-
This file models FMTP messages and packets: the 5-byte header with its big-endian length,
construction, encoding and decoding, the packets of the handshake and of the association,
and the checks that recognise them.
-/

import Fmtp.Config

namespace Fmtp

/-! ### Messages -/

/-- A message between users. The variants are public, so a value may hold any bytes; only
the two constructors below check the length. -/
inductive FmtpMessage
  | operational (data : List Byte)
  | operator (data : List Byte)
deriving DecidableEq, Repr

namespace FmtpMessage

def newOperational (data : List Byte) : Outcome FmtpMessage :=
  if 10240 < data.length then
    .error (.error "Payload must be of size 10240 bytes or less.")
  else
    .ok (.operational data)

def newOperator (data : List Byte) : Outcome FmtpMessage :=
  if 10240 < data.length then
    .error (.error "Payload must be of size 10240 bytes or less.")
  else
    .ok (.operator data)

def data : FmtpMessage → List Byte
  | .operator data | .operational data => data

end FmtpMessage

/-! ### The header -/

inductive FmtpVersion
  | x02
deriving DecidableEq, Repr

inductive FmtpReserved
  | x00
deriving DecidableEq, Repr

inductive FmtpType
  | operational
  | operator
  | identification
  | system
deriving DecidableEq, Repr

def FmtpVersion.toByte : FmtpVersion → Byte
  | .x02 => 0x02

def FmtpReserved.toByte : FmtpReserved → Byte
  | .x00 => 0x00

def FmtpType.toByte : FmtpType → Byte
  | .operational => 1
  | .operator => 2
  | .identification => 3
  | .system => 4

def FmtpVersion.ofByte (byte : Byte) : Option FmtpVersion :=
  if byte = 0x02 then some .x02 else none

def FmtpReserved.ofByte (byte : Byte) : Option FmtpReserved :=
  if byte = 0x00 then some .x00 else none

def FmtpType.ofByte (byte : Byte) : Option FmtpType :=
  if byte = 1 then some .operational
  else if byte = 2 then some .operator
  else if byte = 3 then some .identification
  else if byte = 4 then some .system
  else none

/-- The bytes of a big-endian `U16`. -/
def bigEndian (length : UInt16) : Byte × Byte :=
  (UInt8.ofNat (length.toNat / 256), UInt8.ofNat (length.toNat % 256))

def ofBigEndian (high low : Byte) : UInt16 :=
  UInt16.ofNat (high.toNat * 256 + low.toNat)

structure FmtpPacketHeader where
  version : FmtpVersion
  reserved : FmtpReserved
  length : UInt16
  typ : FmtpType
deriving DecidableEq, Repr

def FmtpPacketHeader.asBytes (header : FmtpPacketHeader) : List Byte :=
  [header.version.toByte, header.reserved.toByte, (bigEndian header.length).1,
    (bigEndian header.length).2, header.typ.toByte]

/-- The packed header at the front of a buffer, every enumeration byte checked, and the bytes
after it. -/
def FmtpPacketHeader.tryRefFromPrefix :
    List Byte → Except CastError (FmtpPacketHeader × List Byte)
  | version :: reserved :: high :: low :: typ :: rest =>
    match FmtpVersion.ofByte version, FmtpReserved.ofByte reserved, FmtpType.ofByte typ with
    | some version, some reserved, some typ =>
      .ok ({ version, reserved, length := ofBigEndian high low, typ }, rest)
    | _, _, _ => .error .validity
  | _ => .error .size

/-! ### Packets -/

/-- A packet. The payload and the length field are private to their module, whose two constructors
make the length count the header and the payload. Only the type can be written from outside. -/
structure FmtpPacket where
  header : FmtpPacketHeader
  data : List Byte
  length_eq : header.length.toNat = 5 + data.length
  data_le : data.length ≤ 10240
deriving DecidableEq

namespace FmtpPacket

theorem length_toNat {size : Nat} (small : size ≤ 10240) :
    (5 + UInt16.ofNat size).toNat = 5 + size := by
  rw [UInt16.toNat_add, UInt16.toNat_ofNat', show (5 : UInt16).toNat = 5 from rfl]
  omega

/-- The packet of a type and a payload within the limit. -/
def ofPayload (typ : FmtpType) (data : List Byte) (small : data.length ≤ 10240) : FmtpPacket where
  header :=
    { version := .x02
      reserved := .x00
      length := 5 + UInt16.ofNat data.length
      typ }
  data
  length_eq := length_toNat small
  data_le := small

def new (typ : FmtpType) (data : List Byte) : Outcome FmtpPacket :=
  if large : 10240 < data.length then
    .error (.error "Payload must be of size 10240 bytes or less.")
  else
    .ok (ofPayload typ data (Nat.le_of_not_lt large))

theorem new_eq_ok {typ : FmtpType} {data : List Byte} (small : data.length ≤ 10240) :
    new typ data = .ok (ofPayload typ data small) := by
  rw [new, dif_neg (Nat.not_lt.mpr small)]

def intoBytes (packet : FmtpPacket) : List Byte :=
  packet.header.asBytes ++ packet.data

/-- Decoding reads the header and takes as many payload bytes as its length field says. The
limit is compared with the length field, which counts the header. A length field below 5
makes the subtraction fail, one beyond the buffer makes the slice fail. -/
def fromBytes (bytes : List Byte) : Outcome FmtpPacket :=
  match FmtpPacketHeader.tryRefFromPrefix bytes with
  | .error cause => .error (.decode cause)
  | .ok (header, rest) =>
    if large : 10240 < header.length.toNat then
      .error (.error "Payload must be of size 10240 bytes or less.")
    else if short : header.length.toNat < 5 then
      .error (.panic "attempt to subtract with overflow")
    else if fits : header.length.toNat - 5 ≤ rest.length then
      .ok
        { header
          data := rest.take (header.length.toNat - 5)
          length_eq := by rw [List.length_take]; omega
          data_le := by rw [List.length_take]; omega }
    else
      .error (.panic "range end index out of range for slice")

def fromMsg (msg : FmtpMessage) : Outcome FmtpPacket :=
  match msg with
  | .operational bytes => unwrap (new .operational bytes)
  | .operator bytes => unwrap (new .operator bytes)

/-- The packet of a message has the message's type, which is neither of the control types. -/
theorem fromMsg_typ {msg : FmtpMessage} {packet : FmtpPacket} (built : fromMsg msg = .ok packet) :
    packet.header.typ = .operational ∨ packet.header.typ = .operator := by
  have typ_of_new {typ : FmtpType} {data : List Byte} (built : unwrap (new typ data) = .ok packet) :
      packet.header.typ = typ := by
    unfold new at built
    split at built
    · cases built
    · cases built
      rfl
  cases msg with
  | operational data => exact Or.inl (typ_of_new built)
  | operator data => exact Or.inr (typ_of_new built)

def tryToMsg (packet : FmtpPacket) : Outcome FmtpMessage :=
  match packet.header.typ with
  | .operational => .ok (.operational packet.data)
  | .operator => .ok (.operator packet.data)
  | .identification => .error (.error "Identification packet cannot be converted to FmtpMessage")
  | .system => .error (.error "System packet cannot be converted to FmtpMessage")

/-! ### Identification packets -/

/-- The ASCII dash between the two identifiers of a handshake. -/
def dash : Byte := 45

/-- The payload of a handshake from `sender` to `receiver`. -/
def handshakePayload (sender receiver : FmtpIdentifier) : List Byte :=
  sender.bytes ++ [dash] ++ receiver.bytes

theorem handshakePayload_length_le (sender receiver : FmtpIdentifier) :
    (handshakePayload sender receiver).length ≤ 10240 := by
  have senderLength := sender.length_le
  have receiverLength := receiver.length_le
  simp only [handshakePayload, List.length_append, List.length_cons, List.length_nil]
  omega

/-- The handshake packet. The `unwrap` of the source cannot fail: the identifiers bound the
payload. -/
def handshake (localId remoteId : FmtpIdentifier) : FmtpPacket :=
  ofPayload .identification (handshakePayload localId remoteId)
    (handshakePayload_length_le localId remoteId)

theorem unwrap_new_handshake (localId remoteId : FmtpIdentifier) :
    unwrap (new .identification (handshakePayload localId remoteId)) =
      .ok (handshake localId remoteId) := by
  rw [new_eq_ok (handshakePayload_length_le localId remoteId)]
  rfl

/-- `b"ACCEPT"`. -/
def acceptPayload : List Byte := [65, 67, 67, 69, 80, 84]

/-- `b"REJECT"`. -/
def rejectPayload : List Byte := [82, 69, 74, 69, 67, 84]

/-- `b"00"`. -/
def shutdownPayload : List Byte := [48, 48]

/-- `b"01"`. -/
def startupPayload : List Byte := [48, 49]

/-- `b"03"`. -/
def heartbeatPayload : List Byte := [48, 51]

def accept : FmtpPacket := ofPayload .identification acceptPayload (by decide)

def reject : FmtpPacket := ofPayload .identification rejectPayload (by decide)

/-- The configured connection a handshake names: the entry of the given id if there is one,
else the first entry in iteration order that recognises the payload. -/
def checkHandshake (packet : FmtpPacket) (config : Config) (connectionId : Option String) :
    Option String :=
  let check (entry : ConnectionConfig) (connection : Option String) : Option String :=
    if packet.header.typ = .identification ∧
        packet.data = handshakePayload entry.remoteId entry.localId then
      connection
    else
      none
  match connectionId.bind fun id => config.connections.lookup id with
  | some entry => check entry connectionId
  | none => config.connections.entries.findSome? fun pair => check pair.2 (some pair.1)

def isAccept (packet : FmtpPacket) : Bool :=
  packet.header.typ = .identification ∧ packet.data = acceptPayload

def isReject (packet : FmtpPacket) : Bool :=
  packet.header.typ = .identification ∧ packet.data = rejectPayload

/-! ### System packets -/

def startup : FmtpPacket := ofPayload .system startupPayload (by decide)

def shutdown : FmtpPacket := ofPayload .system shutdownPayload (by decide)

def heartbeat : FmtpPacket := ofPayload .system heartbeatPayload (by decide)

/-- The `unwrap`s of the fixed packets cannot fail. -/
theorem unwrap_new_fixed :
    unwrap (new .identification acceptPayload) = .ok accept ∧
      unwrap (new .identification rejectPayload) = .ok reject ∧
      unwrap (new .system startupPayload) = .ok startup ∧
      unwrap (new .system shutdownPayload) = .ok shutdown ∧
      unwrap (new .system heartbeatPayload) = .ok heartbeat :=
  ⟨rfl, rfl, rfl, rfl, rfl⟩

def isStartup (packet : FmtpPacket) : Bool :=
  packet.header.typ = .system ∧ packet.data = startupPayload

def isShutdown (packet : FmtpPacket) : Bool :=
  packet.header.typ = .system ∧ packet.data = shutdownPayload

def isHeartbeat (packet : FmtpPacket) : Bool :=
  packet.header.typ = .system ∧ packet.data = heartbeatPayload

end FmtpPacket

end Fmtp
