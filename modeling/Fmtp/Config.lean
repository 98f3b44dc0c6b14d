/-
This file models the configuration of the FMTP crates: identifiers, roles, targets, one
connection's entry and the whole configuration with its validation. Times and durations
are natural numbers of one unit; the map of connections is an association list with
distinct keys whose order is the order in which the hash map iterates.
-/

import Mathlib.Data.List.AList

namespace Fmtp

/-! ### Bytes, time and faults -/

abbrev Byte := UInt8

/-- A point in time, as `std::time::Instant`. -/
abbrev Instant := Nat

abbrev Duration := Nat

/-- Why `try_ref_from_prefix` refuses a buffer: too short, or a field with no such value. -/
inductive CastError
  | size
  | validity
deriving DecidableEq, Repr

/-- How a call fails: with an error value, or by a panic that unwinds its task. The error
around a refused cast keeps the cast's own error. -/
inductive Fault
  | error (message : String)
  | decode (cause : CastError)
  | panic (message : String)
deriving DecidableEq, Repr

abbrev Outcome (Value : Type) := Except Fault Value

/-- `Result::unwrap`: an error becomes a panic. -/
def unwrap {Value : Type} : Outcome Value → Outcome Value
  | .ok value => .ok value
  | .error _ => .error (.panic "called `Result::unwrap()` on an `Err` value")

/-! ### Identifiers -/

/-- An identifier used in the handshake: 1 to 32 bytes, all of them ASCII. -/
structure FmtpIdentifier where
  bytes : List Byte
  nonempty : bytes ≠ []
  length_le : bytes.length ≤ 32
  ascii : ∀ byte ∈ bytes, byte < 128
deriving DecidableEq

def FmtpIdentifier.new (id : List Byte) : Outcome FmtpIdentifier :=
  if sized : id = [] ∨ 32 < id.length then
    .error (.error "FMTP identifier must be 0<n<=32 bytes long")
  else if ascii : (id.all fun byte => byte < 128) = true then
    .ok
      { bytes := id
        nonempty := fun empty => sized (Or.inl empty)
        length_le := Nat.le_of_not_lt fun long => sized (Or.inr long)
        ascii := fun byte member => of_decide_eq_true (List.all_eq_true.mp ascii byte member) }
  else
    .error (.error "FMTP identifier must only contain bytes in the ASCII range")

/-- The constructor accepts exactly the bytes of an identifier, and keeps them. -/
theorem FmtpIdentifier.new_eq_ok (id : List Byte) (identifier : FmtpIdentifier) :
    FmtpIdentifier.new id = .ok identifier ↔ identifier.bytes = id := by
  constructor
  · intro accepted
    unfold FmtpIdentifier.new at accepted
    split at accepted
    · cases accepted
    · split at accepted
      · cases accepted
        rfl
      · cases accepted
  · rintro rfl
    obtain ⟨bytes, nonempty, length_le, ascii⟩ := identifier
    have sized : ¬ (bytes = [] ∨ 32 < bytes.length) := by
      rintro (empty | long)
      · exact nonempty empty
      · omega
    have all : (bytes.all fun byte => byte < 128) = true :=
      List.all_eq_true.mpr fun byte member => decide_eq_true (ascii byte member)
    rw [FmtpIdentifier.new, dif_neg sized, dif_pos all]

/-! ### Connection entries -/

inductive Role
  | client
  | server
deriving DecidableEq, Repr

/-- The state a connection is meant to reach. -/
inductive Target
  | idle
  | ready
  | dataReady
deriving DecidableEq, Repr

structure SocketAddr where
  ip : String
  port : UInt16
deriving DecidableEq, Repr

structure ConnectionConfig where
  localId : FmtpIdentifier
  remoteId : FmtpIdentifier
  ti : Duration
  tr : Duration
  ts : Duration
  remoteAddresses : List SocketAddr
  role : Role
  initialTarget : Target
  connectRetryTimer : Option Duration
deriving DecidableEq

def ConnectionConfig.validate (entry : ConnectionConfig) : Outcome Unit :=
  if entry.tr < entry.ts then
    .error (.error "Tr must be larger than Ts")
  else if entry.role = .client ∧ entry.remoteAddresses = [] then
    .error (.error "At least one address must be specified in remote_addresses")
  else
    .ok ()

/-! ### The configuration -/

/-- The map of connections. Its entries stand in iteration order. -/
abbrev Connections := AList fun _ : String => ConnectionConfig

structure Config where
  bindAddress : Option SocketAddr
  connections : Connections
  serverTi : Option Duration
deriving DecidableEq

/-- What `validate` finds wrong with the entries, each under its key. -/
def Config.connErrs (self : Config) : List String :=
  self.connections.entries.filterMap fun pair =>
    match pair.2.validate with
    | .error (.error text) => some (pair.1 ++ ": " ++ text)
    | _ => none

/-- A configuration with a server entry needs an address to bind; where it gives no `server_ti`,
that is the longest `ti` of its server entries. -/
def Config.validate (self : Config) : Outcome Config :=
  let servers := self.connections.entries.filter fun pair => pair.2.role = .server
  match (servers.map fun pair => pair.2.ti).max?, self.bindAddress with
  | some _, none =>
    .error (.error "Configurations including connections need a bind_address")
  | maxTi, _ =>
    let self := { self with serverTi := self.serverTi.or maxTi }
    if self.connections.entries = [] then
      .error (.error "At least one connection must be specified")
    else if self.connErrs = [] then
      .ok self
    else
      .error (.error ("\n".intercalate self.connErrs))

/-- A key that looks up to an entry is one of the pairs the map iterates over. -/
theorem mem_entries_iff {connections : Connections} {id : String} {entry : ConnectionConfig} :
    (⟨id, entry⟩ : Sigma fun _ : String => ConnectionConfig) ∈ connections.entries ↔
      connections.lookup id = some entry :=
  AList.mem_lookup_iff.symm

/-! ### The configuration of the crate's tests -/

namespace Sample

/-- `b"CLIENT"`. -/
def clientId : FmtpIdentifier := ⟨[67, 76, 73, 69, 78, 84], by decide, by decide, by simp⟩

/-- `b"SERVER"`. -/
def serverId : FmtpIdentifier := ⟨[83, 69, 82, 86, 69, 82], by decide, by decide, by simp⟩

def clientEntry : ConnectionConfig where
  localId := clientId
  remoteId := serverId
  ti := 30
  tr := 40
  ts := 15
  remoteAddresses := [⟨"127.0.0.1", 8500⟩]
  role := .client
  initialTarget := .dataReady
  connectRetryTimer := none

def serverEntry : ConnectionConfig where
  localId := serverId
  remoteId := clientId
  ti := 30
  tr := 40
  ts := 15
  remoteAddresses := []
  role := .server
  initialTarget := .dataReady
  connectRetryTimer := none

def clientConfig : Config where
  bindAddress := none
  connections := AList.singleton "test" clientEntry
  serverTi := none

def serverConfig : Config where
  bindAddress := some ⟨"127.0.0.1", 8500⟩
  connections := AList.singleton "test" serverEntry
  serverTi := some 30

end Sample

end Fmtp
