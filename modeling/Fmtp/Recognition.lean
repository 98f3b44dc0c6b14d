/-
This file studies what a packet means to its reader. Every packet that a handler queues means to
a peer with the mirrored entry what it was sent for: the identifiers of a handshake cannot spell
a fixed payload, which has no dash.

A handshake itself is recognised by its joined text alone. Identifiers may hold a dash, so an
entry may recognise a pair that is not its own, exactly where a dash has moved; and entries may
expect the same text, and then the order in which the map iterates decides between them.
-/

import Fmtp.Codec
import Fmtp.Identification
import Fmtp.Matching

namespace Fmtp

open Matching

/-! ### Which entry recognises a packet -/

namespace ConnectionConfig

/-- The packet is an identification with the text of the entry's handshake. -/
def Expects (entry : ConnectionConfig) (packet : FmtpPacket) : Prop :=
  packet.header.typ = .identification ∧
    packet.data = FmtpPacket.handshakePayload entry.remoteId entry.localId

instance (entry : ConnectionConfig) (packet : FmtpPacket) : Decidable (entry.Expects packet) :=
  inferInstanceAs (Decidable (_ ∧ _))

/-- The entry is that of a receiver with its sender. -/
def Names (entry : ConnectionConfig) (sender receiver : FmtpIdentifier) : Prop :=
  entry.remoteId = sender ∧ entry.localId = receiver

/-- The entry is of another pair, which is spelled the same: a dash has moved from one identifier
to the other. -/
def Mistakes (entry : ConnectionConfig) (sender receiver : FmtpIdentifier) : Prop :=
  Moved FmtpPacket.dash sender.bytes receiver.bytes entry.remoteId.bytes entry.localId.bytes ∨
    Moved FmtpPacket.dash entry.remoteId.bytes entry.localId.bytes sender.bytes receiver.bytes

variable {entry : ConnectionConfig} {sender receiver : FmtpIdentifier}

theorem Mistakes.not_names (mistakes : entry.Mistakes sender receiver) :
    ¬ entry.Names sender receiver := by
  rintro ⟨rfl, rfl⟩
  rcases mistakes with moved | moved
  · exact moved.left_ne rfl
  · exact moved.left_ne rfl

/-- An entry recognises the handshakes of its own pair and of those it mistakes for it. -/
theorem expects_handshake_iff :
    entry.Expects (.handshake sender receiver) ↔
      entry.Names sender receiver ∨ entry.Mistakes sender receiver := by
  have spelled : entry.Expects (.handshake sender receiver) ↔
      sender.bytes ++ FmtpPacket.dash :: receiver.bytes =
        entry.remoteId.bytes ++ FmtpPacket.dash :: entry.localId.bytes := by
    show _ ∧ FmtpPacket.handshakePayload _ _ = FmtpPacket.handshakePayload _ _ ↔ _
    rw [FmtpPacket.handshakePayload, FmtpPacket.handshakePayload, List.append_assoc,
      List.append_assoc, List.singleton_append, List.singleton_append]
    exact and_iff_right rfl
  have same {first second : FmtpIdentifier} : first.bytes = second.bytes ↔ second = first := by
    obtain ⟨bytes, nonempty, length_le, ascii⟩ := first
    obtain ⟨bytes', nonempty', length_le', ascii'⟩ := second
    rw [FmtpIdentifier.mk.injEq]
    exact eq_comm
  rw [spelled, joined_eq_iff, same, same]
  rfl

end ConnectionConfig

namespace FmtpPacket

variable {packet : FmtpPacket} {config : Config} {connectionId : Option String}

/-- A known id with an entry is checked against that entry. -/
theorem checkHandshake_own {entry : ConnectionConfig}
    (own : (connectionId.bind fun id => config.connections.lookup id) = some entry) :
    packet.checkHandshake config connectionId =
      if entry.Expects packet then connectionId else none := by
  unfold checkHandshake
  simp only [own]
  rfl

/-- Without one, the first entry that expects the packet is taken. -/
theorem checkHandshake_search
    (absent : (connectionId.bind fun id => config.connections.lookup id) = none) :
    packet.checkHandshake config connectionId =
      firstMatch (fun pair => pair.2.Expects packet) Sigma.fst config.connections.entries := by
  unfold checkHandshake
  simp only [absent]
  rfl

end FmtpPacket

/-! ### What every packet means to its reader -/

section Translation

variable {bytes : Nat} {now : Instant} {config : Config} {connectionId : Option String}

/-- A handshake is neither of the fixed identification packets: they have no dash. -/
theorem handshakePayload_ne {sender receiver : FmtpIdentifier} {fixed : List Byte}
    (plain : FmtpPacket.dash ∉ fixed) : FmtpPacket.handshakePayload sender receiver ≠ fixed := by
  rintro rfl
  refine plain ?_
  rw [FmtpPacket.handshakePayload]
  exact List.mem_append_left _ (List.mem_append_right _ List.mem_cons_self)

/-- A packet that is recognised under a key is an `RIdValid` of the key. -/
theorem fromIncomingPacket_recognised (nonzero : bytes ≠ 0) {packet : FmtpPacket} {key : String}
    (recognised : packet.checkHandshake config connectionId = some key) :
    Event.fromIncomingPacket bytes packet now config connectionId = .ok (.rIdValid now key) := by
  obtain ⟨entry, _, typ, payload, _⟩ := FmtpPacket.checkHandshake_some recognised
  have accept : ¬ packet.isAccept = true := fun same =>
    handshakePayload_ne (by decide) (payload.symm.trans (of_decide_eq_true same).2)
  have reject : ¬ packet.isReject = true := fun same =>
    handshakePayload_ne (by decide) (payload.symm.trans (of_decide_eq_true same).2)
  unfold Event.fromIncomingPacket
  simp only [if_neg nonzero, typ, if_neg accept, if_neg reject, recognised]

/-- What a packet was sent for, as a reader takes it who knows the sender under a key and has the
entry of the two. -/
inductive Conveys (key : String) (entry : ConnectionConfig) (now : Instant) :
    FmtpPacket → Event → Prop
  | handshake :
      Conveys key entry now (.handshake entry.remoteId entry.localId) (.rIdValid now key)
  | accept : Conveys key entry now .accept (.rAccept now)
  | reject : Conveys key entry now .reject .rReject
  | startup : Conveys key entry now .startup (.rStartup now)
  | shutdown : Conveys key entry now .shutdown (.rShutdown now)
  | heartbeat : Conveys key entry now .heartbeat (.rHeartbeat now)
  | data {msg : FmtpMessage} {packet : FmtpPacket} (built : FmtpPacket.fromMsg msg = .ok packet) :
      Conveys key entry now packet (.rData now msg)

/-- A packet that holds a message is read as the message. -/
theorem fromIncomingPacket_data (nonzero : bytes ≠ 0) {msg : FmtpMessage} {packet : FmtpPacket}
    (data : packet.tryToMsg = .ok msg) :
    Event.fromIncomingPacket bytes packet now config connectionId = .ok (.rData now msg) := by
  unfold Event.fromIncomingPacket
  rw [if_neg nonzero]
  cases typ : packet.header.typ with
  | operational | operator => simp only [data]
  | identification | system =>
    simp only [FmtpPacket.tryToMsg, typ] at data
    cases data

/-- The packet of a message holds it. -/
theorem FmtpPacket.tryToMsg_fromMsg {msg : FmtpMessage} {packet : FmtpPacket}
    (built : FmtpPacket.fromMsg msg = .ok packet) : packet.tryToMsg = .ok msg := by
  have small : msg.data.length ≤ 10240 := (FmtpPacket.fromMsg_ok_iff msg).mp ⟨packet, built⟩
  cases msg with
  | operational data =>
    have bounded : data.length ≤ 10240 := small
    rw [FmtpPacket.fromMsg, FmtpPacket.new_eq_ok bounded] at built
    cases built
    rfl
  | operator data =>
    have bounded : data.length ≤ 10240 := small
    rw [FmtpPacket.fromMsg, FmtpPacket.new_eq_ok bounded] at built
    cases built
    rfl

/-- Every packet is read as what it was sent for. -/
theorem Conveys.translated {key : String} {entry : ConnectionConfig} {packet : FmtpPacket}
    {event : Event} (conveys : Conveys key entry now packet event) (nonzero : bytes ≠ 0)
    (found : config.connections.lookup key = some entry) :
    Event.fromIncomingPacket bytes packet now config (some key) = .ok event := by
  cases conveys with
  | handshake =>
    have own : ((some key).bind fun id => config.connections.lookup id) = some entry := found
    have expects : entry.Expects (.handshake entry.remoteId entry.localId) := ⟨rfl, rfl⟩
    refine fromIncomingPacket_recognised nonzero ?_
    rw [FmtpPacket.checkHandshake_own own, if_pos expects]
  | accept | reject | startup | shutdown | heartbeat =>
    unfold Event.fromIncomingPacket
    rw [if_neg nonzero]
    rfl
  | data built => exact fromIncomingPacket_data nonzero (FmtpPacket.tryToMsg_fromMsg built)

/-- An associated machine with an entry receives a message and restarts its timer. -/
theorem Connection.handleWithContext_data {storage : ConnectionState} {entry : ConnectionConfig}
    (found : storage.entry = some entry) (tr : Tr) (ts : Ts) (now : Instant) (msg : FmtpMessage)
    (context : ConnectionContext) :
    handleWithContext ⟨.dataReady tr ts, storage⟩ (.rData now msg) context =
      .ok (⟨.dataReady ⟨now + entry.tr⟩ ts, storage⟩, context.receive msg) := by
  rw [context.receive_eq_extend]
  exact handleWithContext_of_reaction context (.delivered found)

end Translation

/-- Every packet that a reaction queues was sent for something, for a reader with the entry that
mirrors the sender's. -/
theorem Reaction.conveys {self self' : ConnectionState} {state state' : State} {event : Event}
    {packets : List FmtpPacket} {messages : List FmtpMessage}
    (reaction : Reaction self state event self' state' packets messages)
    {entry : ConnectionConfig}
    (mirrored : ∀ own, self'.entry = some own → own.Names entry.localId entry.remoteId)
    (key : String) (now : Instant) {packet : FmtpPacket} (member : packet ∈ packets) :
    ∃ meaning, Conveys key entry now packet meaning := by
  have greeting {own : ConnectionConfig} (found : self'.entry = some own) :
      Conveys key entry now (.handshake own.localId own.remoteId) (.rIdValid now key) := by
    obtain ⟨remote, same⟩ := mirrored own found
    rw [remote, same]
    exact .handshake
  cases reaction with
  | connected found =>
    obtain rfl := List.mem_singleton.mp member
    exact ⟨_, greeting found⟩
  | identifiedClient server found =>
    obtain rfl := List.mem_singleton.mp member
    exact ⟨_, greeting found⟩
  | identifiedServer client found =>
    obtain rfl := List.mem_singleton.mp member
    exact ⟨_, .accept⟩
  | invalid =>
    obtain rfl := List.mem_singleton.mp member
    exact ⟨_, .reject⟩
  | started found | associated found | restarted found =>
    obtain rfl := List.mem_singleton.mp member
    exact ⟨_, .startup⟩
  | abandoned found | withdrawn found | closed found | suspended found | stopped found =>
    obtain rfl := List.mem_singleton.mp member
    exact ⟨_, .shutdown⟩
  | kept found =>
    obtain rfl := List.mem_singleton.mp member
    exact ⟨_, .heartbeat⟩
  | sent found fits =>
    obtain rfl := List.mem_singleton.mp member
    exact ⟨_, .data fits⟩
  | _ => exact absurd member List.not_mem_nil

/-- A reader who knows the sender under a key takes every packet for what it was sent for. Every
message that fits a packet has one, and every packet that a machine with the mirrored entry
queues is one of these. -/
theorem emitted_understood {config : Config} {key : String} {entry : ConnectionConfig}
    (found : config.connections.lookup key = some entry) {bytes : Nat} (nonzero : bytes ≠ 0)
    (now : Instant) :
    (∀ packet event, Conveys key entry now packet event →
      Event.fromIncomingPacket bytes packet now config (some key) = .ok event) ∧
    (∀ msg : FmtpMessage, msg.data.length ≤ 10240 →
      ∃ packet, FmtpPacket.fromMsg msg = .ok packet ∧
        Conveys key entry now packet (.rData now msg)) ∧
    ∀ (sender next : Connection) (event : Event) (context context' : ConnectionContext),
      sender.handleWithContext event context = .ok (next, context') →
      (∀ own, next.storage.entry = some own → own.Names entry.localId entry.remoteId) →
      ∃ packets messages, context' = context.extend packets messages ∧
        ∀ packet ∈ packets, ∃ meaning, Conveys key entry now packet meaning := by
  refine ⟨fun packet event conveys => conveys.translated nonzero found, ?_, ?_⟩
  · intro msg small
    obtain ⟨packet, built⟩ := (FmtpPacket.fromMsg_ok_iff msg).mpr small
    exact ⟨packet, built, .data built⟩
  · intro sender next event context context' handled mirrored
    obtain ⟨packets, messages, reaction, extended⟩ :=
      Connection.handleWithContext_reaction handled
    exact ⟨packets, messages, extended,
      fun packet member => reaction.conveys mirrored key now member⟩

/-- The server of the tests reads the handshake of its client. -/
theorem emitted_understood_handshake :
    Event.fromIncomingPacket 18 (.handshake Sample.clientId Sample.serverId) 1
      Sample.serverConfig (some "test") = .ok (.rIdValid 1 "test") := by
  have found : Sample.serverConfig.connections.lookup "test" = some Sample.serverEntry := rfl
  exact (emitted_understood found (Nat.succ_ne_zero 17) 1).1 _ _ .handshake

/-! ### Exactly when a recognised handshake names its pair -/

/-- The entry that recognises the handshake of two identifiers is of another pair: the entry of
the known id is, or one in front of every entry of the pair itself. -/
def Config.Misleads (config : Config) (connectionId : Option String)
    (sender receiver : FmtpIdentifier) : Prop :=
  match connectionId.bind fun id => config.connections.lookup id with
  | some entry => entry.Mistakes sender receiver
  | none =>
    ∃ before pair after, config.connections.entries = before ++ pair :: after ∧
      pair.2.Mistakes sender receiver ∧ ∀ other ∈ before, ¬ other.2.Names sender receiver

section Handshakes

variable {config : Config} {connectionId : Option String} {sender receiver : FmtpIdentifier}

/-- With the entry of a known id, only that entry can mislead. -/
theorem recognised_own_iff {entry : ConnectionConfig}
    (own : (connectionId.bind fun id => config.connections.lookup id) = some entry) :
    (∀ id, (FmtpPacket.handshake sender receiver).checkHandshake config connectionId = some id →
      ∃ entry, config.connections.lookup id = some entry ∧ entry.Names sender receiver) ↔
      ¬ entry.Mistakes sender receiver := by
  obtain ⟨key, rfl, found⟩ := Option.bind_eq_some_iff.mp own
  rw [FmtpPacket.checkHandshake_own own]
  constructor
  · intro names mistakes
    have expects := ConnectionConfig.expects_handshake_iff.mpr (Or.inr mistakes)
    obtain ⟨entry', found', names⟩ := names key (if_pos expects)
    obtain rfl := Option.some.inj (found.symm.trans found')
    exact mistakes.not_names names
  · intro clear id recognised
    split_ifs at recognised with expects
    obtain rfl := Option.some.inj recognised
    exact ⟨entry, found,
      (ConnectionConfig.expects_handshake_iff.mp expects).resolve_right clear⟩

/-- Without one, an entry misleads that stands in front of every entry of the pair itself. -/
theorem recognised_search_iff
    (absent : (connectionId.bind fun id => config.connections.lookup id) = none) :
    (∀ id, (FmtpPacket.handshake sender receiver).checkHandshake config connectionId = some id →
      ∃ entry, config.connections.lookup id = some entry ∧ entry.Names sender receiver) ↔
      ¬ ∃ before pair after, config.connections.entries = before ++ pair :: after ∧
        pair.2.Mistakes sender receiver ∧ ∀ other ∈ before, ¬ other.2.Names sender receiver := by
  rw [FmtpPacket.checkHandshake_search absent]
  constructor
  · rintro names ⟨before, pair, after, split, mistakes, earlier⟩
    have expects : pair.2.Expects (.handshake sender receiver) :=
      ConnectionConfig.expects_handshake_iff.mpr (Or.inr mistakes)
    obtain ⟨first, place, found⟩ : ∃ first, (first ∈ before ∨ first = pair) ∧
        firstMatch (fun pair => pair.2.Expects (.handshake sender receiver)) Sigma.fst
          (before ++ pair :: after) = some first.1 := firstMatch_before expects
    obtain ⟨entry, looked, named⟩ := names first.1 (by rw [split]; exact found)
    have member : first ∈ config.connections.entries := by
      rw [split]
      rcases place with member | rfl
      · exact List.mem_append_left _ member
      · exact List.mem_append_right before List.mem_cons_self
    obtain rfl := Option.some.inj (looked.symm.trans (mem_entries_iff.mp member))
    rcases place with member | rfl
    · exact earlier first member named
    · exact mistakes.not_names named
  · intro clear id recognised
    obtain ⟨before, pair, after, split, expects, rfl, earlier⟩ :=
      firstMatch_eq_some_iff.mp recognised
    have member : pair ∈ config.connections.entries := by
      rw [split]
      exact List.mem_append_right before List.mem_cons_self
    refine ⟨pair.2, mem_entries_iff.mp member, ?_⟩
    refine (ConnectionConfig.expects_handshake_iff.mp expects).resolve_right fun mistakes => ?_
    exact clear ⟨before, pair, after, split, mistakes, fun other member names =>
      earlier other member (ConnectionConfig.expects_handshake_iff.mpr (Or.inl names))⟩

end Handshakes

/-- A recognised handshake names the pair of the entry it is recognised as, exactly where the
configuration does not mislead. -/
theorem recognised_exact (config : Config) (connectionId : Option String)
    (sender receiver : FmtpIdentifier) :
    (∀ id, (FmtpPacket.handshake sender receiver).checkHandshake config connectionId = some id →
      ∃ entry, config.connections.lookup id = some entry ∧ entry.remoteId = sender ∧
        entry.localId = receiver) ↔
      ¬ config.Misleads connectionId sender receiver := by
  unfold Config.Misleads
  cases own : connectionId.bind fun id => config.connections.lookup id with
  | some entry => exact recognised_own_iff own
  | none => exact recognised_search_iff own

namespace Sample

/-- `b"A"`. -/
def shortId : FmtpIdentifier := ⟨[65], by decide, by decide, by simp⟩

/-- `b"A-B"`. -/
def dashedId : FmtpIdentifier := ⟨[65, 45, 66], by decide, by decide, by simp⟩

/-- `b"B-C"`. -/
def otherDashedId : FmtpIdentifier := ⟨[66, 45, 67], by decide, by decide, by simp⟩

/-- `b"C"`. -/
def otherShortId : FmtpIdentifier := ⟨[67], by decide, by decide, by simp⟩

/-- A server that expects `A` to greet `B-C`. -/
def dashedConfig : Config :=
  { serverConfig with
    connections :=
      AList.singleton "test" { serverEntry with remoteId := shortId, localId := otherDashedId } }

end Sample

/-- A peer `A-B` that greets `C` is taken for `A` that greets `B-C`. -/
theorem recognised_misleads : ¬ ∀ (config : Config) (connectionId : Option String)
    (sender receiver : FmtpIdentifier) (id : String),
    (FmtpPacket.handshake sender receiver).checkHandshake config connectionId = some id →
    ∃ entry, config.connections.lookup id = some entry ∧ entry.remoteId = sender ∧
      entry.localId = receiver := by
  intro claim
  obtain ⟨entry, found, named, _⟩ := claim Sample.dashedConfig none Sample.dashedId
    Sample.otherShortId "test" rfl
  obtain rfl : { Sample.serverEntry with
      remoteId := Sample.shortId, localId := Sample.otherDashedId } = entry := Option.some.inj found
  exact absurd (congrArg FmtpIdentifier.bytes named) (by decide)

/-! ### Exactly when the order of the map does not matter -/

/-- Two keys have entries that expect the packet. -/
def Config.Ambiguous (config : Config) (packet : FmtpPacket) : Prop :=
  ∃ key key' entry entry', key ≠ key' ∧ config.connections.lookup key = some entry ∧
    config.connections.lookup key' = some entry' ∧ entry.Expects packet ∧ entry'.Expects packet

/-- A peer without a known id is matched to the same connection in every iteration order of the
map, exactly where at most one key has an entry that expects the packet. -/
theorem order_exact (config : Config) (packet : FmtpPacket) :
    (∀ order order' : Connections, order.entries.Perm config.connections.entries →
      order'.entries.Perm config.connections.entries →
      packet.checkHandshake { config with connections := order } none =
        packet.checkHandshake { config with connections := order' } none) ↔
      ¬ config.Ambiguous packet := by
  have search (order : Connections) :
      packet.checkHandshake { config with connections := order } none =
        firstMatch (fun pair => pair.2.Expects packet) Sigma.fst order.entries :=
    FmtpPacket.checkHandshake_search rfl
  simp only [search]
  constructor
  · intro same
    rintro ⟨key, key', entry, entry', differ, found, found', expects, expects'⟩
    have nodup : config.connections.entries.NodupKeys := config.connections.nodupKeys
    have agree : ∀ pair ∈ config.connections.entries, ∀ pair' ∈ config.connections.entries,
        pair.2.Expects packet → pair'.2.Expects packet → pair.1 = pair'.1 :=
      firstMatch_perm_iff.mp fun order order' perm perm' =>
        same ⟨order, (List.perm_nodupKeys perm).mpr nodup⟩
          ⟨order', (List.perm_nodupKeys perm').mpr nodup⟩ perm perm'
    exact differ (agree ⟨key, entry⟩ (mem_entries_iff.mpr found) ⟨key', entry'⟩
      (mem_entries_iff.mpr found') expects expects')
  · intro clear order order' perm perm'
    refine firstMatch_perm_iff.mpr ?_ order.entries order'.entries perm perm'
    intro pair member pair' member' expects expects'
    by_contra differ
    exact clear ⟨pair.1, pair'.1, pair.2, pair'.2, differ, mem_entries_iff.mp member,
      mem_entries_iff.mp member', expects, expects'⟩

namespace Sample

/-- A server with two entries for one client. -/
def twinConfig : Config :=
  { serverConfig with
    connections := (AList.singleton "second" serverEntry).insert "first" serverEntry }

/-- The same map in the other order. -/
def twinOrder : Connections := (AList.singleton "first" serverEntry).insert "second" serverEntry

end Sample

/-- Two valid entries of one pair: the order of the map decides. -/
theorem order_matters : ¬ ∀ (config valid : Config) (packet : FmtpPacket),
    config.validate = .ok valid →
    ∀ order order' : Connections, order.entries.Perm valid.connections.entries →
      order'.entries.Perm valid.connections.entries →
      packet.checkHandshake { valid with connections := order } none =
        packet.checkHandshake { valid with connections := order' } none := by
  intro claim
  have same := claim Sample.twinConfig Sample.twinConfig
    (.handshake Sample.clientId Sample.serverId) rfl Sample.twinConfig.connections
    Sample.twinOrder (List.Perm.refl _) (List.Perm.swap _ _ _)
  exact absurd same (by decide)

end Fmtp
