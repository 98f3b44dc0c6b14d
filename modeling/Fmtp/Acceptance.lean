/-
This file follows a connection that was accepted and not dialled. Such a connection knows nothing
of its peer until a handshake arrives, and the search for the peer's entry does not look at the
role of the entries. So an accepted connection serves a server's entry exactly as long as no
handshake is read that a client's entry is the first to expect.
-/

import Fmtp.Framing
import Fmtp.Record
import Fmtp.Recognition

namespace Fmtp

open Matching TransitionSystem

/-- The states of a machine that has identified its peer. -/
def State.Identified (state : State) : Prop :=
  (∃ ti, state = .acceptPending ti) ∨ (∃ tr, state = .ready tr) ∨ state.Associating

/-- What an accepted connection goes through once it is set up: packets, timers and the user's
commands. It is not set up for an entry of its own, and only a packet identifies its peer. -/
def Input.Served : Input → Prop
  | .event (.lSetup _) | .event (.rIdValid _ _) => False
  | .event _ | .packet _ _ _ => True

namespace Endpoint

/-- `run_server`, up to its loop: a machine without an id is told of the TCP connection. -/
def accept (config : Config) (now : Instant) : Option Endpoint :=
  (start config none).step (.event (.rSetup now))

/-- Where the peer is identified, the entry of the stored id is a server's. -/
def ServesServer (endpoint : Endpoint) : Prop :=
  endpoint.connection.state.Identified →
    ∃ entry, endpoint.connection.storage.entry = some entry ∧ entry.role = .server

end Endpoint

/-- A client's entry expects the packet: that of the known id, or without one an entry before which
no entry of the map does. -/
def Config.AssignsClient (config : Config) (connectionId : Option String) (packet : FmtpPacket) :
    Prop :=
  match connectionId.bind fun id => config.connections.lookup id with
  | some entry => entry.role = .client ∧ entry.Expects packet
  | none =>
    ∃ before pair after, config.connections.entries = before ++ pair :: after ∧
      pair.2.role = .client ∧ pair.2.Expects packet ∧ ∀ other ∈ before, ¬ other.2.Expects packet

/-- A machine that waits for its peer's handshake reads bytes that begin with a packet which a
client's entry is to answer. -/
def Endpoint.ReadsClient (endpoint : Endpoint) (input : Input) : Prop :=
  (∃ ti, endpoint.connection.state = .idPending ti) ∧
    ∃ bytes received now packet, input = .packet bytes received now ∧ received ≠ 0 ∧
      packet.header.length.toNat ≤ 10240 ∧ packet.intoBytes <+: bytes ∧
      endpoint.connection.storage.config.AssignsClient endpoint.connection.storage.id packet

/-- Where a packet is assigned to a client's entry, it is recognised as that entry. -/
theorem Config.assignsClient_iff {config : Config} {connectionId : Option String}
    {packet : FmtpPacket} :
    config.AssignsClient connectionId packet ↔
      ∃ key entry, packet.checkHandshake config connectionId = some key ∧
        config.connections.lookup key = some entry ∧ entry.role = .client := by
  unfold AssignsClient
  cases own : connectionId.bind fun id => config.connections.lookup id with
  | some entry =>
    obtain ⟨key, rfl, found⟩ := Option.bind_eq_some_iff.mp own
    rw [FmtpPacket.checkHandshake_own own]
    dsimp only
    constructor
    · rintro ⟨client, expects⟩
      exact ⟨key, entry, if_pos expects, found, client⟩
    · rintro ⟨key', entry', recognised, found', client⟩
      split_ifs at recognised with expects
      obtain rfl := Option.some.inj recognised
      obtain rfl := Option.some.inj (found.symm.trans found')
      exact ⟨client, expects⟩
  | none =>
    rw [FmtpPacket.checkHandshake_search own]
    dsimp only
    constructor
    · rintro ⟨before, pair, after, split, client, expects, earlier⟩
      have member : pair ∈ config.connections.entries := by
        rw [split]
        exact List.mem_append_right before List.mem_cons_self
      exact ⟨pair.1, pair.2,
        firstMatch_eq_some_iff.mpr ⟨before, pair, after, split, expects, rfl, earlier⟩,
        mem_entries_iff.mp member, client⟩
    · rintro ⟨key, entry, recognised, found, client⟩
      obtain ⟨before, pair, after, split, expects, rfl, earlier⟩ :=
        firstMatch_eq_some_iff.mp recognised
      have member : pair ∈ config.connections.entries := by
        rw [split]
        exact List.mem_append_right before List.mem_cons_self
      obtain rfl := Option.some.inj ((mem_entries_iff.mp member).symm.trans found)
      exact ⟨before, pair, after, split, client, expects, earlier⟩

/-! ### An accepted connection is a server -/

section Reactions

variable {storage storage' : ConnectionState} {state state' : State} {event : Event}
  {packets : List FmtpPacket} {messages : List FmtpMessage}

/-- Without a setup of its own, a server stays one. -/
theorem Reaction.server
    (reaction :
      Reaction (storage.beforeDispatch event) state event storage' state' packets messages)
    (other : ∀ key, event ≠ .lSetup key) (server : storage.server = true ∨ state = .error) :
    storage'.server = true ∨ state' = .error := by
  have same : (storage.beforeDispatch event).server = storage.server :=
    storage.beforeDispatch_server event
  rcases server with server | rfl
  · cases reaction with
    | served timed => exact Or.inl rfl
    | setUp found => exact absurd rfl (other _)
    | _ => exact Or.inl (same.trans server)
  · exact Or.inr reaction.of_error

/-- A reaction of a server that leads to an identified peer identifies it, or leaves the entry as
it was. -/
theorem Reaction.identified
    (reaction :
      Reaction (storage.beforeDispatch event) state event storage' state' packets messages)
    (server : storage.server = true ∨ state = .error) (identified : state'.Identified) :
    (state.Identified ∧ storage'.entry = storage.entry) ∨
      (∃ ti, state = .idPending ti) ∧ ∃ now key, event = .rIdValid now key ∧
        storage'.entry = storage.config.connections.lookup key := by
  have same : (storage.beforeDispatch event).entry = storage.entry :=
    storage.beforeDispatch_entry event
  rcases identified with ⟨ti, rfl⟩ | ⟨tr, rfl⟩ | ⟨tr, rfl⟩ | ⟨tr, ts, rfl⟩
  · cases reaction with
    | ignored quiet => cases quiet
    | identifiedClient server found => exact Or.inr ⟨⟨_, rfl⟩, _, _, rfl, rfl⟩
  · cases reaction with
    | ignored quiet => exact Or.inl ⟨Or.inr (Or.inl ⟨_, rfl⟩), same⟩
    | identifiedServer client found =>
      rcases server with server | failed
      · cases server.symm.trans client
      · cases failed
    | accepted found => exact Or.inl ⟨Or.inl ⟨_, rfl⟩, same⟩
    | withdrawn found => exact Or.inl ⟨Or.inr (Or.inr (Or.inl ⟨_, rfl⟩)), same⟩
    | stopped found => exact Or.inl ⟨Or.inr (Or.inr (Or.inr ⟨_, _, rfl⟩)), same⟩
  · cases reaction with
    | ignored quiet => cases quiet
    | started found => exact Or.inl ⟨Or.inr (Or.inl ⟨_, rfl⟩), same⟩
    | restarted found => exact Or.inl ⟨Or.inr (Or.inr (Or.inl ⟨_, rfl⟩)), same⟩
    | suspended found => exact Or.inl ⟨Or.inr (Or.inr (Or.inr ⟨_, _, rfl⟩)), same⟩
  · cases reaction with
    | ignored quiet => cases quiet
    | associated found => exact Or.inl ⟨Or.inr (Or.inr (Or.inl ⟨_, rfl⟩)), same⟩
    | kept found | delivered found | refreshed found alive | sent found fits =>
      exact Or.inl ⟨Or.inr (Or.inr (Or.inr ⟨_, _, rfl⟩)), same⟩

end Reactions

namespace Endpoint

/-- A server, or a machine in Error that had no time for its peer's identification. -/
def Serves (endpoint : Endpoint) : Prop :=
  endpoint.connection.storage.server = true ∨ endpoint.connection.state = .error

/-- Whose entry a step identifies. -/
theorem Serves.step {endpoint next : Endpoint} {input : Input} (serves : endpoint.Serves)
    (served : input.Served) (move : endpoint.step input = some next) :
    next.Serves ∧ (next.connection.state.Identified →
      (endpoint.connection.state.Identified ∧
        next.connection.storage.entry = endpoint.connection.storage.entry) ∨
      (∃ ti, endpoint.connection.state = .idPending ti) ∧
        ∃ bytes received now packet key, input = .packet bytes received now ∧ received ≠ 0 ∧
          FmtpPacket.fromBytes bytes = .ok packet ∧
          packet.checkHandshake endpoint.connection.storage.config
            endpoint.connection.storage.id = some key ∧
          next.connection.storage.entry =
            endpoint.connection.storage.config.connections.lookup key) := by
  rcases step_spec move with rfl | ⟨event, handled, source⟩
  · exact ⟨serves, fun identified => Or.inl ⟨identified, rfl⟩⟩
  obtain ⟨packets, messages, reaction, _⟩ := Connection.handleWithContext_reaction handled
  refine ⟨reaction.server ?_ serves, ?_⟩
  · rintro key rfl
    rcases source with rfl | ⟨bytes, received, now, packet, _, _, translated⟩
    · exact served
    · exact Event.fromIncomingPacket_ne_lSetup translated
  · intro identified
    rcases reaction.identified serves identified with same | ⟨pending, now, key, rfl, taken⟩
    · exact Or.inl same
    · rcases source with rfl | ⟨bytes, received, now', packet, rfl, decoded, translated⟩
      · exact absurd served not_false
      · obtain ⟨nonzero, recognised⟩ := Event.fromIncomingPacket_rIdValid translated
        exact Or.inr ⟨pending, bytes, received, now', packet, key, rfl, nonzero, decoded,
          recognised, taken⟩

/-- An unidentified server that reads a recognised handshake takes the entry of its key. -/
theorem Serves.identifies {endpoint : Endpoint} (serves : endpoint.Serves)
    {bytes : List Byte} {received : Nat} {now : Instant} {packet : FmtpPacket} {key : String}
    (pending : ∃ ti, endpoint.connection.state = .idPending ti) (nonzero : received ≠ 0)
    (decoded : FmtpPacket.fromBytes bytes = .ok packet)
    (recognised : packet.checkHandshake endpoint.connection.storage.config
      endpoint.connection.storage.id = some key) :
    ∃ next, endpoint.step (.packet bytes received now) = some next ∧
      next.connection.state.Identified ∧ next.connection.storage.entry =
        endpoint.connection.storage.config.connections.lookup key := by
  have translated : Event.fromIncomingPacket received packet now
      endpoint.connection.storage.config endpoint.connection.storage.id =
        .ok (.rIdValid now key) := fromIncomingPacket_recognised nonzero recognised
  obtain ⟨entry, found, _⟩ := FmtpPacket.checkHandshake_some recognised
  obtain ⟨⟨state, ⟨config, server, target, id⟩⟩, context⟩ := endpoint
  dsimp only at pending translated found ⊢
  obtain ⟨ti, rfl⟩ := pending
  obtain rfl : server = true := serves.resolve_right nofun
  let next : Endpoint :=
    { connection :=
        { state := .acceptPending ⟨now + entry.ti⟩
          storage := { config, server := true, target := entry.initialTarget, id := some key } }
      context := context.extend [.handshake entry.localId entry.remoteId] [] }
  have handled : Connection.handleWithContext ⟨.idPending ti, config, true, target, id⟩
      (.rIdValid now key) context = .ok (next.connection, next.context) :=
    Connection.handleWithContext_of_reaction context (.identifiedClient rfl found)
  refine ⟨next, ?_, Or.inl ⟨_, rfl⟩, rfl⟩
  unfold Endpoint.step Connection.handleRemotePacket
  simp only [decoded, translated, handled]

end Endpoint

/-! ### Exactly when an accepted connection serves a server's entry -/

section Runs

variable {config : Config} {now : Instant} {first last : Endpoint} {inputs : List Input}

/-- An accepted connection waits for its peer's handshake, or is in Error for lack of a time. -/
theorem Endpoint.accept_spec (accepted : Endpoint.accept config now = some first) :
    first.connection.storage.config = config ∧ first.connection.storage.id = none ∧
      ((∃ ti, first.connection.state = .idPending ti ∧ config.serverTi ≠ none) ∧
          first.connection.storage.server = true ∨
        first.connection.state = .error ∧ config.serverTi = none) := by
  unfold accept Endpoint.step Connection.handleWithContext at accepted
  obtain ⟨bindAddress, connections, serverTi⟩ := config
  cases serverTi with
  | none =>
    obtain rfl := Option.some.inj accepted
    exact ⟨rfl, rfl, Or.inr ⟨rfl, rfl⟩⟩
  | some serverTi =>
    obtain rfl := Option.some.inj accepted
    exact ⟨rfl, rfl, Or.inl ⟨⟨_, rfl, Option.some_ne_none _⟩, rfl⟩⟩

theorem Endpoint.Serves.of_accept (accepted : Endpoint.accept config now = some first) :
    first.Serves ∧ first.ServesServer := by
  obtain ⟨_, _, ⟨⟨ti, pending, _⟩, server⟩ | ⟨failed, _⟩⟩ := Endpoint.accept_spec accepted
  · refine ⟨Or.inl server, ?_⟩
    rintro (⟨ti', same⟩ | ⟨tr, same⟩ | ⟨tr, same⟩ | ⟨tr, ts, same⟩)
    all_goals cases pending.symm.trans same
  · refine ⟨Or.inr failed, ?_⟩
    rintro (⟨ti', same⟩ | ⟨tr, same⟩ | ⟨tr, same⟩ | ⟨tr, ts, same⟩)
    all_goals cases failed.symm.trans same

/-- In every run of an accepted connection, whatever the user and the timers do in between, the
peer is served as a server's entry throughout exactly as long as no handshake is read that a
client's entry is to answer. -/
theorem Endpoint.servesServer_iff (accepted : Endpoint.accept config now = some first)
    (run : Run Endpoint.step first inputs last) (served : ∀ input ∈ inputs, input.Served) :
    EachState Endpoint.step Endpoint.ServesServer first inputs ↔
      EachStep Endpoint.step (fun endpoint input => ¬ endpoint.ReadsClient input) first inputs := by
  have kept : ∀ endpoint input next, (endpoint.Serves ∧ endpoint.ServesServer) →
      Input.Served input → ¬ endpoint.ReadsClient input →
      Endpoint.step endpoint input = some next →
      (next.Serves ∧ next.ServesServer) ∧ next.ServesServer := by
    rintro endpoint input next ⟨serves, role⟩ served clear move
    obtain ⟨serves', whose⟩ := serves.step served move
    suffices role' : next.ServesServer from ⟨⟨serves', role'⟩, role'⟩
    intro identified
    rcases whose identified with ⟨before, same⟩ |
      ⟨pending, bytes, received, now, packet, key, rfl, nonzero, decoded, recognised, taken⟩
    · rw [same]
      exact role before
    · obtain ⟨entry, found, _⟩ := FmtpPacket.checkHandshake_some recognised
      refine ⟨entry, taken.trans found, ?_⟩
      cases client : entry.role with
      | server => rfl
      | client =>
        obtain ⟨small, begins⟩ := FmtpPacket.fromBytes_eq_ok.mp decoded
        exact absurd ⟨pending, bytes, received, now, packet, rfl, nonzero, small, begins,
          Config.assignsClient_iff.mpr ⟨key, entry, recognised, found, client⟩⟩ clear
  have broken : ∀ endpoint input next, (endpoint.Serves ∧ endpoint.ServesServer) →
      Input.Served input → ¬ ¬ endpoint.ReadsClient input →
      Endpoint.step endpoint input = some next → ¬ next.ServesServer := by
    rintro endpoint input next ⟨serves, _⟩ _ reads move role
    rw [not_not] at reads
    obtain ⟨pending, bytes, received, now, packet, rfl, nonzero, small, begins, assigned⟩ := reads
    obtain ⟨key, entry, recognised, found, client⟩ := Config.assignsClient_iff.mp assigned
    obtain ⟨next', move', identified, taken⟩ :=
      serves.identifies pending nonzero (FmtpPacket.fromBytes_eq_ok.mpr ⟨small, begins⟩) recognised
    obtain rfl := Option.some.inj (move'.symm.trans move)
    obtain ⟨entry', found', server⟩ := role identified
    obtain rfl := Option.some.inj ((taken.trans found).symm.trans found')
    cases client.symm.trans server
  have initial := Endpoint.Serves.of_accept accepted
  have exactly := eachMove_iff_eachStep kept broken run initial (eachStep_of_forall first served)
  exact ⟨fun each => exactly.mp each.2, fun clear => ⟨initial.2, exactly.mpr clear⟩⟩

end Runs

/-! ### Which configurations serve only server's entries -/

/-- In the order of the map, some client's entry has no entry before it that expects the same
text. -/
def Config.FindsClient (config : Config) : Prop :=
  ∃ before pair after, config.connections.entries = before ++ pair :: after ∧
    pair.2.role = .client ∧ ∀ other ∈ before,
      FmtpPacket.handshakePayload other.2.remoteId other.2.localId ≠
        FmtpPacket.handshakePayload pair.2.remoteId pair.2.localId

/-- Such an entry is assigned its own handshake. -/
theorem Config.FindsClient.assigns {config : Config} (finds : config.FindsClient) :
    ∃ sender receiver, config.AssignsClient none (.handshake sender receiver) := by
  obtain ⟨before, pair, after, split, client, earlier⟩ := finds
  exact ⟨pair.2.remoteId, pair.2.localId, before, pair, after, split, client, ⟨rfl, rfl⟩,
    fun other member expects => earlier other member expects.2.symm⟩

/-- A packet is assigned to such entries only. -/
theorem Config.findsClient_of_assigned {config : Config} {packet : FmtpPacket}
    (assigned : config.AssignsClient none packet) : config.FindsClient := by
  obtain ⟨before, pair, after, split, client, ⟨typ, payload⟩, earlier⟩ := assigned
  exact ⟨before, pair, after, split, client, fun other member same =>
    earlier other member ⟨typ, payload.trans same.symm⟩⟩

/-- The input is a packet. -/
def Input.Received : Input → Prop
  | .packet _ _ _ => True
  | .event _ => False

theorem Input.Received.served {input : Input} (received : input.Received) : input.Served := by
  cases input with
  | packet => trivial
  | event => exact absurd received not_false

namespace Endpoint

/-- Until its peer is identified, an accepted connection that only receives has no id. -/
def Unidentified (config : Config) (endpoint : Endpoint) : Prop :=
  endpoint.connection.storage.config = config ∧
    ((∃ ti, endpoint.connection.state = .idPending ti) →
      endpoint.connection.storage.id = none ∧ config.serverTi ≠ none)

variable {config : Config} {now : Instant} {first last endpoint next : Endpoint} {input : Input}

theorem Unidentified.of_accept (accepted : accept config now = some first) :
    first.Unidentified config := by
  obtain ⟨unchanged, unnamed, ⟨⟨ti, pending, timed⟩, _⟩ | ⟨failed, _⟩⟩ := accept_spec accepted
  · exact ⟨unchanged, fun _ => ⟨unnamed, timed⟩⟩
  · refine ⟨unchanged, ?_⟩
    rintro ⟨ti, pending⟩
    cases failed.symm.trans pending

/-- No packet takes a machine to IdPending. -/
theorem Unidentified.step (unidentified : endpoint.Unidentified config)
    (received : input.Received) (move : endpoint.step input = some next) :
    next.Unidentified config := by
  rcases step_spec move with rfl | ⟨event, handled, source⟩
  · exact unidentified
  obtain ⟨packets, messages, reaction, _⟩ := Connection.handleWithContext_reaction handled
  have remote : event.Remote = true := by
    rcases source with rfl | ⟨bytes, received, now, packet, _, _, translated⟩
    · exact absurd received not_false
    · exact Event.fromIncomingPacket_remote translated
  refine ⟨?_, ?_⟩
  · rw [reaction.config, ConnectionState.beforeDispatch_config]
    exact unidentified.1
  · obtain ⟨⟨state', storage'⟩, context'⟩ := next
    dsimp only at reaction ⊢
    rintro ⟨ti, rfl⟩
    generalize endpoint.connection.state = state at reaction
    cases reaction with
    | ignored quiet => cases quiet
    | served timed => cases remote
    | connected found => cases remote

/-- A configuration that finds no client's entry serves none in any run of packets. -/
theorem servesServer_of_config (accepted : accept config now = some first) {inputs : List Input}
    (run : Run Endpoint.step first inputs last) (received : ∀ input ∈ inputs, input.Received)
    (safe : config.serverTi = none ∨ ¬ config.FindsClient) :
    EachState Endpoint.step ServesServer first inputs := by
  have served : ∀ input ∈ inputs, input.Served :=
    fun input member => (received input member).served
  refine (servesServer_iff accepted run served).mpr ?_
  have kept : ∀ endpoint input next, endpoint.Unidentified config → Input.Received input →
      Endpoint.step endpoint input = some next →
      next.Unidentified config ∧ ¬ endpoint.ReadsClient input := by
    intro endpoint input next unidentified received move
    refine ⟨unidentified.step received move, ?_⟩
    rintro ⟨pending, bytes, count, now, packet, rfl, _, _, _, assigned⟩
    obtain ⟨unnamed, timed⟩ := unidentified.2 pending
    rw [unidentified.1, unnamed] at assigned
    exact safe.elim timed fun clear => clear (Config.findsClient_of_assigned assigned)
  exact (EachStep.preserves kept run (.of_accept accepted) (eachStep_of_forall first received)).2

/-- A configuration that finds a client's entry serves it to whoever sends its handshake. -/
theorem not_servesServer_of_config (now : Instant) (timed : config.serverTi ≠ none)
    (finds : config.FindsClient) :
    ∃ first last bytes received, accept config now = some first ∧
      Run Endpoint.step first [.packet bytes received now] last ∧ ¬ last.ServesServer := by
  obtain ⟨sender, receiver, assigned⟩ := finds.assigns
  obtain ⟨key, entry, recognised, found, client⟩ := Config.assignsClient_iff.mp assigned
  obtain ⟨first, accepted⟩ : ∃ first, accept config now = some first := by
    obtain ⟨bindAddress, connections, serverTi⟩ := config
    cases serverTi with
    | none => exact absurd rfl timed
    | some serverTi => exact ⟨_, rfl⟩
  obtain ⟨unchanged, unnamed, ⟨⟨ti, pending, _⟩, server⟩ | ⟨_, untimed⟩⟩ := accept_spec accepted
  · have small : (FmtpPacket.handshake sender receiver).data.length ≤ 10235 := by
      have first := sender.length_le
      have second := receiver.length_le
      show (sender.bytes ++ [FmtpPacket.dash] ++ receiver.bytes).length ≤ 10235
      rw [List.length_append, List.length_append, List.length_singleton]
      omega
    have decoded := FmtpPacket.fromBytes_intoBytes _ [] small
    rw [← unchanged, ← unnamed] at recognised
    obtain ⟨next, move, identified, taken⟩ :=
      Serves.identifies (Or.inl server) ⟨ti, pending⟩ Nat.one_ne_zero decoded recognised
    refine ⟨first, next, _, 1, accepted, .cons move (.nil next), ?_⟩
    intro role
    obtain ⟨entry', found', server'⟩ := role identified
    rw [taken, unchanged] at found'
    obtain rfl := Option.some.inj (found.symm.trans found')
    cases client.symm.trans server'
  · exact absurd untimed timed

end Endpoint

/-- An accepted connection of a configuration serves only server's entries, whatever packets it
receives, exactly where its machine cannot even wait for a handshake, or every client's entry has an
entry before it that expects the same text. With the user's commands and the timers in between, a
run does exactly as long as no handshake is read that a client's entry is to answer. -/
theorem accepted_exact (config : Config) :
    ((∀ now first last inputs, Endpoint.accept config now = some first →
        Run Endpoint.step first inputs last → (∀ input ∈ inputs, Input.Received input) →
        EachState Endpoint.step Endpoint.ServesServer first inputs) ↔
      config.serverTi = none ∨ ¬ config.FindsClient) ∧
    ∀ now first last inputs, Endpoint.accept config now = some first →
      Run Endpoint.step first inputs last → (∀ input ∈ inputs, Input.Served input) →
      (EachState Endpoint.step Endpoint.ServesServer first inputs ↔
        EachStep Endpoint.step (fun endpoint input => ¬ endpoint.ReadsClient input) first
          inputs) := by
  refine ⟨⟨?_, ?_⟩, ?_⟩
  · intro serves
    by_contra finds
    rw [not_or, not_not] at finds
    obtain ⟨first, last, bytes, received, accepted, run, fails⟩ :=
      Endpoint.not_servesServer_of_config 0 finds.1 finds.2
    refine fails ((serves 0 first last _ accepted run ?_).last run)
    intro input member
    obtain rfl := List.mem_singleton.mp member
    trivial
  · intro safe now first last inputs accepted run received
    exact Endpoint.servesServer_of_config accepted run received safe
  · intro now first last inputs accepted run served
    exact Endpoint.servesServer_iff accepted run served

namespace Sample

/-- A configuration with both roles, as the crate's example has it. -/
def mixedConfig : Config :=
  { serverConfig with
    connections := (AList.singleton "fmtp-client" clientEntry).insert "fmtp" serverEntry }

/-- The server of the tests, told of a connection. -/
def told : Endpoint := (Endpoint.accept serverConfig 0).getD (.start serverConfig none)

/-- The handshake of its client. -/
def greeting : Input := .packet (FmtpPacket.handshake clientId serverId).intoBytes 18 1

end Sample

/-- The server of the tests serves its client's entry once it is greeted. -/
theorem accepted_exact_greeting :
    EachState Endpoint.step Endpoint.ServesServer Sample.told [Sample.greeting] ↔
      EachStep Endpoint.step (fun endpoint input => ¬ endpoint.ReadsClient input) Sample.told
        [Sample.greeting] := by
  have run : Run Endpoint.step Sample.told [Sample.greeting]
      ((Sample.told.step Sample.greeting).getD Sample.told) := Run.of_final rfl
  refine (accepted_exact Sample.serverConfig).2 0 Sample.told _ [Sample.greeting] rfl run ?_
  intro input member
  obtain rfl := List.mem_singleton.mp member
  trivial

/-- An accepted connection that is greeted as a client's entry is served as that entry. -/
theorem accepted_as_client : ¬ ∀ (config valid : Config) (now : Instant) (first last : Endpoint)
    (inputs : List Input), config.validate = .ok valid → Endpoint.accept valid now = some first →
    Run Endpoint.step first inputs last → (∀ input ∈ inputs, input.Received) →
    EachState Endpoint.step Endpoint.ServesServer first inputs := by
  intro claim
  have finds : Sample.mixedConfig.FindsClient :=
    ⟨[⟨"fmtp", Sample.serverEntry⟩], ⟨"fmtp-client", Sample.clientEntry⟩, [], rfl, rfl, by decide⟩
  obtain ⟨first, last, bytes, received, accepted, run, fails⟩ :=
    Endpoint.not_servesServer_of_config 0 (Option.some_ne_none 30) finds
  refine fails ((claim Sample.mixedConfig _ 0 first last _ rfl accepted run ?_).last run)
  intro input member
  obtain rfl := List.mem_singleton.mp member
  trivial

end Fmtp
