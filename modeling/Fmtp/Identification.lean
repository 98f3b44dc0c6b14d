/-
This file drives the machine by bytes and proves that identification is exact: a client
leaves IdPending for Ready, and a server for AcceptPending, only on an identification
packet whose payload is the expected pair of identifiers, and the stored id changes nowhere
else but on a setup accepted in Idle.
-/

import Fmtp.Reaction
import Fmtp.Transition

namespace Fmtp

open TransitionSystem

/-! ### What a recognised handshake says -/

namespace FmtpPacket

/-- A handshake is recognised as the id of an entry whose identifiers are its payload; where
the given id has an entry, it is recognised as that id only. -/
theorem checkHandshake_some {packet : FmtpPacket} {config : Config}
    {connectionId : Option String} {id : String}
    (recognised : packet.checkHandshake config connectionId = some id) :
    ∃ entry, config.connections.lookup id = some entry ∧
      packet.header.typ = .identification ∧
      packet.data = handshakePayload entry.remoteId entry.localId ∧
      ((connectionId.bind fun id => config.connections.lookup id) ≠ none →
        connectionId = some id) := by
  unfold checkHandshake at recognised
  cases own : connectionId.bind fun id => config.connections.lookup id with
  | some entry =>
    simp only [own] at recognised
    split at recognised
    · rename_i matched
      obtain ⟨key, rfl, found⟩ := Option.bind_eq_some_iff.mp own
      obtain rfl := Option.some.inj recognised
      exact ⟨entry, found, matched.1, matched.2, fun _ => rfl⟩
    · cases recognised
  | none =>
    simp only [own] at recognised
    obtain ⟨pair, member, checked⟩ := List.exists_of_findSome?_eq_some recognised
    split at checked
    · rename_i matched
      obtain rfl := Option.some.inj checked
      exact ⟨pair.2, mem_entries_iff.mp member, matched.1, matched.2,
        fun present => absurd rfl present⟩
    · cases checked

end FmtpPacket

/-- Only a received identification packet that is recognised becomes an `RIdValid`. -/
theorem Event.fromIncomingPacket_rIdValid {bytes : Nat} {packet : FmtpPacket} {now now' : Instant}
    {config : Config} {connectionId : Option String} {id : String}
    (translated : Event.fromIncomingPacket bytes packet now config connectionId =
      .ok (.rIdValid now' id)) :
    bytes ≠ 0 ∧ packet.checkHandshake config connectionId = some id := by
  unfold Event.fromIncomingPacket at translated
  split at translated
  · cases translated
  · rename_i received
    refine ⟨received, ?_⟩
    split at translated
    · split at translated <;> cases translated
    · split at translated <;> cases translated
    · split at translated
      · cases translated
      · split at translated
        · cases translated
        · split at translated
          · rename_i recognised
            cases translated
            exact recognised
          · cases translated
    · split at translated
      · cases translated
      · split at translated
        · cases translated
        · split at translated <;> cases translated

/-- No packet stands for a local command. -/
theorem Event.fromIncomingPacket_ne_lSetup {bytes : Nat} {packet : FmtpPacket} {now : Instant}
    {config : Config} {connectionId : Option String} {key : String} :
    Event.fromIncomingPacket bytes packet now config connectionId ≠ .ok (.lSetup key) := by
  intro translated
  cases Event.fromIncomingPacket_remote translated

/-! ### Runs driven by bytes -/

/-- A machine is driven by local and timer events and by received bytes. -/
inductive Input
  | event (event : Event)
  | packet (bytes : List Byte) (received : Nat) (now : Instant)

/-- An `RIdValid` that no packet stands behind. -/
def Input.Forged : Input → Prop
  | .event (.rIdValid _ _) => True
  | _ => False

structure Endpoint where
  connection : Connection
  context : ConnectionContext

namespace Endpoint

def start (config : Config) (id : Option String) : Endpoint where
  connection := .new config id
  context := .empty

/-- One input. Bytes that are refused with an error leave the machine as it was; a panic ends
the run. -/
def step (endpoint : Endpoint) (input : Input) : Option Endpoint :=
  let handled :=
    match input with
    | .event event => endpoint.connection.handleWithContext event endpoint.context
    | .packet bytes received now =>
      endpoint.connection.handleRemotePacket bytes received now endpoint.context
  match handled with
  | .ok (connection, context) => some { connection, context }
  | .error (.panic _) => none
  | .error _ => some endpoint

/-- A step changes nothing or dispatches one event: the given one, or the one that the
received packet stands for. -/
theorem step_spec {endpoint next : Endpoint} {input : Input}
    (move : endpoint.step input = some next) :
    next = endpoint ∨ ∃ event,
      endpoint.connection.handleWithContext event endpoint.context =
        .ok (next.connection, next.context) ∧
      (input = .event event ∨ ∃ bytes received now packet, input = .packet bytes received now ∧
        FmtpPacket.fromBytes bytes = .ok packet ∧
        Event.fromIncomingPacket received packet now endpoint.connection.storage.config
          endpoint.connection.storage.id = .ok event) := by
  unfold step at move
  cases input with
  | event event =>
    simp only at move
    split at move
    · rename_i connection context handled
      obtain rfl := Option.some.inj move
      exact Or.inr ⟨event, handled, Or.inl rfl⟩
    · cases move
    · exact Or.inl (Option.some.inj move).symm
  | packet bytes received now =>
    simp only at move
    split at move
    · rename_i connection context handled
      obtain rfl := Option.some.inj move
      unfold Connection.handleRemotePacket at handled
      split at handled
      · cases handled
      · rename_i packet decoded
        split at handled
        · cases handled
        · rename_i event translated
          exact Or.inr ⟨event, handled, Or.inr ⟨bytes, received, now, packet, rfl, decoded,
            translated⟩⟩
    · cases move
    · exact Or.inl (Option.some.inj move).symm

end Endpoint

/-! ### A client in IdPending knows whom it expects -/

/-- A client that waits for identification has the entry of its id. -/
def Expecting (machine : Connection) : Prop :=
  ∀ ti, machine.state = .idPending ti → machine.storage.server = false →
    machine.storage.entry ≠ none

theorem Expecting.step {machine machine' : Connection} {event : Event}
    {packets : List FmtpPacket} {messages : List FmtpMessage}
    (reaction : Reaction (machine.storage.beforeDispatch event) machine.state event
      machine'.storage machine'.state packets messages) : Expecting machine' := by
  obtain ⟨state, storage⟩ := machine
  obtain ⟨state', storage'⟩ := machine'
  intro ti pending client
  simp only at pending client reaction
  subst pending
  cases reaction with
  | ignored quiet configured => cases quiet
  | served timed => cases client
  | connected found =>
    intro absent
    exact absurd (found.symm.trans absent) (Option.some_ne_none _)

theorem Expecting.run {config : Config} {id : Option String} {inputs : List Input}
    {endpoint : Endpoint} (run : Run Endpoint.step (.start config id) inputs endpoint) :
    Expecting endpoint.connection := by
  have kept : ∀ endpoint input next, Expecting endpoint.connection →
      Endpoint.step endpoint input = some next → Expecting next.connection := by
    intro endpoint input next expecting move
    rcases Endpoint.step_spec move with rfl | ⟨event, handled, _⟩
    · exact expecting
    · obtain ⟨packets, messages, reaction, _⟩ := Connection.handleWithContext_reaction handled
      exact Expecting.step reaction
  have start : Expecting (Endpoint.start config id).connection := nofun
  exact run.preserves kept start

/-! ### Identification is exact -/

/-- The payload of a received packet is the handshake that the entry of `key` expects. -/
def Recognises (config : Config) (input : Input) (key : String) : Prop :=
  ∃ bytes received now packet entry, input = .packet bytes received now ∧ received ≠ 0 ∧
    FmtpPacket.fromBytes bytes = .ok packet ∧ packet.header.typ = .identification ∧
    config.connections.lookup key = some entry ∧
    packet.data = FmtpPacket.handshakePayload entry.remoteId entry.localId

/-- An unforged `RIdValid` stands for a packet that the entry of its id recognises; where the
machine's own id has an entry, that is the entry. -/
theorem recognises_of_rIdValid {endpoint : Endpoint} {input : Input} {now : Instant}
    {key : String} (honest : ¬ input.Forged)
    (source : input = .event (.rIdValid now key) ∨
      ∃ bytes received now' packet, input = .packet bytes received now' ∧
        FmtpPacket.fromBytes bytes = .ok packet ∧
        Event.fromIncomingPacket received packet now' endpoint.connection.storage.config
          endpoint.connection.storage.id = .ok (.rIdValid now key)) :
    Recognises endpoint.connection.storage.config input key ∧
      (endpoint.connection.storage.entry ≠ none →
        endpoint.connection.storage.id = some key) := by
  rcases source with rfl | ⟨bytes, received, now', packet, rfl, decoded, translated⟩
  · exact absurd trivial honest
  · obtain ⟨nonzero, recognised⟩ := Event.fromIncomingPacket_rIdValid translated
    obtain ⟨entry, found, typ, payload, own⟩ := FmtpPacket.checkHandshake_some recognised
    exact ⟨⟨bytes, received, now', packet, entry, rfl, nonzero, decoded, typ, found, payload⟩,
      own⟩

/-- A dispatch that takes a client from IdPending to Ready, or a server to AcceptPending, is an
`RIdValid`: the client keeps its id, the server takes the event's. -/
theorem identified_by_rIdValid {machine machine' : Connection} {event : Event}
    {packets : List FmtpPacket} {messages : List FmtpMessage} {ti : Ti}
    (reaction : Reaction (machine.storage.beforeDispatch event) machine.state event
      machine'.storage machine'.state packets messages)
    (pending : machine.state = .idPending ti) :
    ((∃ tr, machine'.state = .ready tr) → ∃ now key, event = .rIdValid now key ∧
      machine'.storage.id = machine.storage.id) ∧
    ((∃ ti, machine'.state = .acceptPending ti) → ∃ now key, event = .rIdValid now key ∧
      machine'.storage.id = some key) := by
  obtain ⟨state, storage⟩ := machine
  obtain ⟨state', storage'⟩ := machine'
  simp only at pending reaction ⊢
  subst pending
  refine ⟨?_, ?_⟩
  · rintro ⟨tr, rfl⟩
    cases reaction with
    | identifiedServer client found => exact ⟨_, _, rfl, storage.beforeDispatch_id _⟩
  · rintro ⟨ti', rfl⟩
    cases reaction with
    | identifiedClient server found => exact ⟨_, _, rfl, rfl⟩

/-- A dispatch changes the id on a setup accepted in Idle, or on an `RIdValid` in a server's
IdPending. -/
theorem id_changed {machine machine' : Connection} {event : Event}
    {packets : List FmtpPacket} {messages : List FmtpMessage}
    (reaction : Reaction (machine.storage.beforeDispatch event) machine.state event
      machine'.storage machine'.state packets messages)
    (changed : machine'.storage.id ≠ machine.storage.id) :
    (machine.state = .idle ∧ machine'.state = .connectionPending ∧
      ∃ key, event = .lSetup key ∧ machine'.storage.id = some key) ∨
    (machine.storage.server = true ∧ (∃ ti, machine.state = .idPending ti) ∧
      ∃ now key, event = .rIdValid now key ∧
        (machine.storage.config.connections.lookup key ≠ none →
          ∃ ti, machine'.state = .acceptPending ti)) := by
  obtain ⟨state, storage⟩ := machine
  obtain ⟨state', storage'⟩ := machine'
  simp only at reaction changed ⊢
  have same : (storage.beforeDispatch event).id = storage.id := storage.beforeDispatch_id event
  cases reaction with
  | setUp found => exact Or.inl ⟨rfl, rfl, _, rfl, rfl⟩
  | identifiedClient server found =>
    rw [storage.beforeDispatch_server] at server
    exact Or.inr ⟨server, ⟨_, rfl⟩, _, _, rfl, fun _ => ⟨_, rfl⟩⟩
  | unknownClient server absent =>
    rw [storage.beforeDispatch_server] at server
    rw [storage.beforeDispatch_config] at absent
    exact Or.inr ⟨server, ⟨_, rfl⟩, _, _, rfl, fun present => absurd absent present⟩
  | _ => exact absurd same changed

/-- A client identifies its peer only by the payload its own entry expects and keeps its id; a
server only by the payload of some entry, whose id it takes; no other step changes the id but
a setup accepted in Idle. -/
theorem identification_exact {config : Config} {id : Option String} {inputs : List Input}
    {endpoint next : Endpoint} {input : Input}
    (run : Run Endpoint.step (.start config id) inputs endpoint)
    (move : endpoint.step input = some next) (honest : ¬ input.Forged) :
    (endpoint.connection.storage.server = false →
      (∃ ti, endpoint.connection.state = .idPending ti) →
      (∃ tr, next.connection.state = .ready tr) →
      ∃ key, endpoint.connection.storage.id = some key ∧
        Recognises endpoint.connection.storage.config input key ∧
        next.connection.storage.id = endpoint.connection.storage.id) ∧
    (endpoint.connection.storage.server = true →
      (∃ ti, endpoint.connection.state = .idPending ti) →
      (∃ ti, next.connection.state = .acceptPending ti) →
      ∃ key, Recognises endpoint.connection.storage.config input key ∧
        next.connection.storage.id = some key) ∧
    (next.connection.storage.id ≠ endpoint.connection.storage.id →
      (endpoint.connection.state = .idle ∧ next.connection.state = .connectionPending ∧
        ∃ key, input = .event (.lSetup key) ∧ next.connection.storage.id = some key) ∨
      (endpoint.connection.storage.server = true ∧
        (∃ ti, endpoint.connection.state = .idPending ti) ∧
        ∃ ti, next.connection.state = .acceptPending ti)) := by
  rcases Endpoint.step_spec move with rfl | ⟨event, handled, source⟩
  · refine ⟨?_, ?_, fun changed => absurd rfl changed⟩
    · rintro _ ⟨ti, pending⟩ ⟨tr, ready⟩
      cases pending.symm.trans ready
    · rintro _ ⟨ti, pending⟩ ⟨ti', accepting⟩
      cases pending.symm.trans accepting
  obtain ⟨packets, messages, reaction, _⟩ := Connection.handleWithContext_reaction handled
  refine ⟨?_, ?_, ?_⟩
  · rintro client ⟨ti, pending⟩ ready
    obtain ⟨now, key, rfl, kept⟩ := (identified_by_rIdValid reaction pending).1 ready
    obtain ⟨recognises, own⟩ := recognises_of_rIdValid honest source
    exact ⟨key, own (Expecting.run run ti pending client), recognises, kept⟩
  · rintro server ⟨ti, pending⟩ accepting
    obtain ⟨now, key, rfl, taken⟩ := (identified_by_rIdValid reaction pending).2 accepting
    exact ⟨key, (recognises_of_rIdValid honest source).1, taken⟩
  · intro changed
    rcases id_changed reaction changed with ⟨idle, pending, key, rfl, taken⟩ |
      ⟨server, pending, now, key, rfl, known⟩
    · refine Or.inl ⟨idle, pending, key, ?_, taken⟩
      rcases source with given | ⟨bytes, received, now, packet, _, _, translated⟩
      · exact given
      · exact absurd translated Event.fromIncomingPacket_ne_lSetup
    · refine Or.inr ⟨server, pending, known ?_⟩
      obtain ⟨_, _, _, _, entry, _, _, _, _, found, _⟩ :=
        (recognises_of_rIdValid honest source).1
      rw [found]
      exact Option.some_ne_none entry

/-- The client of the tests, waiting for identification. -/
def Sample.expecting : Endpoint :=
  (final Endpoint.step (.start Sample.clientConfig none)
    [.event (.lSetup "test"), .event (.rSetup 0)]).getD (.start Sample.clientConfig none)

/-- The server's handshake, received whole. -/
def Sample.identifying : Input :=
  .packet (FmtpPacket.handshake Sample.serverId Sample.clientId).intoBytes 18 1

def Sample.identified : Endpoint :=
  (Sample.expecting.step Sample.identifying).getD Sample.expecting

/-- In the tests' session the client is identified by its entry's payload. -/
theorem identification_exact_client :
    ∃ key, Sample.expecting.connection.storage.id = some key ∧
      Recognises Sample.expecting.connection.storage.config Sample.identifying key ∧
      Sample.identified.connection.storage.id = Sample.expecting.connection.storage.id := by
  have run : Run Endpoint.step (.start Sample.clientConfig none)
      [.event (.lSetup "test"), .event (.rSetup 0)] Sample.expecting := Run.of_final rfl
  have move : Sample.expecting.step Sample.identifying = some Sample.identified := rfl
  exact (identification_exact run move not_false).1 rfl ⟨_, rfl⟩ ⟨_, rfl⟩

end Fmtp
