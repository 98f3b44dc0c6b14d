/-
This file states what the record of a connection holds in each state: the role the machine
plays, an id that names an entry, and the target of an association. The three are set in
different handlers and outlive a session, so one invariant speaks of all of them. It makes the
handlers' answers to a missing entry unreachable, and it leaves one way for a dispatch to panic:
a user's message that is larger than a packet.
-/

import Fmtp.Codec
import Fmtp.History

namespace Fmtp

open TransitionSystem

/-! ### What the record holds -/

/-- The states in which a machine has chosen its entry: those whose handler looks the entry up,
and the identification of a client. -/
def Connection.Chosen (machine : Connection) : Prop :=
  machine.state.needsEntry = true ∨
    ((∃ ti, machine.state = .idPending ti) ∧ machine.storage.server = false)

/-- The states in which the peers associate or are associated. -/
def State.Associating (state : State) : Prop :=
  (∃ tr, state = .associationPending tr) ∨ ∃ tr ts, state = .dataReady tr ts

/-- What the record of a machine holds in its state, under one configuration. -/
structure Recorded (config : Config) (machine : Connection) : Prop where
  unchanged : machine.storage.config = config
  client : machine.state = .connectionPending → machine.storage.server = false
  server : (∃ ti, machine.state = .acceptPending ti) → machine.storage.server = true
  keyed : machine.Chosen → ∃ key ∈ config.connections, machine.storage.id = some key
  target : machine.state.Associating → machine.storage.target = .dataReady

/-- A stored key of the configuration finds its entry, also after the hook. -/
theorem ConnectionState.entry_ne_none {self : ConnectionState} {config : Config} {key : String}
    (unchanged : self.config = config) (member : key ∈ config.connections)
    (named : self.id = some key) (event : Event) : (self.beforeDispatch event).entry ≠ none := by
  rw [beforeDispatch_entry, entry, named, unchanged]
  show config.connections.lookup key ≠ none
  rw [← Option.isSome_iff_ne_none, AList.lookup_isSome]
  exact member

/-- An entry that is found belongs to a key of the configuration. -/
theorem ConnectionState.keyed_of_entry {self : ConnectionState} {entry : ConnectionConfig}
    (found : self.entry = some entry) : ∃ key ∈ self.config.connections, self.id = some key := by
  obtain ⟨key, named, looked⟩ := Option.bind_eq_some_iff.mp found
  refine ⟨key, ?_, named⟩
  rw [← AList.lookup_isSome, looked]
  rfl

/-- Nothing has been recorded of a new machine, and nothing needs to be. -/
theorem Recorded.new (config : Config) (id : Option String) : Recorded config (.new config id) where
  unchanged := rfl
  client := nofun
  server := nofun
  keyed := by rintro (needs | ⟨⟨ti, pending⟩, _⟩) <;> contradiction
  target := by rintro (⟨tr, pending⟩ | ⟨tr, ts, ready⟩) <;> contradiction

section Reactions

variable {storage storage' : ConnectionState} {state state' : State} {event : Event}
  {packets : List FmtpPacket} {messages : List FmtpMessage}

/-- Only a setup leads to ConnectionPending, and only the identification of a client to
AcceptPending: both decide which role the machine plays. -/
theorem Reaction.role
    (reaction :
      Reaction (storage.beforeDispatch event) state event storage' state' packets messages) :
    (state' = .connectionPending → storage'.server = false) ∧
      ((∃ ti, state' = .acceptPending ti) → storage'.server = true) := by
  refine ⟨?_, ?_⟩
  · rintro rfl
    cases reaction with
    | ignored quiet => cases quiet
    | setUp found => rfl
  · rintro ⟨ti, rfl⟩
    cases reaction with
    | ignored quiet => cases quiet
    | identifiedClient server found => exact server

/-- A machine that chooses its entry finds it, and one that has chosen keeps its id. -/
theorem Reaction.keyed
    (reaction :
      Reaction (storage.beforeDispatch event) state event storage' state' packets messages)
    (keyed : Connection.Chosen ⟨state, storage⟩ →
      ∃ key ∈ storage.config.connections, storage.id = some key)
    (chosen : Connection.Chosen ⟨state', storage'⟩) :
    ∃ key ∈ storage'.config.connections, storage'.id = some key := by
  have idle : ¬ Connection.Chosen ⟨.idle, storage'⟩ := by
    rintro (needs | ⟨⟨ti, pending⟩, _⟩) <;> contradiction
  have error : ¬ Connection.Chosen ⟨.error, storage'⟩ := by
    rintro (needs | ⟨⟨ti, pending⟩, _⟩) <;> contradiction
  cases reaction with
  | ignored quiet =>
    rw [storage.beforeDispatch_config, storage.beforeDispatch_id]
    refine keyed ?_
    rcases chosen with needs | ⟨⟨ti, rfl⟩, _⟩
    · exact Or.inl needs
    · cases quiet
  | released | missing | unknownClient | unknownServer | invalid | abandoned | closed =>
    exact absurd chosen idle
  | refused | untimed | unknownId => exact absurd chosen error
  | served timed =>
    rcases chosen with needs | ⟨_, client⟩
    · cases needs
    · cases client
  | setUp found | identifiedClient server found =>
    refine ⟨_, ?_, rfl⟩
    rw [← AList.lookup_isSome, found]
    rfl
  | connected found => exact ConnectionState.keyed_of_entry found
  | identifiedServer client found => exact ConnectionState.keyed_of_entry found
  | accepted found | started found | associated found | restarted found | withdrawn found
  | kept found | delivered found | refreshed found alive | suspended found | sent found fits
  | stopped found => exact ConnectionState.keyed_of_entry found

/-- An association starts with the user's startup, which sets the target; nothing that keeps the
association changes the target. -/
theorem Reaction.target
    (reaction :
      Reaction (storage.beforeDispatch event) state event storage' state' packets messages)
    (target : state.Associating → storage.target = .dataReady)
    (associating : state'.Associating) : storage'.target = .dataReady := by
  rcases associating with ⟨tr, rfl⟩ | ⟨tr, ts, rfl⟩
  · cases reaction with
    | ignored quiet => cases quiet
    | started found => rfl
    | restarted found => exact target (Or.inl ⟨_, rfl⟩)
    | suspended found => exact target (Or.inr ⟨_, _, rfl⟩)
  · cases reaction with
    | ignored quiet => cases quiet
    | associated found => exact target (Or.inl ⟨_, rfl⟩)
    | kept found | delivered found | sent found fits => exact target (Or.inr ⟨_, _, rfl⟩)
    | refreshed found alive =>
      rcases alive with rfl | rfl
      · exact target (Or.inr ⟨_, _, rfl⟩)
      · exact target (Or.inr ⟨_, _, rfl⟩)

end Reactions

/-- Every dispatch keeps what the record holds. -/
theorem Recorded.reaction {config : Config} {machine machine' : Connection} {event : Event}
    {packets : List FmtpPacket} {messages : List FmtpMessage} (recorded : Recorded config machine)
    (reaction : Reaction (machine.storage.beforeDispatch event) machine.state event
      machine'.storage machine'.state packets messages) : Recorded config machine' := by
  have unchanged : machine'.storage.config = config := by
    rw [reaction.config, ConnectionState.beforeDispatch_config, recorded.unchanged]
  have keyed := reaction.keyed fun chosen => by
    rw [recorded.unchanged]
    exact recorded.keyed chosen
  rw [unchanged] at keyed
  exact ⟨unchanged, reaction.role.1, reaction.role.2, keyed, reaction.target recorded.target⟩

/-- What the record holds after every run from a new machine. -/
theorem Recorded.run {config : Config} {id : Option String} {events : List Event}
    {recording : Recording} (run : Run Recording.step (.start config id) events recording) :
    Recorded config recording.connection := by
  have kept : ∀ recording event next, Recorded config recording.connection →
      Recording.step recording event = some next → Recorded config next.connection := by
    intro recording event next recorded move
    obtain ⟨entry, genuine, source, rfl, target, _⟩ := Recording.step_spec move
    rw [Dispatched.Genuine, source, target] at genuine
    exact recorded.reaction genuine
  exact run.preserves kept (Recorded.new config id)

/-- A machine that has chosen its entry finds it, whatever the next event is. -/
theorem Recorded.found {config : Config} {machine : Connection} (recorded : Recorded config machine)
    (chosen : machine.Chosen) (event : Event) :
    (machine.storage.beforeDispatch event).entry ≠ none := by
  obtain ⟨key, member, named⟩ := recorded.keyed chosen
  exact ConnectionState.entry_ne_none recorded.unchanged member named event

/-- In every state that a run of events reaches, the record holds what the state needs, and so no
handler finds its entry missing, whatever the next event is. -/
theorem record_invariant {config : Config} {id : Option String} {events : List Event}
    {recording : Recording} (run : Run Recording.step (.start config id) events recording) :
    Recorded config recording.connection ∧
      (recording.connection.Chosen → ∀ event,
        (recording.connection.storage.beforeDispatch event).entry ≠ none) := by
  have recorded := Recorded.run run
  exact ⟨recorded, fun chosen event => recorded.found chosen event⟩

/-- The record of the tests' associated client. -/
theorem record_invariant_sending :
    Recorded Sample.clientConfig Sample.recording.connection ∧
      ∀ event, (Sample.recording.connection.storage.beforeDispatch event).entry ≠ none := by
  have run : Run Recording.step (.start Sample.clientConfig none) Sample.sending
      Sample.recording := Run.of_final rfl
  have invariant := record_invariant run
  exact ⟨invariant.1, invariant.2 (Or.inl rfl)⟩

/-! ### Which dispatches panic -/

/-- Only DataReady turns an event into a packet of its own. -/
theorem Connection.handleWithContext_ok_of_state {connection : Connection}
    (other : ∀ tr ts, connection.state ≠ .dataReady tr ts) (event : Event)
    (context : ConnectionContext) :
    ∃ next context', connection.handleWithContext event context = .ok (next, context') := by
  obtain ⟨state, storage⟩ := connection
  cases state with
  | dataReady tr ts => exact absurd rfl (other tr ts)
  | idle | connectionPending | idPending | acceptPending | ready | associationPending | error =>
    exact ⟨_, _, rfl⟩

/-- In DataReady, with its entry found, a user's message is turned into a packet. -/
theorem Connection.fromMsg_of_handled {storage : ConnectionState} {tr : Tr} {ts : Ts}
    {now : Instant} {msg : FmtpMessage} {context context' : ConnectionContext} {next : Connection}
    (found : (storage.beforeDispatch (.lData now msg)).entry ≠ none)
    (handled : Connection.handleWithContext ⟨.dataReady tr ts, storage⟩ (.lData now msg) context =
      .ok (next, context')) : ∃ packet, FmtpPacket.fromMsg msg = .ok packet := by
  obtain ⟨packets, messages, reaction, _⟩ := Connection.handleWithContext_reaction handled
  generalize next.state = state at reaction
  cases reaction with
  | sent _ fits => exact ⟨_, fits⟩
  | missing _ absent => exact absurd absent found
  | ignored quiet | released quiet | refused quiet => cases quiet
  | closed _ closing => rcases closing with ⟨_, same⟩ | same | same <;> cases same
  | refreshed _ alive => rcases alive with same | same <;> cases same

/-- A machine with its record dispatches every event, but for a user's message in DataReady that
is larger than a packet. -/
theorem Recorded.dispatch_iff {config : Config} {machine : Connection}
    (recorded : Recorded config machine) (event : Event) (context : ConnectionContext) :
    (∃ next context', machine.handleWithContext event context = .ok (next, context')) ↔
      ∀ tr ts now msg, machine.state = .dataReady tr ts → event = .lData now msg →
        msg.data.length ≤ 10240 := by
  have found := recorded.found
  obtain ⟨state, storage⟩ := machine
  dsimp only at found ⊢
  constructor
  · rintro ⟨next, context', handled⟩ tr ts now msg rfl rfl
    exact (FmtpPacket.fromMsg_ok_iff msg).mp
      (Connection.fromMsg_of_handled (found (Or.inl rfl) _) handled)
  · intro small
    by_cases associated : ∃ tr ts, state = .dataReady tr ts
    · obtain ⟨tr, ts, rfl⟩ := associated
      refine Connection.handleWithContext_ok _ context fun now msg same => ?_
      exact (FmtpPacket.fromMsg_ok_iff msg).mpr (small tr ts now msg rfl same)
    · exact Connection.handleWithContext_ok_of_state
        (fun tr ts ready => associated ⟨tr, ts, ready⟩) event context

/-- In every state that a run of events reaches, a dispatch panics exactly when the machine is in
DataReady and the event is a user's message of more than 10240 bytes. -/
theorem dispatch_exact {config : Config} {id : Option String} {events : List Event}
    {recording : Recording} (run : Run Recording.step (.start config id) events recording)
    (event : Event) (context : ConnectionContext) :
    (∃ next context', recording.connection.handleWithContext event context =
        .ok (next, context')) ↔
      ∀ tr ts now msg, recording.connection.state = .dataReady tr ts → event = .lData now msg →
        msg.data.length ≤ 10240 :=
  (Recorded.run run).dispatch_iff event context

/-- The tests' associated client sends a message of one byte. -/
theorem dispatch_exact_sending :
    ∃ next context', Sample.recording.connection.handleWithContext
      (.lData 5 (.operational [1])) .empty = .ok (next, context') := by
  have run : Run Recording.step (.start Sample.clientConfig none) Sample.sending
      Sample.recording := Run.of_final rfl
  refine (dispatch_exact run (.lData 5 (.operational [1])) .empty).mpr ?_
  intro tr ts now msg _ same
  cases same
  decide

/-- A message of 10241 bytes panics in DataReady. -/
theorem dispatch_panics : ¬ ∀ (config : Config) (id : Option String) (events : List Event)
    (recording : Recording) (event : Event),
    Run Recording.step (.start config id) events recording →
    ∃ next context', recording.connection.handleWithContext event recording.context =
      .ok (next, context') := by
  intro claim
  have run : Run Recording.step (.start Sample.clientConfig none) Sample.sending
      Sample.recording := Run.of_final rfl
  have handled := claim Sample.clientConfig none Sample.sending Sample.recording
    (.lData 5 (.operational (List.replicate 10241 0))) run
  have small : (List.replicate 10241 (0 : Byte)).length ≤ 10240 :=
    ((Recorded.run run).dispatch_iff _ _).mp handled _ _ 5
      (.operational (List.replicate 10241 0)) rfl rfl
  rw [List.length_replicate] at small
  exact absurd small (by decide)

end Fmtp
