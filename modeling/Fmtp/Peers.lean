/-
This file links two state machines, a client and a server with mirrored entries, by two
reliable first-in first-out channels, and lets them take any step that their loops and users
can take. Every step that collides with nothing is a move of the abstract session, which the
pair then represents: phases for states, signals for packets.
-/

import Fmtp.Recognition
import Fmtp.Session

namespace Fmtp

/-! ### Two mirrored entries -/

/-- A client and a server whose entries name each other. Both entries are to reach DataReady, and
no other entry of the server matches the handshake of the client. -/
structure Mirror where
  config : Side → Config
  key : Side → String
  entry : Side → ConnectionConfig
  serverTi : Duration
  found : ∀ side, (config side).connections.lookup (key side) = some (entry side)
  timed : (config .server).serverTi = some serverTi
  localId : ∀ side, (entry side).localId = (entry side.other).remoteId
  target : ∀ side, (entry side).initialTarget = .dataReady
  only : ∀ key' entry', (config .server).connections.lookup key' = some entry' →
    FmtpPacket.handshakePayload entry'.remoteId entry'.localId =
      FmtpPacket.handshakePayload (entry .client).localId (entry .client).remoteId →
    key' = key .server

/-- The packet of a message that fits one. -/
def packetOf : SmallMessage → FmtpPacket
  | ⟨.operational data, small⟩ => .ofPayload .operational data small
  | ⟨.operator data, small⟩ => .ofPayload .operator data small

theorem fromMsg_small (msg : SmallMessage) : FmtpPacket.fromMsg msg.1 = .ok (packetOf msg) := by
  obtain ⟨msg, small⟩ := msg
  cases msg with
  | operational data =>
    have bounded : data.length ≤ 10240 := small
    show unwrap (FmtpPacket.new .operational data) = _
    rw [FmtpPacket.new_eq_ok bounded]
    rfl
  | operator data =>
    have bounded : data.length ≤ 10240 := small
    show unwrap (FmtpPacket.new .operator data) = _
    rw [FmtpPacket.new_eq_ok bounded]
    rfl

/-- The packet that stands for a signal of a side. -/
def Mirror.packet (mirror : Mirror) (side : Side) : Signal → FmtpPacket
  | .handshake => .handshake (mirror.entry side).localId (mirror.entry side).remoteId
  | .accept => .accept
  | .startup => .startup
  | .shutdown => .shutdown
  | .heartbeat => .heartbeat
  | .data msg => packetOf msg

/-- The event that a signal is for the reader, who knows the sender under a key. -/
def Signal.event (key : String) (now : Instant) : Signal → Event
  | .handshake => .rIdValid now key
  | .accept => .rAccept now
  | .startup => .rStartup now
  | .shutdown => .rShutdown now
  | .heartbeat => .rHeartbeat now
  | .data msg => .rData now msg.1

/-! ### What a peer reads -/

section Translation

variable {bytes : Nat} {now : Instant} {config : Config} {connectionId : Option String}

/-- The fixed packets and the data packets mean the same to every reader. -/
theorem fromIncomingPacket_signal (nonzero : bytes ≠ 0) (mirror : Mirror) (side : Side)
    (key : String) {signal : Signal} (other : signal ≠ .handshake) :
    Event.fromIncomingPacket bytes (mirror.packet side signal) now config connectionId =
      .ok (signal.event key now) := by
  cases signal with
  | handshake => exact absurd rfl other
  | data msg =>
    have held := FmtpPacket.tryToMsg_fromMsg (fromMsg_small msg)
    exact fromIncomingPacket_data nonzero held
  | accept | startup | shutdown | heartbeat =>
    unfold Event.fromIncomingPacket
    rw [if_neg nonzero]
    rfl

namespace Mirror

variable (mirror : Mirror)

theorem remoteId (side : Side) :
    (mirror.entry side).remoteId = (mirror.entry side.other).localId := by
  rw [mirror.localId side.other, Side.other_other]

/-- The entry of a side expects the handshake of the other side. -/
theorem expects (side : Side) :
    (mirror.entry side).Expects (mirror.packet side.other .handshake) := by
  refine ⟨rfl, ?_⟩
  rw [mirror.remoteId side, mirror.localId side]
  rfl

/-- A client knows its server. -/
theorem client_recognises :
    (mirror.packet .server .handshake).checkHandshake (mirror.config .client)
      (some (mirror.key .client)) = some (mirror.key .client) := by
  have own : ((some (mirror.key .client)).bind fun id =>
      (mirror.config .client).connections.lookup id) = some (mirror.entry .client) :=
    mirror.found .client
  rw [FmtpPacket.checkHandshake_own own]
  exact if_pos (mirror.expects .client)

/-- A server that knows no peer yet finds its client. -/
theorem server_recognises :
    (mirror.packet .client .handshake).checkHandshake (mirror.config .server) none =
      some (mirror.key .server) := by
  rw [FmtpPacket.checkHandshake_search rfl]
  refine Matching.firstMatch_of_mem (mem_entries_iff.mpr (mirror.found .server))
    (mirror.expects .server) fun other member expects => ?_
  exact mirror.only other.1 other.2 (mem_entries_iff.mp member) expects.2.symm

/-- The event of a signal from the other side, for a client that knows its key and a server that
knows none before it is greeted. -/
theorem translate (nonzero : bytes ≠ 0) (side : Side) (signal : Signal)
    (greeted : signal = .handshake →
      connectionId = if side = .server then none else some (mirror.key side)) :
    Event.fromIncomingPacket bytes (mirror.packet side.other signal) now (mirror.config side)
      connectionId = .ok (signal.event (mirror.key side) now) := by
  by_cases handshake : signal = .handshake
  · subst handshake
    rw [greeted rfl]
    cases side with
    | client => exact fromIncomingPacket_recognised nonzero mirror.client_recognises
    | server => exact fromIncomingPacket_recognised nonzero mirror.server_recognises
  · exact fromIncomingPacket_signal nonzero mirror side.other (mirror.key side) handshake

end Mirror

end Translation

/-! ### Machines and phases -/

/-- The phase of a machine: its state without the timers, with Ready split by the target. -/
def Connection.phase (machine : Connection) : Phase :=
  match machine.state with
  | .idle => .idle
  | .connectionPending => .connectionPending
  | .idPending _ => .idPending
  | .acceptPending _ => .acceptPending
  | .ready _ => if machine.storage.target = .dataReady then .starting else .resting
  | .associationPending _ => .associationPending
  | .dataReady _ _ => .dataReady
  | .error => .error

namespace Connection

variable {machine : Connection}

theorem phase_idle : machine.phase = .idle ↔ machine.state = .idle := by
  unfold phase
  cases machine.state with
  | ready tr =>
    dsimp only
    split <;> simp
  | _ => simp

theorem phase_error : machine.phase = .error ↔ machine.state = .error := by
  unfold phase
  cases machine.state with
  | ready tr =>
    dsimp only
    split <;> simp
  | _ => simp

theorem phase_starting : machine.phase = .starting ↔
    (∃ tr, machine.state = .ready tr) ∧ machine.storage.target = .dataReady := by
  unfold phase
  cases machine.state with
  | ready tr =>
    dsimp only
    split <;> simp [*]
  | _ => simp

theorem phase_associationPending :
    machine.phase = .associationPending ↔ ∃ tr, machine.state = .associationPending tr := by
  unfold phase
  cases machine.state with
  | ready tr =>
    dsimp only
    split <;> simp
  | _ => simp

theorem phase_dataReady :
    machine.phase = .dataReady ↔ ∃ tr ts, machine.state = .dataReady tr ts := by
  unfold phase
  cases machine.state with
  | ready tr =>
    dsimp only
    split <;> simp
  | _ => simp

end Connection

/-! ### The machine makes the moves of its phase -/

/-- The event by which a trigger reaches a machine. -/
inductive Means (key : String) : Event → Trigger → Prop
  | read (signal : Signal) (now : Instant) : Means key (signal.event key now) (.read signal)
  | startup (now : Instant) : Means key (.lStartup now) .startup
  | data (now : Instant) (msg : SmallMessage) : Means key (.lData now msg.1) (.data msg)
  | shutdown (now : Instant) : Means key (.lShutdown now) .shutdown
  | disconnect : Means key .lDisconnect .disconnect
  | ti : Means key .tiTimeout .ti
  | tr (now : Instant) : Means key (.trTimeout now) .tr
  | ts (now : Instant) : Means key (.tsTimeout now) .ts
  | closed : Means key .rDisconnect .closed

/-- What a machine of a side stores during a session. A server stores no id before it is
greeted; Ready is entered with the target DataReady. -/
structure Present (mirror : Mirror) (side : Side) (machine : Connection) : Prop where
  inside : machine.phase = .idPending ∨ machine.phase = .acceptPending ∨ machine.phase.Open
  config : machine.storage.config = mirror.config side
  server : machine.storage.server = decide (side = .server)
  id : machine.storage.id =
    if machine.phase = .idPending ∧ side = .server then none else some (mirror.key side)
  target : machine.phase = .acceptPending ∨ machine.phase = .idPending ∧ side = .client →
    machine.storage.target = .dataReady

/-- A machine is back in Idle or stores what its session needs. -/
def Settled (mirror : Mirror) (side : Side) (machine : Connection) : Prop :=
  machine.phase = .idle ∨ Present mirror side machine

namespace Present

variable {mirror : Mirror} {side : Side} {machine machine' : Connection} {event : Event}

theorem entry (present : Present mirror side machine)
    (greeted : ¬ (machine.phase = .idPending ∧ side = .server)) (event : Event) :
    (machine.storage.beforeDispatch event).entry = some (mirror.entry side) := by
  rw [ConnectionState.beforeDispatch_entry, ConnectionState.entry, present.id, if_neg greeted,
    present.config]
  exact mirror.found side

/-- A machine that only changes its target stays present, once it is identified. -/
theorem keep (present : Present mirror side machine) (event : Event)
    (greeted : ¬ (machine.phase = .idPending ∧ side = .server))
    (storage : machine'.storage = machine.storage.beforeDispatch event)
    (open_ : machine'.phase.Open) : Present mirror side machine' := by
  have identified : machine'.phase ≠ .idPending ∧ machine'.phase ≠ .acceptPending :=
    ⟨fun pending => (pending ▸ open_ : Phase.Open .idPending),
      fun accepting => (accepting ▸ open_ : Phase.Open .acceptPending)⟩
  refine ⟨Or.inr (Or.inr open_), ?_, ?_, ?_, ?_⟩
  · rw [storage, ConnectionState.beforeDispatch_config, present.config]
  · rw [storage, ConnectionState.beforeDispatch_server, present.server]
  · rw [storage, ConnectionState.beforeDispatch_id, present.id, if_neg greeted,
      if_neg fun pending => identified.1 pending.1]
  · rintro (accepting | pending)
    · exact absurd accepting identified.2
    · exact absurd pending.1 identified.1

end Present

section Simulation

variable {mirror : Mirror} {side : Side} {machine machine' : Connection} {event : Event}
  {trigger : Trigger} {phase' : Phase} {signals : List Signal} {packets : List FmtpPacket}
  {messages : List FmtpMessage}

/-- The machine is in the phase after the move, has queued the packets of its signals and has
delivered what its trigger delivers. -/
structure Follows (mirror : Mirror) (side : Side) (machine' : Connection) (trigger : Trigger)
    (phase' : Phase) (signals : List Signal) (packets : List FmtpPacket)
    (messages : List FmtpMessage) : Prop where
  settled : Settled mirror side machine'
  phase : machine'.phase = phase'
  packets : packets = signals.map (mirror.packet side)
  messages : messages = trigger.delivers

/-- The end of a session leaves nothing to store. -/
theorem Follows.gone (idle : machine'.state = .idle)
    (queued : packets = signals.map (mirror.packet side)) (quiet : messages = trigger.delivers) :
    Follows mirror side machine' trigger .idle signals packets messages :=
  ⟨Or.inl (Connection.phase_idle.mpr idle), Connection.phase_idle.mpr idle, queued, quiet⟩

theorem Present.follows (present : Present mirror side machine) (event : Event)
    (greeted : ¬ (machine.phase = .idPending ∧ side = .server))
    (storage : machine'.storage = machine.storage.beforeDispatch event)
    (phase : machine'.phase = phase') (open_ : phase'.Open)
    (queued : packets = signals.map (mirror.packet side)) (quiet : messages = trigger.delivers) :
    Follows mirror side machine' trigger phase' signals packets messages :=
  ⟨Or.inr (present.keep event greeted storage (phase ▸ open_)), phase, queued, quiet⟩

/-- Every move from Ready is what the machine does there. -/
theorem Present.simulates_ready {tr : Tr} (present : Present mirror side machine)
    (state : machine.state = .ready tr) (move : Move side machine.phase trigger phase' signals)
    (means : Means (mirror.key side) event trigger)
    (reaction : Reaction (machine.storage.beforeDispatch event) machine.state event
      machine'.storage machine'.state packets messages) :
    Follows mirror side machine' trigger phase' signals packets messages := by
  have split : machine.phase =
      if machine.storage.target = .dataReady then .starting else .resting := by
    rw [Connection.phase, state]
  have ready : machine.phase = .starting ∨ machine.phase = .resting := by
    rw [split]
    split_ifs
    · exact Or.inl rfl
    · exact Or.inr rfl
  have greeted : ¬ (machine.phase = .idPending ∧ side = .server) := by
    rintro ⟨pending, _⟩
    rcases ready with same | same <;> cases same.symm.trans pending
  have known := present.entry greeted event
  rw [state] at reaction
  obtain ⟨state', storage'⟩ := machine'
  generalize before : machine.phase = phase at move ready
  have configured := ConnectionState.configured_of_found _ known
  cases move with
  | introduced | recognised | accepted | associated | restarted | kept | sent | received
  | suspended => rcases ready with same | same <;> cases same
  | withdrawn open_ => rcases ready with rfl | rfl <;> rcases open_ with same | same <;> cases same
  | closed gives => rcases ready with rfl | rfl <;> cases gives
  | started =>
    cases means with
    | startup now =>
      obtain ⟨rfl, rfl, rfl, rfl⟩ := reaction.unique (.started known)
      exact present.follows (.lStartup now) greeted rfl rfl trivial rfl rfl
  | ignored quiet =>
    have kept : Connection.phase ⟨.ready tr, machine.storage⟩ = .resting := split.symm.trans before
    cases means with
    | read _ now =>
      rcases quiet with rfl | rfl
      · obtain ⟨rfl, rfl, rfl, rfl⟩ := reaction.unique (.ignored rfl (configured _))
        exact present.follows (.rShutdown now) greeted rfl kept trivial rfl rfl
      · obtain ⟨rfl, rfl, rfl, rfl⟩ := reaction.unique (.ignored rfl (configured _))
        exact present.follows (.rHeartbeat now) greeted rfl kept trivial rfl rfl
  | released gives =>
    cases means with
    | disconnect | closed =>
      obtain ⟨rfl, rfl, rfl, rfl⟩ := reaction.unique (.released rfl (configured _))
      exact .gone rfl rfl rfl
    | _ => rcases ready with rfl | rfl <;> cases gives

/-- Every move from AssociationPending is what the machine does there. -/
theorem Present.simulates_associationPending {tr : Tr} (present : Present mirror side machine)
    (state : machine.state = .associationPending tr)
    (move : Move side .associationPending trigger phase' signals)
    (means : Means (mirror.key side) event trigger)
    (reaction : Reaction (machine.storage.beforeDispatch event) machine.state event
      machine'.storage machine'.state packets messages) :
    Follows mirror side machine' trigger phase' signals packets messages := by
  have before : machine.phase = .associationPending := by rw [Connection.phase, state]
  have greeted : ¬ (machine.phase = .idPending ∧ side = .server) := by
    rw [before]
    rintro ⟨pending, _⟩
    cases pending
  have known := present.entry greeted event
  rw [state] at reaction
  obtain ⟨state', storage'⟩ := machine'
  have configured := ConnectionState.configured_of_found _ known
  cases move with
  | started ready => rcases ready with same | same <;> cases same
  | associated =>
    cases means with
    | read _ now =>
      obtain ⟨rfl, rfl, rfl, rfl⟩ := reaction.unique (.associated known)
      exact present.follows (.rStartup now) greeted rfl rfl trivial rfl rfl
  | restarted =>
    cases means with
    | tr now =>
      obtain ⟨rfl, rfl, rfl, rfl⟩ := reaction.unique (.restarted known)
      exact present.follows (.trTimeout now) greeted rfl rfl trivial rfl rfl
  | withdrawn =>
    cases means with
    | shutdown now =>
      obtain ⟨rfl, rfl, rfl, rfl⟩ := reaction.unique (.withdrawn known)
      exact present.follows (.lShutdown now) greeted rfl rfl trivial rfl rfl
  | released gives =>
    cases means with
    | closed =>
      obtain ⟨rfl, rfl, rfl, rfl⟩ := reaction.unique (.released rfl (configured _))
      exact .gone rfl rfl rfl
    | _ => cases gives
  | closed gives =>
    cases means with
    | disconnect =>
      obtain ⟨rfl, rfl, rfl, rfl⟩ := reaction.unique (.abandoned known)
      exact .gone rfl rfl rfl
    | _ => cases gives

/-- Every move from DataReady is what the machine does there. -/
theorem Present.simulates_dataReady {tr : Tr} {ts : Ts} (present : Present mirror side machine)
    (state : machine.state = .dataReady tr ts)
    (move : Move side .dataReady trigger phase' signals)
    (means : Means (mirror.key side) event trigger)
    (reaction : Reaction (machine.storage.beforeDispatch event) machine.state event
      machine'.storage machine'.state packets messages) :
    Follows mirror side machine' trigger phase' signals packets messages := by
  have before : machine.phase = .dataReady := by rw [Connection.phase, state]
  have greeted : ¬ (machine.phase = .idPending ∧ side = .server) := by
    rw [before]
    rintro ⟨pending, _⟩
    cases pending
  have known := present.entry greeted event
  rw [state] at reaction
  obtain ⟨state', storage'⟩ := machine'
  cases move with
  | started ready => rcases ready with same | same <;> cases same
  | kept =>
    cases means with
    | ts now =>
      obtain ⟨rfl, rfl, rfl, rfl⟩ := reaction.unique (.kept known)
      exact present.follows (.tsTimeout now) greeted rfl rfl trivial rfl rfl
  | @sent _ msg =>
    cases means with
    | data now =>
      obtain ⟨rfl, rfl, rfl, rfl⟩ := reaction.unique (.sent known (fromMsg_small msg))
      exact present.follows (.lData now msg.1) greeted rfl rfl trivial rfl rfl
  | @received _ signal carries =>
    cases means with
    | read _ now =>
      cases signal with
      | handshake | accept | shutdown => exact absurd carries not_false
      | startup =>
        obtain ⟨rfl, rfl, rfl, rfl⟩ := reaction.unique (.refreshed known (Or.inr rfl))
        exact present.follows (.rStartup now) greeted rfl rfl trivial rfl rfl
      | heartbeat =>
        obtain ⟨rfl, rfl, rfl, rfl⟩ := reaction.unique (.refreshed known (Or.inl rfl))
        exact present.follows (.rHeartbeat now) greeted rfl rfl trivial rfl rfl
      | data msg =>
        obtain ⟨rfl, rfl, rfl, rfl⟩ := reaction.unique (.delivered known)
        exact present.follows (.rData now msg.1) greeted rfl rfl trivial rfl rfl
  | suspended =>
    cases means with
    | read _ now =>
      obtain ⟨rfl, rfl, rfl, rfl⟩ := reaction.unique (.suspended known)
      exact present.follows (.rShutdown now) greeted rfl rfl trivial rfl rfl
  | withdrawn =>
    cases means with
    | shutdown now =>
      obtain ⟨rfl, rfl, rfl, rfl⟩ := reaction.unique (.stopped known)
      exact present.follows (.lShutdown now) greeted rfl rfl trivial rfl rfl
  | released gives => cases trigger <;> cases gives
  | closed gives =>
    cases means with
    | tr now =>
      obtain ⟨rfl, rfl, rfl, rfl⟩ := reaction.unique (.closed known (Or.inl ⟨now, rfl⟩))
      exact .gone rfl rfl rfl
    | closed =>
      obtain ⟨rfl, rfl, rfl, rfl⟩ := reaction.unique (.closed known (Or.inr (Or.inl rfl)))
      exact .gone rfl rfl rfl
    | disconnect =>
      obtain ⟨rfl, rfl, rfl, rfl⟩ := reaction.unique (.closed known (Or.inr (Or.inr rfl)))
      exact .gone rfl rfl rfl
    | _ => cases gives

/-- Every move from AcceptPending is what the machine does there. -/
theorem Present.simulates_acceptPending {ti : Ti} (present : Present mirror side machine)
    (state : machine.state = .acceptPending ti)
    (move : Move side .acceptPending trigger phase' signals)
    (means : Means (mirror.key side) event trigger)
    (reaction : Reaction (machine.storage.beforeDispatch event) machine.state event
      machine'.storage machine'.state packets messages) :
    Follows mirror side machine' trigger phase' signals packets messages := by
  have before : machine.phase = .acceptPending := by rw [Connection.phase, state]
  have greeted : ¬ (machine.phase = .idPending ∧ side = .server) := by
    rw [before]
    rintro ⟨pending, _⟩
    cases pending
  have known := present.entry greeted event
  have target := present.target (Or.inl before)
  rw [state] at reaction
  obtain ⟨state', storage'⟩ := machine'
  cases move with
  | started ready => rcases ready with same | same <;> cases same
  | withdrawn open_ => rcases open_ with same | same <;> cases same
  | accepted =>
    cases means with
    | read _ now =>
      obtain ⟨rfl, rfl, rfl, rfl⟩ := reaction.unique (.accepted known)
      exact present.follows (.rAccept now) greeted rfl (if_pos target) trivial rfl rfl
  | released gives =>
    have configured := ConnectionState.configured_of_found _ known (.acceptPending ti)
    cases means with
    | disconnect | closed | ti =>
      obtain ⟨rfl, rfl, rfl, rfl⟩ := reaction.unique (.released rfl configured)
      exact .gone rfl rfl rfl
    | _ => cases gives
  | closed gives => cases gives

/-- Every move from IdPending is what the machine does there. -/
theorem Present.simulates_idPending {ti : Ti} (present : Present mirror side machine)
    (state : machine.state = .idPending ti) (move : Move side .idPending trigger phase' signals)
    (means : Means (mirror.key side) event trigger)
    (reaction : Reaction (machine.storage.beforeDispatch event) machine.state event
      machine'.storage machine'.state packets messages) :
    Follows mirror side machine' trigger phase' signals packets messages := by
  have before : machine.phase = .idPending := by rw [Connection.phase, state]
  rw [state] at reaction
  obtain ⟨state', storage'⟩ := machine'
  cases move with
  | started ready => rcases ready with same | same <;> cases same
  | withdrawn open_ => rcases open_ with same | same <;> cases same
  | introduced =>
    have found : machine.storage.config.connections.lookup (mirror.key .server) =
        some (mirror.entry .server) := by
      rw [present.config]
      exact mirror.found .server
    cases means with
    | read _ now =>
      obtain ⟨rfl, rfl, rfl, rfl⟩ := reaction.unique (.identifiedClient present.server found)
      exact ⟨Or.inr ⟨Or.inr (Or.inl rfl), present.config, present.server, rfl,
        fun _ => mirror.target .server⟩, rfl, rfl, rfl⟩
  | recognised =>
    have greeted : ¬ (machine.phase = .idPending ∧ Side.client = .server) := nofun ∘ And.right
    have known := present.entry greeted event
    have target := present.target (Or.inr ⟨before, rfl⟩)
    cases means with
    | read _ now =>
      obtain ⟨rfl, rfl, rfl, rfl⟩ := reaction.unique (.identifiedServer present.server known)
      exact present.follows (.rIdValid now (mirror.key .client)) greeted rfl (if_pos target)
        trivial rfl rfl
  | released gives =>
    have configured {event : Event} :=
      (machine.storage.beforeDispatch event).configured_idPending ti
    cases means with
    | disconnect | closed | ti =>
      obtain ⟨rfl, rfl, rfl, rfl⟩ := reaction.unique (.released rfl configured)
      exact .gone rfl rfl rfl
    | _ => cases gives
  | closed gives => cases gives

/-- A machine in Idle stays there. -/
theorem simulates_idle (state : machine.state = .idle)
    (move : Move side .idle trigger phase' signals) (means : Means (mirror.key side) event trigger)
    (reaction : Reaction (machine.storage.beforeDispatch event) machine.state event
      machine'.storage machine'.state packets messages) :
    Follows mirror side machine' trigger phase' signals packets messages := by
  rw [state] at reaction
  obtain ⟨state', storage'⟩ := machine'
  cases move with
  | started ready => rcases ready with same | same <;> cases same
  | withdrawn open_ => rcases open_ with same | same <;> cases same
  | closed gives => cases gives
  | released gives =>
    cases means with
    | disconnect =>
      obtain ⟨rfl, rfl, rfl, rfl⟩ :=
        reaction.unique (.ignored rfl (ConnectionState.configured_idle _))
      exact .gone rfl rfl rfl
    | _ => cases gives

/-- Every move of its phase is what a machine does on the event of the trigger. -/
theorem Settled.simulates (settled : Settled mirror side machine)
    (move : Move side machine.phase trigger phase' signals)
    (means : Means (mirror.key side) event trigger)
    (reaction : Reaction (machine.storage.beforeDispatch event) machine.state event
      machine'.storage machine'.state packets messages) :
    Follows mirror side machine' trigger phase' signals packets messages := by
  have present : machine.state ≠ .idle → Present mirror side machine := fun other =>
    settled.resolve_left fun idle => other (Connection.phase_idle.mp idle)
  cases state : machine.state with
  | ready tr => exact (present (by simp [state])).simulates_ready state move means reaction
  | idle =>
    rw [Connection.phase, state] at move
    exact simulates_idle state move means reaction
  | idPending ti =>
    rw [Connection.phase, state] at move
    exact (present (by simp [state])).simulates_idPending state move means reaction
  | acceptPending ti =>
    rw [Connection.phase, state] at move
    exact (present (by simp [state])).simulates_acceptPending state move means reaction
  | associationPending tr =>
    rw [Connection.phase, state] at move
    exact (present (by simp [state])).simulates_associationPending state move means reaction
  | dataReady tr ts =>
    rw [Connection.phase, state] at move
    exact (present (by simp [state])).simulates_dataReady state move means reaction
  | connectionPending | error =>
    have inside := (present (by simp [state])).inside
    rw [Connection.phase, state] at inside
    rcases inside with same | same | open_
    · cases same
    · cases same
    · exact absurd open_ not_false

/-- A machine that reads a signal its phase collides with ends in Error. -/
theorem Present.refuses {signal : Signal} {now : Instant} (present : Present mirror side machine)
    (collides : machine.phase.collides signal = true)
    (reaction : Reaction (machine.storage.beforeDispatch (signal.event (mirror.key side) now))
      machine.state (signal.event (mirror.key side) now) machine'.storage machine'.state packets
      messages) :
    machine'.state = .error := by
  obtain ⟨state, storage⟩ := machine
  obtain ⟨state', storage'⟩ := machine'
  have greeted : ¬ (Connection.phase ⟨state, storage⟩ = .idPending ∧ side = .server) := by
    rintro ⟨pending, _⟩
    rw [pending] at collides
    cases collides
  have known := present.entry greeted (signal.event (mirror.key side) now)
  have configured := ConnectionState.configured_of_found _ known
  have refused (unexpected : state.refuses (signal.event (mirror.key side) now) = true) :
      state' = .error :=
    (reaction.unique (.refused unexpected (configured state))).2.1
  cases state with
  | ready tr =>
    have outside : signal = .startup ∨ ∃ msg, signal = .data msg := by
      revert collides
      show Phase.collides (if storage.target = .dataReady then .starting else .resting) signal =
        true → _
      split_ifs <;> cases signal <;> simp [Phase.collides]
    rcases outside with rfl | ⟨msg, rfl⟩
    · exact refused rfl
    · exact refused rfl
  | associationPending tr =>
    cases signal with
    | handshake | accept | startup => cases collides
    | shutdown | heartbeat | data => exact refused rfl
  | idle | connectionPending | idPending | acceptPending | dataReady | error => cases collides

end Simulation

end Fmtp
