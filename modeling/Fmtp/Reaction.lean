/-
This file states the protocol as a relation and proves that a dispatch computes it.

`Reaction self state event self' state' packets messages` has one constructor for every
way an event can move the machine, with the guards under which it does: what is stored
afterwards, the next state, the packets queued and the messages delivered. The handlers
never read the queues, so a dispatch only appends to them. Every reaction is a dispatch in
turn, so a machine has one reaction to an event. Every later invariant is a case analysis of
this relation, not of the handlers.
-/

import Fmtp.Connection

namespace Fmtp

/-! ### The hook changes the target only -/

namespace ConnectionState

@[simp] theorem beforeDispatch_config (self : ConnectionState) (event : Event) :
    (self.beforeDispatch event).config = self.config := by
  cases event <;> rfl

@[simp] theorem beforeDispatch_server (self : ConnectionState) (event : Event) :
    (self.beforeDispatch event).server = self.server := by
  cases event <;> rfl

@[simp] theorem beforeDispatch_id (self : ConnectionState) (event : Event) :
    (self.beforeDispatch event).id = self.id := by
  cases event <;> rfl

@[simp] theorem beforeDispatch_entry (self : ConnectionState) (event : Event) :
    (self.beforeDispatch event).entry = self.entry := by
  rw [entry, beforeDispatch_id, beforeDispatch_config, entry]

end ConnectionState

/-! ### The classes of events -/

/-- The events a state handles without leaving it. -/
def State.ignores : State → Event → Bool
  | .idle, .rDisconnect | .idle, .lDisconnect => true
  | .ready _, .rShutdown _ | .ready _, .rHeartbeat _ => true
  | .error, _ => true
  | _, _ => false

/-- The events on which a state gives the session up and queues nothing. -/
def State.releases : State → Event → Bool
  | .connectionPending, .rDisconnect | .connectionPending, .lDisconnect => true
  | .idPending _, .rDisconnect | .idPending _, .rReject | .idPending _, .rAccept _
  | .idPending _, .rData _ _ | .idPending _, .rHeartbeat _ | .idPending _, .rShutdown _
  | .idPending _, .rStartup _ | .idPending _, .tiTimeout | .idPending _, .lDisconnect => true
  | .acceptPending _, .rDisconnect | .acceptPending _, .rReject | .acceptPending _, .rIdInvalid
  | .acceptPending _, .rIdValid _ _ | .acceptPending _, .rData _ _
  | .acceptPending _, .rHeartbeat _ | .acceptPending _, .rShutdown _
  | .acceptPending _, .rStartup _ | .acceptPending _, .tiTimeout
  | .acceptPending _, .lDisconnect => true
  | .ready _, .rDisconnect | .ready _, .lDisconnect => true
  | .associationPending _, .rDisconnect => true
  | _, _ => false

/-- The events a state reports as unexpected. -/
def State.refuses : State → Event → Bool
  | .idle, .rSetup _ | .idle, .rDisconnect | .idle, .lDisconnect | .idle, .lSetup _ => false
  | .idle, _ => true
  | .connectionPending, .rSetup _ | .connectionPending, .rDisconnect
  | .connectionPending, .lDisconnect => false
  | .connectionPending, _ => true
  | .idPending _, .rSetup _ | .idPending _, .trTimeout _ | .idPending _, .tsTimeout _
  | .idPending _, .lSetup _ | .idPending _, .lShutdown _ | .idPending _, .lStartup _
  | .idPending _, .lData _ _ => true
  | .idPending _, _ => false
  | .acceptPending _, .rSetup _ | .acceptPending _, .trTimeout _
  | .acceptPending _, .tsTimeout _ | .acceptPending _, .lSetup _
  | .acceptPending _, .lShutdown _ | .acceptPending _, .lStartup _
  | .acceptPending _, .lData _ _ => true
  | .acceptPending _, _ => false
  | .ready _, .lStartup _ | .ready _, .rDisconnect | .ready _, .lDisconnect
  | .ready _, .rShutdown _ | .ready _, .rHeartbeat _ => false
  | .ready _, _ => true
  | .associationPending _, .rStartup _ | .associationPending _, .trTimeout _
  | .associationPending _, .rDisconnect | .associationPending _, .lDisconnect
  | .associationPending _, .lShutdown _ => false
  | .associationPending _, _ => true
  | .dataReady _ _, .rSetup _ | .dataReady _ _, .rReject | .dataReady _ _, .rAccept _
  | .dataReady _ _, .rIdInvalid | .dataReady _ _, .rIdValid _ _ | .dataReady _ _, .tiTimeout
  | .dataReady _ _, .lSetup _ | .dataReady _ _, .lStartup _ => true
  | .dataReady _ _, _ => false
  | .error, _ => false

/-- The states whose handler looks the stored id up before it looks at the event. -/
def State.needsEntry : State → Bool
  | .connectionPending | .acceptPending _ | .ready _ | .associationPending _
  | .dataReady _ _ => true
  | .idle | .idPending _ | .error => false

/-- A handler that starts with the lookup found its entry. -/
def ConnectionState.Configured (self : ConnectionState) (state : State) : Prop :=
  state.needsEntry = true → self.entry ≠ none

/-! ### The relation -/

/-- The reactions of a machine that stores `self` after the hook. -/
inductive Reaction (self : ConnectionState) :
    State → Event → ConnectionState → State → List FmtpPacket → List FmtpMessage → Prop
  | ignored {state : State} {event : Event} (quiet : state.ignores event = true)
      (configured : self.Configured state) : Reaction self state event self state [] []
  | released {state : State} {event : Event} (closing : state.releases event = true)
      (configured : self.Configured state) : Reaction self state event self .idle [] []
  | refused {state : State} {event : Event} (unexpected : state.refuses event = true)
      (configured : self.Configured state) : Reaction self state event self .error [] []
  | missing {state : State} {event : Event} (needs : state.needsEntry = true)
      (absent : self.entry = none) : Reaction self state event self .idle [] []
  | served {now : Instant} {serverTi : Duration} (timed : self.config.serverTi = some serverTi) :
      Reaction self .idle (.rSetup now) { self with server := true }
        (.idPending ⟨now + serverTi⟩) [] []
  | untimed {now : Instant} (absent : self.config.serverTi = none) :
      Reaction self .idle (.rSetup now) self .error [] []
  | setUp {id : String} {config : ConnectionConfig}
      (found : self.config.connections.lookup id = some config) :
      Reaction self .idle (.lSetup id)
        { self with id := some id, server := false, target := config.initialTarget }
        .connectionPending [] []
  | unknownId {id : String} (absent : self.config.connections.lookup id = none) :
      Reaction self .idle (.lSetup id) self .error [] []
  | connected {now : Instant} {config : ConnectionConfig} (found : self.entry = some config) :
      Reaction self .connectionPending (.rSetup now)
        { self with target := config.initialTarget } (.idPending ⟨now + config.ti⟩)
        [.handshake config.localId config.remoteId] []
  | identifiedClient {now : Instant} {id : String} {ti : Ti} {config : ConnectionConfig}
      (server : self.server = true) (found : self.config.connections.lookup id = some config) :
      Reaction self (.idPending ti) (.rIdValid now id)
        { self with id := some id, target := config.initialTarget }
        (.acceptPending ⟨now + config.ti⟩) [.handshake config.localId config.remoteId] []
  | unknownClient {now : Instant} {id : String} {ti : Ti} (server : self.server = true)
      (absent : self.config.connections.lookup id = none) :
      Reaction self (.idPending ti) (.rIdValid now id) { self with id := some id } .idle [] []
  | identifiedServer {now : Instant} {id : String} {ti : Ti} {config : ConnectionConfig}
      (client : self.server = false) (found : self.entry = some config) :
      Reaction self (.idPending ti) (.rIdValid now id) self (.ready ⟨now + config.tr⟩)
        [.accept] []
  | unknownServer {now : Instant} {id : String} {ti : Ti} (client : self.server = false)
      (absent : self.entry = none) :
      Reaction self (.idPending ti) (.rIdValid now id) self .idle [] []
  | invalid {ti : Ti} : Reaction self (.idPending ti) .rIdInvalid self .idle [.reject] []
  | accepted {now : Instant} {ti : Ti} {config : ConnectionConfig}
      (found : self.entry = some config) :
      Reaction self (.acceptPending ti) (.rAccept now) self (.ready ⟨now + config.tr⟩) [] []
  | started {now : Instant} {tr : Tr} {config : ConnectionConfig}
      (found : self.entry = some config) :
      Reaction self (.ready tr) (.lStartup now) self (.associationPending ⟨now + config.tr⟩)
        [.startup] []
  | associated {now : Instant} {tr : Tr} {config : ConnectionConfig}
      (found : self.entry = some config) :
      Reaction self (.associationPending tr) (.rStartup now) self
        (.dataReady ⟨now + config.tr⟩ ⟨now + config.ts⟩) [.startup] []
  | restarted {now : Instant} {tr : Tr} {config : ConnectionConfig}
      (found : self.entry = some config) :
      Reaction self (.associationPending tr) (.trTimeout now) self
        (.associationPending ⟨now + config.tr⟩) [.startup] []
  | abandoned {tr : Tr} {config : ConnectionConfig} (found : self.entry = some config) :
      Reaction self (.associationPending tr) .lDisconnect self .idle [.shutdown] []
  | withdrawn {now : Instant} {tr : Tr} {config : ConnectionConfig}
      (found : self.entry = some config) :
      Reaction self (.associationPending tr) (.lShutdown now) self (.ready ⟨now + config.tr⟩)
        [.shutdown] []
  | kept {now : Instant} {tr : Tr} {ts : Ts} {config : ConnectionConfig}
      (found : self.entry = some config) :
      Reaction self (.dataReady tr ts) (.tsTimeout now) self (.dataReady tr ⟨now + config.ts⟩)
        [.heartbeat] []
  | closed {event : Event} {tr : Tr} {ts : Ts} {config : ConnectionConfig}
      (found : self.entry = some config)
      (closing : (∃ now, event = .trTimeout now) ∨ event = .rDisconnect ∨ event = .lDisconnect) :
      Reaction self (.dataReady tr ts) event self .idle [.shutdown] []
  | delivered {now : Instant} {msg : FmtpMessage} {tr : Tr} {ts : Ts} {config : ConnectionConfig}
      (found : self.entry = some config) :
      Reaction self (.dataReady tr ts) (.rData now msg) self (.dataReady ⟨now + config.tr⟩ ts)
        [] [msg]
  | refreshed {event : Event} {now : Instant} {tr : Tr} {ts : Ts} {config : ConnectionConfig}
      (found : self.entry = some config)
      (alive : event = .rHeartbeat now ∨ event = .rStartup now) :
      Reaction self (.dataReady tr ts) event self (.dataReady ⟨now + config.tr⟩ ts) [] []
  | suspended {now : Instant} {tr : Tr} {ts : Ts} {config : ConnectionConfig}
      (found : self.entry = some config) :
      Reaction self (.dataReady tr ts) (.rShutdown now) self
        (.associationPending ⟨now + config.tr⟩) [.shutdown] []
  | sent {now : Instant} {msg : FmtpMessage} {packet : FmtpPacket} {tr : Tr} {ts : Ts}
      {config : ConnectionConfig} (found : self.entry = some config)
      (fits : FmtpPacket.fromMsg msg = .ok packet) :
      Reaction self (.dataReady tr ts) (.lData now msg) self (.dataReady tr ⟨now + config.ts⟩)
        [packet] []
  | stopped {now : Instant} {tr : Tr} {ts : Ts} {config : ConnectionConfig}
      (found : self.entry = some config) :
      Reaction self (.dataReady tr ts) (.lShutdown now) self (.ready ⟨now + config.tr⟩)
        [.shutdown] []

/-- No reaction changes the configuration. -/
theorem Reaction.config {self self' : ConnectionState} {state state' : State} {event : Event}
    {packets : List FmtpPacket} {messages : List FmtpMessage}
    (reaction : Reaction self state event self' state' packets messages) :
    self'.config = self.config := by
  cases reaction <;> rfl

/-- No reaction leaves Error. -/
theorem Reaction.of_error {self self' : ConnectionState} {state' : State} {event : Event}
    {packets : List FmtpPacket} {messages : List FmtpMessage}
    (reaction : Reaction self .error event self' state' packets messages) :
    state' = .error := by
  cases reaction with
  | ignored => rfl
  | refused => rfl
  | released quiet | missing quiet => cases quiet

/-! ### Appending to the queues -/

namespace ConnectionContext

/-- The queues after some packets were queued and some messages delivered. -/
def extend (context : ConnectionContext) (packets : List FmtpPacket)
    (messages : List FmtpMessage) : ConnectionContext where
  sendQueue := context.sendQueue ++ packets
  recvQueue := context.recvQueue ++ messages

@[simp] theorem extend_nil (context : ConnectionContext) : context.extend [] [] = context := by
  simp [extend]

theorem send_eq_extend (context : ConnectionContext) (packet : FmtpPacket) :
    context.send packet = context.extend [packet] [] := by
  simp [extend, send]

theorem receive_eq_extend (context : ConnectionContext) (msg : FmtpMessage) :
    context.receive msg = context.extend [] [msg] := by
  simp [extend, receive]

end ConnectionContext

/-! ### The handlers compute reactions -/

/-- What a handler returns is a reaction of its state, with the queues extended by it. -/
def Computes (self : ConnectionState) (state : State) (event : Event)
    (context : ConnectionContext) (result : ConnectionState × ConnectionContext × Response) :
    Prop :=
  ∃ packets messages, Reaction self state event result.1 (result.2.2.apply state) packets
    messages ∧ result.2.1 = context.extend packets messages

namespace Computes

variable {self self' : ConnectionState} {state next : State} {event : Event}
  (context : ConnectionContext)

theorem silent (response : Response)
    (reaction : Reaction self state event self' (response.apply state) [] []) :
    Computes self state event context (self', context, response) :=
  ⟨[], [], reaction, (context.extend_nil).symm⟩

theorem send {packet : FmtpPacket} (reaction : Reaction self state event self' next [packet] []) :
    Computes self state event context (self', context.send packet, .transition next) :=
  ⟨[packet], [], reaction, context.send_eq_extend packet⟩

theorem receive {msg : FmtpMessage} (reaction : Reaction self state event self' next [] [msg]) :
    Computes self state event context (self', context.receive msg, .transition next) :=
  ⟨[], [msg], reaction, context.receive_eq_extend msg⟩

end Computes

namespace ConnectionState

variable (self : ConnectionState) (context : ConnectionContext) (event : Event)

theorem configured_of_found {config : ConnectionConfig} (found : self.entry = some config)
    (state : State) : self.Configured state := by
  intro _ absent
  rw [found] at absent
  cases absent

theorem configured_idle : self.Configured .idle := by
  intro needs
  cases needs

theorem configured_idPending (ti : Ti) : self.Configured (.idPending ti) := by
  intro needs
  cases needs

theorem idle_computes :
    Reaction self .idle event (self.idle event).1 ((self.idle event).2.apply .idle) [] [] := by
  have configured := self.configured_idle
  cases event with
  | rSetup now =>
    cases timed : self.config.serverTi with
    | none =>
      simp only [idle, timed]
      exact .untimed timed
    | some serverTi =>
      simp only [idle, timed]
      exact .served timed
  | lSetup id =>
    cases found : self.config.connections.lookup id with
    | none =>
      simp only [idle, found]
      exact .unknownId found
    | some config =>
      simp only [idle, found]
      exact .setUp found
  | rDisconnect | lDisconnect => exact .ignored rfl configured
  | _ => exact .refused rfl configured

theorem connectionPending_computes :
    Computes self .connectionPending event context (self.connectionPending context event) := by
  unfold connectionPending
  cases found : self.entry with
  | none => exact .silent context _ (.missing rfl found)
  | some config =>
    have configured := self.configured_of_found found .connectionPending
    cases event with
    | rSetup now => exact .send context (.connected found)
    | rDisconnect | lDisconnect => exact .silent context _ (.released rfl configured)
    | _ => exact .silent context _ (.refused rfl configured)

theorem idPending_computes (ti : Ti) :
    Computes self (.idPending ti) event context (self.idPending context event ti) := by
  have configured := self.configured_idPending ti
  unfold idPending
  cases event with
  | rIdValid now id =>
    dsimp only
    by_cases role : self.server = true
    · rw [if_pos role]
      cases found : self.config.connections.lookup id with
      | none =>
        have absent : ({ self with id := some id } : ConnectionState).entry = none := found
        simp only [absent]
        exact .silent context _ (.unknownClient role found)
      | some config =>
        have present : ({ self with id := some id } : ConnectionState).entry = some config := found
        simp only [present]
        exact .send context (.identifiedClient role found)
    · rw [if_neg role]
      rw [Bool.not_eq_true] at role
      cases found : self.entry with
      | none => exact .silent context _ (.unknownServer role found)
      | some config => exact .send context (.identifiedServer role found)
  | rIdInvalid => exact .send context .invalid
  | rDisconnect | rReject | rAccept | rData | rHeartbeat | rShutdown | rStartup | tiTimeout
  | lDisconnect => exact .silent context _ (.released rfl configured)
  | rSetup | trTimeout | tsTimeout | lSetup | lShutdown | lStartup | lData =>
    exact .silent context _ (.refused rfl configured)

theorem acceptPending_computes (ti : Ti) :
    Reaction self (.acceptPending ti) event self
      ((self.acceptPending event ti).apply (.acceptPending ti)) [] [] := by
  unfold acceptPending
  cases found : self.entry with
  | none => exact .missing rfl found
  | some config =>
    have configured := self.configured_of_found found (.acceptPending ti)
    cases event with
    | rAccept now => exact .accepted found
    | rDisconnect | rReject | rIdInvalid | rIdValid | rData | rHeartbeat | rShutdown | rStartup
    | tiTimeout | lDisconnect => exact .released rfl configured
    | rSetup | trTimeout | tsTimeout | lSetup | lShutdown | lStartup | lData =>
      exact .refused rfl configured

theorem ready_computes (tr : Tr) :
    Computes self (.ready tr) event context (self.ready context event tr) := by
  unfold ready
  cases found : self.entry with
  | none => exact .silent context _ (.missing rfl found)
  | some config =>
    have configured := self.configured_of_found found (.ready tr)
    cases event with
    | lStartup now => exact .send context (.started found)
    | rDisconnect | lDisconnect => exact .silent context _ (.released rfl configured)
    | rShutdown | rHeartbeat => exact .silent context _ (.ignored rfl configured)
    | _ => exact .silent context _ (.refused rfl configured)

theorem associationPending_computes (tr : Tr) :
    Computes self (.associationPending tr) event context
      (self.associationPending context event tr) := by
  unfold associationPending
  cases found : self.entry with
  | none => exact .silent context _ (.missing rfl found)
  | some config =>
    have configured := self.configured_of_found found (.associationPending tr)
    cases event with
    | rStartup now => exact .send context (.associated found)
    | trTimeout now => exact .send context (.restarted found)
    | rDisconnect => exact .silent context _ (.released rfl configured)
    | lDisconnect => exact .send context (.abandoned found)
    | lShutdown now => exact .send context (.withdrawn found)
    | _ => exact .silent context _ (.refused rfl configured)

theorem dataReady_computes (tr : Tr) (ts : Ts)
    {result : ConnectionState × ConnectionContext × Response}
    (handled : self.dataReady context event tr ts = .ok result) :
    Computes self (.dataReady tr ts) event context result := by
  unfold dataReady at handled
  cases found : self.entry with
  | none =>
    simp only [found, Except.ok.injEq] at handled
    subst handled
    exact .silent context _ (.missing rfl found)
  | some config =>
    have configured := self.configured_of_found found (.dataReady tr ts)
    cases event with
    | lData now msg =>
      cases fits : FmtpPacket.fromMsg msg with
      | error fault => simp [found, fits] at handled
      | ok packet =>
        simp only [found, fits, Except.ok.injEq] at handled
        subst handled
        exact .send context (.sent found fits)
    | tsTimeout now =>
      simp only [found, Except.ok.injEq] at handled
      subst handled
      exact .send context (.kept found)
    | trTimeout now =>
      simp only [found, Except.ok.injEq] at handled
      subst handled
      exact .send context (.closed found (Or.inl ⟨now, rfl⟩))
    | rDisconnect =>
      simp only [found, Except.ok.injEq] at handled
      subst handled
      exact .send context (.closed found (Or.inr (Or.inl rfl)))
    | lDisconnect =>
      simp only [found, Except.ok.injEq] at handled
      subst handled
      exact .send context (.closed found (Or.inr (Or.inr rfl)))
    | rData now msg =>
      simp only [found, Except.ok.injEq] at handled
      subst handled
      exact .receive context (.delivered found)
    | rHeartbeat now =>
      simp only [found, Except.ok.injEq] at handled
      subst handled
      exact .silent context _ (.refreshed found (Or.inl rfl))
    | rStartup now =>
      simp only [found, Except.ok.injEq] at handled
      subst handled
      exact .silent context _ (.refreshed found (Or.inr rfl))
    | rShutdown now =>
      simp only [found, Except.ok.injEq] at handled
      subst handled
      exact .send context (.suspended found)
    | lShutdown now =>
      simp only [found, Except.ok.injEq] at handled
      subst handled
      exact .send context (.stopped found)
    | _ =>
      simp only [found, Except.ok.injEq] at handled
      subst handled
      exact .silent context _ (.refused rfl configured)

end ConnectionState

/-! ### A dispatch computes a reaction -/

namespace Connection

/-- Every dispatch that does not panic is a reaction of the machine, and it extends the
queues by what the reaction queues and delivers. -/
theorem handleWithContext_reaction {connection connection' : Connection} {event : Event}
    {context context' : ConnectionContext}
    (handled : connection.handleWithContext event context = .ok (connection', context')) :
    ∃ packets messages,
      Reaction (connection.storage.beforeDispatch event) connection.state event
        connection'.storage connection'.state packets messages ∧
      context' = context.extend packets messages := by
  obtain ⟨state, storage⟩ := connection
  unfold handleWithContext at handled
  cases state with
  | idle =>
    simp only [Except.ok.injEq, Prod.mk.injEq] at handled
    obtain ⟨rfl, rfl⟩ := handled
    exact ⟨[], [], ConnectionState.idle_computes _ event, (context.extend_nil).symm⟩
  | connectionPending =>
    simp only [Except.ok.injEq, Prod.mk.injEq] at handled
    obtain ⟨rfl, rfl⟩ := handled
    exact ConnectionState.connectionPending_computes _ context event
  | idPending ti =>
    simp only [Except.ok.injEq, Prod.mk.injEq] at handled
    obtain ⟨rfl, rfl⟩ := handled
    exact ConnectionState.idPending_computes _ context event ti
  | acceptPending ti =>
    simp only [Except.ok.injEq, Prod.mk.injEq] at handled
    obtain ⟨rfl, rfl⟩ := handled
    exact ⟨[], [], ConnectionState.acceptPending_computes _ event ti, (context.extend_nil).symm⟩
  | ready tr =>
    simp only [Except.ok.injEq, Prod.mk.injEq] at handled
    obtain ⟨rfl, rfl⟩ := handled
    exact ConnectionState.ready_computes _ context event tr
  | associationPending tr =>
    simp only [Except.ok.injEq, Prod.mk.injEq] at handled
    obtain ⟨rfl, rfl⟩ := handled
    exact ConnectionState.associationPending_computes _ context event tr
  | dataReady tr ts =>
    simp only at handled
    split at handled
    · rename_i storage' context'' response computed
      simp only [Except.ok.injEq, Prod.mk.injEq] at handled
      obtain ⟨rfl, rfl⟩ := handled
      exact ConnectionState.dataReady_computes _ context event tr ts computed
    · cases handled
  | error =>
    simp only [Except.ok.injEq, Prod.mk.injEq] at handled
    obtain ⟨rfl, rfl⟩ := handled
    refine ⟨[], [], .ignored rfl ?_, (context.extend_nil).symm⟩
    intro needs
    cases needs

section Converse

open ConnectionState

variable {storage self' : ConnectionState} {state state' : State} {event : Event}
  {packets : List FmtpPacket} {messages : List FmtpMessage}

/-- Every reaction is what a dispatch does. -/
theorem handleWithContext_of_reaction (context : ConnectionContext)
    (reaction : Reaction (storage.beforeDispatch event) state event self' state' packets
      messages) :
    handleWithContext ⟨state, storage⟩ event context =
      .ok (⟨state', self'⟩, context.extend packets messages) := by
  unfold handleWithContext
  dsimp only
  generalize storage.beforeDispatch event = self at reaction
  -- The states that look their entry up first evaluate only once it is found.
  have entry {state : State} (needs : state.needsEntry = true)
      (configured : self.Configured state) : ∃ config, self.entry = some config :=
    Option.ne_none_iff_exists'.mp (configured needs)
  cases reaction with
  | ignored quiet configured =>
    rw [ConnectionContext.extend_nil]
    cases state with
    | idle =>
      cases event with
      | rDisconnect | lDisconnect => rfl
      | _ => cases quiet
    | ready tr =>
      obtain ⟨config, found⟩ := entry rfl configured
      cases event with
      | rShutdown | rHeartbeat => simp only [ConnectionState.ready, found, Response.apply]
      | _ => cases quiet
    | error => rfl
    | _ => cases quiet
  | released closing configured =>
    rw [ConnectionContext.extend_nil]
    cases state with
    | connectionPending =>
      obtain ⟨config, found⟩ := entry rfl configured
      cases event with
      | rDisconnect | lDisconnect => simp only [connectionPending, found, Response.apply]
      | _ => cases closing
    | idPending ti =>
      cases event with
      | rDisconnect | rReject | rAccept | rData | rHeartbeat | rShutdown | rStartup | tiTimeout
      | lDisconnect => rfl
      | _ => cases closing
    | acceptPending ti =>
      obtain ⟨config, found⟩ := entry rfl configured
      cases event with
      | rDisconnect | rReject | rIdInvalid | rIdValid | rData | rHeartbeat | rShutdown | rStartup
      | tiTimeout | lDisconnect => simp only [acceptPending, found, Response.apply]
      | _ => cases closing
    | ready tr =>
      obtain ⟨config, found⟩ := entry rfl configured
      cases event with
      | rDisconnect | lDisconnect => simp only [ConnectionState.ready, found, Response.apply]
      | _ => cases closing
    | associationPending tr =>
      obtain ⟨config, found⟩ := entry rfl configured
      cases event with
      | rDisconnect => simp only [associationPending, found, Response.apply]
      | _ => cases closing
    | idle | dataReady | error => cases closing
  | refused unexpected configured =>
    rw [ConnectionContext.extend_nil]
    cases state with
    | idle =>
      cases event with
      | rSetup | rDisconnect | lDisconnect | lSetup => cases unexpected
      | _ => rfl
    | connectionPending =>
      obtain ⟨config, found⟩ := entry rfl configured
      cases event with
      | rSetup | rDisconnect | lDisconnect => cases unexpected
      | _ => simp only [connectionPending, found, Response.apply]
    | idPending ti =>
      cases event with
      | rSetup | trTimeout | tsTimeout | lSetup | lShutdown | lStartup | lData => rfl
      | _ => cases unexpected
    | acceptPending ti =>
      obtain ⟨config, found⟩ := entry rfl configured
      cases event with
      | rSetup | trTimeout | tsTimeout | lSetup | lShutdown | lStartup | lData =>
        simp only [acceptPending, found, Response.apply]
      | _ => cases unexpected
    | ready tr =>
      obtain ⟨config, found⟩ := entry rfl configured
      cases event with
      | lStartup | rDisconnect | lDisconnect | rShutdown | rHeartbeat => cases unexpected
      | _ => simp only [ConnectionState.ready, found, Response.apply]
    | associationPending tr =>
      obtain ⟨config, found⟩ := entry rfl configured
      cases event with
      | rStartup | trTimeout | rDisconnect | lDisconnect | lShutdown => cases unexpected
      | _ => simp only [associationPending, found, Response.apply]
    | dataReady tr ts =>
      obtain ⟨config, found⟩ := entry rfl configured
      cases event with
      | rSetup | rReject | rAccept | rIdInvalid | rIdValid | tiTimeout | lSetup | lStartup =>
        simp only [dataReady, found, Response.apply]
      | _ => cases unexpected
    | error => cases unexpected
  | missing needs absent =>
    rw [ConnectionContext.extend_nil]
    cases state with
    | idle | idPending | error => cases needs
    | connectionPending | acceptPending | ready | associationPending | dataReady =>
      simp only [connectionPending, acceptPending, ConnectionState.ready, associationPending,
        dataReady, absent, Response.apply]
  | served found | untimed found | setUp found | unknownId found =>
    simp only [ConnectionState.idle, found, Response.apply, ConnectionContext.extend_nil]
  | connected found =>
    simp only [connectionPending, found, Response.apply, ConnectionContext.send_eq_extend]
  | identifiedClient server found =>
    simp only [idPending, server, if_true, ConnectionState.entry, Option.bind_some, found,
      Response.apply, ConnectionContext.send_eq_extend]
  | unknownClient server absent =>
    simp only [idPending, server, if_true, ConnectionState.entry, Option.bind_some, absent,
      Response.apply, ConnectionContext.extend_nil]
  | identifiedServer client found =>
    simp only [idPending, client, Bool.false_eq_true, if_false, found, Response.apply,
      ConnectionContext.send_eq_extend]
  | unknownServer client absent =>
    simp only [idPending, client, Bool.false_eq_true, if_false, absent, Response.apply,
      ConnectionContext.extend_nil]
  | invalid => simp only [idPending, Response.apply, ConnectionContext.send_eq_extend]
  | accepted found =>
    simp only [acceptPending, found, Response.apply, ConnectionContext.extend_nil]
  | started found =>
    simp only [ConnectionState.ready, found, Response.apply, ConnectionContext.send_eq_extend]
  | associated found | restarted found | abandoned found | withdrawn found =>
    simp only [associationPending, found, Response.apply, ConnectionContext.send_eq_extend]
  | kept found | suspended found | stopped found =>
    simp only [dataReady, found, Response.apply, ConnectionContext.send_eq_extend]
  | closed found closing =>
    rcases closing with ⟨now, rfl⟩ | rfl | rfl
    all_goals simp only [dataReady, found, Response.apply, ConnectionContext.send_eq_extend]
  | delivered found =>
    simp only [dataReady, found, Response.apply, ConnectionContext.receive_eq_extend]
  | refreshed found alive =>
    rcases alive with rfl | rfl
    all_goals simp only [dataReady, found, Response.apply, ConnectionContext.extend_nil]
  | sent found fits =>
    simp only [dataReady, found, fits, Response.apply, ConnectionContext.send_eq_extend]

end Converse

/-- A dispatch panics only where a user's message does not fit a packet. -/
theorem handleWithContext_ok (connection : Connection) {event : Event}
    (context : ConnectionContext)
    (fits : ∀ now msg, event = .lData now msg → ∃ packet, FmtpPacket.fromMsg msg = .ok packet) :
    ∃ connection' context',
      connection.handleWithContext event context = .ok (connection', context') := by
  obtain ⟨state, storage⟩ := connection
  unfold handleWithContext
  cases state with
  | dataReady tr ts =>
    have computed : ∃ result,
        (storage.beforeDispatch event).dataReady context event tr ts = .ok result := by
      unfold ConnectionState.dataReady
      cases found : (storage.beforeDispatch event).entry with
      | none => exact ⟨_, rfl⟩
      | some config =>
        cases event with
        | lData now msg =>
          obtain ⟨packet, built⟩ := fits now msg rfl
          simp only [built]
          exact ⟨_, rfl⟩
        | _ => exact ⟨_, rfl⟩
    obtain ⟨result, computed⟩ := computed
    simp only [computed]
    exact ⟨_, _, rfl⟩
  | _ => exact ⟨_, _, rfl⟩

end Connection

/-- What a machine stores, its state and the event determine its reaction. -/
theorem Reaction.unique {storage self self' : ConnectionState} {state next next' : State}
    {event : Event} {packets packets' : List FmtpPacket} {messages messages' : List FmtpMessage}
    (reaction : Reaction (storage.beforeDispatch event) state event self next packets messages)
    (reaction' : Reaction (storage.beforeDispatch event) state event self' next' packets'
      messages') :
    self = self' ∧ next = next' ∧ packets = packets' ∧ messages = messages' := by
  have handled := Connection.handleWithContext_of_reaction .empty reaction
  have handled' := Connection.handleWithContext_of_reaction .empty reaction'
  obtain ⟨machine, queues⟩ :=
    Prod.mk.inj (Except.ok.inj (handled.symm.trans handled'))
  obtain ⟨rfl, rfl⟩ := Connection.mk.inj machine
  obtain ⟨queued, delivered⟩ := ConnectionContext.mk.inj queues
  exact ⟨rfl, rfl, queued, delivered⟩

end Fmtp
