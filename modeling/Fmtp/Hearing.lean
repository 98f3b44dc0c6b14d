/-
This file compares what two lists of packets do to one machine. A packet is dispatched in the
state that the packets before it left, so what can be told of a list afterwards depends on the
state: in Error nothing, in Ready whether every packet leaves the session alone, during an
association the messages, the answers, and whether a packet was out of place. A run's reads leave
the machine and the queues as one packet a read does exactly where the packets that they leave at
the front of the buffer cannot be told from the packets of the stream.
-/

import Fmtp.Stream

namespace Fmtp

/-- The identification packet names no configured connection, and a machine in IdPending rejects
it. -/
def ConnectionState.Stranger (self : ConnectionState) (packet : FmtpPacket) : Prop :=
  packet.header.typ = .identification ∧ packet.isAccept = false ∧ packet.isReject = false ∧
    packet.checkHandshake self.config self.id = none

instance (self : ConnectionState) (packet : FmtpPacket) : Decidable (self.Stranger packet) :=
  inferInstanceAs (Decidable (_ ∧ _))

/-- The key under which a machine in IdPending goes on with its peer. A client without an entry
goes on with nobody. -/
def ConnectionState.peer (self : ConnectionState) (packet : FmtpPacket) : Option String :=
  if self.server = true ∨ self.entry ≠ none then packet.checkHandshake self.config self.id
  else none

theorem ConnectionContext.extend_extend (ctx : ConnectionContext)
    (packets packets' : List FmtpPacket) (messages messages' : List FmtpMessage) :
    (ctx.extend packets messages).extend packets' messages' =
      ctx.extend (packets ++ packets') (messages ++ messages') := by
  simp only [ConnectionContext.extend, List.append_assoc]

theorem ConnectionContext.extend_inj {ctx : ConnectionContext} {sent sent' : List FmtpPacket}
    {messages messages' : List FmtpMessage} :
    ctx.extend sent messages = ctx.extend sent' messages' ↔
      sent = sent' ∧ messages = messages' := by
  simp [ConnectionContext.extend]

namespace Tokio

/-! ### Packets that cannot be told apart -/

/-- Packets that leave a Ready session alone. -/
def Calm (packets : List FmtpPacket) : Prop :=
  ∀ packet ∈ packets, packet.isShutdown = true ∨ packet.isHeartbeat = true

instance (packets : List FmtpPacket) : Decidable (Calm packets) :=
  inferInstanceAs (Decidable (∀ packet ∈ packets, _))

/-- An acceptance, and then nothing that Ready refuses. -/
def Admitted : List FmtpPacket → Prop
  | packet :: rest => packet.isAccept = true ∧ Calm rest
  | [] => False

/-- A single packet other than an acceptance. -/
def Dismissed : List FmtpPacket → Prop
  | [packet] => packet.isAccept = false
  | _ => False

/-- What packets tell a machine that waits for an acceptance. -/
structure AlikeAccepting (packets packets' : List FmtpPacket) : Prop where
  silent : packets = [] ↔ packets' = []
  admitted : Admitted packets ↔ Admitted packets'
  dismissed : Dismissed packets ↔ Dismissed packets'

/-- What packets tell a machine that waits for an identification. -/
def AlikeIdentifying (self : ConnectionState) : List FmtpPacket → List FmtpPacket → Prop
  | [], [] => True
  | packet :: rest, packet' :: rest' =>
    (self.Stranger packet ↔ self.Stranger packet') ∧ self.peer packet = self.peer packet' ∧
      if self.peer packet = none then rest = [] ↔ rest' = []
      else if self.server = true then AlikeAccepting rest rest'
      else Calm rest ↔ Calm rest'
  | _, _ => False

/-- The traffic of an association, up to the first packet that is out of place. -/
structure Exchange where
  delivered : List FmtpMessage
  answered : List FmtpPacket
  sustained : Bool
deriving DecidableEq

/-- While associated, messages are delivered, heartbeats and startups keep the association, and a
shutdown is answered and suspends it. While suspended only a startup is in place; it is answered
and resumes the association. -/
def exchange : Bool → List FmtpPacket → Exchange
  | _, [] => ⟨[], [], true⟩
  | true, packet :: rest =>
    match packet.tryToMsg with
    | .ok msg => { exchange true rest with delivered := msg :: (exchange true rest).delivered }
    | .error _ =>
      if packet.isStartup = true ∨ packet.isHeartbeat = true then exchange true rest
      else if packet.isShutdown = true then
        { exchange false rest with answered := .shutdown :: (exchange false rest).answered }
      else ⟨[], [], false⟩
  | false, packet :: rest =>
    if packet.isStartup = true then
      { exchange true rest with answered := .startup :: (exchange true rest).answered }
    else ⟨[], [], false⟩

/-- Two lists of understood packets tell the machine the same: by its state, with the entry that
the states between connection and association look up first. -/
def Alike (machine : Fmtp.Connection) (now : Instant) (packets packets' : List FmtpPacket) :
    Prop :=
  match machine.state, machine.storage.entry with
  | .error, _ => True
  | .idle, _ | .connectionPending, some _ => packets = [] ↔ packets' = []
  | .idPending _, _ => AlikeIdentifying machine.storage packets packets'
  | .acceptPending _, some _ => AlikeAccepting packets packets'
  | .ready _, some _ => Calm packets ↔ Calm packets'
  | .associationPending _, some _ => exchange false packets = exchange false packets'
  | .dataReady tr _, some config =>
    exchange true packets = exchange true packets' ∧
      ((exchange true packets).sustained = true →
        (packets = [] ↔ packets' = []) ∨ tr = ⟨now + config.tr⟩)
  | _, none => min 2 packets.length = min 2 packets'.length

/-! ### The event of a packet -/

/-- The events that packets stand for. -/
inductive OfPacket (now : Instant) : Event → Prop
  | data (msg : FmtpMessage) : OfPacket now (.rData now msg)
  | accept : OfPacket now (.rAccept now)
  | reject : OfPacket now .rReject
  | recognised (key : String) : OfPacket now (.rIdValid now key)
  | stranger : OfPacket now .rIdInvalid
  | startup : OfPacket now (.rStartup now)
  | shutdown : OfPacket now (.rShutdown now)
  | heartbeat : OfPacket now (.rHeartbeat now)

/-- What an event tells about the packet that it was made of. -/
structure Hears (storage : ConnectionState) (now : Instant) (packet : FmtpPacket)
    (event : Event) : Prop where
  meaning : OfPacket now event
  data (msg : FmtpMessage) : packet.tryToMsg = .ok msg ↔ event = .rData now msg
  accept : packet.isAccept = true ↔ event = .rAccept now
  recognised (key : String) :
    packet.checkHandshake storage.config storage.id = some key ↔ event = .rIdValid now key
  stranger : storage.Stranger packet ↔ event = .rIdInvalid
  startup : packet.isStartup = true ↔ event = .rStartup now
  shutdown : packet.isShutdown = true ↔ event = .rShutdown now
  heartbeat : packet.isHeartbeat = true ↔ event = .rHeartbeat now

theorem hears {bytes : Nat} (nonzero : bytes ≠ 0) {storage : ConnectionState} {now : Instant}
    {packet : FmtpPacket} {event : Event}
    (translated : Event.fromIncomingPacket bytes packet now storage.config storage.id = .ok event) :
    Hears storage now packet event := by
  have unnamed (other : ∀ key, event ≠ .rIdValid now key) :
      packet.checkHandshake storage.config storage.id = none := by
    refine Option.eq_none_iff_forall_not_mem.mpr fun key named => other key ?_
    exact Except.ok.inj (translated.symm.trans (fromIncomingPacket_recognised nonzero named))
  unfold Event.fromIncomingPacket at translated
  rw [if_neg nonzero] at translated
  cases typ : packet.header.typ with
  | operational | operator =>
    obtain ⟨msg, data, -⟩ := packet.tryToMsg_of_typ (by rw [typ]; simp)
    simp only [typ, data] at translated
    cases translated
    refine ⟨by constructor, ?_, ?_, ?_, ?_, ?_, ?_, ?_⟩
    all_goals simp [FmtpPacket.isStartup, FmtpPacket.isShutdown,
      FmtpPacket.isHeartbeat, FmtpPacket.isAccept, ConnectionState.Stranger, typ, data, unnamed]
  | identification =>
    simp only [typ] at translated
    split_ifs at translated with accept reject
    · cases translated
      refine ⟨by constructor, ?_, ?_, ?_, ?_, ?_, ?_, ?_⟩
      all_goals simp [FmtpPacket.isStartup, FmtpPacket.isShutdown,
        FmtpPacket.isHeartbeat, FmtpPacket.tryToMsg, ConnectionState.Stranger, typ, accept, unnamed]
    · cases translated
      refine ⟨by constructor, ?_, ?_, ?_, ?_, ?_, ?_, ?_⟩
      all_goals simp [FmtpPacket.isStartup, FmtpPacket.isShutdown,
        FmtpPacket.isHeartbeat, FmtpPacket.tryToMsg, ConnectionState.Stranger, typ, accept, reject,
        unnamed]
    · rw [Bool.not_eq_true] at accept reject
      cases named : packet.checkHandshake storage.config storage.id with
      | some key =>
        simp only [named] at translated
        cases translated
        refine ⟨by constructor, ?_, ?_, ?_, ?_, ?_, ?_, ?_⟩
        all_goals simp [FmtpPacket.isStartup, FmtpPacket.isShutdown,
          FmtpPacket.isHeartbeat, FmtpPacket.tryToMsg, ConnectionState.Stranger, typ, accept,
          named]
      | none =>
        simp only [named] at translated
        cases translated
        refine ⟨by constructor, ?_, ?_, ?_, ?_, ?_, ?_, ?_⟩
        all_goals simp [FmtpPacket.isStartup, FmtpPacket.isShutdown,
          FmtpPacket.isHeartbeat, FmtpPacket.tryToMsg, ConnectionState.Stranger, typ, accept,
          reject, named]
  | system =>
    simp only [typ] at translated
    split_ifs at translated with startup shutdown heartbeat
    · cases translated
      have payload := (of_decide_eq_true startup).2
      refine ⟨by constructor, ?_, ?_, ?_, ?_, ?_, ?_, ?_⟩
      all_goals simp [FmtpPacket.isShutdown, FmtpPacket.isHeartbeat,
        FmtpPacket.isAccept, FmtpPacket.tryToMsg, ConnectionState.Stranger, typ, startup, payload,
        FmtpPacket.startupPayload, FmtpPacket.shutdownPayload, FmtpPacket.heartbeatPayload,
        unnamed]
    · cases translated
      have payload := (of_decide_eq_true shutdown).2
      refine ⟨by constructor, ?_, ?_, ?_, ?_, ?_, ?_, ?_⟩
      all_goals simp [FmtpPacket.isHeartbeat, startup,
        FmtpPacket.isAccept, FmtpPacket.tryToMsg, ConnectionState.Stranger, typ, shutdown, payload,
        FmtpPacket.shutdownPayload, FmtpPacket.heartbeatPayload,
        unnamed]
    · cases translated
      refine ⟨by constructor, ?_, ?_, ?_, ?_, ?_, ?_, ?_⟩
      all_goals simp [startup, shutdown, heartbeat,
        FmtpPacket.isAccept, FmtpPacket.tryToMsg, ConnectionState.Stranger, typ, unnamed]

/-! ### What one packet does -/

section Hear

variable {storage : ConnectionState} {config : ConnectionConfig} {now : Instant}
  {packet : FmtpPacket} {ctx : ConnectionContext}

/-- A machine hears an understood packet by a reaction to its event. -/
theorem hear_reaction (understood : Understood packet) (now : Instant) (state : State)
    (storage : ConnectionState) (ctx : ConnectionContext) :
    ∃ event, Hears storage now packet event ∧ ∀ {self' state' packets messages},
      Reaction storage state event self' state' packets messages →
        hear now (⟨state, storage⟩, ctx) packet =
          (⟨state', self'⟩, ctx.extend packets messages) := by
  obtain ⟨event, translated⟩ :=
    (understood_iff Nat.one_ne_zero packet now storage.config storage.id).mp understood
  have told : Hears storage now packet event := hears Nat.one_ne_zero translated
  refine ⟨event, told, fun {self' state' packets messages} reaction => ?_⟩
  have unhooked : storage.beforeDispatch event = storage := by
    cases told.meaning <;> rfl
  rw [← unhooked] at reaction
  have handled := Fmtp.Connection.handleWithContext_of_reaction ctx reaction
  have answered := answer_of_understood Nat.one_ne_zero understood now ⟨state, storage⟩ ctx
  simp only [Fmtp.Connection.answer, translated, handled] at answered
  exact (Except.ok.inj answered).symm

/-- Error hears nothing. -/
theorem hear_error (understood : Understood packet) :
    hear now (⟨.error, storage⟩, ctx) packet = (⟨.error, storage⟩, ctx) := by
  obtain ⟨event, -, heard⟩ := hear_reaction understood now .error storage ctx
  rw [heard (.ignored rfl fun needs => by cases needs), ctx.extend_nil]

/-- A packet in Idle is an error. -/
theorem hear_idle (understood : Understood packet) :
    hear now (⟨.idle, storage⟩, ctx) packet = (⟨.error, storage⟩, ctx) := by
  obtain ⟨event, told, heard⟩ := hear_reaction understood now .idle storage ctx
  have refused : State.idle.refuses event = true := by
    cases told.meaning <;> rfl
  rw [heard (.refused refused storage.configured_idle), ctx.extend_nil]

/-- A session without its entry is given up. -/
theorem hear_missing {state : State} (needs : state.needsEntry = true)
    (absent : storage.entry = none) (understood : Understood packet) :
    hear now (⟨state, storage⟩, ctx) packet = (⟨.idle, storage⟩, ctx) := by
  obtain ⟨event, -, heard⟩ := hear_reaction understood now state storage ctx
  rw [heard (.missing needs absent), ctx.extend_nil]

/-- A packet before the peer is connected is an error. -/
theorem hear_connectionPending (found : storage.entry = some config)
    (understood : Understood packet) :
    hear now (⟨.connectionPending, storage⟩, ctx) packet = (⟨.error, storage⟩, ctx) := by
  obtain ⟨event, told, heard⟩ := hear_reaction understood now .connectionPending storage ctx
  have refused : State.connectionPending.refuses event = true := by
    cases told.meaning <;> rfl
  rw [heard (.refused refused (storage.configured_of_found found _)), ctx.extend_nil]

/-- Ready hears shutdowns and heartbeats and leaves it at that; every other packet is an error. -/
theorem hear_ready (found : storage.entry = some config) (understood : Understood packet)
    (tr : Tr) :
    hear now (⟨.ready tr, storage⟩, ctx) packet =
      if packet.isShutdown = true ∨ packet.isHeartbeat = true then (⟨.ready tr, storage⟩, ctx)
      else (⟨.error, storage⟩, ctx) := by
  obtain ⟨event, told, heard⟩ := hear_reaction understood now (.ready tr) storage ctx
  have configured := storage.configured_of_found found (.ready tr)
  by_cases calm : packet.isShutdown = true ∨ packet.isHeartbeat = true
  · have quiet : (State.ready tr).ignores event = true := by
      rw [told.shutdown, told.heartbeat] at calm
      rcases calm with rfl | rfl
      all_goals rfl
    rw [if_pos calm, heard (.ignored quiet configured), ctx.extend_nil]
  · have refused : (State.ready tr).refuses event = true := by
      cases told.meaning with
      | shutdown => exact absurd (Or.inl (told.shutdown.mpr rfl)) calm
      | heartbeat => exact absurd (Or.inr (told.heartbeat.mpr rfl)) calm
      | _ => rfl
    rw [if_neg calm, heard (.refused refused configured), ctx.extend_nil]

/-- AcceptPending hears an acceptance; every other packet gives the session up. -/
theorem hear_acceptPending (found : storage.entry = some config)
    (understood : Understood packet) (ti : Ti) :
    hear now (⟨.acceptPending ti, storage⟩, ctx) packet =
      if packet.isAccept = true then (⟨.ready ⟨now + config.tr⟩, storage⟩, ctx)
      else (⟨.idle, storage⟩, ctx) := by
  obtain ⟨event, told, heard⟩ := hear_reaction understood now (.acceptPending ti) storage ctx
  by_cases accepted : packet.isAccept = true
  · obtain rfl := told.accept.mp accepted
    rw [if_pos accepted, heard (.accepted found), ctx.extend_nil]
  · have closing : (State.acceptPending ti).releases event = true := by
      cases told.meaning with
      | accept => exact absurd (told.accept.mpr rfl) accepted
      | _ => rfl
    rw [if_neg accepted, heard (.released closing (storage.configured_of_found found _)),
      ctx.extend_nil]

/-- While associated, a message is delivered. -/
theorem hear_data (found : storage.entry = some config) (understood : Understood packet) (tr : Tr)
    (ts : Ts) {msg : FmtpMessage} (data : packet.tryToMsg = .ok msg) :
    hear now (⟨.dataReady tr ts, storage⟩, ctx) packet =
      (⟨.dataReady ⟨now + config.tr⟩ ts, storage⟩, ctx.extend [] [msg]) := by
  obtain ⟨event, told, heard⟩ := hear_reaction understood now (.dataReady tr ts) storage ctx
  obtain rfl := (told.data msg).mp data
  exact heard (.delivered found)

/-- While associated, a startup or a heartbeat keeps the association. -/
theorem hear_kept (found : storage.entry = some config) (understood : Understood packet) (tr : Tr)
    (ts : Ts) (keeps : packet.isStartup = true ∨ packet.isHeartbeat = true) :
    hear now (⟨.dataReady tr ts, storage⟩, ctx) packet =
      (⟨.dataReady ⟨now + config.tr⟩ ts, storage⟩, ctx) := by
  obtain ⟨event, told, heard⟩ := hear_reaction understood now (.dataReady tr ts) storage ctx
  rw [told.startup, told.heartbeat] at keeps
  rw [heard (.refreshed found keeps.symm), ctx.extend_nil]

/-- While associated, a shutdown is answered and suspends the association. -/
theorem hear_suspended (found : storage.entry = some config) (understood : Understood packet)
    (tr : Tr) (ts : Ts) (shutdown : packet.isShutdown = true) :
    hear now (⟨.dataReady tr ts, storage⟩, ctx) packet =
      (⟨.associationPending ⟨now + config.tr⟩, storage⟩, ctx.extend [.shutdown] []) := by
  obtain ⟨event, told, heard⟩ := hear_reaction understood now (.dataReady tr ts) storage ctx
  obtain rfl := told.shutdown.mp shutdown
  exact heard (.suspended found)

/-- Any other packet is an error while associated. -/
theorem hear_misplaced (found : storage.entry = some config) (understood : Understood packet)
    (tr : Tr) (ts : Ts) {fault : Fault} (data : packet.tryToMsg = .error fault)
    (keeps : ¬ (packet.isStartup = true ∨ packet.isHeartbeat = true))
    (shutdown : ¬ packet.isShutdown = true) :
    hear now (⟨.dataReady tr ts, storage⟩, ctx) packet = (⟨.error, storage⟩, ctx) := by
  obtain ⟨event, told, heard⟩ := hear_reaction understood now (.dataReady tr ts) storage ctx
  have refused : (State.dataReady tr ts).refuses event = true := by
    cases told.meaning with
    | data msg => cases data.symm.trans ((told.data msg).mpr rfl)
    | startup => exact absurd (Or.inl (told.startup.mpr rfl)) keeps
    | heartbeat => exact absurd (Or.inr (told.heartbeat.mpr rfl)) keeps
    | shutdown => exact absurd (told.shutdown.mpr rfl) shutdown
    | _ => rfl
  rw [heard (.refused refused (storage.configured_of_found found _)), ctx.extend_nil]

/-- While suspended, a startup is answered and resumes the association; every other packet is an
error. -/
theorem hear_associationPending (found : storage.entry = some config)
    (understood : Understood packet) (tr : Tr) :
    hear now (⟨.associationPending tr, storage⟩, ctx) packet =
      if packet.isStartup = true then
        (⟨.dataReady ⟨now + config.tr⟩ ⟨now + config.ts⟩, storage⟩, ctx.extend [.startup] [])
      else (⟨.error, storage⟩, ctx) := by
  obtain ⟨event, told, heard⟩ := hear_reaction understood now (.associationPending tr) storage ctx
  by_cases resumed : packet.isStartup = true
  · obtain rfl := told.startup.mp resumed
    rw [if_pos resumed, heard (.associated found)]
  · have refused : (State.associationPending tr).refuses event = true := by
      cases told.meaning with
      | startup => exact absurd (told.startup.mpr rfl) resumed
      | _ => rfl
    rw [if_neg resumed, heard (.refused refused (storage.configured_of_found found _)),
      ctx.extend_nil]

/-- What IdPending makes of a packet. It goes on with a peer that it recognises and has an entry
for: as a server it answers with the handshake of the entry, as a client it accepts. It rejects a
stranger, and gives the session up on every other packet. -/
inductive Greeted (storage : ConnectionState) (now : Instant) (packet : FmtpPacket) :
    Fmtp.Connection → List FmtpPacket → Prop
  | client {key : String} {config : ConnectionConfig} (server : storage.server = true)
      (named : storage.peer packet = some key)
      (found : storage.config.connections.lookup key = some config) :
      Greeted storage now packet
        ⟨.acceptPending ⟨now + config.ti⟩,
          { storage with id := some key, target := config.initialTarget }⟩
        [.handshake config.localId config.remoteId]
  | server {key : String} {config : ConnectionConfig} (client : storage.server = false)
      (named : storage.peer packet = some key) (own : storage.id = some key)
      (found : storage.entry = some config) :
      Greeted storage now packet ⟨.ready ⟨now + config.tr⟩, storage⟩ [.accept]
  | stranger (nobody : storage.peer packet = none) (stranger : storage.Stranger packet) :
      Greeted storage now packet ⟨.idle, storage⟩ [.reject]
  | other (nobody : storage.peer packet = none) (known : ¬ storage.Stranger packet) :
      Greeted storage now packet ⟨.idle, storage⟩ []

theorem hear_idPending (understood : Understood packet) (ti : Ti) (ctx : ConnectionContext) :
    ∃ machine sent, Greeted storage now packet machine sent ∧
      hear now (⟨.idPending ti, storage⟩, ctx) packet = (machine, ctx.extend sent []) := by
  obtain ⟨event, told, heard⟩ := hear_reaction understood now (.idPending ti) storage ctx
  have configured := storage.configured_idPending ti
  cases named : packet.checkHandshake storage.config storage.id with
  | some key =>
    obtain rfl := (told.recognised key).mp named
    have familiar : ¬ storage.Stranger packet := fun stranger =>
      Option.some_ne_none key (named.symm.trans stranger.2.2.2)
    obtain ⟨config, found, -, -, own⟩ := FmtpPacket.checkHandshake_some named
    by_cases server : storage.server = true
    · have peer : storage.peer packet = some key := by
        rw [ConnectionState.peer, if_pos (Or.inl server), named]
      exact ⟨_, _, .client server peer found, heard (.identifiedClient server found)⟩
    · have client := Bool.eq_false_of_not_eq_true server
      cases entered : storage.entry with
      | some config =>
        have present : storage.entry ≠ none := by
          rw [entered]
          exact Option.some_ne_none config
        have peer : storage.peer packet = some key := by
          rw [ConnectionState.peer, if_pos (Or.inr present), named]
        exact ⟨_, _, .server client peer (own present) entered,
          heard (.identifiedServer client entered)⟩
      | none =>
        have nobody : storage.peer packet = none := by
          rw [ConnectionState.peer, if_neg (by simp [client, entered])]
        exact ⟨_, _, .other nobody familiar, heard (.unknownServer client entered)⟩
  | none =>
    have nobody : storage.peer packet = none := by
      rw [ConnectionState.peer, named, ite_self]
    by_cases stranger : storage.Stranger packet
    · obtain rfl := told.stranger.mp stranger
      exact ⟨_, _, .stranger nobody stranger, heard .invalid⟩
    · have closing : (State.idPending ti).releases event = true := by
        cases told.meaning with
        | recognised key => cases named.symm.trans ((told.recognised key).mpr rfl)
        | stranger => exact absurd (told.stranger.mpr rfl) stranger
        | _ => rfl
      exact ⟨_, _, .other nobody stranger, heard (.released closing configured)⟩

end Hear

/-! ### What a list of packets does -/

section Run

variable {storage : ConnectionState} {config : ConnectionConfig}
  {packets packets' : List FmtpPacket}

theorem foldl_error (understood : ∀ packet ∈ packets, Understood packet) (now : Instant)
    (ctx : ConnectionContext) :
    packets.foldl (hear now) (⟨.error, storage⟩, ctx) = (⟨.error, storage⟩, ctx) := by
  induction packets with
  | nil => rfl
  | cons packet rest inductionHypothesis =>
    obtain ⟨first, later⟩ := List.forall_mem_cons.mp understood
    rw [List.foldl_cons, hear_error first, inductionHypothesis later]

/-- Where a machine is that was in Idle. -/
def spent (packets : List FmtpPacket) : State :=
  if packets = [] then .idle else .error

theorem foldl_idle (understood : ∀ packet ∈ packets, Understood packet) (now : Instant)
    (ctx : ConnectionContext) :
    packets.foldl (hear now) (⟨.idle, storage⟩, ctx) = (⟨spent packets, storage⟩, ctx) := by
  cases packets with
  | nil => rfl
  | cons packet rest =>
    obtain ⟨first, later⟩ := List.forall_mem_cons.mp understood
    rw [List.foldl_cons, hear_idle first, foldl_error later, spent, if_neg (List.cons_ne_nil _ _)]

theorem spent_inj : spent packets = spent packets' ↔ (packets = [] ↔ packets' = []) := by
  unfold spent
  by_cases silent : packets = []
  all_goals
    by_cases silent' : packets' = []
    all_goals simp [silent, silent']

/-- Where a machine is that lacks the entry of its session. -/
def forlorn (state : State) (packets : List FmtpPacket) : State :=
  match packets with
  | [] => state
  | _ :: rest => spent rest

theorem foldl_missing {state : State} (needs : state.needsEntry = true)
    (absent : storage.entry = none) (understood : ∀ packet ∈ packets, Understood packet)
    (now : Instant) (ctx : ConnectionContext) :
    packets.foldl (hear now) (⟨state, storage⟩, ctx) = (⟨forlorn state packets, storage⟩, ctx) := by
  cases packets with
  | nil => rfl
  | cons packet rest =>
    obtain ⟨first, later⟩ := List.forall_mem_cons.mp understood
    rw [List.foldl_cons, hear_missing needs absent first, foldl_idle later, forlorn]

theorem forlorn_inj {state : State} (needs : state.needsEntry = true) :
    forlorn state packets = forlorn state packets' ↔
      min 2 packets.length = min 2 packets'.length := by
  have apart (rest : List FmtpPacket) : state ≠ spent rest := by
    intro same
    rw [same, spent] at needs
    split_ifs at needs
    all_goals cases needs
  cases packets with
  | nil =>
    cases packets' with
    | nil => simp
    | cons packet rest =>
      refine iff_of_false (apart rest) ?_
      rw [List.length_nil, List.length_cons]
      omega
  | cons packet rest =>
    cases packets' with
    | nil =>
      refine iff_of_false (apart rest).symm ?_
      rw [List.length_nil, List.length_cons]
      omega
    | cons packet' rest' =>
      show spent rest = spent rest' ↔ _
      rw [spent_inj, ← List.length_eq_zero_iff, ← List.length_eq_zero_iff, List.length_cons,
        List.length_cons]
      omega

theorem foldl_connectionPending (found : storage.entry = some config)
    (understood : ∀ packet ∈ packets, Understood packet) (now : Instant)
    (ctx : ConnectionContext) :
    packets.foldl (hear now) (⟨.connectionPending, storage⟩, ctx) =
      (⟨if packets = [] then .connectionPending else .error, storage⟩, ctx) := by
  cases packets with
  | nil => rfl
  | cons packet rest =>
    obtain ⟨first, later⟩ := List.forall_mem_cons.mp understood
    rw [List.foldl_cons, hear_connectionPending found first, foldl_error later,
      if_neg (List.cons_ne_nil _ _)]

theorem foldl_ready (found : storage.entry = some config)
    (understood : ∀ packet ∈ packets, Understood packet) (now : Instant) (tr : Tr)
    (ctx : ConnectionContext) :
    packets.foldl (hear now) (⟨.ready tr, storage⟩, ctx) =
      (⟨if Calm packets then .ready tr else .error, storage⟩, ctx) := by
  induction packets with
  | nil => rfl
  | cons packet rest inductionHypothesis =>
    obtain ⟨first, later⟩ := List.forall_mem_cons.mp understood
    rw [List.foldl_cons, hear_ready found first]
    by_cases calm : packet.isShutdown = true ∨ packet.isHeartbeat = true
    · have same : Calm (packet :: rest) ↔ Calm rest :=
        List.forall_mem_cons.trans (and_iff_right calm)
      rw [if_pos calm, inductionHypothesis later]
      simp only [same]
    · have broken : ¬ Calm (packet :: rest) := fun all => calm (all packet List.mem_cons_self)
      rw [if_neg calm, foldl_error later, if_neg broken]

/-- Whether Ready was left tells whether the packets were calm. -/
theorem ready_inj {tr : Tr} :
    ((if Calm packets then State.ready tr else .error) =
        if Calm packets' then State.ready tr else .error) ↔ (Calm packets ↔ Calm packets') := by
  by_cases calm : Calm packets
  all_goals
    by_cases calm' : Calm packets'
    all_goals simp [calm, calm']

/-! ### Waiting for an acceptance -/

/-- Where a machine is that was in AcceptPending. -/
def admission (config : ConnectionConfig) (now : Instant) (ti : Ti) (packets : List FmtpPacket) :
    State :=
  match packets with
  | [] => .acceptPending ti
  | packet :: rest =>
    if packet.isAccept = true then if Calm rest then .ready ⟨now + config.tr⟩ else .error
    else spent rest

theorem foldl_acceptPending (found : storage.entry = some config)
    (understood : ∀ packet ∈ packets, Understood packet) (now : Instant) (ti : Ti)
    (ctx : ConnectionContext) :
    packets.foldl (hear now) (⟨.acceptPending ti, storage⟩, ctx) =
      (⟨admission config now ti packets, storage⟩, ctx) := by
  cases packets with
  | nil => rfl
  | cons packet rest =>
    obtain ⟨first, later⟩ := List.forall_mem_cons.mp understood
    rw [List.foldl_cons, hear_acceptPending found first, admission]
    by_cases accept : packet.isAccept = true
    · rw [if_pos accept, if_pos accept, foldl_ready found later]
    · rw [if_neg accept, if_neg accept, foldl_idle later]

section Admission

variable (config : ConnectionConfig) (now : Instant) (ti : Ti) (packets packets' : List FmtpPacket)

/-- Where a machine is that was in AcceptPending, by what it was told. -/
theorem admission_iff :
    (admission config now ti packets = .acceptPending ti ↔ packets = []) ∧
      (admission config now ti packets = .ready ⟨now + config.tr⟩ ↔ Admitted packets) ∧
      (admission config now ti packets = .idle ↔ Dismissed packets) ∧
      (packets ≠ [] → ¬ Admitted packets → ¬ Dismissed packets →
        admission config now ti packets = .error) := by
  cases packets with
  | nil => simp [admission, Admitted, Dismissed]
  | cons packet rest =>
    by_cases accept : packet.isAccept = true
    · by_cases calm : Calm rest
      all_goals
        cases rest
        all_goals simp [admission, Admitted, Dismissed, accept, calm]
    · cases rest
      all_goals simp [admission, Admitted, Dismissed, accept, spent]

theorem admission_inj :
    admission config now ti packets = admission config now ti packets' ↔
      AlikeAccepting packets packets' := by
  obtain ⟨silent, admitted, dismissed, failed⟩ := admission_iff config now ti packets
  obtain ⟨silent', admitted', dismissed', failed'⟩ := admission_iff config now ti packets'
  constructor
  · intro same
    rw [same] at silent admitted dismissed
    exact ⟨silent.symm.trans silent', admitted.symm.trans admitted',
      dismissed.symm.trans dismissed'⟩
  · intro alike
    by_cases waits : packets = []
    · rw [silent.mpr waits, silent'.mpr (alike.silent.mp waits)]
    · by_cases enters : Admitted packets
      · rw [admitted.mpr enters, admitted'.mpr (alike.admitted.mp enters)]
      · by_cases leaves : Dismissed packets
        · rw [dismissed.mpr leaves, dismissed'.mpr (alike.dismissed.mp leaves)]
        · rw [failed waits enters leaves, failed' (mt alike.silent.mpr waits)
            (mt alike.admitted.mpr enters) (mt alike.dismissed.mpr leaves)]

end Admission

/-! ### During an association -/

/-- Where the traffic of an association leaves the machine; `quiet` if nothing was answered. -/
def Exchange.state (traffic : Exchange) (config : ConnectionConfig) (now : Instant)
    (quiet : State) : State :=
  if traffic.sustained = true then
    match traffic.answered.getLast? with
    | none => quiet
    | some answer =>
      if answer.isShutdown = true then .associationPending ⟨now + config.tr⟩
      else .dataReady ⟨now + config.tr⟩ ⟨now + config.ts⟩
  else .error

/-- What was answered first does not matter to what comes later. -/
theorem Exchange.state_answered (traffic : Exchange) (config : ConnectionConfig) (now : Instant)
    (answer : FmtpPacket) (quiet : State) :
    ({ traffic with answered := answer :: traffic.answered } : Exchange).state config now quiet =
      traffic.state config now
        (if answer.isShutdown = true then .associationPending ⟨now + config.tr⟩
          else .dataReady ⟨now + config.tr⟩ ⟨now + config.ts⟩) := by
  unfold state
  rw [List.getLast?_cons]
  cases traffic.answered.getLast? <;> rfl

/-- The state and the queues after the traffic of an association. -/
theorem foldl_exchange (found : storage.entry = some config)
    (understood : ∀ packet ∈ packets, Understood packet) (now : Instant) :
    (∀ tr ts ctx, packets.foldl (hear now) (⟨.dataReady tr ts, storage⟩, ctx) =
        (⟨(exchange true packets).state config now
            (.dataReady (if packets = [] then tr else ⟨now + config.tr⟩) ts), storage⟩,
          ctx.extend (exchange true packets).answered (exchange true packets).delivered)) ∧
      ∀ tr ctx, packets.foldl (hear now) (⟨.associationPending tr, storage⟩, ctx) =
        (⟨(exchange false packets).state config now (.associationPending tr), storage⟩,
          ctx.extend (exchange false packets).answered (exchange false packets).delivered) := by
  induction packets with
  | nil =>
    refine ⟨fun tr ts ctx => ?_, fun tr ctx => ?_⟩
    all_goals
      simp only [exchange, ctx.extend_nil]
      rfl
  | cons packet rest inductionHypothesis =>
    obtain ⟨first, later⟩ := List.forall_mem_cons.mp understood
    obtain ⟨talking, waiting⟩ := inductionHypothesis later
    refine ⟨fun tr ts ctx => ?_, fun tr ctx => ?_⟩
    · rw [List.foldl_cons, if_neg (List.cons_ne_nil _ _)]
      cases data : packet.tryToMsg with
      | ok msg =>
        rw [hear_data found first tr ts data, talking, ite_self, ConnectionContext.extend_extend]
        simp only [exchange, data]
        rfl
      | error fault =>
        by_cases keeps : packet.isStartup = true ∨ packet.isHeartbeat = true
        · rw [hear_kept found first tr ts keeps, talking, ite_self]
          simp only [exchange, data, if_pos keeps]
        · by_cases shutdown : packet.isShutdown = true
          · rw [hear_suspended found first tr ts shutdown, waiting,
              ConnectionContext.extend_extend]
            simp only [exchange, data, if_neg keeps, if_pos shutdown, Exchange.state_answered]
            rfl
          · rw [hear_misplaced found first tr ts data keeps shutdown, foldl_error later]
            simp only [exchange, data, if_neg keeps, if_neg shutdown, ctx.extend_nil]
            rfl
    · rw [List.foldl_cons, hear_associationPending found first]
      by_cases startup : packet.isStartup = true
      · rw [if_pos startup, talking, ite_self, ConnectionContext.extend_extend]
        simp only [exchange, if_pos startup, Exchange.state_answered]
        rfl
      · rw [if_neg startup, foldl_error later]
        simp only [exchange, if_neg startup, ctx.extend_nil]
        rfl

end Run

/-! ### Telling two lists apart -/

section Alike

variable {storage : ConnectionState} {config : ConnectionConfig}
  {packets packets' : List FmtpPacket}

/-- Two machines with one storage and the same queues differ in the state. -/
theorem state_inj {state state' : State} {ctx : ConnectionContext} :
    ((⟨state, storage⟩, ctx) : Fmtp.Connection × ConnectionContext) = (⟨state', storage⟩, ctx) ↔
      state = state' := by
  simp

/-- Traffic in place leaves no Error. -/
theorem Exchange.state_eq_error_iff {traffic : Exchange} {now : Instant} {quiet : State}
    (clear : quiet ≠ .error) :
    traffic.state config now quiet = .error ↔ traffic.sustained = false := by
  unfold Exchange.state
  cases traffic.sustained with
  | false => simp
  | true =>
    cases traffic.answered.getLast? with
    | none => simpa using clear
    | some answer => by_cases answer.isShutdown = true <;> simp [*]

/-- The outcomes of two exchanges are the same only if the exchanges are. -/
theorem Exchange.eq_of_outcome {traffic traffic' : Exchange} {now : Instant}
    {quiet quiet' : State} {ctx : ConnectionContext} (clear : quiet ≠ .error)
    (clear' : quiet' ≠ .error)
    (state : traffic.state config now quiet = traffic'.state config now quiet')
    (queues : ctx.extend traffic.answered traffic.delivered =
      ctx.extend traffic'.answered traffic'.delivered) : traffic = traffic' := by
  obtain ⟨answered, delivered⟩ := ConnectionContext.extend_inj.mp queues
  have broken : traffic.sustained = false ↔ traffic'.sustained = false := by
    rw [← state_eq_error_iff clear, state, state_eq_error_iff clear']
  obtain ⟨_, _, sustained⟩ := traffic
  obtain ⟨_, _, sustained'⟩ := traffic'
  cases answered
  cases delivered
  congr 1
  cases sustained <;> cases sustained' <;> simp_all

theorem dataReady_alike (found : storage.entry = some config)
    (understood : ∀ packet ∈ packets, Understood packet)
    (understood' : ∀ packet ∈ packets', Understood packet) (now : Instant) (tr : Tr) (ts : Ts)
    (ctx : ConnectionContext) :
    packets.foldl (hear now) (⟨.dataReady tr ts, storage⟩, ctx) =
        packets'.foldl (hear now) (⟨.dataReady tr ts, storage⟩, ctx) ↔
      exchange true packets = exchange true packets' ∧
        ((exchange true packets).sustained = true →
          (packets = [] ↔ packets' = []) ∨ tr = ⟨now + config.tr⟩) := by
  rw [(foldl_exchange found understood now).1, (foldl_exchange found understood' now).1,
    Prod.mk.injEq, Fmtp.Connection.mk.injEq]
  have clear (tr : Tr) : State.dataReady tr ts ≠ .error := fun same => by cases same
  constructor
  · rintro ⟨⟨state, -⟩, queues⟩
    have same := Exchange.eq_of_outcome (clear _) (clear _) state queues
    refine ⟨same, fun sustained => ?_⟩
    rw [← same] at state
    by_cases silent : packets = []
    · by_cases silent' : packets' = []
      · exact Or.inl (iff_of_true silent silent')
      · subst silent
        rw [if_pos rfl, if_neg silent'] at state
        exact Or.inr (State.dataReady.inj state).1
    · by_cases silent' : packets' = []
      · subst silent'
        rw [same, if_pos rfl, if_neg silent] at state
        exact Or.inr (State.dataReady.inj state).1.symm
      · exact Or.inl (iff_of_false silent silent')
  · rintro ⟨same, timed⟩
    rw [← same]
    refine ⟨⟨?_, rfl⟩, rfl⟩
    by_cases sustained : (exchange true packets).sustained = true
    · rcases timed sustained with silent | rfl
      · simp only [silent]
      · rw [ite_self, ite_self]
    · rw [Bool.not_eq_true] at sustained
      rw [(Exchange.state_eq_error_iff (clear _)).mpr sustained,
        (Exchange.state_eq_error_iff (clear _)).mpr sustained]

theorem associationPending_alike (found : storage.entry = some config)
    (understood : ∀ packet ∈ packets, Understood packet)
    (understood' : ∀ packet ∈ packets', Understood packet) (now : Instant) (tr : Tr)
    (ctx : ConnectionContext) :
    packets.foldl (hear now) (⟨.associationPending tr, storage⟩, ctx) =
        packets'.foldl (hear now) (⟨.associationPending tr, storage⟩, ctx) ↔
      exchange false packets = exchange false packets' := by
  rw [(foldl_exchange found understood now).2, (foldl_exchange found understood' now).2,
    Prod.mk.injEq, Fmtp.Connection.mk.injEq]
  have clear : State.associationPending tr ≠ .error := fun same => by cases same
  constructor
  · rintro ⟨⟨state, -⟩, queues⟩
    exact Exchange.eq_of_outcome clear clear state queues
  · intro same
    rw [same]
    exact ⟨⟨rfl, rfl⟩, rfl⟩

/-- Where a machine goes that an identification has opened. -/
def onward (machine : Fmtp.Connection) (now : Instant) (rest : List FmtpPacket) : State :=
  match machine.state, machine.storage.entry with
  | .acceptPending ti, some config => admission config now ti rest
  | .ready tr, some _ => if Calm rest then .ready tr else .error
  | _, _ => spent rest

theorem foldl_onward {now : Instant} {packet : FmtpPacket} {machine : Fmtp.Connection}
    {sent : List FmtpPacket} (greeted : Greeted storage now packet machine sent)
    (understood : ∀ packet ∈ packets, Understood packet) (ctx : ConnectionContext) :
    packets.foldl (hear now) (machine, ctx) =
      (⟨onward machine now packets, machine.storage⟩, ctx) := by
  cases greeted with
  | @client key config server named found =>
    have entered : ({ storage with id := some key, target := config.initialTarget } :
        ConnectionState).entry = some config := found
    rw [foldl_acceptPending entered understood]
    simp only [onward, entered]
  | server client named own found =>
    rw [foldl_ready found understood]
    simp only [onward, found]
  | stranger | other => exact foldl_idle understood now ctx

theorem onward_ne_idPending (machine : Fmtp.Connection) (now : Instant) (rest : List FmtpPacket)
    (ti : Ti) : onward machine now rest ≠ .idPending ti := by
  unfold onward admission spent
  repeat' split
  all_goals exact fun same => by cases same

/-- A machine that goes on with a peer knows it. -/
theorem not_stranger_of_peer {packet : FmtpPacket} {key : String}
    (named : storage.peer packet = some key) : ¬ storage.Stranger packet := by
  intro stranger
  rw [ConnectionState.peer, stranger.2.2.2, ite_self] at named
  cases named

/-- What two packets make of one machine in IdPending, with the packets after them. -/
theorem onward_alike {now : Instant} {packet packet' : FmtpPacket}
    {machine machine' : Fmtp.Connection} {sent sent' : List FmtpPacket}
    (greeted : Greeted storage now packet machine sent)
    (greeted' : Greeted storage now packet' machine' sent') (rest rest' : List FmtpPacket) :
    (onward machine now rest = onward machine' now rest' ∧ machine.storage = machine'.storage) ∧
        sent = sent' ↔
      AlikeIdentifying storage (packet :: rest) (packet' :: rest') := by
  -- A handshake is no rejection: it has a dash.
  have rejects {sender receiver : FmtpIdentifier} :
      FmtpPacket.handshake sender receiver ≠ .reject := by
    intro same
    exact handshakePayload_ne (by decide) (congrArg FmtpPacket.data same)
  cases greeted with
  | @client key config server named found =>
    have familiar := not_stranger_of_peer named
    cases greeted' with
    | @client key' config' _ named' found' =>
      have familiar' := not_stranger_of_peer named'
      have goesOn : storage.peer packet ≠ none := by
        rw [named]
        exact Option.some_ne_none key
      simp only [AlikeIdentifying, if_neg goesOn, if_pos server]
      by_cases same : key = key'
      · subst same
        obtain rfl : config = config' := Option.some.inj (found.symm.trans found')
        have entered : ({ storage with id := some key, target := config.initialTarget } :
            ConnectionState).entry = some config := found
        simp only [onward, entered, and_true]
        rw [admission_inj]
        exact ⟨fun alike => ⟨iff_of_false familiar familiar', named.trans named'.symm, alike⟩,
          fun alike => alike.2.2⟩
      · refine iff_of_false ?_ ?_
        · exact fun alike => same (Option.some.inj (congrArg ConnectionState.id alike.1.2))
        · exact fun alike =>
            same (Option.some.inj (named.symm.trans (alike.2.1.trans named')))
    | server client' => cases server.symm.trans client'
    | stranger nobody' stranger' =>
      refine iff_of_false ?_ fun alike => familiar (alike.1.mpr stranger')
      exact fun same => rejects (List.cons.inj same.2).1
    | other nobody' =>
      refine iff_of_false (fun same => by cases same.2) fun alike => ?_
      cases named.symm.trans (alike.2.1.trans nobody')
  | @server key config client named own found =>
    have familiar := not_stranger_of_peer named
    cases greeted' with
    | client server' => cases server'.symm.trans client
    | @server key' config' _ named' own' found' =>
      have familiar' := not_stranger_of_peer named'
      have goesOn : storage.peer packet ≠ none := by
        rw [named]
        exact Option.some_ne_none key
      have passive : ¬ storage.server = true := by
        rw [client]
        exact Bool.false_ne_true
      obtain rfl : config = config' := Option.some.inj (found.symm.trans found')
      obtain rfl : key = key' := Option.some.inj (own.symm.trans own')
      simp only [AlikeIdentifying, if_neg goesOn, if_neg passive, onward, found, and_true]
      rw [ready_inj]
      exact ⟨fun alike => ⟨iff_of_false familiar familiar', named.trans named'.symm, alike⟩,
        fun alike => alike.2.2⟩
    | stranger nobody' stranger' =>
      refine iff_of_false (fun same => by cases same.2) fun alike => ?_
      exact familiar (alike.1.mpr stranger')
    | other nobody' =>
      refine iff_of_false (fun same => by cases same.2) fun alike => ?_
      cases named.symm.trans (alike.2.1.trans nobody')
  | stranger nobody stranger =>
    cases greeted' with
    | client _ named' =>
      refine iff_of_false ?_ fun alike => not_stranger_of_peer named' (alike.1.mp stranger)
      exact fun same => rejects (List.cons.inj same.2).1.symm
    | server _ named' =>
      refine iff_of_false (fun same => by cases same.2) fun alike => ?_
      exact not_stranger_of_peer named' (alike.1.mp stranger)
    | stranger nobody' stranger' =>
      simp only [AlikeIdentifying, if_pos nobody, onward, and_true]
      rw [spent_inj]
      exact ⟨fun alike => ⟨iff_of_true stranger stranger', nobody.trans nobody'.symm, alike⟩,
        fun alike => alike.2.2⟩
    | other nobody' known' =>
      exact iff_of_false (fun same => by cases same.2) fun alike => known' (alike.1.mp stranger)
  | other nobody known =>
    cases greeted' with
    | client _ named' =>
      refine iff_of_false (fun same => by cases same.2) fun alike => ?_
      cases named'.symm.trans (alike.2.1.symm.trans nobody)
    | server _ named' =>
      refine iff_of_false (fun same => by cases same.2) fun alike => ?_
      cases named'.symm.trans (alike.2.1.symm.trans nobody)
    | stranger nobody' stranger' =>
      exact iff_of_false (fun same => by cases same.2) fun alike => known (alike.1.mpr stranger')
    | other nobody' known' =>
      simp only [AlikeIdentifying, if_pos nobody, onward, and_true]
      rw [spent_inj]
      exact ⟨fun alike => ⟨iff_of_false known known', nobody.trans nobody'.symm, alike⟩,
        fun alike => alike.2.2⟩

theorem idPending_alike (understood : ∀ packet ∈ packets, Understood packet)
    (understood' : ∀ packet ∈ packets', Understood packet) (now : Instant) (ti : Ti)
    (ctx : ConnectionContext) :
    packets.foldl (hear now) (⟨.idPending ti, storage⟩, ctx) =
        packets'.foldl (hear now) (⟨.idPending ti, storage⟩, ctx) ↔
      AlikeIdentifying storage packets packets' := by
  -- A first packet leaves IdPending.
  have leaves {packet : FmtpPacket} {rest : List FmtpPacket}
      (understood : ∀ other ∈ packet :: rest, Understood other) :
      (packet :: rest).foldl (hear now) (⟨.idPending ti, storage⟩, ctx) ≠
        (⟨.idPending ti, storage⟩, ctx) := by
    obtain ⟨first, later⟩ := List.forall_mem_cons.mp understood
    obtain ⟨machine, sent, greeted, heard⟩ := hear_idPending first ti ctx
    rw [List.foldl_cons, heard, foldl_onward greeted later]
    intro same
    exact onward_ne_idPending machine now rest ti (congrArg (·.1.state) same)
  cases packets with
  | nil =>
    cases packets' with
    | nil => exact iff_of_true rfl trivial
    | cons packet' rest' => exact iff_of_false (leaves understood').symm id
  | cons packet rest =>
    cases packets' with
    | nil => exact iff_of_false (leaves understood) id
    | cons packet' rest' =>
      obtain ⟨first, later⟩ := List.forall_mem_cons.mp understood
      obtain ⟨first', later'⟩ := List.forall_mem_cons.mp understood'
      obtain ⟨machine, sent, greeted, heard⟩ := hear_idPending first ti ctx
      obtain ⟨machine', sent', greeted', heard'⟩ := hear_idPending first' ti ctx
      rw [List.foldl_cons, List.foldl_cons, heard, heard', foldl_onward greeted later,
        foldl_onward greeted' later', Prod.mk.injEq, Fmtp.Connection.mk.injEq,
        ConnectionContext.extend_inj, and_iff_left rfl]
      exact onward_alike greeted greeted' rest rest'

/-- Two lists of understood packets leave the machine and its queues the same exactly where they
tell the machine the same. -/
theorem foldl_alike (understood : ∀ packet ∈ packets, Understood packet)
    (understood' : ∀ packet ∈ packets', Understood packet) (machine : Fmtp.Connection)
    (now : Instant) (ctx : ConnectionContext) :
    packets.foldl (hear now) (machine, ctx) = packets'.foldl (hear now) (machine, ctx) ↔
      Alike machine now packets packets' := by
  obtain ⟨state, storage⟩ := machine
  have missing (needs : state.needsEntry = true) (absent : storage.entry = none) :
      packets.foldl (hear now) (⟨state, storage⟩, ctx) =
          packets'.foldl (hear now) (⟨state, storage⟩, ctx) ↔
        min 2 packets.length = min 2 packets'.length := by
    rw [foldl_missing needs absent understood, foldl_missing needs absent understood', state_inj,
      forlorn_inj needs]
  cases state with
  | error =>
    rw [foldl_error understood, foldl_error understood']
    exact iff_of_true rfl trivial
  | idle =>
    rw [foldl_idle understood, foldl_idle understood', state_inj, spent_inj]
    rfl
  | idPending ti => exact idPending_alike understood understood' now ti ctx
  | connectionPending =>
    cases found : storage.entry with
    | none => simpa only [Alike, found] using missing rfl found
    | some config =>
      simp only [Alike, found]
      rw [foldl_connectionPending found understood, foldl_connectionPending found understood',
        state_inj]
      by_cases silent : packets = []
      all_goals
        by_cases silent' : packets' = []
        all_goals simp [silent, silent']
  | acceptPending ti =>
    cases found : storage.entry with
    | none => simpa only [Alike, found] using missing rfl found
    | some config =>
      simp only [Alike, found]
      rw [foldl_acceptPending found understood, foldl_acceptPending found understood', state_inj,
        admission_inj]
  | ready tr =>
    cases found : storage.entry with
    | none => simpa only [Alike, found] using missing rfl found
    | some config =>
      simp only [Alike, found]
      rw [foldl_ready found understood, foldl_ready found understood', state_inj, ready_inj]
  | associationPending tr =>
    cases found : storage.entry with
    | none => simpa only [Alike, found] using missing rfl found
    | some config =>
      simp only [Alike, found]
      exact associationPending_alike found understood understood' now tr ctx
  | dataReady tr ts =>
    cases found : storage.entry with
    | none => simpa only [Alike, found] using missing rfl found
    | some config =>
      simp only [Alike, found]
      exact dataReady_alike found understood understood' now tr ts ctx

end Alike

/-! ### What the reads must leave -/

namespace Sample

/-- Two packets of one byte. -/
def packets : List SmallPacket :=
  [⟨.ofPayload .operational [1] (by decide), by decide⟩,
    ⟨.ofPayload .operational [2] (by decide), by decide⟩]

/-- Both packets in one read. -/
def coalesced : List Chunk := [⟨(packets.map (·.1.intoBytes)).flatten, by decide⟩]

theorem heartbeat_small : FmtpPacket.heartbeat.intoBytes.length ≤ 10240 := by decide

def beat : SmallPacket := ⟨.heartbeat, heartbeat_small⟩

/-- Two heartbeats. -/
def beats : List SmallPacket := [beat, beat]

/-- Both heartbeats in one read. -/
def coalescedBeats : List Chunk := [⟨(beats.map (·.1.intoBytes)).flatten, by decide⟩]

/-- A client that has associated. -/
def ready : Fmtp.Connection where
  state := .dataReady ⟨40⟩ ⟨15⟩
  storage :=
    { config := Fmtp.Sample.clientConfig, server := false, target := .dataReady,
      id := some "test" }

end Sample

end Tokio

end Fmtp
