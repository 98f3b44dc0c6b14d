/-
This file records what a machine does and proves that no data passes before identification
and association: whatever history led to it, a message delivered or a data packet queued
was preceded, in the same session, by the handshakes, the acceptance and the association.
-/

import Fmtp.Reaction
import Fmtp.Trace
import Fmtp.Transition

namespace Fmtp

open Trace TransitionSystem

/-! ### Recorded dispatches -/

/-- One dispatch as the ghost history keeps it. -/
structure Dispatched where
  before : Connection
  event : Event
  packets : List FmtpPacket
  messages : List FmtpMessage
  after : Connection

/-- The record of a dispatch: what it appended to the queues is what the queues gained. -/
def Dispatched.of (before : Connection) (event : Event) (context : ConnectionContext)
    (after : Connection) (context' : ConnectionContext) : Dispatched where
  before
  event
  packets := context'.sendQueue.drop context.sendQueue.length
  messages := context'.recvQueue.drop context.recvQueue.length
  after

/-- A record is a reaction of the machine it names. -/
def Dispatched.Genuine (entry : Dispatched) : Prop :=
  Reaction (entry.before.storage.beforeDispatch entry.event) entry.before.state entry.event
    entry.after.storage entry.after.state entry.packets entry.messages

/-- Every record of a dispatch is genuine, and the queues grew by exactly what it lists. -/
theorem Dispatched.of_spec {before after : Connection} {event : Event}
    {context context' : ConnectionContext}
    (handled : before.handleWithContext event context = .ok (after, context')) :
    (Dispatched.of before event context after context').Genuine ∧
      context' = context.extend (Dispatched.of before event context after context').packets
        (Dispatched.of before event context after context').messages := by
  obtain ⟨packets, messages, reaction, rfl⟩ := Connection.handleWithContext_reaction handled
  have queued : (Dispatched.of before event context after
      (context.extend packets messages)).packets = packets := List.drop_left
  have received : (Dispatched.of before event context after
      (context.extend packets messages)).messages = messages := List.drop_left
  rw [Dispatched.Genuine, queued, received]
  exact ⟨reaction, rfl⟩

/-! ### Recorded runs of a machine -/

/-- A machine with its queues and the ghost list of its dispatches, oldest first. -/
structure Recording where
  connection : Connection
  context : ConnectionContext
  log : List Dispatched

namespace Recording

def start (config : Config) (id : Option String) : Recording where
  connection := .new config id
  context := .empty
  log := []

/-- One dispatch. A panic ends the run. -/
def step (recording : Recording) (event : Event) : Option Recording :=
  match recording.connection.handleWithContext event recording.context with
  | .ok (connection, context) =>
    some
      { connection
        context
        log := recording.log ++
          [.of recording.connection event recording.context connection context] }
  | .error _ => none

/-- A step of a recording is one genuine record more. -/
theorem step_spec {recording next : Recording} {event : Event}
    (move : recording.step event = some next) :
    ∃ entry : Dispatched, entry.Genuine ∧ entry.before = recording.connection ∧
      entry.event = event ∧ entry.after = next.connection ∧
      next.context = recording.context.extend entry.packets entry.messages ∧
      next.log = recording.log ++ [entry] := by
  unfold step at move
  split at move
  · rename_i connection context handled
    obtain rfl := Option.some.inj move
    obtain ⟨genuine, queues⟩ := Dispatched.of_spec handled
    exact ⟨_, genuine, rfl, rfl, rfl, queues, rfl⟩
  · cases move

end Recording

/-! ### Observations -/

/-- What a history shows, in the order in which one dispatch does it: the event reaches the
handler, the handler queues and delivers, the machine enters the next state. -/
inductive Observation
  | dispatched (machine : Connection) (event : Event)
  | queued (storage : ConnectionState) (packet : FmtpPacket)
  | received (msg : FmtpMessage)
  | entered (state : State)

namespace Observation

def EntersIdle : Observation → Prop
  | .entered .idle => True
  | _ => False

/-- The handshake of the entry the machine stores the id of. -/
def OwnHandshake : Observation → Prop
  | .queued storage packet =>
    ∃ config, storage.entry = some config ∧ packet = .handshake config.localId config.remoteId
  | _ => False

/-- An `RIdValid` dispatched in `IdPending`. -/
def Identifies : Observation → Prop
  | .dispatched { state := .idPending _, .. } (.rIdValid _ _) => True
  | _ => False

/-- A client queues ACCEPT, a server is dispatched an `RAccept` in `AcceptPending`. -/
def Accepts : Observation → Prop
  | .queued storage packet => storage.server = false ∧ packet = .accept
  | .dispatched { state := .acceptPending _, storage } (.rAccept _) => storage.server = true
  | _ => False

def QueuesStartup : Observation → Prop
  | .queued _ packet => packet = .startup
  | _ => False

def QueuesShutdown : Observation → Prop
  | .queued _ packet => packet = .shutdown
  | _ => False

/-- An `RStartup` dispatched in `AssociationPending`. -/
def Associates : Observation → Prop
  | .dispatched { state := .associationPending _, .. } (.rStartup _) => True
  | _ => False

/-- A message delivered, or an Operational, Operator or heartbeat packet queued. -/
def PassesData : Observation → Prop
  | .received _ => True
  | .queued _ packet =>
    packet.header.typ = .operational ∨ packet.header.typ = .operator ∨ packet = .heartbeat
  | _ => False

end Observation

def Dispatched.observations (entry : Dispatched) : List Observation :=
  .dispatched entry.before entry.event ::
    (entry.packets.map (.queued entry.after.storage) ++ entry.messages.map .received ++
      [.entered entry.after.state])

/-- The history of a log: the machine starts in Idle. -/
def history (log : List Dispatched) : List Observation :=
  .entered .idle :: log.flatMap Dispatched.observations

/-! ### The stages of a session -/

/-- The machine queued its own handshake and was dispatched an `RIdValid`. -/
def Identified (stretch : List Observation) : Prop :=
  Occurs Observation.OwnHandshake stretch ∧ Occurs Observation.Identifies stretch

/-- After that, the acceptance. -/
def Accepted : List Observation → Prop :=
  Then Identified (Occurs Observation.Accepts)

/-- After that, and with no SHUTDOWN queued since, a STARTUP each way. -/
def Associated : List Observation → Prop :=
  Then Accepted fun stretch =>
    Occurs Observation.QueuesStartup stretch ∧ Occurs Observation.Associates stretch ∧
      Never Observation.QueuesShutdown stretch

/-- What the history of a machine shows in each state. -/
def Stage (machine : Connection) (trace : List Observation) : Prop :=
  match machine.state with
  | .idPending _ => machine.storage.server = false →
      SinceLast Observation.EntersIdle (Occurs Observation.OwnHandshake) trace
  | .acceptPending _ => machine.storage.server = true ∧
      SinceLast Observation.EntersIdle Identified trace
  | .ready _ | .associationPending _ => SinceLast Observation.EntersIdle Accepted trace
  | .dataReady _ _ => SinceLast Observation.EntersIdle Associated trace
  | .idle | .connectionPending | .error => True

theorem Accepted.append {stretch : List Observation} (accepted : Accepted stretch)
    (later : List Observation) : Accepted (stretch ++ later) :=
  Then.append accepted fun _ occurs => occurs.append later

theorem Associated.append {stretch later : List Observation} (associated : Associated stretch)
    (open_ : Never Observation.QueuesShutdown later) : Associated (stretch ++ later) :=
  Then.append associated fun _ holds =>
    ⟨holds.1.append later, holds.2.1.append later, holds.2.2.append open_⟩

/-- An association contains the acceptance before it. -/
theorem Associated.accepted {stretch : List Observation} (associated : Associated stretch) :
    Accepted stretch := by
  obtain ⟨before, after, rfl, accepted, _⟩ := associated
  exact accepted.append after

theorem history_append (log : List Dispatched) (entry : Dispatched) :
    history (log ++ [entry]) = history log ++ entry.observations := by
  simp [history]

theorem Dispatched.occurs_queued {entry : Dispatched} {good : Observation → Prop}
    {packet : FmtpPacket} (member : packet ∈ entry.packets)
    (holds : good (.queued entry.after.storage packet)) : Occurs good entry.observations := by
  refine ⟨.queued entry.after.storage packet, ?_, holds⟩
  rw [observations]
  exact List.mem_cons_of_mem _
    (List.mem_append_left _ (List.mem_append_left _ (List.mem_map_of_mem member)))

/-- A dispatch that does not end in Idle shows no return to Idle. -/
theorem Dispatched.never_entersIdle {entry : Dispatched} (busy : entry.after.state ≠ .idle) :
    Never Observation.EntersIdle entry.observations := by
  intro observation member
  simp only [observations, List.mem_cons, List.mem_append, List.mem_map, List.not_mem_nil,
    or_false] at member
  rcases member with rfl | (⟨packet, _, rfl⟩ | ⟨msg, _, rfl⟩) | rfl
  · exact not_false
  · exact not_false
  · exact not_false
  · cases state : entry.after.state with
    | idle => exact absurd state busy
    | _ => exact not_false

/-- A dispatch that queues no SHUTDOWN shows none. -/
theorem Dispatched.never_queuesShutdown {entry : Dispatched}
    (other : FmtpPacket.shutdown ∉ entry.packets) :
    Never Observation.QueuesShutdown entry.observations := by
  intro observation member
  simp only [observations, List.mem_cons, List.mem_append, List.mem_map, List.not_mem_nil,
    or_false] at member
  rcases member with rfl | (⟨packet, queued, rfl⟩ | ⟨msg, _, rfl⟩) | rfl
  · exact not_false
  · rintro rfl
    exact other queued
  · exact not_false
  · exact not_false

/-- The packet of a message is no SHUTDOWN. -/
theorem FmtpPacket.shutdown_not_mem {msg : FmtpMessage} {packet : FmtpPacket}
    (built : fromMsg msg = .ok packet) : shutdown ∉ [packet] := by
  rw [List.mem_singleton]
  rintro rfl
  rcases fromMsg_typ built with typ | typ <;> cases typ

/-- Each dispatch takes the history to the stage of its next state. -/
theorem Stage.step {entry : Dispatched} {trace : List Observation}
    (stage : Stage entry.before trace) (genuine : entry.Genuine) :
    Stage entry.after (trace ++ entry.observations) := by
  obtain ⟨⟨state, storage⟩, event, packets, messages, ⟨state', storage'⟩⟩ := entry
  have reaction : Reaction (storage.beforeDispatch event) state event storage' state' packets
    messages := genuine
  have server : (storage.beforeDispatch event).server = storage.server :=
    storage.beforeDispatch_server event
  clear genuine
  revert server reaction
  generalize storage.beforeDispatch event = self
  intro reaction server
  cases reaction with
  | ignored quiet configured =>
    cases state with
    | ready tr =>
      exact SinceLast.append stage (Dispatched.never_entersIdle nofun) fun _ accepted =>
        accepted.append _
    | idle | error => trivial
    | connectionPending | idPending | acceptPending | associationPending | dataReady => cases quiet
  | released | refused | missing | untimed | setUp | unknownId | unknownClient | unknownServer
  | invalid | abandoned | closed => trivial
  | served timed => exact fun client => absurd client Bool.true_eq_false.mp
  | connected found =>
    intro _
    exact SinceLast.start trace (Dispatched.never_entersIdle nofun)
      (Dispatched.occurs_queued List.mem_cons_self ⟨_, found, rfl⟩)
  | identifiedClient role found =>
    refine ⟨role, SinceLast.start trace (Dispatched.never_entersIdle nofun) ⟨?_, ?_⟩⟩
    · exact Dispatched.occurs_queued List.mem_cons_self ⟨_, found, rfl⟩
    · exact ⟨_, List.mem_cons_self, trivial⟩
  | identifiedServer role found =>
    have client : storage.server = false := server ▸ role
    refine SinceLast.append (stage client) (Dispatched.never_entersIdle nofun) fun newer own => ?_
    show Accepted (newer ++ (.dispatched _ _ :: [.queued storage' .accept, .entered _]))
    rw [List.append_cons]
    refine Then.next ⟨own.append _, Occurs.last ⟨_, List.mem_cons_self, ?_⟩ newer⟩
      ⟨_, List.mem_cons_self, role, rfl⟩
    trivial
  | accepted found =>
    refine SinceLast.append stage.2 (Dispatched.never_entersIdle nofun) fun newer identified => ?_
    exact Then.next identified ⟨_, List.mem_cons_self, stage.1⟩
  | started found | restarted found | withdrawn found =>
    exact SinceLast.append stage (Dispatched.never_entersIdle nofun) fun _ accepted =>
      accepted.append _
  | suspended found | stopped found =>
    exact SinceLast.append stage (Dispatched.never_entersIdle nofun) fun _ associated =>
      associated.accepted.append _
  | associated found =>
    refine SinceLast.append stage (Dispatched.never_entersIdle nofun) fun newer accepted => ?_
    have open_ : FmtpPacket.shutdown ∉ [FmtpPacket.startup] := by decide
    refine Then.next accepted ⟨?_, ?_, Dispatched.never_queuesShutdown open_⟩
    · exact Dispatched.occurs_queued List.mem_cons_self rfl
    · exact ⟨_, List.mem_cons_self, trivial⟩
  | kept found =>
    have open_ : FmtpPacket.shutdown ∉ [FmtpPacket.heartbeat] := by decide
    exact SinceLast.append stage (Dispatched.never_entersIdle nofun) fun _ associated =>
      associated.append (Dispatched.never_queuesShutdown open_)
  | delivered found | refreshed found =>
    exact SinceLast.append stage (Dispatched.never_entersIdle nofun) fun _ associated =>
      associated.append (Dispatched.never_queuesShutdown List.not_mem_nil)
  | sent found fits =>
    exact SinceLast.append stage (Dispatched.never_entersIdle nofun) fun _ associated =>
      associated.append (Dispatched.never_queuesShutdown (FmtpPacket.shutdown_not_mem fits))

/-! ### No data before the association -/

/-- A dispatch that passes data happens in DataReady, stays there and queues no SHUTDOWN. -/
theorem Dispatched.passesData {entry : Dispatched} {observation : Observation}
    (genuine : entry.Genuine) (member : observation ∈ entry.observations)
    (data : observation.PassesData) :
    (∃ tr ts, entry.before.state = .dataReady tr ts) ∧ entry.after.state ≠ .idle ∧
      FmtpPacket.shutdown ∉ entry.packets := by
  obtain ⟨⟨state, storage⟩, event, packets, messages, ⟨state', storage'⟩⟩ := entry
  have reaction : Reaction (storage.beforeDispatch event) state event storage' state' packets
    messages := genuine
  simp only [observations, List.mem_cons, List.mem_append, List.mem_map, List.not_mem_nil,
    or_false] at member
  rcases member with rfl | (⟨packet, queued, rfl⟩ | ⟨msg, received, rfl⟩) | rfl
  · exact absurd data not_false
  · cases reaction with
    | kept found => exact ⟨⟨_, _, rfl⟩, nofun, by show _ ∉ [FmtpPacket.heartbeat]; decide⟩
    | sent found fits => exact ⟨⟨_, _, rfl⟩, nofun, FmtpPacket.shutdown_not_mem fits⟩
    | connected | identifiedClient | identifiedServer | invalid =>
      obtain rfl := List.mem_singleton.mp queued
      rcases data with typ | typ | same
      · cases typ
      · cases typ
      · cases congrArg (fun packet => packet.header.typ) same
    | started | associated | restarted | abandoned | withdrawn | closed | suspended | stopped =>
      obtain rfl := List.mem_singleton.mp queued
      rcases data with typ | typ | same
      · cases typ
      · cases typ
      · exact absurd same (by decide)
    | _ => exact absurd queued List.not_mem_nil
  · cases reaction with
    | delivered found => exact ⟨⟨_, _, rfl⟩, nofun, List.not_mem_nil⟩
    | _ => exact absurd received List.not_mem_nil
  · exact absurd data not_false

/-- Whenever a message is delivered or a data or heartbeat packet is queued, the session so
far shows the association. -/
theorem associated_before_data {config : Config} {id : Option String} {events : List Event}
    {recording : Recording} (run : Run Recording.step (.start config id) events recording)
    {before after : List Observation} {observation : Observation}
    (split : history recording.log = before ++ observation :: after)
    (data : observation.PassesData) : SinceLast Observation.EntersIdle Associated before := by
  let invariant (recording : Recording) : Prop :=
    Stage recording.connection (history recording.log) ∧
      ∀ before observation after, history recording.log = before ++ observation :: after →
        observation.PassesData → SinceLast Observation.EntersIdle Associated before
  have start : invariant (.start config id) := by
    refine ⟨trivial, ?_⟩
    intro before observation after split data
    have member : observation ∈ history [] := by
      show observation ∈ history (Recording.start config id).log
      rw [split]
      exact List.mem_append_right before List.mem_cons_self
    rw [history, List.flatMap_nil, List.mem_singleton] at member
    subst member
    exact absurd data not_false
  have kept : ∀ recording event next, invariant recording →
      Recording.step recording event = some next → invariant next := by
    rintro recording event next ⟨stage, earlier⟩ move
    obtain ⟨entry, genuine, source, _, target, _, log⟩ := Recording.step_spec move
    rw [← source] at stage
    refine ⟨?_, ?_⟩
    · rw [← target, log, history_append]
      exact stage.step genuine
    · intro before observation after split data
      rw [log, history_append] at split
      rcases split_append split with ⟨rest, old⟩ | ⟨stretch, rfl, new⟩
      · exact earlier before observation rest old data
      · have member : observation ∈ entry.observations := by
          rw [new]
          exact List.mem_append_right stretch List.mem_cons_self
        obtain ⟨⟨tr, ts, ready⟩, busy, other⟩ := Dispatched.passesData genuine member data
        have part : stretch ⊆ entry.observations := by
          rw [new]
          exact List.subset_append_left stretch _
        simp only [Stage, ready] at stage
        exact stage.append (fun o m => Dispatched.never_entersIdle busy o (part m))
          fun _ associated => associated.append fun o m =>
            Dispatched.never_queuesShutdown other o (part m)
  exact (run.preserves kept start).2 before observation after split data

/-- The client of the tests, associated and sending one message. -/
def Sample.sending : List Event :=
  [.lSetup "test", .rSetup 0, .rIdValid 1 "test", .lStartup 2, .rStartup 3,
    .lData 4 (.operational [1])]

def Sample.recording : Recording :=
  (final Recording.step (.start Sample.clientConfig none) Sample.sending).getD
    (.start Sample.clientConfig none)

/-- In the tests' session the data packet comes after the association. -/
theorem associated_before_data_sending :
    SinceLast Observation.EntersIdle Associated ((history Sample.recording.log).take 16) := by
  have run : Run Recording.step (.start Sample.clientConfig none) Sample.sending
      Sample.recording := Run.of_final rfl
  exact associated_before_data run (List.take_append_drop 16 _).symm (Or.inl rfl)

end Fmtp
