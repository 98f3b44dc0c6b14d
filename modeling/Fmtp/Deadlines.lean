/-
This file proves that deadlines say what the history says. A log is cut where the machine entered
the state it is in; the entry and what was dispatched since then determine each deadline: a timer
counts from the latest event that renews it, and from nothing else.
-/

import Fmtp.Record

namespace Fmtp

open TransitionSystem

/-! ### Visits -/

/-- The states, whatever their deadlines. -/
inductive Kind
  | idle
  | connectionPending
  | idPending
  | acceptPending
  | ready
  | associationPending
  | dataReady
  | error
deriving DecidableEq, Repr

def State.kind : State → Kind
  | .idle => .idle
  | .connectionPending => .connectionPending
  | .idPending _ => .idPending
  | .acceptPending _ => .acceptPending
  | .ready _ => .ready
  | .associationPending _ => .associationPending
  | .dataReady _ _ => .dataReady
  | .error => .error

/-- The log ends with the dispatch that entered a state and those that have kept it since. -/
structure Visit (kind : Kind) (log : List Dispatched) (entering : Dispatched)
    (since : List Dispatched) : Prop where
  split : ∃ older, log = older ++ entering :: since
  enters : entering.before.state.kind ≠ kind ∧ entering.after.state.kind = kind
  stays : ∀ entry ∈ since, entry.before.state.kind = kind ∧ entry.after.state.kind = kind

namespace Visit

variable {kind : Kind} {entry entering : Dispatched} {log since : List Dispatched}

/-- A dispatch that enters a state starts a visit. -/
theorem start (log : List Dispatched) (outside : entry.before.state.kind ≠ kind)
    (inside : entry.after.state.kind = kind) : Visit kind (log ++ [entry]) entry [] :=
  ⟨⟨log, rfl⟩, ⟨outside, inside⟩, List.forall_mem_nil _⟩

/-- A dispatch that keeps the state prolongs the visit. -/
theorem stay (visit : Visit kind log entering since) (before : entry.before.state.kind = kind)
    (after : entry.after.state.kind = kind) :
    Visit kind (log ++ [entry]) entering (since ++ [entry]) := by
  obtain ⟨older, rfl⟩ := visit.split
  refine ⟨⟨older, ?_⟩, visit.enters, ?_⟩
  · rw [List.append_assoc, List.cons_append]
  · exact List.forall_mem_append.mpr ⟨visit.stays, List.forall_mem_singleton.mpr ⟨before, after⟩⟩

end Visit

/-! ### Renewals -/

/-- The time an event carries. -/
def Event.now : Event → Option Instant
  | .rSetup now | .rAccept now | .rIdValid now _ | .rData now _ | .rHeartbeat now
  | .rShutdown now | .rStartup now | .trTimeout now | .tsTimeout now | .lData now _
  | .lShutdown now | .lStartup now => some now
  | .rDisconnect | .rReject | .rIdInvalid | .tiTimeout | .lSetup _ | .lDisconnect => none

/-- The time of the latest dispatch that renews a timer; `first` is when the state was entered. -/
def latest (renews : Dispatched → Option Instant) (first : Instant) (since : List Dispatched) :
    Instant :=
  since.foldl (fun last entry => (renews entry).getD last) first

theorem latest_append (renews : Dispatched → Option Instant) (first : Instant)
    (since : List Dispatched) (entry : Dispatched) :
    latest renews first (since ++ [entry]) = (renews entry).getD (latest renews first since) := by
  rw [latest, List.foldl_append]
  rfl

namespace Dispatched

/-- The peer was heard of. -/
def hears (entry : Dispatched) : Option Instant :=
  match entry.event with
  | .rStartup now | .rData now _ | .rHeartbeat now => some now
  | _ => none

/-- The peer is kept alive: a heartbeat is due, or a message is sent. -/
def speaks (entry : Dispatched) : Option Instant :=
  match entry.event with
  | .tsTimeout now | .lData now _ => some now
  | _ => none

/-- The association is asked for again. -/
def retries (entry : Dispatched) : Option Instant :=
  match entry.event with
  | .trTimeout now => some now
  | _ => none

/-- A packet is queued. -/
def queues (entry : Dispatched) : Option Instant :=
  if entry.packets = [] then none else entry.event.now

end Dispatched

/-! ### What the history says of each deadline -/

/-- The deadlines of a machine are those that its log determines. -/
def Timed (machine : Connection) (log : List Dispatched) : Prop :=
  match machine.state with
  | .idle | .connectionPending | .error => True
  | .idPending ti => ∃ entering now, Visit .idPending log entering [] ∧
      entering.event = .rSetup now ∧
      (machine.storage.server = true → ∃ serverTi,
        machine.storage.config.serverTi = some serverTi ∧ ti.deadline = now + serverTi) ∧
      (machine.storage.server = false → ∃ config,
        machine.storage.entry = some config ∧ ti.deadline = now + config.ti)
  | .acceptPending ti => ∃ entering now id config, Visit .acceptPending log entering [] ∧
      entering.event = .rIdValid now id ∧ machine.storage.entry = some config ∧
      ti.deadline = now + config.ti
  | .ready tr => ∃ entering since now config, Visit .ready log entering since ∧
      entering.event.now = some now ∧ machine.storage.entry = some config ∧
      tr.deadline = now + config.tr
  | .associationPending tr => ∃ entering since now config,
      Visit .associationPending log entering since ∧
      (entering.event = .lStartup now ∨ entering.event = .rShutdown now) ∧
      machine.storage.entry = some config ∧
      tr.deadline = latest Dispatched.retries now since + config.tr
  | .dataReady tr ts => ∃ entering since now config, Visit .dataReady log entering since ∧
      entering.event = .rStartup now ∧ entering.queues = some now ∧
      machine.storage.entry = some config ∧
      tr.deadline = latest Dispatched.hears now since + config.tr ∧
      ts.deadline = latest Dispatched.speaks now since + config.ts ∧
      latest Dispatched.speaks now since = latest Dispatched.queues now since

/-- A dispatch that keeps DataReady renews each timer exactly where it is a renewal of it. -/
theorem Timed.stay {entry : Dispatched} {log : List Dispatched} {tr tr' : Tr} {ts ts' : Ts}
    {config : ConnectionConfig} (timed : Timed entry.before log)
    (before : entry.before.state = .dataReady tr ts)
    (after : entry.after.state = .dataReady tr' ts')
    (found : entry.before.storage.entry = some config)
    (found' : entry.after.storage.entry = some config)
    (heard : tr'.deadline = (entry.hears.map (· + config.tr)).getD tr.deadline)
    (spoke : ts'.deadline = (entry.speaks.map (· + config.ts)).getD ts.deadline)
    (queued : entry.queues = entry.speaks) : Timed entry.after (log ++ [entry]) := by
  have renewed (renewal : Option Instant) (last : Instant) (duration : Duration) :
      (renewal.map (· + duration)).getD (last + duration) = renewal.getD last + duration := by
    cases renewal <;> rfl
  unfold Timed at timed ⊢
  rw [before] at timed
  rw [after]
  obtain ⟨entering, since, now, config', visit, entered, asked, named, hears, speaks, same⟩ := timed
  obtain rfl := Option.some.inj (named.symm.trans found)
  refine ⟨entering, since ++ [entry], now, config', visit.stay ?_ ?_, entered, asked, found', ?_,
    ?_, ?_⟩
  · rw [before]
    rfl
  · rw [after]
    rfl
  · rw [heard, hears, renewed, latest_append]
  · rw [spoke, speaks, renewed, latest_append]
  · rw [latest_append, latest_append, queued, same]

/-- Each dispatch takes the deadlines to those of the longer log. -/
theorem Timed.step {config : Config} {entry : Dispatched} {log : List Dispatched}
    (timed : Timed entry.before log) (recorded : Recorded config entry.before)
    (genuine : entry.Genuine) : Timed entry.after (log ++ [entry]) := by
  obtain ⟨⟨state, storage⟩, event, packets, messages, ⟨state', storage'⟩⟩ := entry
  have reaction : Reaction (storage.beforeDispatch event) state event storage' state' packets
    messages := genuine
  have server : (storage.beforeDispatch event).server = storage.server :=
    storage.beforeDispatch_server event
  have client : state = .connectionPending → storage.server = false := recorded.client
  have entries : (storage.beforeDispatch event).entry = storage.entry :=
    storage.beforeDispatch_entry event
  clear genuine recorded
  revert server entries reaction
  generalize storage.beforeDispatch event = self
  intro reaction server entries
  cases reaction with
  | ignored quiet configured =>
    cases state with
    | ready tr =>
      obtain ⟨entering, since, now, config, visit, entered, found, due⟩ := timed
      exact ⟨entering, _, now, config, visit.stay rfl rfl, entered, entries.trans found, due⟩
    | idle | error => trivial
    | connectionPending | idPending | acceptPending | associationPending | dataReady => cases quiet
  | released | refused | missing | untimed | setUp | unknownId | unknownClient | unknownServer
  | invalid | abandoned | closed => trivial
  | served known =>
    refine ⟨_, _, Visit.start log nofun rfl, rfl, fun _ => ⟨_, known, rfl⟩, ?_⟩
    exact fun client => absurd client Bool.true_eq_false.mp
  | connected found =>
    have role : self.server = false := server.trans (client rfl)
    refine ⟨_, _, Visit.start log nofun rfl, rfl, fun served => ?_, fun _ => ⟨_, found, rfl⟩⟩
    exact absurd (role.symm.trans served) Bool.false_ne_true
  | identifiedClient role found => exact ⟨_, _, _, _, Visit.start log nofun rfl, rfl, found, rfl⟩
  | identifiedServer role found => exact ⟨_, _, _, _, Visit.start log nofun rfl, rfl, found, rfl⟩
  | accepted found | withdrawn found | stopped found =>
    exact ⟨_, _, _, _, Visit.start log nofun rfl, rfl, found, rfl⟩
  | started found => exact ⟨_, _, _, _, Visit.start log nofun rfl, Or.inl rfl, found, rfl⟩
  | suspended found => exact ⟨_, _, _, _, Visit.start log nofun rfl, Or.inr rfl, found, rfl⟩
  | associated found =>
    exact ⟨_, _, _, _, Visit.start log nofun rfl, rfl, rfl, found, rfl, rfl, rfl⟩
  | restarted found =>
    obtain ⟨entering, since, now, config, visit, entered, _, _⟩ := timed
    refine ⟨entering, _, now, _, visit.stay rfl rfl, entered, found, ?_⟩
    rw [latest_append]
    rfl
  | kept found | delivered found | sent found fits =>
    exact timed.stay rfl rfl (entries.symm.trans found) found rfl rfl rfl
  | refreshed found alive =>
    rcases alive with rfl | rfl
    · exact timed.stay rfl rfl (entries.symm.trans found) found rfl rfl rfl
    · exact timed.stay rfl rfl (entries.symm.trans found) found rfl rfl rfl

/-- In every state that a run of events reaches, each deadline is the duration that belongs to it
after the latest event that renews its timer: in DataReady, `tr` counts from the latest STARTUP,
message or heartbeat received, and `ts` from the latest packet queued. -/
theorem deadlines_exact {config : Config} {id : Option String} {events : List Event}
    {recording : Recording} (run : Run Recording.step (.start config id) events recording) :
    Timed recording.connection recording.log := by
  have kept : ∀ recording event next,
      Recorded config recording.connection ∧ Timed recording.connection recording.log →
      Recording.step recording event = some next →
      Recorded config next.connection ∧ Timed next.connection next.log := by
    rintro recording event next ⟨recorded, timed⟩ move
    obtain ⟨entry, genuine, source, rfl, target, _, log⟩ := Recording.step_spec move
    rw [← source] at recorded timed
    rw [← target, log]
    exact ⟨recorded.reaction genuine, timed.step recorded genuine⟩
  have start : Recorded config (Recording.start config id).connection ∧
      Timed (Recording.start config id).connection (Recording.start config id).log :=
    ⟨Recorded.new config id, trivial⟩
  exact (run.preserves kept start).2

/-- The deadlines of the tests' client. -/
theorem deadlines_exact_sending : Timed Sample.recording.connection Sample.recording.log := by
  have run : Run Recording.step (.start Sample.clientConfig none) Sample.sending
      Sample.recording := Run.of_final rfl
  exact deadlines_exact run

/-- The client was last heard of at its startup, and spoke last when it sent its message. -/
example : Sample.recording.connection.state = .dataReady ⟨3 + 40⟩ ⟨4 + 15⟩ := rfl

end Fmtp
