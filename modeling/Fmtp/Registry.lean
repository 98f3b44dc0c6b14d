/-
This file proves when the daemon's map stays tied to its connections: as long as every
insertion finds its key unused and no event is handled while another task is between the
removal and the insertion of a re-keying. Both happen in runs of the code: the key of an
accepted connection is chosen by its peer, and the lock is not held over a re-keying.
-/

import Fmtp.Daemon
import Fmtp.Transition

open TransitionSystem

namespace Fmtp.Tokio.Daemon

/-! ### What the map promises -/

/-- The id under which a live task expects its entry, once it has inserted one. -/
def Handler.current : Handler → Option String
  | .waiting _ id | .rekeying id _ _ => some id
  | .absent | .accepted _ | .ended => none

def Handler.Rekeys : Handler → Prop
  | .rekeying _ _ _ => True
  | .absent | .accepted _ | .waiting _ _ | .ended => False

/-- The task has exactly one entry, under the id and with its own command channel. -/
def Holds (daemon : Daemon) (task : Nat) (id : String) : Prop :=
  (∃ connection, daemon.connections.lookup id = some connection ∧
      connection.commandTx = task) ∧
    ∀ id' connection, daemon.connections.lookup id' = some connection →
      connection.commandTx = task → id' = id

/-- Every live task that has inserted its entry holds exactly it. -/
def Tied (daemon : Daemon) : Prop :=
  ∀ task id, (daemon.tasks task).current = some id → daemon.Holds task id

/-- The same for the tasks that are not re-keying. -/
def SettledTied (daemon : Daemon) : Prop :=
  ∀ task role id, daemon.tasks task = .waiting role id → daemon.Holds task id

/-- The step ends what a task does at one go, an insertion or the handling of an event: all but an
accept, which does nothing to the map, and a removal that takes an entry in hand. -/
def completes (daemon : Daemon) (label : Label) : Bool :=
  match label.deed, daemon.tasks label.task with
  | .accept _, _ => false
  | .connectionIdDetermined _, .waiting .server id => (daemon.connections.lookup id).isNone
  | _, _ => true

/-- A change of state and a closing leave the entries of other connections alone, and a closing
leaves none of its own. -/
def Spares (daemon : Daemon) (label : Label) (next : Daemon) : Prop :=
  ((∃ state, label.deed = .stateChanged state) ∨ label.deed = .close →
    ∀ id connection, connection.commandTx ≠ label.task →
      (daemon.connections.lookup id = some connection ↔
        next.connections.lookup id = some connection)) ∧
  (label.deed = .close → ∀ id connection, next.connections.lookup id = some connection →
    connection.commandTx ≠ label.task)

/-- What is promised of a step. -/
def Kept (tied : Daemon → Prop) (daemon : Daemon) (label : Label) (next : Daemon) : Prop :=
  (daemon.completes label = true → tied next) ∧ daemon.Spares label next

/-- The key under which a step inserts an entry. -/
def inserts (daemon : Daemon) (label : Label) : Option String :=
  match label.deed, daemon.tasks label.task with
  | .insert uuid, _ => some uuid
  | .client, _ => daemon.clients.head?
  | .reinsert, .rekeying _ determinedId _ => some determinedId
  | _, _ => none

/-- An insertion finds its key unused. -/
def Unused (daemon : Daemon) (label : Label) : Prop :=
  ∀ id, daemon.inserts label = some id → daemon.connections.lookup id = none

instance (daemon : Daemon) (label : Label) : Decidable (daemon.Unused label) :=
  match inserted : daemon.inserts label with
  | none => .isTrue fun _ same => nomatch inserted.symm.trans same
  | some id =>
    decidable_of_iff (daemon.connections.lookup id = none)
      ⟨fun unused _ same => Option.some.inj (inserted.symm.trans same) ▸ unused,
        fun unused => unused id inserted⟩

/-- No handling ends while another task is re-keying. -/
def Alone (daemon : Daemon) (label : Label) : Prop :=
  daemon.completes label = true → ∀ task, task ≠ label.task → ¬ (daemon.tasks task).Rekeys

/-! ### The invariant -/

/-- Every entry is that of a waiting task under its id, and a re-keying task has its own entry in
its hands. -/
structure Consistent (daemon : Daemon) : Prop where
  fresh : ∀ task, daemon.spawned ≤ task → daemon.tasks task = .absent
  owned : ∀ id connection, daemon.connections.lookup id = some connection →
    (∃ role, daemon.tasks connection.commandTx = .waiting role id) ∧
      connection.msgRx = connection.commandTx
  holds : ∀ task role id, daemon.tasks task = .waiting role id →
    ∃ connection, daemon.connections.lookup id = some connection ∧ connection.commandTx = task
  carries : ∀ task id determinedId connection,
    daemon.tasks task = .rekeying id determinedId connection →
      connection.commandTx = task ∧ connection.msgRx = task

theorem Consistent.run {config : Config} {first : Daemon} (started : run config = .ok first) :
    first.Consistent := by
  unfold Daemon.run at started
  dsimp only at started
  split at started
  · cases started
  · obtain rfl := Except.ok.inj started
    exact ⟨fun _ _ => rfl, nofun, nofun, nofun⟩

section Invariant

variable {daemon next : Daemon} {task : Nat} {role : Role} {id : String}
  {connection : ConnectionState}

/-- A waiting task of a consistent map holds exactly one entry. -/
theorem Consistent.holds_of_waiting (consistent : daemon.Consistent)
    (waiting : daemon.tasks task = .waiting role id) : daemon.Holds task id := by
  refine ⟨consistent.holds task role id waiting, ?_⟩
  rintro id' connection found rfl
  obtain ⟨⟨role', other⟩, _⟩ := consistent.owned id' connection found
  have same := waiting.symm.trans other
  injection same with _ same
  exact same.symm

/-- A task that is not waiting has no entry. -/
theorem Consistent.other_task (consistent : daemon.Consistent)
    (busy : ∀ role id, daemon.tasks task ≠ .waiting role id)
    (found : daemon.connections.lookup id = some connection) : connection.commandTx ≠ task := by
  rintro rfl
  obtain ⟨⟨role, waiting⟩, _⟩ := (consistent.owned id connection found)
  exact busy role id waiting

/-- What a step does, with the guards under which it does it. -/
inductive Effect (daemon : Daemon) (task : Nat) : Deed → Daemon → Prop
  | accepted {remoteAddr : SocketAddr} (absent : daemon.tasks task = .absent)
      (counted : task = daemon.spawned) :
      Effect daemon task (.accept remoteAddr)
        { daemon.become task (.accepted remoteAddr) with spawned := daemon.spawned + 1 }
  | inserted {uuid : String} {remoteAddr : SocketAddr}
      (accepted : daemon.tasks task = .accepted remoteAddr) :
      Effect daemon task (.insert uuid)
        ((daemon.insert uuid
          { state := .idle, remoteAddr := some remoteAddr, commandTx := task,
            msgRx := task }).become task (.waiting .server uuid))
  | started {id : String} {clients : List String} (absent : daemon.tasks task = .absent)
      (counted : task = daemon.spawned) (configured : daemon.clients = id :: clients) :
      Effect daemon task .client
        { (daemon.insert id
            { state := .idle, remoteAddr := none, commandTx := task, msgRx := task }).become
              task (.waiting .client id) with
          spawned := daemon.spawned + 1, clients }
  | updated {state : State} {role : Role} {id : String} {connection : ConnectionState}
      (waiting : daemon.tasks task = .waiting role id)
      (found : daemon.connections.lookup id = some connection) :
      Effect daemon task (.stateChanged state) (daemon.insert id { connection with state })
  | removed {determinedId id : String} {connection : ConnectionState}
      (waiting : daemon.tasks task = .waiting .server id)
      (found : daemon.connections.lookup id = some connection) :
      Effect daemon task (.connectionIdDetermined determinedId)
        ((daemon.remove id).become task (.rekeying id determinedId connection))
  | reinserted {id determinedId : String} {connection : ConnectionState}
      (rekeying : daemon.tasks task = .rekeying id determinedId connection) :
      Effect daemon task .reinsert
        ((daemon.insert determinedId connection).become task (.waiting .server determinedId))
  | named {determinedId id : String} (waiting : daemon.tasks task = .waiting .client id) :
      Effect daemon task (.connectionIdDetermined determinedId) daemon
  | received {msg : FmtpMessage} {role : Role} {id : String}
      (waiting : daemon.tasks task = .waiting role id) :
      Effect daemon task (.dataReceived msg) daemon
  | closed {role : Role} {id : String} (waiting : daemon.tasks task = .waiting role id) :
      Effect daemon task .close ((daemon.remove id).become task .ended)
  | lost {deed : Deed} {role : Role} {id : String}
      (waiting : daemon.tasks task = .waiting role id)
      (missing : daemon.connections.lookup id = none) :
      Effect daemon task deed (daemon.become task .ended)
  | dropped {msg : FmtpMessage} {role : Role} {id : String}
      (waiting : daemon.tasks task = .waiting role id) (deaf : daemon.receives task = false) :
      Effect daemon task (.dataReceived msg) (daemon.become task .ended)

theorem step_effect {label : Label} (move : daemon.step label = some next) :
    Effect daemon label.task label.deed next := by
  obtain ⟨task, deed⟩ := label
  cases handler : daemon.tasks task with
  | absent =>
    cases deed with
    | accept remoteAddr =>
      simp only [step, handler] at move
      split_ifs at move with enabled
      obtain rfl := Option.some.inj move
      exact .accepted handler enabled.2
    | client =>
      simp only [step, handler] at move
      cases configured : daemon.clients with
      | nil =>
        rw [configured] at move
        cases move
      | cons id clients =>
        simp only [configured] at move
        split_ifs at move with counted
        obtain rfl := Option.some.inj move
        exact .started handler counted configured
    | _ => simp [step, handler] at move
  | accepted remoteAddr =>
    cases deed with
    | insert uuid =>
      simp only [step, handler] at move
      obtain rfl := Option.some.inj move
      exact .inserted handler
    | _ => simp [step, handler] at move
  | rekeying id determinedId connection =>
    cases deed with
    | reinsert =>
      simp only [step, handler] at move
      obtain rfl := Option.some.inj move
      exact .reinserted handler
    | _ => simp [step, handler] at move
  | ended => simp [step, handler] at move
  | waiting role id =>
    cases deed with
    | accept | insert | client | reinsert => simp [step, handler] at move
    | stateChanged state =>
      simp only [step, handler] at move
      cases found : daemon.connections.lookup id with
      | none =>
        simp only [found] at move
        obtain rfl := Option.some.inj move
        exact .lost handler found
      | some connection =>
        simp only [found] at move
        obtain rfl := Option.some.inj move
        exact .updated handler found
    | connectionIdDetermined determinedId =>
      cases role with
      | client =>
        simp only [step, handler] at move
        obtain rfl := Option.some.inj move
        exact .named handler
      | server =>
        simp only [step, handler] at move
        cases found : daemon.connections.lookup id with
        | none =>
          simp only [found] at move
          obtain rfl := Option.some.inj move
          exact .lost handler found
        | some connection =>
          simp only [found] at move
          obtain rfl := Option.some.inj move
          exact .removed handler found
    | dataReceived msg =>
      simp only [step, handler] at move
      split_ifs at move with hears
      · obtain rfl := Option.some.inj move
        exact .received handler
      · obtain rfl := Option.some.inj move
        exact .dropped handler (Bool.not_eq_true _ ▸ hears)
    | close =>
      simp only [step, handler] at move
      obtain rfl := Option.some.inj move
      exact .closed handler

/-- Only the task of a step moves. -/
theorem Effect.others {deed : Deed} (effect : Effect daemon task deed next) {other : Nat}
    (distinct : other ≠ task) : next.tasks other = daemon.tasks other := by
  cases effect with
  | updated | named | received => rfl
  | accepted | inserted | started | removed | reinserted | closed | lost | dropped =>
    exact Function.update_of_ne distinct _ _

/-- Inserting an own entry under an unused id keeps the map consistent. -/
theorem Consistent.enter (consistent : daemon.Consistent)
    (busy : ∀ role id, daemon.tasks task ≠ .waiting role id)
    (unused : daemon.connections.lookup id = none)
    (own : connection.commandTx = task ∧ connection.msgRx = task) {spawned : Nat}
    (fresh : ∀ other, spawned ≤ other → daemon.spawned ≤ other ∧ other ≠ task)
    (role : Role) (clients : List String) :
    Consistent { (daemon.insert id connection).become task (.waiting role id) with
      spawned, clients } := by
  refine ⟨?_, ?_, ?_, ?_⟩
  · intro other above
    obtain ⟨before, distinct⟩ := fresh other above
    exact (Function.update_of_ne distinct _ _).trans (consistent.fresh other before)
  · intro id' connection' found
    by_cases same : id' = id
    · subst same
      obtain rfl := Option.some.inj ((AList.lookup_insert _).symm.trans found)
      refine ⟨⟨role, ?_⟩, own.2.trans own.1.symm⟩
      rw [own.1]
      exact Function.update_self _ _ _
    · have before := (AList.lookup_insert_ne same).symm.trans found
      obtain ⟨⟨role', waiting⟩, paired⟩ := consistent.owned id' connection' before
      refine ⟨⟨role', ?_⟩, paired⟩
      exact (Function.update_of_ne (consistent.other_task busy before) _ _).trans waiting
  · intro other role' id' waiting
    by_cases same : other = task
    · subst same
      have entered := (Function.update_self other _ daemon.tasks).symm.trans waiting
      injection entered with _ entered
      subst entered
      exact ⟨connection, AList.lookup_insert _, own.1⟩
    · have before := (Function.update_of_ne same _ _).symm.trans waiting
      obtain ⟨connection', found, owner⟩ := consistent.holds other role' id' before
      have distinct : id' ≠ id := by
        rintro rfl
        cases unused.symm.trans found
      exact ⟨connection', (AList.lookup_insert_ne distinct).trans found, owner⟩
  · intro other id' determinedId connection' rekeying
    by_cases same : other = task
    · subst same
      cases (Function.update_self other _ daemon.tasks).symm.trans rekeying
    · exact consistent.carries other id' determinedId connection'
        ((Function.update_of_ne same _ _).symm.trans rekeying)

/-- A waiting task that removes its entry keeps the map consistent. -/
theorem Consistent.leave (consistent : daemon.Consistent)
    (waiting : daemon.tasks task = .waiting role id) {handler : Handler}
    (gone : ∀ role id, handler ≠ .waiting role id)
    (carries : ∀ id determinedId connection, handler = .rekeying id determinedId connection →
      connection.commandTx = task ∧ connection.msgRx = task) :
    ((daemon.remove id).become task handler).Consistent := by
  have known : ∀ other, daemon.spawned ≤ other → other ≠ task := by
    rintro other above rfl
    cases (consistent.fresh other above).symm.trans waiting
  refine ⟨?_, ?_, ?_, ?_⟩
  · intro other above
    exact (Function.update_of_ne (known other above) _ _).trans (consistent.fresh other above)
  · intro id' connection' found
    have distinct : id' ≠ id := by
      rintro rfl
      cases (AList.lookup_erase _ _).symm.trans found
    have before := (AList.lookup_erase_ne distinct).symm.trans found
    obtain ⟨⟨role', others⟩, paired⟩ := consistent.owned id' connection' before
    refine ⟨⟨role', ?_⟩, paired⟩
    have other : connection'.commandTx ≠ task := by
      rintro rfl
      have same := waiting.symm.trans others
      injection same with _ same
      exact distinct same.symm
    exact (Function.update_of_ne other _ _).trans others
  · intro other role' id' waits
    have same : other ≠ task := by
      rintro rfl
      exact gone role' id' ((Function.update_self other _ daemon.tasks).symm.trans waits)
    have before := (Function.update_of_ne same _ _).symm.trans waits
    obtain ⟨connection', found, owner⟩ := consistent.holds other role' id' before
    have distinct : id' ≠ id := by
      rintro rfl
      obtain ⟨connection'', found', owner'⟩ := consistent.holds task role id' waiting
      obtain rfl := Option.some.inj (found.symm.trans found')
      exact same (owner.symm.trans owner')
    exact ⟨connection', (AList.lookup_erase_ne distinct).trans found, owner⟩
  · intro other id' determinedId connection' rekeying
    by_cases same : other = task
    · subst same
      exact carries id' determinedId connection'
        ((Function.update_self other _ daemon.tasks).symm.trans rekeying)
    · exact consistent.carries other id' determinedId connection'
        ((Function.update_of_ne same _ _).symm.trans rekeying)

/-- A new state in an entry keeps the map consistent. -/
theorem Consistent.update (consistent : daemon.Consistent)
    (found : daemon.connections.lookup id = some connection) (state : State) :
    (daemon.insert id { connection with state }).Consistent := by
  refine ⟨consistent.fresh, ?_, ?_, consistent.carries⟩
  · intro id' connection' found'
    by_cases same : id' = id
    · subst same
      obtain rfl := Option.some.inj ((AList.lookup_insert _).symm.trans found')
      exact consistent.owned id' connection found
    · exact consistent.owned id' connection' ((AList.lookup_insert_ne same).symm.trans found')
  · intro task role id' waiting
    obtain ⟨connection', found', owner⟩ := consistent.holds task role id' waiting
    by_cases same : id' = id
    · subst same
      obtain rfl := Option.some.inj (found.symm.trans found')
      exact ⟨_, AList.lookup_insert _, owner⟩
    · exact ⟨connection', (AList.lookup_insert_ne same).trans found', owner⟩

/-- In a consistent map no waiting task has lost its receiver. -/
theorem Consistent.receives (consistent : daemon.Consistent)
    (waiting : daemon.tasks task = .waiting role id) : daemon.receives task = true := by
  obtain ⟨connection, found, owner⟩ := consistent.holds task role id waiting
  have paired := (consistent.owned id connection found).2
  have member : (⟨id, connection⟩ : Sigma fun _ : String => ConnectionState) ∈
      daemon.connections.entries := AList.mem_lookup_iff.mp found
  refine Bool.or_eq_true_iff.mpr (Or.inl (List.any_eq_true.mpr ⟨_, member, ?_⟩))
  exact decide_eq_true (paired.trans owner)

/-- A new task that has no entry yet keeps the map consistent. -/
theorem Consistent.accept (consistent : daemon.Consistent) (remoteAddr : SocketAddr) :
    Consistent { daemon.become daemon.spawned (.accepted remoteAddr) with
      spawned := daemon.spawned + 1 } := by
  have absent : daemon.tasks daemon.spawned = .absent := consistent.fresh _ (le_refl _)
  have busy : ∀ role id, daemon.tasks daemon.spawned ≠ .waiting role id := by
    rw [absent]
    nofun
  have before : ∀ other, other ≠ daemon.spawned →
      Function.update daemon.tasks daemon.spawned (.accepted remoteAddr) other =
        daemon.tasks other := fun other distinct => Function.update_of_ne distinct _ _
  refine ⟨?_, ?_, ?_, ?_⟩
  · intro other above
    exact (before other (Nat.ne_of_gt above)).trans (consistent.fresh other (Nat.le_of_lt above))
  · intro id connection found
    obtain ⟨⟨role, waiting⟩, paired⟩ := consistent.owned id connection found
    exact ⟨⟨role, (before _ (consistent.other_task busy found)).trans waiting⟩, paired⟩
  · intro other role id waiting
    by_cases same : other = daemon.spawned
    · subst same
      cases (Function.update_self _ _ daemon.tasks).symm.trans waiting
    · exact consistent.holds other role id ((before other same).symm.trans waiting)
  · intro other id determinedId connection rekeying
    by_cases same : other = daemon.spawned
    · subst same
      cases (Function.update_self _ _ daemon.tasks).symm.trans rekeying
    · exact consistent.carries other id determinedId connection
        ((before other same).symm.trans rekeying)

/-- A step whose insertion finds its key unused keeps the map consistent. -/
theorem Consistent.step {label : Label} (consistent : daemon.Consistent)
    (unused : daemon.Unused label) (effect : Effect daemon label.task label.deed next) :
    next.Consistent := by
  obtain ⟨task, deed⟩ := label
  have counts : ∀ handler, daemon.tasks task = handler → handler ≠ .absent →
      ∀ other, daemon.spawned ≤ other → daemon.spawned ≤ other ∧ other ≠ task := by
    rintro handler rfl present other above
    refine ⟨above, ?_⟩
    rintro rfl
    exact present (consistent.fresh other above)
  cases effect with
  | accepted absent counted =>
    obtain rfl := counted
    exact consistent.accept _
  | inserted accepted =>
    refine consistent.enter (fun role id => ?_) (unused _ rfl) ⟨rfl, rfl⟩
      (counts _ accepted nofun) .server daemon.clients
    rw [accepted]
    nofun
  | started absent counted configured =>
    obtain rfl := counted
    refine consistent.enter (fun role id => ?_) (unused _ ?_) ⟨rfl, rfl⟩ ?_ .client _
    · rw [absent]
      nofun
    · show daemon.clients.head? = _
      rw [configured]
      rfl
    · intro other above
      exact ⟨Nat.le_of_lt above, Nat.ne_of_gt above⟩
  | updated waiting found => exact consistent.update found _
  | removed waiting found =>
    refine consistent.leave waiting nofun ?_
    intro id determinedId connection same
    injection same with _ _ same
    subst same
    obtain ⟨connection', found', owner⟩ := consistent.holds _ _ _ waiting
    obtain rfl := Option.some.inj (found.symm.trans found')
    exact ⟨owner, (consistent.owned _ _ found).2.trans owner⟩
  | reinserted rekeying =>
    refine consistent.enter (fun role id => ?_) (unused _ ?_)
      (consistent.carries _ _ _ _ rekeying) (counts _ rekeying nofun) .server daemon.clients
    · rw [rekeying]
      nofun
    · simp only [inserts, rekeying]
  | named | received => exact consistent
  | closed waiting => exact consistent.leave waiting nofun nofun
  | lost waiting missing =>
    obtain ⟨_, found, _⟩ := consistent.holds _ _ _ waiting
    cases missing.symm.trans found
  | dropped waiting deaf => cases (consistent.receives waiting).symm.trans deaf

/-- In a consistent map a change of state and a closing only touch the own entry. -/
theorem Consistent.spares {label : Label} (consistent : daemon.Consistent)
    (effect : Effect daemon label.task label.deed next) : daemon.Spares label next := by
  obtain ⟨task, deed⟩ := label
  cases effect with
  | accepted | inserted | started | removed | reinserted | named | received | dropped =>
    refine ⟨?_, nofun⟩
    rintro (⟨_, same⟩ | same) <;> cases same
  | @updated state role id connection waiting found =>
    have owner : connection.commandTx = task := by
      obtain ⟨connection', found', owner⟩ := consistent.holds _ _ _ waiting
      obtain rfl := Option.some.inj (found.symm.trans found')
      exact owner
    refine ⟨fun _ id' connection' other => ?_, nofun⟩
    show _ ↔ (daemon.connections.insert id _).lookup id' = _
    by_cases same : id' = id
    · subst same
      rw [found, AList.lookup_insert]
      constructor
      · intro mine
        obtain rfl := Option.some.inj mine
        exact absurd owner other
      · intro mine
        obtain rfl := Option.some.inj mine
        exact absurd owner other
    · rw [AList.lookup_insert_ne same]
  | @closed role id waiting =>
    obtain ⟨⟨connection, found, owner⟩, only⟩ := consistent.holds_of_waiting waiting
    constructor
    · intro _ id' connection' other
      show _ ↔ (daemon.connections.erase id).lookup id' = _
      by_cases same : id' = id
      · subst same
        rw [found, AList.lookup_erase]
        refine ⟨fun mine => ?_, nofun⟩
        obtain rfl := Option.some.inj mine
        exact absurd owner other
      · rw [AList.lookup_erase_ne same]
    · intro _ id' connection' found' owner'
      have distinct : id' ≠ id := by
        rintro rfl
        cases (AList.lookup_erase _ _).symm.trans found'
      exact distinct (only id' connection' ((AList.lookup_erase_ne distinct).symm.trans found')
        owner')
  | lost waiting missing =>
    obtain ⟨_, found, _⟩ := consistent.holds _ _ _ waiting
    cases missing.symm.trans found

/-- A completed handling leaves its task waiting or ended. -/
theorem Effect.completed {label : Label} (effect : Effect daemon label.task label.deed next)
    (completes : daemon.completes label = true) : ¬ (next.tasks label.task).Rekeys := by
  obtain ⟨task, deed⟩ := label
  cases effect with
  | accepted => cases completes
  | removed waiting found =>
    simp only [Daemon.completes, waiting, found] at completes
    cases completes
  | updated waiting | named waiting | received waiting =>
    show ¬ (daemon.tasks task).Rekeys
    rw [waiting]
    exact not_false
  | inserted | started | reinserted | closed | lost | dropped =>
    show ¬ (Function.update daemon.tasks task _ task).Rekeys
    rw [Function.update_self]
    exact not_false

/-- An entry under a used id drops the entry of a task that goes on waiting for it. -/
theorem Consistent.evicts (consistent : daemon.Consistent)
    (busy : ∀ role id, daemon.tasks task ≠ .waiting role id) {dropped : ConnectionState}
    (used : daemon.connections.lookup id = some dropped) (own : connection.commandTx = task)
    (others : ∀ other, other ≠ task → next.tasks other = daemon.tasks other)
    (inserted : next.connections.lookup id = some connection) :
    ∃ victim role, next.tasks victim = .waiting role id ∧ ¬ next.Holds victim id := by
  obtain ⟨⟨role, waiting⟩, _⟩ := consistent.owned id dropped used
  have distinct : dropped.commandTx ≠ task := consistent.other_task busy used
  refine ⟨dropped.commandTx, role, (others _ distinct).trans waiting, ?_⟩
  rintro ⟨⟨connection', found, owner⟩, _⟩
  obtain rfl := Option.some.inj (inserted.symm.trans found)
  exact distinct (owner.symm.trans own)

/-- An insertion under a used key completes its handling and unties another task. -/
theorem Consistent.unties {label : Label} (consistent : daemon.Consistent)
    (used : ¬ daemon.Unused label) (effect : Effect daemon label.task label.deed next) :
    daemon.completes label = true ∧
      ∃ victim role id, next.tasks victim = .waiting role id ∧ ¬ next.Holds victim id := by
  have others : ∀ other, other ≠ label.task → next.tasks other = daemon.tasks other :=
    fun _ distinct => effect.others distinct
  obtain ⟨id, used⟩ := not_forall.mp used
  obtain ⟨inserts, present⟩ := Classical.not_imp.mp used
  obtain ⟨dropped, found⟩ := Option.ne_none_iff_exists'.mp present
  have evicts : ∀ connection, (∀ role id, daemon.tasks label.task ≠ .waiting role id) →
      connection.commandTx = label.task → next.connections.lookup id = some connection →
      ∃ victim role id, next.tasks victim = .waiting role id ∧ ¬ next.Holds victim id := by
    intro connection busy own inserted
    obtain ⟨victim, role, untied⟩ := consistent.evicts busy found own others inserted
    exact ⟨victim, role, id, untied⟩
  obtain ⟨task, deed⟩ := label
  cases effect with
  | accepted | updated | removed | named | received | closed | dropped => cases inserts
  | lost waiting missing =>
    obtain ⟨_, found, _⟩ := consistent.holds _ _ _ waiting
    cases missing.symm.trans found
  | inserted accepted =>
    obtain rfl := Option.some.inj inserts
    refine ⟨rfl, evicts _ (fun role id => ?_) ?_ (AList.lookup_insert _)⟩
    · simp only [accepted]
      nofun
    · rfl
  | started absent counted configured =>
    have first : daemon.clients.head? = some id := inserts
    rw [configured] at first
    obtain rfl := Option.some.inj first
    refine ⟨rfl, evicts _ (fun role id => ?_) ?_ (AList.lookup_insert _)⟩
    · simp only [absent]
      nofun
    · rfl
  | @reinserted id' determinedId connection rekeying =>
    simp only [Daemon.inserts, rekeying] at inserts
    obtain rfl := Option.some.inj inserts
    refine ⟨rfl, evicts connection (fun role id => ?_) ?_ (AList.lookup_insert _)⟩
    · simp only [rekeying]
      nofun
    · exact (consistent.carries _ _ _ _ rekeying).1

/-- A map that is consistent holds what every task expects that is not re-keying. -/
theorem Consistent.settled (consistent : daemon.Consistent) : daemon.SettledTied :=
  fun _ _ _ waiting => consistent.holds_of_waiting waiting

/-- Where no task is re-keying, it holds what every live task expects. -/
theorem Consistent.tied (consistent : daemon.Consistent)
    (still : ∀ task, ¬ (daemon.tasks task).Rekeys) : daemon.Tied := by
  intro task id current
  have steady := still task
  cases handler : daemon.tasks task with
  | waiting role id' =>
    rw [handler] at current
    obtain rfl := Option.some.inj current
    exact consistent.holds_of_waiting handler
  | rekeying =>
    rw [handler] at steady
    exact absurd trivial steady
  | absent | accepted | ended =>
    rw [handler] at current
    cases current

/-- A re-keying task has no entry. -/
theorem Consistent.untied (consistent : daemon.Consistent)
    (rekeys : (daemon.tasks task).Rekeys) : ¬ daemon.Tied := by
  intro tied
  cases handler : daemon.tasks task with
  | rekeying id determinedId connection =>
    obtain ⟨⟨connection', found, owner⟩, _⟩ := tied task id (by rw [handler]; rfl)
    refine consistent.other_task (fun role id => ?_) found owner
    rw [handler]
    nofun
  | absent | accepted | waiting | ended =>
    rw [handler] at rekeys
    exact rekeys

/-- Steps that insert under unused keys keep the settled tasks tied. -/
theorem Consistent.keeps_settled {label : Label} (consistent : daemon.Consistent)
    (unused : daemon.Unused label) (move : daemon.step label = some next) :
    next.Consistent ∧ Kept SettledTied daemon label next := by
  have effect := step_effect move
  have after := consistent.step unused effect
  exact ⟨after, fun _ => after.settled, consistent.spares effect⟩

/-- Where moreover nobody else is re-keying, every live task is tied. -/
theorem Consistent.keeps {label : Label} (consistent : daemon.Consistent)
    (orderly : daemon.Unused label ∧ daemon.Alone label)
    (move : daemon.step label = some next) :
    next.Consistent ∧ Kept Tied daemon label next := by
  have effect := step_effect move
  have after := consistent.step orderly.1 effect
  refine ⟨after, fun completes => after.tied fun task => ?_, consistent.spares effect⟩
  by_cases same : task = label.task
  · rw [same]
    exact effect.completed completes
  · rw [effect.others same]
    exact orderly.2 completes task same

theorem Consistent.breaks_settled {label : Label} (consistent : daemon.Consistent)
    (used : ¬ daemon.Unused label) (move : daemon.step label = some next) :
    ¬ Kept SettledTied daemon label next := by
  rintro ⟨tied, _⟩
  obtain ⟨completes, victim, role, id, waiting, untied⟩ :=
    consistent.unties used (step_effect move)
  exact untied (tied completes victim role id waiting)

theorem Consistent.breaks {label : Label} (consistent : daemon.Consistent)
    (disorderly : ¬ (daemon.Unused label ∧ daemon.Alone label))
    (move : daemon.step label = some next) : ¬ Kept Tied daemon label next := by
  rintro ⟨tied, _⟩
  have effect := step_effect move
  by_cases unused : daemon.Unused label
  · have accompanied : ¬ daemon.Alone label := fun alone => disorderly ⟨unused, alone⟩
    obtain ⟨completes, others⟩ := Classical.not_imp.mp accompanied
    obtain ⟨task, other⟩ := not_forall.mp others
    obtain ⟨distinct, rekeys⟩ := Classical.not_imp.mp other
    have still : (next.tasks task).Rekeys := by
      rw [effect.others distinct]
      exact not_not.mp rekeys
    exact (consistent.step unused effect).untied still (tied completes)
  · obtain ⟨completes, victim, role, id, waiting, untied⟩ := consistent.unties unused effect
    have current : (next.tasks victim).current = some id := by
      rw [waiting]
      rfl
    exact untied (tied completes victim id current)

end Invariant

/-! ### The exact condition -/

section Runs

variable {config : Config} {first last : Daemon} {labels : List Label}

theorem keeps_run (consistent : first.Consistent) (run : Run step first labels last) :
    EachMove step (Kept Tied) first labels ↔
      EachStep step (fun daemon label => daemon.Unused label ∧ daemon.Alone label) first
        labels := by
  have kept : ∀ daemon label next, Consistent daemon → True →
      daemon.Unused label ∧ daemon.Alone label → step daemon label = some next →
      Consistent next ∧ Kept Tied daemon label next :=
    fun _ _ _ consistent _ orderly move => consistent.keeps orderly move
  have broken : ∀ daemon label next, Consistent daemon → True →
      ¬ (daemon.Unused label ∧ daemon.Alone label) → step daemon label = some next →
      ¬ Kept Tied daemon label next :=
    fun _ _ _ consistent _ disorderly move => consistent.breaks disorderly move
  exact eachMove_iff_eachStep kept broken run consistent
    (eachStep_of_forall first fun _ _ => trivial)

theorem keeps_settled_run (consistent : first.Consistent)
    (run : Run step first labels last) :
    EachMove step (Kept SettledTied) first labels ↔ EachStep step Unused first labels := by
  have kept : ∀ daemon label next, Consistent daemon → True → daemon.Unused label →
      step daemon label = some next → Consistent next ∧ Kept SettledTied daemon label next :=
    fun _ _ _ consistent _ unused move => consistent.keeps_settled unused move
  have broken : ∀ daemon label next, Consistent daemon → True → ¬ daemon.Unused label →
      step daemon label = some next → ¬ Kept SettledTied daemon label next :=
    fun _ _ _ consistent _ used move => consistent.breaks_settled used move
  exact eachMove_iff_eachStep kept broken run consistent
    (eachStep_of_forall first fun _ _ => trivial)

/-- The map stays tied to its connections, whatever the tasks do, exactly as long as every insertion
finds its key unused and no insertion and no handling ends while another task is re-keying. For the
tasks that are not re-keying the first half is the exact condition. -/
theorem registry_exact (started : Daemon.run config = .ok first)
    (run : Run step first labels last) :
    (EachMove step (Kept Tied) first labels ↔
      EachStep step (fun daemon label => daemon.Unused label ∧ daemon.Alone label) first
        labels) ∧
    (EachMove step (Kept SettledTied) first labels ↔ EachStep step Unused first labels) :=
  ⟨keeps_run (.run started) run, keeps_settled_run (.run started) run⟩

end Runs

namespace Sample

/-- The daemon of the server of the tests, before anything is accepted. -/
def daemon : Daemon where
  config := Fmtp.Sample.serverConfig
  connections := ∅
  tasks _ := .absent
  spawned := 0
  clients := []

theorem daemon_run : Daemon.run Fmtp.Sample.serverConfig = .ok daemon := rfl

def address : SocketAddr := ⟨"127.0.0.1", 40000⟩

/-- A connection is accepted, inserted, identified and changes its state. -/
def identification : List Label :=
  [⟨0, .accept address⟩, ⟨0, .insert "a"⟩, ⟨0, .connectionIdDetermined "test"⟩, ⟨0, .reinsert⟩,
    ⟨0, .stateChanged .idle⟩]

/-- A second connection identifies itself as the same peer. -/
def impersonation : List Label :=
  identification ++ [⟨1, .accept address⟩, ⟨1, .insert "b"⟩,
    ⟨1, .connectionIdDetermined "test"⟩, ⟨1, .reinsert⟩]

end Sample

theorem registry_exact_identification :
    (EachMove step (Kept Tied) Sample.daemon Sample.identification ↔
      EachStep step (fun daemon label => daemon.Unused label ∧ daemon.Alone label) Sample.daemon
        Sample.identification) ∧
    (EachMove step (Kept SettledTied) Sample.daemon Sample.identification ↔
      EachStep step Unused Sample.daemon Sample.identification) :=
  registry_exact Sample.daemon_run
    (Run.of_enabled step Sample.daemon Sample.identification (by decide +kernel))

/-- The entry of the second connection replaces that of the first. -/
theorem registry_replaces : ¬ ∀ (config : Config) (first last : Daemon) (labels : List Label),
    Daemon.run config = .ok first → Run step first labels last →
    EachMove step (Kept Tied) first labels := by
  intro claim
  have run := Run.of_enabled step Sample.daemon Sample.impersonation (by decide +kernel)
  have guarded := (keeps_run (.run Sample.daemon_run) run).mp (claim _ _ _ _ Sample.daemon_run run)
  have unused : EachStep step Unused Sample.daemon Sample.impersonation :=
    guarded.mono fun _ _ _ orderly => orderly.1
  exact absurd unused (by decide +kernel)

end Fmtp.Tokio.Daemon
