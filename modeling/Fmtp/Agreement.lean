/-
This file proves what two linked parties can rely on: when neither drives the other into
Error, and that without disturbance they associate in agreement and deliver in order.
-/

import Fmtp.Pair

open TransitionSystem

namespace Fmtp

namespace Represents

variable {mirror : Mirror} {pair pair' : Pair} {session : Session} {label : Label}

/-- A step that collides with nothing keeps a configured session. -/
theorem step_clear (represents : Represents mirror pair session)
    (configured : session.Configured Loose) (clear : ¬ pair.Collides label)
    (move : pair.step label = some pair') :
    ∃ session', Represents mirror pair' session' ∧ session'.Configured Loose ∧
      (session' = session ∨
        ∃ trigger, label.deed.Prompts (mirror.key label.side) trigger ∧
          session.Step label.side trigger session') := by
  rcases represents.step configured move with ⟨collides, _⟩ | ⟨_, session', after, steps⟩
  · exact absurd collides clear
  · refine ⟨session', after, ?_, steps⟩
    rcases steps with rfl | ⟨trigger, _, step⟩
    · exact configured
    · exact configured.step admits_loose trivial step

/-- Nothing collides in a strict session. -/
theorem clear_of_strict (represents : Represents mirror pair session)
    (configured : session.Configured Loose) (strict : session.Configured Strict)
    (move : pair.step label = some pair') : ¬ pair.Collides label := by
  obtain ⟨side, deed⟩ := label
  cases deed with
  | transmit | act => exact not_false
  | deliver now =>
    have offers : pair.Offers ⟨side, .deliver now⟩ :=
      (represents.enabled configured _).mp (Option.isSome_iff_exists.mpr ⟨pair', move⟩)
    obtain ⟨packet, left, onWire⟩ := List.exists_cons_of_ne_nil offers.2
    obtain ⟨signal, rest, same, _, collides_iff, _⟩ :=
      represents.incoming now configured offers.1 onWire
    rw [collides_iff, strict.clear same]
    exact Bool.false_ne_true

end Represents

/-! ### Neither peer drives the other into Error -/

/-- A user's shutdown. -/
def Label.stops (label : Label) : Prop :=
  ∃ now, label.deed = .act (.lShutdown now)

theorem Deed.Prompts.ne_shutdown {key : String} {deed : Deed} {trigger : Trigger}
    (prompts : deed.Prompts key trigger) (goes : ∀ now, deed ≠ .act (.lShutdown now)) :
    trigger ≠ .shutdown := by
  cases deed with
  | transmit => exact prompts.elim
  | deliver now =>
    obtain ⟨signal, rfl⟩ := prompts
    nofun
  | act event =>
    rintro rfl
    cases prompts.1 with
    | shutdown now => exact goes now rfl

/-- The pair represents a session in one of its configurations. -/
def InSession (mirror : Mirror) (pair : Pair) : Prop :=
  ∃ session, Represents mirror pair session ∧ session.Configured Loose

/-- The pair represents a session whose flows are strict. -/
def InStrictSession (mirror : Mirror) (pair : Pair) : Prop :=
  ∃ session, Represents mirror pair session ∧ session.Configured Loose ∧ session.Configured Strict

theorem InSession.step {mirror : Mirror} {pair pair' : Pair} {label : Label}
    (inSession : InSession mirror pair) (clear : ¬ pair.Collides label)
    (move : pair.step label = some pair') : InSession mirror pair' ∧ pair'.Sound := by
  obtain ⟨session, represents, configured⟩ := inSession
  obtain ⟨session', after, configured', _⟩ := represents.step_clear configured clear move
  exact ⟨⟨session', after, configured'⟩, after.sound⟩

theorem InSession.unsound {mirror : Mirror} {pair pair' : Pair} {label : Label}
    (inSession : InSession mirror pair) (collides : ¬ ¬ pair.Collides label)
    (move : pair.step label = some pair') : ¬ pair'.Sound := by
  obtain ⟨session, represents, configured⟩ := inSession
  rcases represents.step configured move with ⟨_, unsound⟩ | ⟨clear, _⟩
  · exact unsound
  · exact absurd clear collides

/-- Without a user's shutdown the flows stay strict. -/
theorem InStrictSession.step {mirror : Mirror} {pair pair' : Pair} {label : Label}
    (inSession : InStrictSession mirror pair) (goes : ¬ label.stops)
    (move : pair.step label = some pair') : InStrictSession mirror pair' ∧ pair'.Sound := by
  obtain ⟨session, represents, configured, strict⟩ := inSession
  have clear := represents.clear_of_strict configured strict move
  obtain ⟨session', after, configured', steps⟩ := represents.step_clear configured clear move
  refine ⟨⟨session', after, configured', ?_⟩, after.sound⟩
  rcases steps with rfl | ⟨trigger, prompts, step⟩
  · exact strict
  · exact strict.step admits_strict (prompts.ne_shutdown fun now same => goes ⟨now, same⟩) step

section Runs

variable {mirror : Mirror} {clientId : Option String} {clientNow serverNow : Instant}
  {first last : Pair} {labels : List Label}

/-- Two peers stay out of Error exactly as long as neither reads a packet that its state refuses:
a startup or data in Ready, a shutdown, a heartbeat or data in AssociationPending. Without a
user's shutdown no such packet is ever read. -/
theorem error_exact (started : Pair.start mirror clientId clientNow serverNow = some first)
    (run : Run Pair.step first labels last) :
    (EachState Pair.step Pair.Sound first labels ↔
      EachStep Pair.step (fun pair label => ¬ pair.Collides label) first labels) ∧
    ((∀ label ∈ labels, ¬ label.stops) → EachState Pair.step Pair.Sound first labels) := by
  have initial := Represents.start started
  have kept : ∀ pair label pair', InSession mirror pair → True → ¬ pair.Collides label →
      pair.step label = some pair' → InSession mirror pair' ∧ pair'.Sound :=
    fun _ _ _ inSession _ clear move => inSession.step clear move
  have broken : ∀ pair label pair', InSession mirror pair → True → ¬ ¬ pair.Collides label →
      pair.step label = some pair' → ¬ pair'.Sound :=
    fun _ _ _ inSession _ collides move => inSession.unsound collides move
  have strict : ∀ pair label pair', InStrictSession mirror pair → ¬ Label.stops label →
      pair.step label = some pair' → InStrictSession mirror pair' ∧ pair'.Sound :=
    fun _ _ _ inSession goes move => inSession.step goes move
  have exactly := eachMove_iff_eachStep kept broken run
    ⟨.fresh, initial, Session.fresh_configured Loose⟩ (eachStep_of_forall first fun _ _ => trivial)
  refine ⟨⟨fun each => exactly.mp each.2, fun clear => ⟨initial.sound, exactly.mpr clear⟩⟩, ?_⟩
  intro goes
  have start : InStrictSession mirror first :=
    ⟨.fresh, initial, Session.fresh_configured Loose, Session.fresh_configured Strict⟩
  exact ⟨initial.sound, (EachStep.preserves strict run start (eachStep_of_forall first goes)).2⟩

end Runs

/-- Two peers that associate, and one sends data. -/
def Sample.exchange : List Label :=
  Sample.association ++ [⟨.server, .act (.lData 5 (.operational [7]))⟩, ⟨.server, .transmit⟩,
    ⟨.client, .deliver 5⟩]

theorem error_exact_exchange :
    (EachState Pair.step Pair.Sound Sample.pair Sample.exchange ↔
      EachStep Pair.step (fun pair label => ¬ pair.Collides label) Sample.pair
        Sample.exchange) ∧
    ((∀ label ∈ Sample.exchange, ¬ label.stops) →
      EachState Pair.step Pair.Sound Sample.pair Sample.exchange) :=
  error_exact Sample.pair_started
    (Run.of_enabled Pair.step Sample.pair Sample.exchange (by decide +kernel))

/-- After the association the user of the client shuts down and starts again before the answer to
the shutdown arrives. -/
def Sample.crossing : List Label :=
  Sample.association ++ [⟨.client, .act (.lShutdown 5)⟩, ⟨.client, .transmit⟩,
    ⟨.client, .act (.lStartup 6)⟩, ⟨.server, .deliver 6⟩, ⟨.server, .transmit⟩,
    ⟨.client, .deliver 7⟩]

/-- The server answers the shutdown with a shutdown, and the client refuses it. -/
theorem error_by_crossing : ¬ ∀ (mirror : Mirror) (clientId : Option String)
    (clientNow serverNow : Instant) (first last : Pair) (labels : List Label),
    Pair.start mirror clientId clientNow serverNow = some first →
    Run Pair.step first labels last → EachState Pair.step Pair.Sound first labels := by
  intro claim
  have run := Run.of_enabled Pair.step Sample.pair Sample.crossing (by decide +kernel)
  have sound := (claim _ _ _ _ _ _ _ Sample.pair_started run).last run
  exact absurd sound (by decide +kernel)

/-! ### Undisturbed peers associate in agreement -/

namespace Pair

/-- The steps of two undisturbed peers: packets move, the users start and send, and the timers
that keep the association go off. -/
def calm (pair : Pair) (label : Label) : Bool :=
  match label.deed with
  | .transmit | .deliver _ => true
  | .act event =>
    match event, (pair.peer label.side).machine.state with
    | .lStartup _, _ | .lData _ _, _ | .tsTimeout _, _ => true
    | .trTimeout _, .associationPending _ => true
    | _, _ => false

/-- Nothing is under way, and no peer is about to associate. -/
def Drained (pair : Pair) : Prop :=
  ∀ side, pair.wire side = [] ∧ (pair.peer side).ctx.sendQueue = [] ∧
    ¬ ((∃ tr, (pair.peer side).machine.state = .ready tr) ∧
      (pair.peer side).machine.storage.target = .dataReady)

/-- What undisturbed peers can rely on. -/
structure Agreed (pair : Pair) : Prop where
  alive : ∀ side, (pair.peer side).machine.state ≠ .idle ∧
    (pair.peer side).machine.state ≠ .error
  ordered : ∀ side, (pair.peer side).ctx.recvQueue <+: (pair.peer side.other).given
  associated : pair.Drained → ∀ side,
    (∃ tr ts, (pair.peer side).machine.state = .dataReady tr ts) ∧
      (pair.peer side).ctx.recvQueue = (pair.peer side.other).given

end Pair

/-- The pair represents an undisturbed session. -/
structure Undisturbed (mirror : Mirror) (pair : Pair) (session : Session) : Prop where
  represents : Represents mirror pair session
  configured : session.Configured Loose
  strict : session.Configured Strict
  accounted : session.Accounted
  present : ∀ side, session.phase side ≠ .idle

namespace Undisturbed

variable {mirror : Mirror} {pair pair' : Pair} {session : Session} {label : Label}

/-- A calm deed moves the session calmly. -/
theorem calm {trigger : Trigger} (represents : Represents mirror pair session)
    (calm : pair.calm label = true)
    (prompts : label.deed.Prompts (mirror.key label.side) trigger) :
    Session.Calm (session.phase label.side) trigger := by
  obtain ⟨side, deed⟩ := label
  cases deed with
  | transmit => exact prompts.elim
  | deliver now =>
    obtain ⟨signal, rfl⟩ := prompts
    exact trivial
  | act event =>
    rw [represents.phase]
    have means : Means (mirror.key side) event trigger := prompts.1
    have silent := prompts.2
    clear prompts
    unfold Pair.calm at calm
    cases means with
    | read signal => exact absurd rfl (silent signal)
    | startup | data | ts => exact trivial
    | tr now =>
      cases state : (pair.peer side).machine.state with
      | associationPending tr =>
        rw [Connection.phase_associationPending.mpr ⟨tr, state⟩]
        exact trivial
      | _ => simp [state] at calm
    | shutdown | disconnect | ti | closed => cases calm

theorem agreed (undisturbed : Undisturbed mirror pair session) : pair.Agreed := by
  obtain ⟨represents, _, strict, accounted, present⟩ := undisturbed
  have arrived : ∀ side : Side, (pair.peer side.other).given =
      (pair.peer side).ctx.recvQueue ++ messages (session.path side.other) := by
    intro side
    rw [← represents.given, ← represents.received, accounted side.other, Side.other_other]
  refine ⟨fun side => ⟨?_, represents.sound side⟩, fun side => ?_, fun drained side => ?_⟩
  · rw [← Connection.phase_idle.ne, ← represents.phase]
    exact present side
  · rw [arrived]
    exact List.prefix_append _ _
  · have empty : ∀ side, session.path side = [] := by
      intro side
      have path := represents.path side
      rw [(drained side).1, (drained side).2.1] at path
      exact List.map_eq_nil_iff.mp path.symm
    have settled : ∀ side, session.phase side ≠ .starting := by
      intro side starting
      rw [represents.phase] at starting
      exact (drained side).2.2 (Connection.phase_starting.mp starting)
    have ready := strict.agreement present empty settled side
    rw [represents.phase] at ready
    refine ⟨Connection.phase_dataReady.mp ready, ?_⟩
    rw [arrived, empty]
    exact (List.append_nil _).symm

/-- Calm steps keep the session undisturbed. -/
theorem step (undisturbed : Undisturbed mirror pair session) (calm : pair.calm label = true)
    (move : pair.step label = some pair') : ∃ session', Undisturbed mirror pair' session' := by
  obtain ⟨represents, configured, strict, accounted, present⟩ := undisturbed
  have clear := represents.clear_of_strict configured strict move
  obtain ⟨session', after, configured', rfl | ⟨trigger, prompts, step⟩⟩ :=
    represents.step_clear configured clear move
  · exact ⟨session', after, configured', strict, accounted, present⟩
  · have quiet := Undisturbed.calm represents calm prompts
    have goes : trigger ≠ .shutdown := by
      rintro rfl
      exact quiet.elim
    exact ⟨session', after, configured', strict.step admits_strict goes step,
      accounted.step step, quiet.step present step⟩

end Undisturbed

/-- Two undisturbed peers are never in Idle or in Error, deliver in order what the other side was
given, and once nothing is under way both are in DataReady and have delivered everything. -/
theorem association_agreed {mirror : Mirror} {clientId : Option String}
    {clientNow serverNow : Instant} {first last : Pair} {labels : List Label}
    (started : Pair.start mirror clientId clientNow serverNow = some first)
    (run : Run Pair.step first labels last)
    (calm : EachStep Pair.step (fun pair label => pair.calm label = true) first labels) :
    EachState Pair.step Pair.Agreed first labels := by
  have initial : Undisturbed mirror first .fresh :=
    ⟨.start started, Session.fresh_configured Loose, Session.fresh_configured Strict,
      Session.fresh_accounted, fun side => by cases side <;> nofun⟩
  have kept : ∀ pair label pair', (∃ session, Undisturbed mirror pair session) →
      Pair.calm pair label = true → pair.step label = some pair' →
      (∃ session, Undisturbed mirror pair' session) ∧ pair'.Agreed := by
    rintro pair label pair' ⟨session, undisturbed⟩ calm move
    obtain ⟨session', after⟩ := undisturbed.step calm move
    exact ⟨⟨session', after⟩, after.agreed⟩
  exact ⟨initial.agreed, (EachStep.preserves kept run ⟨.fresh, initial⟩ calm).2⟩

theorem association_agreed_exchange :
    EachState Pair.step Pair.Agreed Sample.pair Sample.exchange :=
  association_agreed Sample.pair_started
    (Run.of_enabled Pair.step Sample.pair Sample.exchange (by decide +kernel)) (by decide +kernel)

end Fmtp
