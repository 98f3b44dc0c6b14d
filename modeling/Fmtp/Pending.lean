/-
This file settles whether ConnectionPending is only passed through. Connecting sets the machine
up and leaves the state again before the loop goes on, so the loop finds a machine in this state
exactly when its user sets it up in Idle: the command goes before the arm of Idle, and nothing
after it opens the connection.
-/

import Fmtp.Commands

namespace Fmtp

open TransitionSystem

/-- Only a set-up in Idle, with an entry for its key, leads to ConnectionPending. -/
theorem Reaction.setUp_of_pending {self self' : ConnectionState} {state : State} {event : Event}
    {packets : List FmtpPacket} {messages : List FmtpMessage}
    (reaction : Reaction self state event self' .connectionPending packets messages) :
    state = .idle ∧ ∃ id, event = .lSetup id ∧ self.config.connections.lookup id ≠ none := by
  cases reaction with
  | ignored quiet => cases quiet
  | setUp found =>
    refine ⟨rfl, _, rfl, ?_⟩
    rw [found]
    exact Option.some_ne_none _

namespace Tokio

/-- What the run reports of a machine in ConnectionPending before it ends. -/
def remained : String := "Unexpectedly remained in intermediate state CONNECTION_PENDING"

theorem turn_remained {inner : Fmtp.Connection} {offer : Offer}
    (turned : turn inner offer = some (.failed remained)) : inner.state = .connectionPending := by
  generalize same : Turn.failed remained = ended at turned
  cases turn_spec turned with
  | remained pending => exact pending
  | failed => exact absurd (Turn.failed.inj same) (by decide)
  | idle | slept | identification | acceptance | startup | association | silence | heartbeat =>
    cases same

namespace Loop

/-- The machine is not in ConnectionPending at the top of an iteration, and the loop does not end
because of it. -/
def Outside (loop : Loop) : Prop :=
  loop.connection.inner.state ≠ .connectionPending ∧
    ∀ offer, loop.select offer ≠ some (.machine (.failed remained))

/-- The user's set-up, with an entry for its id, reaches a machine in Idle. -/
def SetsUp (loop : Loop) (offer : Offer) : Prop :=
  loop.connection.inner.state = .idle ∧
    ∃ id, loop.select offer = some (.command (some (.setup id))) ∧
      loop.connection.inner.storage.config.connections.lookup id ≠ none

variable {loop next : Loop} {offer : Offer}

theorem outside_iff : loop.Outside ↔ loop.connection.inner.state ≠ .connectionPending := by
  refine ⟨fun outside => outside.1, fun outside => ⟨outside, fun offer selected => ?_⟩⟩
  exact outside (turn_remained (select_chosen selected).2.2.2)

/-! ### The arm of Idle -/

theorem leave_inner (loop : Loop) (offer : Offer) :
    (loop.leave offer).connection.inner = loop.connection.inner :=
  (loop.leave_reports offer).inner

/-- Connecting again does not stop half-way. -/
theorem reconnect_outside {id : String} {otherwise : Loop → Loop}
    (idle : loop.connection.inner.state = .idle)
    (keeps : ∀ loop : Loop, loop.connection.inner.state = .idle →
      (otherwise loop).connection.inner.state ≠ .connectionPending) :
    (loop.reconnect offer id otherwise).connection.inner.state ≠ .connectionPending := by
  unfold reconnect
  rcases connect_spec loop.connection idle id offer.dial loop.sockets with
    ⟨_, _, _, _, _, next, _, _, _, _, _, connected, answered⟩ |
      ⟨_, next, _, _, _, refused, _, last⟩
  · rw [connected]
    show next.inner.state ≠ .connectionPending
    rw [answered.greeting.pending]
    nofun
  · rw [refused]
    exact keeps { loop with connection := next } last

theorem idleArm_outside (idle : loop.connection.inner.state = .idle) :
    (loop.idleArm offer).connection.inner.state ≠ .connectionPending := by
  have left {loop : Loop} (idle : loop.connection.inner.state = .idle) :
      (loop.leave offer).connection.inner.state ≠ .connectionPending := by
    rw [loop.leave_inner offer, idle]
    nofun
  have stays {loop : Loop} (idle : loop.connection.inner.state = .idle) :
      loop.connection.inner.state ≠ .connectionPending := by
    rw [idle]
    nofun
  unfold idleArm
  split
  · exact left idle
  · rename_i id _
    split
    · refine reconnect_outside idle fun loop idle => ?_
      split
      · exact stays idle
      · exact left idle
    · rename_i socket _
      split
      · have shut : (loop.record (.shut socket)).connection.inner.state = .idle := idle
        dsimp only
        split
        · exact stays shut
        · exact reconnect_outside shut fun loop idle => stays idle
      · exact left idle

/-! ### An iteration -/

/-- Without such a set-up, an iteration stays outside ConnectionPending. -/
theorem iterate_outside (outside : loop.connection.inner.state ≠ .connectionPending)
    (unset : ¬ loop.SetsUp offer) (move : loop.iterate offer = some next) :
    next.connection.inner.state ≠ .connectionPending := by
  obtain ⟨_, branch, selected, reports⟩ := loop.iterate_spec offer move
  have chosen := select_chosen selected
  by_cases arm : branch = .machine .idle
  · subst arm
    rw [reports.inner]
    have idle : loop.pop.connection.inner.state = .idle := turn_idle chosen.2.2.2
    exact loop.pop.idleArm_outside idle
  · rcases loop.iterate_cases offer (fun _ _ => trivial) move selected arm with
      ⟨same, _⟩ | ⟨entry, raised, reaction, _⟩
    · rw [same]
      exact outside
    · intro pending
      rw [pending] at reaction
      obtain ⟨idle, id, setUp, found⟩ := reaction.setUp_of_pending
      rw [ConnectionState.beforeDispatch_config] at found
      have commanded := (raises_setUp chosen raised).2 id setUp
      exact unset ⟨idle, id, by rw [selected, commanded], found⟩

/-- Such a set-up leaves the machine in ConnectionPending. -/
theorem SetsUp.pending (setsUp : loop.SetsUp offer) (move : loop.iterate offer = some next) :
    next.connection.inner.state = .connectionPending := by
  obtain ⟨idle, id, selected, found⟩ := setsUp
  obtain ⟨config, found⟩ := Option.ne_none_iff_exists'.mp found
  have noData : ∀ msg, UserCommand.setup id ≠ .data msg := nofun
  obtain ⟨entry, raised, reaction, _⟩ :=
    loop.iterate_command offer (fun _ _ => trivial) noData move selected
  have setUp : entry.event = .lSetup id := raised
  rw [setUp, idle] at reaction
  exact (reaction.unique (.setUp found)).2.1

end Loop

/-- In a run of the loop the machine is never in ConnectionPending at the top of an iteration, and
so the run never ends because of it, if and only if it is not so at the start and the user never
sets up, with a configured id, a machine in Idle. A run that has ended counts as at the top of the
iteration that it no longer takes. -/
theorem pending_exact {first last : Loop} {offers : List Offer}
    (run : Run Loop.iterate first offers last) :
    EachState Loop.iterate Loop.Outside first offers ↔
      first.connection.inner.state ≠ .connectionPending ∧
        EachStep Loop.iterate (fun loop offer => ¬ loop.SetsUp offer) first offers := by
  have kept : ∀ (loop : Loop) (offer : Offer) (next : Loop),
      loop.connection.inner.state ≠ .connectionPending → True → ¬ loop.SetsUp offer →
      loop.iterate offer = some next →
      next.connection.inner.state ≠ .connectionPending ∧ next.Outside := by
    intro loop offer next outside _ unset move
    have outside' := Loop.iterate_outside outside unset move
    exact ⟨outside', Loop.outside_iff.mpr outside'⟩
  have broken : ∀ (loop : Loop) (offer : Offer) (next : Loop),
      loop.connection.inner.state ≠ .connectionPending → True → ¬ ¬ loop.SetsUp offer →
      loop.iterate offer = some next → ¬ next.Outside :=
    fun _ _ _ _ _ setsUp move outside => outside.1 ((not_not.mp setsUp).pending move)
  have criterion (outside : first.connection.inner.state ≠ .connectionPending) :=
    eachMove_iff_eachStep kept broken run outside (eachStep_of_forall first fun _ _ => trivial)
  constructor
  · rintro ⟨outside, moves⟩
    exact ⟨outside.1, (criterion outside.1).mp moves⟩
  · rintro ⟨outside, unset⟩
    exact ⟨Loop.outside_iff.mpr outside, (criterion outside).mpr unset⟩

/-- The runs of a new connection start outside ConnectionPending, and those of `run_server` on
every connection. -/
theorem starts_outside :
    (∀ cfg connectionId, (Connection.new cfg connectionId).runClient.connection.inner.state ≠
        .connectionPending) ∧
      ∀ (connection : Connection) now,
        (connection.runServer now).connection.inner.state ≠ .connectionPending := by
  refine ⟨nofun, fun connection now => ?_⟩
  obtain ⟨next, handled⟩ : ∃ next,
      (Loop.start connection (some 0) 1).connection.dispatch (.rSetup now) = .ok next :=
    Connection.dispatch_ok _ nofun
  obtain ⟨entry, raised, dispatches⟩ := Connection.dispatch_spec handled
  have reaction := dispatches.reaction
  unfold Connection.runServer Loop.dispatch
  rw [handled]
  intro pending
  rw [raised, show next.inner.state = .connectionPending from pending] at reaction
  obtain ⟨_, id, same, _⟩ := reaction.setUp_of_pending
  cases same

/-- The states of the tests' client while it associates. -/
theorem pending_exact_client :
    EachState Loop.iterate Loop.Outside (Sample.client Fmtp.Sample.clientEntry)
        Sample.association ↔
      (Sample.client Fmtp.Sample.clientEntry).connection.inner.state ≠ .connectionPending ∧
        EachStep Loop.iterate (fun loop offer => ¬ loop.SetsUp offer)
          (Sample.client Fmtp.Sample.clientEntry) Sample.association :=
  pending_exact (Run.of_enabled _ _ _ (by decide +kernel))

/-- A client whose user sets it up before it has dialled is left in ConnectionPending. -/
theorem pending_remains : ¬ ∀ (cfg : Config) (connectionId : Option String) (first last : Loop)
    (offers : List Offer),
    (first = (Connection.new cfg connectionId).runClient ∨
      ∃ now, first = (Connection.new cfg connectionId).runServer now) →
    Run Loop.iterate first offers last → EachState Loop.iterate Loop.Outside first offers := by
  intro claim
  have session : (final Loop.iterate (Sample.client Fmtp.Sample.clientEntry)
        [Sample.commanding (.setup "test")]).isSome = true ∧
      ((final Loop.iterate (Sample.client Fmtp.Sample.clientEntry)
        [Sample.commanding (.setup "test")]).getD
          (Sample.client Fmtp.Sample.clientEntry)).connection.inner.state =
        .connectionPending := by
    decide +kernel
  obtain ⟨enabled, pending⟩ := session
  have run := Run.of_enabled Loop.iterate (Sample.client Fmtp.Sample.clientEntry)
    [Sample.commanding (.setup "test")] enabled
  exact ((claim _ _ _ _ _ (Or.inl rfl) run).last run).1 pending

end Tokio

end Fmtp
