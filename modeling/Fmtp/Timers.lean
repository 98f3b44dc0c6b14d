/-
This file settles what becomes of an expired timer. The loop sleeps until a deadline and then
dispatches the timeout, which ends the session or sets the timer again. In Ready there is no such
dispatch: a machine that is not meant to reach DataReady wakes at its deadline, does nothing and
is woken again at once, and the socket is not read anymore.
-/

import Fmtp.Commands

namespace Fmtp

open TransitionSystem

/-! ### Deadlines -/

/-- The timers of the protocol. -/
inductive Clock
  | ti
  | tr
  | ts
deriving DecidableEq, Repr

/-- The deadline of a timer that is armed in the state. -/
def State.deadline : State → Clock → Option Instant
  | .idPending ti, .ti | .acceptPending ti, .ti => some ti.deadline
  | .ready tr, .tr | .associationPending tr, .tr | .dataReady tr _, .tr => some tr.deadline
  | .dataReady _ ts, .ts => some ts.deadline
  | _, _ => none

/-- The durations of an entry are positive. -/
structure ConnectionConfig.Positive (entry : ConnectionConfig) : Prop where
  ti : 0 < entry.ti
  tr : 0 < entry.tr
  ts : 0 < entry.ts

/-- The durations of all entries are positive. -/
def Config.Positive (config : Config) : Prop :=
  ∀ key entry, config.connections.lookup key = some entry → entry.Positive

/-- The state gives the session up, or its timer is set to a time after `now`. -/
def State.Renewed (clock : Clock) (now : Instant) (state : State) : Prop :=
  state = .idle ∨ state = .error ∨
    ∃ deadline, state.deadline clock = some deadline ∧ now < deadline

theorem ConnectionState.positive_of_entry {self : ConnectionState} {entry : ConnectionConfig}
    (positive : self.config.Positive) (found : self.entry = some entry) : entry.Positive := by
  obtain ⟨key, _, looked⟩ := Option.bind_eq_some_iff.mp found
  exact positive key entry looked

/-- What the loop dispatches at `now` to a machine whose timer is armed: a timeout, or the startup
of a machine in Ready that is meant to reach DataReady. -/
inductive Expires (now : Instant) : Clock → Event → Prop
  | ti : Expires now .ti .tiTimeout
  | tr : Expires now .tr (.trTimeout now)
  | ts : Expires now .ts (.tsTimeout now)
  | startup : Expires now .tr (.lStartup now)

/-- A state with an armed timer ignores none of these. -/
theorem Expires.not_ignored {clock : Clock} {now deadline : Instant} {state : State}
    {event : Event} (expires : Expires now clock event)
    (armed : state.deadline clock = some deadline) : state.ignores event ≠ true := by
  cases state with
  | error => cases armed
  | idle | connectionPending | idPending | acceptPending | ready | associationPending
  | dataReady => cases expires <;> exact Bool.false_ne_true

/-- What is dispatched for an armed timer ends the session or sets the timer again. -/
theorem Expires.renews {self self' : ConnectionState} {state state' : State} {event : Event}
    {packets : List FmtpPacket} {messages : List FmtpMessage} {clock : Clock}
    {deadline now : Instant} (expires : Expires now clock event)
    (positive : self.config.Positive) (armed : state.deadline clock = some deadline)
    (reaction : Reaction self state event self' state' packets messages) :
    state'.Renewed clock now := by
  have later {duration : Duration} (some : 0 < duration) : now < now + duration :=
    Nat.lt_add_of_pos_right some
  cases reaction with
  | ignored quiet => exact absurd quiet (expires.not_ignored armed)
  | refused | untimed | unknownId => exact Or.inr (Or.inl rfl)
  | released | missing | unknownClient | unknownServer | invalid | abandoned | closed =>
    exact Or.inl rfl
  | restarted found | started found =>
    cases expires
    exact Or.inr (Or.inr ⟨_, rfl, later (self.positive_of_entry positive found).tr⟩)
  | kept found =>
    cases expires
    exact Or.inr (Or.inr ⟨_, rfl, later (self.positive_of_entry positive found).ts⟩)
  | refreshed found alive => rcases alive with rfl | rfl <;> cases expires
  | served | setUp | connected | identifiedClient | identifiedServer | accepted | associated
  | withdrawn | delivered | suspended | sent | stopped => cases expires

/-! ### The block over the state -/

namespace Tokio

/-- The timer whose deadline is over when the block comes to this. -/
def Turn.clock : Turn → Option Clock
  | .raised .tiTimeout => some .ti
  | .raised (.trTimeout _) | .raised (.lStartup _) | .slept => some .tr
  | .raised (.tsTimeout _) => some .ts
  | _ => none

theorem turn_expires {inner : Fmtp.Connection} {offer : Offer} {event : Event} {clock : Clock}
    (turned : turn inner offer = some (.raised event))
    (waited : (Turn.raised event).clock = some clock) : Expires offer.clock clock event := by
  rcases turn_raised turned with rfl | rfl | rfl | ⟨rfl, _⟩
  · obtain rfl := Option.some.inj waited
    exact .ti
  · obtain rfl := Option.some.inj waited
    exact .tr
  · obtain rfl := Option.some.inj waited
    exact .ts
  · obtain rfl := Option.some.inj waited
    exact .startup

/-- Only a machine in Ready that is not meant to reach DataReady sleeps for nothing. -/
theorem turn_slept {inner : Fmtp.Connection} {offer : Offer} :
    turn inner offer = some .slept ↔
      ∃ tr, inner.state = .ready tr ∧ inner.storage.target ≠ .dataReady ∧
        tr.deadline ≤ offer.clock := by
  constructor
  · intro turned
    cases turn_spec turned with
    | slept ready unmeant due => exact ⟨_, ready, unmeant, due⟩
  · rintro ⟨tr, ready, unmeant, due⟩
    unfold turn
    rw [ready]
    dsimp only
    rw [if_neg unmeant, if_pos due]

namespace Loop

variable {loop next : Loop} {offer : Offer}

/-- Where the block over the state is over at or after an armed deadline it waited for, the
session ends or that deadline is replaced by a later one. -/
def Rearms (loop : Loop) (offer : Offer) (next : Loop) : Prop :=
  ∀ turned clock deadline, loop.select offer = some (.machine turned) →
    turned.clock = some clock →
    loop.connection.inner.state.deadline clock = some deadline → deadline ≤ offer.clock →
    next.connection.inner.state.Renewed clock offer.clock

/-- The block over the state is over for a machine in Ready whose target is not DataReady. -/
def Dozes (loop : Loop) (offer : Offer) : Prop :=
  ∃ tr turned, loop.connection.inner.state = .ready tr ∧
    loop.connection.inner.storage.target ≠ .dataReady ∧
    loop.select offer = some (.machine turned)

/-- Such a block was asleep, and nothing is dispatched. -/
theorem Dozes.slept (dozes : Dozes loop offer) : loop.select offer = some (.machine .slept) := by
  obtain ⟨tr, turned, ready, unmeant, selected⟩ := dozes
  have ended := (select_chosen selected).2.2.2
  cases turn_spec ended with
  | slept => exact selected
  | startup _ meant => exact absurd meant unmeant
  | idle other | remained other | failed other | identification other | acceptance other
  | association other | silence other | heartbeat other => cases ready.symm.trans other

/-- Only the queues are popped. -/
theorem iterate_slept (slept : loop.select offer = some (.machine .slept))
    (move : loop.iterate offer = some next) :
    next.connection.inner = loop.connection.inner ∧ next.connection.ctx = loop.pop.connection.ctx ∧
      next.socket = loop.socket := by
  have socket := loop.iterate_socket offer slept move
  obtain ⟨_, branch, selected, _, stays, _⟩ := loop.iterate_spec offer move
  obtain rfl := Option.some.inj (slept.symm.trans selected)
  exact ⟨stays.inner, stays.ctx, socket⟩

/-- Outside Ready, or on the way to DataReady, a timer that is over is set again. -/
theorem iterate_rearms (positive : loop.connection.inner.storage.config.Positive)
    (awake : ¬ Dozes loop offer) (move : loop.iterate offer = some next) :
    Rearms loop offer next := by
  intro turned clock deadline selected waited armed due
  have ended := (select_chosen selected).2.2.2
  cases turned with
  | idle | failed => cases waited
  | slept =>
    obtain ⟨tr, ready, unmeant, _⟩ := turn_slept.mp ended
    exact absurd ⟨tr, .slept, ready, unmeant, selected⟩ awake
  | raised event =>
    have expires := turn_expires ended waited
    have other : ∀ now msg, event ≠ .lData now msg := by
      rintro now msg rfl
      cases expires
    obtain ⟨entry, rfl, reaction, _⟩ :=
      loop.iterate_dispatch offer (fun _ _ => trivial) move selected rfl other
    refine expires.renews ?_ armed reaction
    rw [ConnectionState.beforeDispatch_config]
    exact positive

/-- A machine that sleeps for nothing and keeps its state keeps its deadline. -/
theorem Rearms.of_slept (rearms : Rearms loop offer next)
    (slept : loop.select offer = some (.machine .slept)) :
    next.connection.inner.state ≠ loop.connection.inner.state := by
  intro same
  obtain ⟨tr, ready, _, due⟩ := turn_slept.mp (select_chosen slept).2.2.2
  have armed : loop.connection.inner.state.deadline .tr = some tr.deadline := by
    rw [ready]
    rfl
  have renewed := rearms .slept .tr tr.deadline slept rfl armed due
  rw [same, ready] at renewed
  rcases renewed with idle | failed | ⟨deadline, set, later⟩
  · cases idle
  · cases failed
  · obtain rfl := Option.some.inj set
    exact absurd due (Nat.not_le.mpr later)

theorem Dozes.not_rearms (dozes : Dozes loop offer) (move : loop.iterate offer = some next) :
    ¬ Rearms loop offer next :=
  fun rearms => rearms.of_slept dozes.slept
    (congrArg Fmtp.Connection.state (iterate_slept dozes.slept move).1)

end Loop

/-- In a run whose configuration has positive durations, every timer that is over ends the session
or is set again, if and only if the block over the state is never over for a machine in Ready
whose target is not DataReady. -/
theorem timers_exact {first last : Loop} {offers : List Offer}
    (positive : first.connection.inner.storage.config.Positive)
    (run : Run Loop.iterate first offers last) :
    EachMove Loop.iterate Loop.Rearms first offers ↔
      EachStep Loop.iterate (fun loop offer => ¬ Loop.Dozes loop offer) first offers := by
  have kept : ∀ (loop : Loop) (offer : Offer) (next : Loop),
      loop.connection.inner.storage.config.Positive → True → ¬ Loop.Dozes loop offer →
      loop.iterate offer = some next →
      next.connection.inner.storage.config.Positive ∧ Loop.Rearms loop offer next := by
    intro loop offer next positive _ awake move
    refine ⟨?_, Loop.iterate_rearms positive awake move⟩
    rw [loop.iterate_config offer move]
    exact positive
  have broken : ∀ (loop : Loop) (offer : Offer) (next : Loop),
      loop.connection.inner.storage.config.Positive → True → ¬ ¬ Loop.Dozes loop offer →
      loop.iterate offer = some next → ¬ Loop.Rearms loop offer next :=
    fun _ _ _ _ _ dozes move => (not_not.mp dozes).not_rearms move
  exact eachMove_iff_eachStep kept broken run positive (eachStep_of_forall first fun _ _ => trivial)

/-- The durations of the tests are positive. -/
theorem Sample.positive (id : String) {entry : ConnectionConfig} (positive : entry.Positive)
    (config : Config) :
    ({ config with connections := AList.singleton id entry } : Config).Positive := by
  intro key entry' looked
  have member := mem_entries_iff.mpr looked
  obtain ⟨rfl, same⟩ := Sigma.mk.inj (List.mem_singleton.mp member)
  obtain rfl := eq_of_heq same
  exact positive

namespace Sample

/-- The client associates, and its heartbeat timer is over. -/
def waiting : List Offer := association ++ [{ quiet with clock := 16 }]

end Sample

/-- The timers of the tests' client while it associates and waits. -/
theorem timers_exact_client :
    EachMove Loop.iterate Loop.Rearms (Sample.client Fmtp.Sample.clientEntry) Sample.waiting ↔
      EachStep Loop.iterate (fun loop offer => ¬ Loop.Dozes loop offer)
        (Sample.client Fmtp.Sample.clientEntry) Sample.waiting :=
  timers_exact (Sample.positive "test" ⟨by decide, by decide, by decide⟩ _)
    (Run.of_enabled _ _ _ (by decide +kernel))

namespace Sample

/-- The user asks for a shutdown, and the machine stays in Ready until its deadline. -/
def resting : List Offer :=
  association ++ [commanding .shutdown, writable, { quiet with clock := 41 }]

end Sample

/-- A client that rests in Ready after a shutdown keeps the deadline that is over. -/
theorem timer_kept : ¬ ∀ (connection : Connection) (offers : List Offer) (last : Loop),
    connection.inner.storage.config.Positive → Run Loop.iterate connection.runClient offers last →
    EachMove Loop.iterate Loop.Rearms connection.runClient offers := by
  intro claim
  have session : (final Loop.iterate (Sample.client Fmtp.Sample.clientEntry)
        Sample.resting).isSome = true ∧
      ¬ EachMove Loop.iterate (fun loop offer next =>
        loop.select offer = some (.machine .slept) →
          next.connection.inner.state ≠ loop.connection.inner.state)
        (Sample.client Fmtp.Sample.clientEntry) Sample.resting := by
    decide +kernel
  obtain ⟨enabled, kept⟩ := session
  have rearms := claim _ Sample.resting _
    (Sample.positive "test" ⟨by decide, by decide, by decide⟩ _) (Run.of_enabled _ _ _ enabled)
  exact kept (rearms.mono fun _ _ _ rearms => rearms.of_slept)

/-! ### What a doze costs -/

namespace Loop

/-- A machine in Ready that is not meant to reach DataReady, its deadline over, and nothing to
transmit or to deliver. -/
structure Starving (now : Instant) (loop : Loop) : Prop where
  ready : ∃ tr, loop.connection.inner.state = .ready tr ∧
    loop.connection.inner.storage.target ≠ .dataReady ∧ tr.deadline ≤ now
  drained : loop.Drained
  empty : loop.connection.ctx.recvQueue = []

variable {loop next : Loop} {offer : Offer}

theorem Dozes.starving (dozes : Dozes loop offer) : Starving offer.clock loop := by
  obtain ⟨drained, _, empty, ended⟩ := select_chosen dozes.slept
  exact ⟨turn_slept.mp ended, drained, empty⟩

/-- Without a command, such a machine is woken for nothing. -/
theorem Starving.select {now : Instant} (starving : Starving now loop)
    (silent : offer.command = none) (later : now ≤ offer.clock) :
    loop.select offer = some (.machine .slept) := by
  obtain ⟨⟨tr, ready, unmeant, due⟩, drained, empty⟩ := starving
  have slept : turn loop.connection.inner offer = some .slept :=
    turn_slept.mpr ⟨tr, ready, unmeant, due.trans later⟩
  have received : loop.connection.ctx.recvQueue.head? = none := by
    rw [empty]
    rfl
  unfold Loop.select
  dsimp only [ConnectionContext.pollTransmit, ConnectionContext.pollReceive]
  rw [silent, received, slept]
  rcases drained with absent | unqueued
  · rw [absent]
  · rw [unqueued]
    cases loop.socket <;> rfl

theorem Starving.iterate {now : Instant} (starving : Starving now loop)
    (silent : offer.command = none) (later : now ≤ offer.clock)
    (move : loop.iterate offer = some next) : Starving now next := by
  obtain ⟨inner, ctx, socket⟩ := iterate_slept (starving.select silent later) move
  refine ⟨?_, ?_, ?_⟩
  · rw [inner]
    exact starving.ready
  · rcases starving.drained with absent | unqueued
    · exact Or.inl (socket.trans absent)
    · refine Or.inr ?_
      rw [ctx]
      show loop.connection.ctx.sendQueue.tail = []
      rw [unqueued]
      rfl
  · rw [ctx]
    show loop.connection.ctx.recvQueue.tail = []
    rw [starving.empty]
    rfl

end Loop

/-- Once a machine dozes, and as long as its user sends no command, the loop never reads from the
socket again, whatever has arrived there. -/
theorem doze_starves {loop last : Loop} {offer : Offer} {offers : List Offer}
    (dozes : Loop.Dozes loop offer) (run : Run Loop.iterate loop offers last)
    (meanwhile : EachStep Loop.iterate
      (fun _ later => later.command = none ∧ offer.clock ≤ later.clock) loop offers) :
    EachStep Loop.iterate (fun loop later => loop.select later = some (.machine .slept))
      loop offers :=
  (EachStep.preserves (fun _ _ _ starving silent move =>
    ⟨Loop.Starving.iterate starving silent.1 silent.2 move, starving.select silent.1 silent.2⟩)
    run dozes.starving meanwhile).2

end Tokio

end Fmtp
