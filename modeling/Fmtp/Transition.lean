/-
This file is the run library: partial deterministic transition systems, their runs, and
the rules that carry a fact from one step to a whole run.

A system is a function `step` that answers, for a state and an input, the next state, or
nothing when the input is not enabled there. Nondeterminism is in the inputs: an
interleaving is a list of inputs. A property of a run speaks either of the states it
visits or of the moves it makes, and the two rules below are all that later proofs need:
an invariant kept by every guarded move, and the exact criterion, where breaking the
guard also breaks the property.
-/

import Mathlib.Data.List.Basic

namespace TransitionSystem

variable {State Input : Type} {step : State → Input → Option State}

/-! ### Runs -/

/-- A run takes a list of inputs from a first state to a last one, every input enabled. -/
inductive Run (step : State → Input → Option State) : State → List Input → State → Prop
  | nil (state : State) : Run step state [] state
  | cons {state next last : State} {input : Input} {rest : List Input}
      (move : step state input = some next) (tail : Run step next rest last) :
      Run step state (input :: rest) last

namespace Run

/-- A fact kept by every step is kept by every run. -/
theorem preserves {invariant : State → Prop}
    (kept : ∀ state input next, invariant state → step state input = some next → invariant next)
    {first last : State} {inputs : List Input} (run : Run step first inputs last)
    (start : invariant first) : invariant last := by
  induction run with
  | nil => exact start
  | cons move _ inductionHypothesis => exact inductionHypothesis (kept _ _ _ start move)

/-- One run after another is a run. -/
theorem append {first middle last : State} {inputs more : List Input}
    (run : Run step first inputs middle) (rest : Run step middle more last) :
    Run step first (inputs ++ more) last := by
  induction run with
  | nil => exact rest
  | cons move _ inductionHypothesis => exact .cons move (inductionHypothesis rest)

end Run

/-- Where the inputs lead, if all of them are enabled. -/
def final (step : State → Input → Option State) : State → List Input → Option State
  | state, [] => some state
  | state, input :: rest => (step state input).bind fun next => final step next rest

theorem Run.of_final {first last : State} {inputs : List Input}
    (reached : final step first inputs = some last) : Run step first inputs last := by
  induction inputs generalizing first with
  | nil =>
    obtain rfl := Option.some.inj reached
    exact .nil first
  | cons input rest inductionHypothesis =>
    obtain ⟨next, move, tail⟩ := Option.bind_eq_some_iff.mp reached
    exact .cons move (inductionHypothesis tail)

/-- Enabled inputs have a run, and it ends where they lead. -/
theorem Run.of_enabled (step : State → Input → Option State) (first : State)
    (inputs : List Input) (enabled : (final step first inputs).isSome = true) :
    Run step first inputs ((final step first inputs).getD first) := by
  obtain ⟨last, reached⟩ := Option.isSome_iff_exists.mp enabled
  rw [reached]
  exact .of_final reached

/-- An enabled step has a next state. -/
theorem step_of_enabled (step : State → Input → Option State) (state : State) (input : Input)
    (enabled : (step state input).isSome = true) :
    step state input = some ((step state input).getD state) := by
  obtain ⟨next, move⟩ := Option.isSome_iff_exists.mp enabled
  rw [move]
  rfl

/-! ### Properties of the moves and of the states of a run -/

/-- `EachMove relation` holds of a run when `relation` holds of every move it makes. -/
def EachMove (step : State → Input → Option State) (relation : State → Input → State → Prop) :
    State → List Input → Prop
  | _, [] => True
  | state, input :: rest =>
    ∀ next, step state input = some next →
      relation state input next ∧ EachMove step relation next rest

/-- Every input of the run is taken in a state in which `guard` allows it. -/
def EachStep (step : State → Input → Option State) (guard : State → Input → Prop) :
    State → List Input → Prop :=
  EachMove step fun state input _ => guard state input

/-- `property` holds of every state the run visits, the first and the last included. -/
def EachState (step : State → Input → Option State) (property : State → Prop)
    (state : State) (inputs : List Input) : Prop :=
  property state ∧ EachMove step (fun _ _ next => property next) state inputs

theorem eachMove_cons {relation : State → Input → State → Prop} {state next : State}
    {input : Input} {rest : List Input} (move : step state input = some next) :
    EachMove step relation state (input :: rest) ↔
      relation state input next ∧ EachMove step relation next rest := by
  constructor
  · intro each
    exact each next move
  · rintro ⟨head, tail⟩ next' move'
    obtain rfl := Option.some.inj (move.symm.trans move')
    exact ⟨head, tail⟩

theorem eachStep_cons {guard : State → Input → Prop} {state next : State} {input : Input}
    {rest : List Input} (move : step state input = some next) :
    EachStep step guard state (input :: rest) ↔
      guard state input ∧ EachStep step guard next rest :=
  eachMove_cons move

instance decidableEachMove {relation : State → Input → State → Prop}
    [∀ state input next, Decidable (relation state input next)] :
    ∀ (state : State) (inputs : List Input), Decidable (EachMove step relation state inputs)
  | _, [] => .isTrue trivial
  | state, input :: rest =>
    match move : step state input with
    | none => .isTrue fun _ move' => nomatch move.symm.trans move'
    | some next =>
      have : Decidable (EachMove step relation next rest) := decidableEachMove next rest
      decidable_of_iff _ (eachMove_cons move).symm

instance {guard : State → Input → Prop} [∀ state input, Decidable (guard state input)]
    (state : State) (inputs : List Input) : Decidable (EachStep step guard state inputs) :=
  decidableEachMove state inputs

theorem EachMove.mono {relation relation' : State → Input → State → Prop}
    (weaker : ∀ state input next, relation state input next → relation' state input next)
    {state : State} {inputs : List Input} (each : EachMove step relation state inputs) :
    EachMove step relation' state inputs := by
  induction inputs generalizing state with
  | nil => trivial
  | cons input rest inductionHypothesis =>
    intro next move
    exact ⟨weaker _ _ _ (each next move).1, inductionHypothesis (each next move).2⟩

/-- What holds of every input holds at every step. -/
theorem eachStep_of_forall {guard : Input → Prop} (state : State) {inputs : List Input}
    (each : ∀ input ∈ inputs, guard input) :
    EachStep step (fun _ input => guard input) state inputs := by
  induction inputs generalizing state with
  | nil => trivial
  | cons input rest inductionHypothesis =>
    intro next _
    exact ⟨each input List.mem_cons_self,
      inductionHypothesis next fun other member => each other (List.mem_cons_of_mem input member)⟩

/-- What holds of every state holds of the last one. -/
theorem EachState.last {property : State → Prop} {first last : State} {inputs : List Input}
    (each : EachState step property first inputs) (run : Run step first inputs last) :
    property last := by
  induction run with
  | nil => exact each.1
  | cons move _ inductionHypothesis => exact inductionHypothesis ((eachMove_cons move).mp each.2)

/-- The guarded invariant rule: what every guarded move keeps holds after a guarded run, and
every move of the run has the relation that the invariant and the guard give it. -/
theorem EachStep.preserves {guard : State → Input → Prop} {invariant : State → Prop}
    {relation : State → Input → State → Prop}
    (kept : ∀ state input next, invariant state → guard state input →
      step state input = some next → invariant next ∧ relation state input next)
    {first last : State} {inputs : List Input} (run : Run step first inputs last)
    (start : invariant first) (guarded : EachStep step guard first inputs) :
    invariant last ∧ EachMove step relation first inputs := by
  induction run with
  | nil => exact ⟨start, trivial⟩
  | cons move _ inductionHypothesis =>
    obtain ⟨allowed, rest⟩ := (eachMove_cons move).mp guarded
    obtain ⟨next, related⟩ := kept _ _ _ start allowed move
    obtain ⟨last, moves⟩ := inductionHypothesis next rest
    exact ⟨last, (eachMove_cons move).mpr ⟨related, moves⟩⟩

/-- The exact criterion: if, under an assumption on the steps, guarded moves keep the invariant
and have the relation, and a move outside the guard never has it, then a run of assumed steps
has the relation throughout exactly when the guard holds throughout. -/
theorem eachMove_iff_eachStep {assumed guard : State → Input → Prop} {invariant : State → Prop}
    {relation : State → Input → State → Prop}
    (kept : ∀ state input next, invariant state → assumed state input → guard state input →
      step state input = some next → invariant next ∧ relation state input next)
    (broken : ∀ state input next, invariant state → assumed state input → ¬ guard state input →
      step state input = some next → ¬ relation state input next)
    {first last : State} {inputs : List Input} (run : Run step first inputs last)
    (start : invariant first) (assume : EachStep step assumed first inputs) :
    EachMove step relation first inputs ↔ EachStep step guard first inputs := by
  induction run with
  | nil => exact Iff.rfl
  | @cons state next _ input _ move _ inductionHypothesis =>
    obtain ⟨holds, rest⟩ := (eachMove_cons move).mp assume
    constructor
    · intro moves
      obtain ⟨related, others⟩ := (eachMove_cons move).mp moves
      have allowed : guard state input := by
        by_contra refused
        exact broken state input next start holds refused move related
      obtain ⟨invariant, _⟩ := kept _ _ _ start holds allowed move
      exact (eachMove_cons move).mpr ⟨allowed, (inductionHypothesis invariant rest).mp others⟩
    · intro guarded
      obtain ⟨allowed, others⟩ := (eachMove_cons move).mp guarded
      obtain ⟨invariant, related⟩ := kept _ _ _ start holds allowed move
      exact (eachMove_cons move).mpr ⟨related, (inductionHypothesis invariant rest).mpr others⟩

end TransitionSystem
