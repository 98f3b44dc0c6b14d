/-
This file is the refinement library: one transition system that does what another one does, an
input of the first for any number of inputs of the second. The inputs of the second are computed
from those of the first, so a run of the first names the run of the second that it stands for.
-/

import Fmtp.Transition

namespace TransitionSystem

variable {State State' Input Input' : Type} {step : State → Input → Option State}
  {step' : State' → Input' → Option State'} {translate : State → Input → List Input'}
  {relation : State → State' → Prop} {guard : State → Input → Prop}
  {first last : State} {first' : State'} {inputs : List Input}

/-- The inputs that the inputs of a run stand for. -/
def translation (step : State → Input → Option State) (translate : State → Input → List Input') :
    State → List Input → List Input'
  | _, [] => []
  | state, input :: rest =>
    match step state input with
    | some next => translate state input ++ translation step translate next rest
    | none => []

/-- Where every guarded move is matched by a run of its translation, so is every guarded run. -/
theorem Run.simulates
    (matched : ∀ state state' input next, relation state state' → guard state input →
      step state input = some next →
      ∃ next', Run step' state' (translate state input) next' ∧ relation next next')
    (run : Run step first inputs last) (related : relation first first')
    (guarded : EachStep step guard first inputs) :
    ∃ last', Run step' first' (translation step translate first inputs) last' ∧
      relation last last' := by
  induction run generalizing first' with
  | nil => exact ⟨first', .nil first', related⟩
  | @cons state next last input rest move _ inductionHypothesis =>
    obtain ⟨allowed, others⟩ := (eachStep_cons move).mp guarded
    obtain ⟨next', here, related'⟩ := matched _ _ _ _ related allowed move
    obtain ⟨last', there, related''⟩ := inductionHypothesis related' others
    refine ⟨last', ?_, related''⟩
    rw [translation, move]
    exact here.append there

/-- Where every guarded move is a known move of a view, or leaves the view alone, a guarded run
shows a run of the view. What is required of the known inputs that it shows is required of the run
of the view. -/
theorem Run.projects {view : State → State'} {shows : State → Input → Option Input'}
    {invariant : State → Prop} {known : State' → Input' → Prop}
    (matched : ∀ state input next, invariant state → guard state input →
      step state input = some next → invariant next ∧
        (shows state input = none ∧ view next = view state ∨
          ∃ input', shows state input = some input' ∧ known (view state) input' ∧
            step' (view state) input' = some (view next)))
    (run : Run step first inputs last) (start : invariant first)
    (guarded : EachStep step guard first inputs) :
    invariant last ∧ ∃ inputs', Run step' (view first) inputs' (view last) ∧
      ∀ guard' : State' → Input' → Prop,
        EachStep step (fun state input => ∀ input' ∈ shows state input,
          known (view state) input' → guard' (view state) input') first inputs →
        EachStep step' guard' (view first) inputs' := by
  induction run with
  | nil => exact ⟨start, [], .nil _, fun _ _ => trivial⟩
  | @cons state next last input rest move _ inductionHypothesis =>
    obtain ⟨allowed, others⟩ := (eachStep_cons move).mp guarded
    obtain ⟨kept, moves⟩ := matched _ _ _ start allowed move
    obtain ⟨lasting, inputs', there, required⟩ := inductionHypothesis kept others
    rcases moves with ⟨hidden, same⟩ | ⟨input', shown, knows, moved⟩
    · rw [same] at there required
      exact ⟨lasting, inputs', there,
        fun guard' each => required guard' ((eachStep_cons move).mp each).2⟩
    · refine ⟨lasting, input' :: inputs', .cons moved there, fun guard' each => ?_⟩
      obtain ⟨here, later⟩ := (eachStep_cons move).mp each
      exact (eachStep_cons moved).mpr ⟨here input' shown knows, required guard' later⟩

/-- Two properties of the moves of a run are one. -/
theorem EachMove.and {relation relation' : State → Input → State → Prop} {state : State}
    {inputs : List Input} (each : EachMove step relation state inputs)
    (each' : EachMove step relation' state inputs) :
    EachMove step (fun state input next => relation state input next ∧ relation' state input next)
      state inputs := by
  induction inputs generalizing state with
  | nil => trivial
  | cons input rest inductionHypothesis =>
    intro next move
    obtain ⟨here, later⟩ := each next move
    obtain ⟨here', later'⟩ := each' next move
    exact ⟨⟨here, here'⟩, inductionHypothesis later later'⟩

end TransitionSystem
