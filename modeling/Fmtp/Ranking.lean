/-
This file is the ranking library: the moves of a transition system that each pay one unit of a
debt. No run of them is longer than the debt of the state it starts in. Where a state in debt has
such a move, they lead out of every state into one without a debt, and the runs that go no
further are those that have paid it all.
-/

import Fmtp.Transition

namespace TransitionSystem

variable {State Input : Type} {step : State → Input → Option State}
  {pays : State → Input → Prop} {invariant : State → Prop} {debt : State → Nat}

/-- A run of moves that each pay one unit pays as much as it is long. -/
theorem Run.paid
    (paid : ∀ state input next, invariant state → pays state input →
      step state input = some next → invariant next ∧ debt next + 1 = debt state)
    {first last : State} {inputs : List Input} (run : Run step first inputs last)
    (start : invariant first) (each : EachStep step pays first inputs) :
    invariant last ∧ debt last + inputs.length = debt first := by
  induction run with
  | nil => exact ⟨start, rfl⟩
  | @cons state next last input rest move _ inductionHypothesis =>
    obtain ⟨allowed, others⟩ := (eachStep_cons move).mp each
    obtain ⟨kept, less⟩ := paid _ _ _ start allowed move
    obtain ⟨invariant, rest⟩ := inductionHypothesis kept others
    refine ⟨invariant, ?_⟩
    rw [List.length_cons, ← less, ← rest, Nat.add_assoc]

/-- Where a state in debt has a move that pays, some run of them pays everything. -/
theorem exists_paid
    (paid : ∀ state input next, invariant state → pays state input →
      step state input = some next → invariant next ∧ debt next + 1 = debt state)
    (goes : ∀ state, invariant state → debt state ≠ 0 →
      ∃ input, pays state input ∧ (step state input).isSome = true)
    {first : State} (start : invariant first) :
    ∃ inputs last, Run step first inputs last ∧ EachStep step pays first inputs ∧
      debt last = 0 := by
  generalize amount : debt first = units
  induction units generalizing first with
  | zero => exact ⟨[], first, .nil first, trivial, amount⟩
  | succ units inductionHypothesis =>
    have owes : debt first ≠ 0 := by
      rw [amount]
      exact Nat.succ_ne_zero units
    obtain ⟨input, allowed, enabled⟩ := goes first start owes
    obtain ⟨next, move⟩ := Option.isSome_iff_exists.mp enabled
    obtain ⟨kept, less⟩ := paid _ _ _ start allowed move
    have left : debt next = units := Nat.succ.inj (less.trans amount)
    obtain ⟨inputs, last, run, each, none⟩ := inductionHypothesis kept left
    exact ⟨input :: inputs, last, .cons move run, (eachStep_cons move).mpr ⟨allowed, each⟩, none⟩

/-- A state has paid everything exactly where no move pays any more. -/
theorem paid_iff_stuck
    (paid : ∀ state input next, invariant state → pays state input →
      step state input = some next → invariant next ∧ debt next + 1 = debt state)
    (goes : ∀ state, invariant state → debt state ≠ 0 →
      ∃ input, pays state input ∧ (step state input).isSome = true)
    {state : State} (holds : invariant state) :
    debt state = 0 ↔ ∀ input, pays state input → step state input = none := by
  constructor
  · intro none input allowed
    cases move : step state input with
    | none => rfl
    | some next =>
      have less := (paid _ _ _ holds allowed move).2
      rw [none] at less
      exact absurd less (Nat.succ_ne_zero _)
  · intro stuck
    by_contra owes
    obtain ⟨input, allowed, enabled⟩ := goes state holds owes
    rw [stuck input allowed] at enabled
    cases enabled

end TransitionSystem
