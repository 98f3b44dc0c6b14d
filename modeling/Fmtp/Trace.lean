/-
This file is the history library: properties of a list of past observations, oldest first.
A property of a stretch of history says that something occurred in it, that something never
occurred in it, or that one stretch was followed by another; `SinceLast` places such a
stretch after the last reset. Each comes with the rule by which it survives when the
history grows.
-/

import Mathlib.Data.List.Basic

namespace Trace

variable {Observation : Type}

/-- Some observation of the stretch is `good`. -/
def Occurs (good : Observation → Prop) (stretch : List Observation) : Prop :=
  ∃ observation ∈ stretch, good observation

/-- No observation of the stretch is `bad`. -/
def Never (bad : Observation → Prop) (stretch : List Observation) : Prop :=
  ∀ observation ∈ stretch, ¬ bad observation

/-- The stretch has `first` up to some point and `second` from there on. -/
def Then (first second : List Observation → Prop) (stretch : List Observation) : Prop :=
  ∃ before after, stretch = before ++ after ∧ first before ∧ second after

/-- Some stretch up to now holds no `reset` and has the property. -/
def SinceLast (reset : Observation → Prop) (property : List Observation → Prop)
    (trace : List Observation) : Prop :=
  ∃ older newer, trace = older ++ newer ∧ Never reset newer ∧ property newer

/-! ### Growth -/

/-- An observation of a grown history is an old one or one of the new stretch. -/
theorem split_append {trace later before after : List Observation} {observation : Observation}
    (split : trace ++ later = before ++ observation :: after) :
    (∃ rest, trace = before ++ observation :: rest) ∨
      ∃ start, before = trace ++ start ∧ later = start ++ observation :: after := by
  rcases List.append_eq_append_iff.mp split with ⟨start, left, right⟩ | ⟨rest, left, right⟩
  · exact Or.inr ⟨start, left, right⟩
  · cases rest with
    | nil => exact Or.inr ⟨[], by rw [left, List.append_nil, List.append_nil], right.symm⟩
    | cons head tail =>
      obtain ⟨rfl, _⟩ := List.cons.inj right
      exact Or.inl ⟨tail, left⟩

theorem Occurs.append {good : Observation → Prop} {stretch : List Observation}
    (occurs : Occurs good stretch) (later : List Observation) : Occurs good (stretch ++ later) := by
  obtain ⟨observation, member, holds⟩ := occurs
  exact ⟨observation, List.mem_append_left later member, holds⟩

theorem Occurs.last {good : Observation → Prop} {later : List Observation}
    (occurs : Occurs good later) (stretch : List Observation) : Occurs good (stretch ++ later) := by
  obtain ⟨observation, member, holds⟩ := occurs
  exact ⟨observation, List.mem_append_right stretch member, holds⟩

theorem Never.append {bad : Observation → Prop} {stretch later : List Observation}
    (never : Never bad stretch) (neverLater : Never bad later) : Never bad (stretch ++ later) := by
  intro observation member
  rcases List.mem_append.mp member with old | new
  · exact never observation old
  · exact neverLater observation new

/-- What follows can grow when the second property grows with it. -/
theorem Then.append {first second second' : List Observation → Prop}
    {stretch later : List Observation} (sequence : Then first second stretch)
    (grow : ∀ after, second after → second' (after ++ later)) :
    Then first second' (stretch ++ later) := by
  obtain ⟨before, after, rfl, left, right⟩ := sequence
  exact ⟨before, after ++ later, List.append_assoc before after later, left, grow after right⟩

/-- A stretch can be followed at once by what comes later. -/
theorem Then.next {first second : List Observation → Prop} {stretch later : List Observation}
    (left : first stretch) (right : second later) : Then first second (stretch ++ later) :=
  ⟨stretch, later, rfl, left, right⟩

/-- History grows without a reset, and the property grows with it. -/
theorem SinceLast.append {reset : Observation → Prop}
    {property property' : List Observation → Prop} {trace later : List Observation}
    (since : SinceLast reset property trace) (quiet : Never reset later)
    (grow : ∀ newer, property newer → property' (newer ++ later)) :
    SinceLast reset property' (trace ++ later) := by
  obtain ⟨older, newer, rfl, clean, holds⟩ := since
  exact ⟨older, newer ++ later, List.append_assoc older newer later, clean.append quiet,
    grow newer holds⟩

/-- A stretch just observed starts the count. -/
theorem SinceLast.start {reset : Observation → Prop} {property : List Observation → Prop}
    {later : List Observation} (trace : List Observation) (quiet : Never reset later)
    (holds : property later) : SinceLast reset property (trace ++ later) :=
  ⟨trace, later, rfl, quiet, holds⟩

end Trace
