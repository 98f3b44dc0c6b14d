/-
This file is the matching library: pairs written as one list with a separator between the parts,
and the first match in a list.

A part may hold the separator itself, so one list may spell several pairs. They differ by moving
the separator: a stretch between two separators belongs to the left part of the one and to the
right part of the other. And which match comes first is a matter of the order of the list, unless
all matches have the same value.
-/

import Mathlib.Data.List.Basic
import Mathlib.Data.List.Perm.Basic

namespace Matching

/-! ### Pairs with a separator -/

section Separator

variable {Symbol : Type} {separator : Symbol} {left right left' right' : List Symbol}

/-- The second pair is the first with the separator moved to the right. -/
def Moved (separator : Symbol) (left right left' right' : List Symbol) : Prop :=
  ∃ between, left' = left ++ separator :: between ∧ right = between ++ separator :: right'

/-- Two pairs are spelled the same exactly when they are the same or the separator has moved. -/
theorem joined_eq_iff :
    left ++ separator :: right = left' ++ separator :: right' ↔
      (left = left' ∧ right = right') ∨ Moved separator left right left' right' ∨
        Moved separator left' right' left right := by
  constructor
  · intro same
    rcases List.append_eq_append_iff.mp same with ⟨rest, outer, inner⟩ | ⟨rest, outer, inner⟩
    · cases rest with
      | nil =>
        rw [List.append_nil] at outer
        exact Or.inl ⟨outer.symm, (List.cons.inj inner).2⟩
      | cons head between =>
        obtain ⟨rfl, split⟩ := List.cons.inj inner
        exact Or.inr (Or.inl ⟨between, outer, split⟩)
    · cases rest with
      | nil =>
        rw [List.append_nil] at outer
        exact Or.inl ⟨outer, (List.cons.inj inner).2.symm⟩
      | cons head between =>
        obtain ⟨rfl, split⟩ := List.cons.inj inner
        exact Or.inr (Or.inr ⟨between, outer, split⟩)
  · rintro (⟨rfl, rfl⟩ | ⟨between, rfl, rfl⟩ | ⟨between, rfl, rfl⟩)
    · rfl
    · rw [List.append_assoc, List.cons_append]
    · rw [List.append_assoc, List.cons_append]

/-- Moving the separator changes the pair. -/
theorem Moved.left_ne (moved : Moved separator left right left' right') : left ≠ left' := by
  obtain ⟨between, rfl, _⟩ := moved
  intro same
  have lengths := congrArg List.length same
  rw [List.length_append, List.length_cons] at lengths
  omega

end Separator

/-! ### The first match -/

section FirstMatch

variable {Entry Value : Type} {matched : Entry → Prop} [DecidablePred matched]
  {value : Entry → Value}

/-- The value of the first entry that matches. -/
def firstMatch (matched : Entry → Prop) [DecidablePred matched] (value : Entry → Value)
    (entries : List Entry) : Option Value :=
  entries.findSome? fun entry => if matched entry then some (value entry) else none

theorem firstMatch_eq_some_iff {entries : List Entry} {found : Value} :
    firstMatch matched value entries = some found ↔
      ∃ before entry after, entries = before ++ entry :: after ∧ matched entry ∧
        value entry = found ∧ ∀ other ∈ before, ¬ matched other := by
  rw [firstMatch, List.findSome?_eq_some_iff]
  constructor
  · rintro ⟨before, entry, after, split, picked, earlier⟩
    refine ⟨before, entry, after, split, ?_⟩
    split_ifs at picked with holds
    · exact ⟨holds, Option.some.inj picked, fun other member => by
        have passed := earlier other member
        split_ifs at passed with matches'
        · exact matches'⟩
  · rintro ⟨before, entry, after, split, holds, rfl, earlier⟩
    refine ⟨before, entry, after, split, if_pos holds, ?_⟩
    exact fun other member => if_neg (earlier other member)

theorem firstMatch_eq_none_iff {entries : List Entry} :
    firstMatch matched value entries = none ↔ ∀ entry ∈ entries, ¬ matched entry := by
  rw [firstMatch, List.findSome?_eq_none_iff]
  refine forall₂_congr fun entry _ => ?_
  split_ifs with holds
  · exact ⟨fun never => never.elim, fun fails => absurd holds fails⟩
  · exact ⟨fun _ => holds, fun _ => rfl⟩

/-- A match has no first match behind it. -/
theorem firstMatch_before {before after : List Entry} {entry : Entry} (holds : matched entry) :
    ∃ first, (first ∈ before ∨ first = entry) ∧
      firstMatch matched value (before ++ entry :: after) = some (value first) := by
  by_cases earlier : ∃ first ∈ before, matched first
  · obtain ⟨first, member, holds⟩ := earlier
    cases found : firstMatch matched value before with
    | none => exact absurd holds (firstMatch_eq_none_iff.mp found first member)
    | some result =>
      obtain ⟨front, first, rest, rfl, holds, rfl, passed⟩ := firstMatch_eq_some_iff.mp found
      refine ⟨first, Or.inl (List.mem_append_right front List.mem_cons_self), ?_⟩
      refine firstMatch_eq_some_iff.mpr
        ⟨front, first, rest ++ entry :: after, ?_, holds, rfl, passed⟩
      rw [List.append_assoc, List.cons_append]
  · refine ⟨entry, Or.inr rfl, ?_⟩
    exact firstMatch_eq_some_iff.mpr ⟨before, entry, after, rfl, holds, rfl,
      fun first member holds => earlier ⟨first, member, holds⟩⟩

/-- Where all matches have one value, that is the first match's. -/
theorem firstMatch_of_mem {entries : List Entry} {entry : Entry} (member : entry ∈ entries)
    (holds : matched entry)
    (agree : ∀ other ∈ entries, matched other → value other = value entry) :
    firstMatch matched value entries = some (value entry) := by
  cases found : firstMatch matched value entries with
  | none => exact absurd holds (firstMatch_eq_none_iff.mp found entry member)
  | some other =>
    obtain ⟨before, first, after, rfl, holds', rfl, _⟩ := firstMatch_eq_some_iff.mp found
    exact congrArg some
      (agree first (List.mem_append_right before List.mem_cons_self) holds')

/-- The first match is the same in every order exactly when all matches have one value. -/
theorem firstMatch_perm_iff {entries : List Entry} :
    (∀ order order' : List Entry, order.Perm entries → order'.Perm entries →
      firstMatch matched value order = firstMatch matched value order') ↔
      ∀ entry ∈ entries, ∀ other ∈ entries, matched entry → matched other →
        value entry = value other := by
  constructor
  · intro same entry member other member' holds holds'
    have front {entry : Entry} (member : entry ∈ entries) (holds : matched entry) :
        ∃ order : List Entry, order.Perm entries ∧
          firstMatch matched value order = some (value entry) := by
      obtain ⟨before, after, rfl⟩ := List.append_of_mem member
      refine ⟨entry :: (before ++ after), List.perm_middle.symm, ?_⟩
      exact firstMatch_eq_some_iff.mpr ⟨[], entry, _, rfl, holds, rfl, List.forall_mem_nil _⟩
    obtain ⟨order, perm, found⟩ := front member holds
    obtain ⟨order', perm', found'⟩ := front member' holds'
    exact Option.some.inj (found.symm.trans ((same order order' perm perm').trans found'))
  · intro agree order order' perm perm'
    by_cases any : ∃ entry ∈ entries, matched entry
    · obtain ⟨entry, member, holds⟩ := any
      have found {order : List Entry} (perm : order.Perm entries) :
          firstMatch matched value order = some (value entry) :=
        firstMatch_of_mem (perm.mem_iff.mpr member) holds fun other member' holds' =>
          agree other (perm.mem_iff.mp member') entry member holds' holds
      rw [found perm, found perm']
    · have missed {order : List Entry} (perm : order.Perm entries) :
          firstMatch matched value order = none :=
        firstMatch_eq_none_iff.mpr fun entry member holds =>
          any ⟨entry, perm.mem_iff.mp member, holds⟩
      rw [missed perm, missed perm']

end FirstMatch

end Matching
