/-
This file is the prefix code library. A code gives every item a word of symbols; it is prefix
free when no word begins another one's. The words of such a code can be written one after
another without a separator: the stream has one reading only.
-/

import Mathlib.Data.Set.List
import Mathlib.InformationTheory.Coding.UniquelyDecodable

namespace PrefixCode

open InformationTheory

variable {Item Symbol Key : Type}

/-- No word is empty, and a word begins only with itself. -/
structure PrefixFree (code : Item → List Symbol) : Prop where
  nonempty : ∀ item, code item ≠ []
  eq_of_begins : ∀ {left right : Item}, code left <+: code right → left = right

/-- A reader that finds the key of an item in its word, whatever follows the word, makes the code
prefix free as long as the key names the item. -/
theorem PrefixFree.of_reader {code : Item → List Symbol} (read : List Symbol → Key)
    (key : Item → Key) (names : Function.Injective key) (nonempty : ∀ item, code item ≠ [])
    (reads : ∀ item rest, read (code item ++ rest) = key item) : PrefixFree code := by
  refine ⟨nonempty, ?_⟩
  rintro left right ⟨rest, continued⟩
  refine names ?_
  calc key left
    _ = read (code left ++ rest) := (reads left rest).symm
    _ = read (code right ++ []) := by rw [continued, List.append_nil]
    _ = key right := reads right []

namespace PrefixFree

variable {code : Item → List Symbol}

/-- The first word of a stream is determined, and so is what follows it. -/
theorem cancel (free : PrefixFree code) {left right : Item} {rest rest' : List Symbol}
    (same : code left ++ rest = code right ++ rest') : left = right ∧ rest = rest' := by
  have begins : code left <+: code right ∨ code right <+: code left :=
    List.prefix_or_prefix_of_prefix ⟨rest, rfl⟩ ⟨rest', same.symm⟩
  have equal : left = right := by
    rcases begins with longer | longer
    · exact free.eq_of_begins longer
    · exact (free.eq_of_begins longer).symm
  subst equal
  exact ⟨rfl, List.append_cancel_left same⟩

/-- A stream of words is read in one way only. -/
theorem flatMap_injective (free : PrefixFree code) :
    Function.Injective fun items : List Item => items.flatMap code := by
  intro items items' same
  dsimp only at same
  induction items generalizing items' with
  | nil =>
    cases items' with
    | nil => rfl
    | cons item rest =>
      have empty : code item = [] := (List.append_eq_nil_iff.mp same.symm).1
      exact absurd empty (free.nonempty item)
  | cons item rest inductionHypothesis =>
    cases items' with
    | nil =>
      have empty : code item = [] := (List.append_eq_nil_iff.mp same).1
      exact absurd empty (free.nonempty item)
    | cons item' rest' =>
      obtain ⟨rfl, others⟩ := free.cancel same
      rw [inductionHypothesis others]

/-- The words of a prefix free code are uniquely decodable. -/
theorem uniquelyDecodable (free : PrefixFree code) : UniquelyDecodable (Set.range code) := by
  intro words words' known known' same
  have listed : words ∈ Set.range (List.map code) := by
    rw [Set.range_list_map]
    exact known
  have listed' : words' ∈ Set.range (List.map code) := by
    rw [Set.range_list_map]
    exact known'
  obtain ⟨items, rfl⟩ := listed
  obtain ⟨items', rfl⟩ := listed'
  have equal : items = items' := free.flatMap_injective same
  rw [equal]

end PrefixFree

end PrefixCode
