/-
This file is the watchdog library: a receiver that gives up at a deadline, which every message
sets to a span after its arrival, and a sender on a channel with a bounded lag. `Awaits` says that
the next message arrives in time, `Safe` that all of them do: those under way, known by the times
at which they were sent, and those that the sender is still to send, the first of them by a known
time. The rules say what keeps a watchdog safe when it is fed, when its sender sends, and when it
is set.
-/

import Mathlib.Algebra.Order.Monoid.Defs

namespace Watchdog

variable {Time : Type} [AddCommMonoid Time] [LinearOrder Time] [IsOrderedCancelAddMonoid Time]

/-- The next message arrives before the deadline: the first one under way, or the next to be
sent. -/
def Awaits (lag deadline : Time) (stamps : List Time) (next : Option Time) : Prop :=
  match stamps, next with
  | stamp :: _, _ => stamp + lag < deadline
  | [], some next => next + lag < deadline
  | [], none => False

/-- Every message arrives before the deadline that the one before it has set. -/
def Safe (lag span : Time) (deadline : Time) (stamps : List Time) (next : Time) : Prop :=
  match stamps with
  | [] => next + lag < deadline
  | stamp :: rest => stamp + lag < deadline ∧ Safe lag span (max deadline (stamp + span)) rest next

variable {lag span deadline deadline' next next' now : Time} {stamps : List Time}

/-- Whoever is in time is before the deadline. -/
theorem Awaits.early {next : Option Time} (awaits : Awaits lag deadline stamps next)
    (positive : 0 ≤ lag) (arrives : ∀ stamp ∈ stamps, now ≤ stamp + lag)
    (sends : ∀ last ∈ next, now ≤ last) : now < deadline := by
  cases stamps with
  | cons stamp rest => exact (arrives stamp List.mem_cons_self).trans_lt awaits
  | nil =>
    cases next with
    | none => exact absurd awaits not_false
    | some next =>
      calc now ≤ next := sends next rfl
        _ ≤ next + lag := le_add_of_nonneg_right positive
        _ < deadline := awaits

namespace Safe

omit [IsOrderedCancelAddMonoid Time] in
theorem awaits (safe : Safe lag span deadline stamps next) :
    Awaits lag deadline stamps (some next) := by
  cases stamps with
  | nil => exact safe
  | cons stamp rest => exact safe.1

omit [IsOrderedCancelAddMonoid Time] in
/-- A later deadline is as safe. -/
theorem later (safe : Safe lag span deadline stamps next) (later : deadline ≤ deadline') :
    Safe lag span deadline' stamps next := by
  induction stamps generalizing deadline deadline' with
  | nil => exact safe.trans_le later
  | cons stamp rest inductionHypothesis =>
    exact ⟨safe.1.trans_le later, inductionHypothesis safe.2 (max_le_max_right _ later)⟩

/-- The first message under way arrives and sets the watchdog. -/
theorem fed {stamp : Time} (safe : Safe lag span deadline (stamp :: stamps) next)
    (sent : stamp ≤ now) (set : deadline ≤ now + span) :
    Safe lag span (now + span) stamps next :=
  safe.2.later (max_le set (add_le_add_left sent span))

/-- The sender sends in time, and knows when it sends again. -/
theorem sends (safe : Safe lag span deadline stamps next) (sent : now ≤ next)
    (again : next' + lag < now + span) : Safe lag span deadline (stamps ++ [now]) next' := by
  induction stamps generalizing deadline with
  | nil =>
    have arrives : now + lag ≤ next + lag := add_le_add_left sent lag
    exact ⟨arrives.trans_lt safe, again.trans_le (le_max_right _ _)⟩
  | cons stamp rest inductionHypothesis => exact ⟨safe.1, inductionHypothesis safe.2⟩

/-- The sender sends something beforehand. -/
theorem sends_early (safe : Safe lag span deadline stamps next) (sent : now ≤ next) :
    Safe lag span deadline (stamps ++ [now]) next := by
  induction stamps generalizing deadline with
  | nil =>
    have arrives : now + lag ≤ next + lag := add_le_add_left sent lag
    have bound : next + lag < deadline := safe
    exact ⟨arrives.trans_lt bound, bound.trans_le (le_max_left _ _)⟩
  | cons stamp rest inductionHypothesis => exact ⟨safe.1, inductionHypothesis safe.2⟩

/-- A watchdog is set while everything under way has been sent. -/
theorem set (sent : ∀ stamp ∈ stamps, stamp ≤ now) (spans : lag < span)
    (again : next + lag < now + span) : Safe lag span (now + span) stamps next := by
  induction stamps with
  | nil => exact again
  | cons stamp rest inductionHypothesis =>
    obtain ⟨first, others⟩ := List.forall_mem_cons.mp sent
    refine ⟨?_, ?_⟩
    · calc stamp + lag ≤ now + lag := add_le_add_left first lag
        _ < now + span := add_lt_add_right spans now
    · rw [max_eq_left (add_le_add_left first span)]
      exact inductionHypothesis others

end Safe

end Watchdog
