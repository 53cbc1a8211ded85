import AiroFanuc.Library.Numerals
import Mathlib.Algebra.Order.Group.Abs
import Mathlib.Order.Interval.Set.OrdConnected
import Mathlib.Order.Interval.Set.UnorderedInterval
import Mathlib.Tactic.Linarith

/-! A point that moves part of the way to a goal inside an interval: it stays inside once it
is, and until then it comes no further away. -/

namespace AiroFanuc.Library

variable {R : Type} [AddCommGroup R] [LinearOrder R] [IsOrderedAddMonoid R] {S : Set R}
  {here goal next : R}

omit [AddCommGroup R] [IsOrderedAddMonoid R] in
theorem moved_mem (connected : S.OrdConnected) (inside : here ∈ S) (aimed : goal ∈ S)
    (part : next ∈ Set.uIcc here goal) : next ∈ S := connected.uIcc_subset inside aimed part

/-- Whatever point of the interval is compared with before, some point is as near after. -/
theorem moved_nearer (connected : S.OrdConnected) (aimed : goal ∈ S)
    (part : next ∈ Set.uIcc here goal) {y : R} (point : y ∈ S) :
    ∃ z ∈ S, |next - z| ≤ |here - y| := by
  rcases le_total here goal with up | down
  · rw [Set.uIcc_of_le up] at part
    rcases le_total next y with short | past
    · refine ⟨y, point, ?_⟩
      have far : here ≤ y := part.1.trans short
      rw [abs_sub_comm next, abs_sub_comm here, abs_of_nonneg (sub_nonneg.mpr short),
        abs_of_nonneg (sub_nonneg.mpr far)]
      exact sub_le_sub_left part.1 y
    · refine ⟨next, connected.out point aimed ⟨past, part.2⟩, ?_⟩
      rw [sub_self, abs_zero]
      exact abs_nonneg _
  · rw [Set.uIcc_of_ge down] at part
    rcases le_total y next with short | past
    · refine ⟨y, point, ?_⟩
      have far : y ≤ here := short.trans part.2
      rw [abs_of_nonneg (sub_nonneg.mpr short), abs_of_nonneg (sub_nonneg.mpr far)]
      exact sub_le_sub_right part.2 y
    · refine ⟨next, connected.out aimed point ⟨part.1, past⟩, ?_⟩
      rw [sub_self, abs_zero]
      exact abs_nonneg _

end AiroFanuc.Library
