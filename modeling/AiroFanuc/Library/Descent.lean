import AiroFanuc.Library.Numerals
import Mathlib.Algebra.Order.Group.Unbundled.Int
import Mathlib.Algebra.Order.Ring.Int
import Mathlib.Data.Int.ConditionallyCompleteOrder
import Mathlib.Order.Monotone.Basic
import Mathlib.Tactic.Linarith

/-! Integers that step by step come closer to zero without passing it. -/

namespace AiroFanuc.Library

/-- From `a` to `b` the way leads towards zero and not past it. -/
def TowardZero (a b : ℤ) : Prop := (0 ≤ a → 0 ≤ b ∧ b ≤ a) ∧ (a ≤ 0 → a ≤ b ∧ b ≤ 0)

namespace TowardZero

variable {a b : ℤ} {e : ℕ → ℤ}

theorem abs_le (toward : TowardZero a b) : |b| ≤ |a| := by
  rcases le_total 0 a with up | down
  · obtain ⟨low, high⟩ := toward.1 up
    rwa [abs_of_nonneg low, abs_of_nonneg up]
  · obtain ⟨low, high⟩ := toward.2 down
    rw [abs_of_nonpos high, abs_of_nonpos down]
    exact neg_le_neg low

theorem abs_lt (toward : TowardZero a b) (moves : b ≠ a) : |b| < |a| := by
  rcases le_total 0 a with up | down
  · obtain ⟨low, high⟩ := toward.1 up
    rw [abs_of_nonneg low, abs_of_nonneg up]
    exact lt_of_le_of_ne high moves
  · obtain ⟨low, high⟩ := toward.2 down
    rw [abs_of_nonpos high, abs_of_nonpos down]
    exact neg_lt_neg (lt_of_le_of_ne low moves.symm)

theorem nonneg (toward : ∀ n, TowardZero (e n) (e (n + 1))) (first : 0 ≤ e 0) (n : ℕ) :
    0 ≤ e n := by
  induction n with
  | zero => exact first
  | succ n ih => exact ((toward n).1 ih).1

theorem nonpos (toward : ∀ n, TowardZero (e n) (e (n + 1))) (first : e 0 ≤ 0) (n : ℕ) :
    e n ≤ 0 := by
  induction n with
  | zero => exact first
  | succ n ih => exact ((toward n).2 ih).2

/-- No two members of the sequence have opposite signs. -/
theorem same_sign (toward : ∀ n, TowardZero (e n) (e (n + 1))) (m n : ℕ) : 0 ≤ e m * e n := by
  rcases le_total 0 (e 0) with up | down
  · exact mul_nonneg (nonneg toward up m) (nonneg toward up n)
  · exact mul_nonneg_of_nonpos_of_nonpos (nonpos toward down m) (nonpos toward down n)

theorem abs_antitone (toward : ∀ n, TowardZero (e n) (e (n + 1))) : Antitone fun n => |e n| :=
  antitone_nat_of_succ_le fun n => (toward n).abs_le

/-- A sequence that moves while it is far comes near. -/
theorem comes_near {near : ℤ → Prop} (moves : ∀ n, ¬near |e n| → |e (n + 1)| < |e n|) :
    ∃ n, near |e n| := by
  by_contra never
  push Not at never
  have falls (n : ℕ) : |e n| + n ≤ |e 0| := by
    induction n with
    | zero => exact (add_zero _).le
    | succ n ih =>
      have step := moves n (never n)
      push_cast
      linarith
  have low := abs_nonneg (e (|e 0| + 1).toNat)
  have late := falls (|e 0| + 1).toNat
  rw [Int.toNat_of_nonneg (by linarith [abs_nonneg (e 0)])] at late
  linarith

/-- Once it is near, it stays near. -/
theorem stays_near (near : ℤ → Prop) (toward : ∀ n, TowardZero (e n) (e (n + 1)))
    (lower : ∀ a b, b ≤ a → near a → near b)
    (moves : ∀ n, ¬near |e n| → |e (n + 1)| < |e n|) : ∃ n, ∀ m, n ≤ m → near |e m| := by
  obtain ⟨n, near⟩ := comes_near moves
  exact ⟨n, fun m later => lower _ _ (abs_antitone toward later) near⟩

end TowardZero

end AiroFanuc.Library
