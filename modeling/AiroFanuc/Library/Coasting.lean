import AiroFanuc.Library.Numerals
import Mathlib.Algebra.Order.Field.Basic
import Mathlib.Algebra.Order.Ring.Abs
import Mathlib.Tactic.FieldSimp
import Mathlib.Tactic.Linarith
import Mathlib.Tactic.Positivity
import Mathlib.Tactic.Ring

/-! A point that coasts to rest on a linear ramp, sampled at a period, with the ramp started
anew from wherever it is: its speed only falls, and what it has travelled and what its speed
could still travel at most never grow together. -/

namespace AiroFanuc.Library

variable {R : Type} [Field R] [LinearOrder R] [IsStrictOrderedRing R]

/-- One period of a coast of length `dur`, from a place and a speed to the next. -/
structure Coasts (period dur q w q' w' : R) : Prop where
  slows : |w'| ≤ |w|
  keeps : 0 ≤ w' * w
  forth : 0 ≤ (q' - q) * w
  least : |w'| * period ≤ |q' - q|
  most : |q' - q| ≤ |w| * period
  spends : |q' - q| + dur * |w'| ≤ dur * |w|

/-- Where a coast that began at `q0` with speed `v` has come to. -/
structure Spent (dur q0 v q w : R) : Prop where
  slows : |w| ≤ |v|
  keeps : 0 ≤ w * v
  forth : 0 ≤ (q - q0) * v
  spent : |q - q0| + dur * |w| ≤ dur * |v|

section Chain

variable {period dur q0 v q w q' w' : R}

/-- What has the sign of a speed has the sign that speed has. -/
theorem sign_trans {x : R} (near : 0 ≤ x * w) (far : 0 ≤ w * v) (stopped : w = 0 → x = 0) :
    0 ≤ x * v := by
  by_cases still : w = 0
  · rw [stopped still, zero_mul]
  · have square : 0 < w * w := mul_self_pos.mpr still
    have both : 0 ≤ (x * v) * (w * w) := by
      have product := mul_nonneg near far
      calc 0 ≤ x * w * (w * v) := product
        _ = x * v * (w * w) := by ring
    exact nonneg_of_mul_nonneg_left both square

theorem Spent.start (dur q0 v : R) : Spent dur q0 v q0 v := by
  constructor
  · exact le_rfl
  · exact mul_self_nonneg v
  · rw [sub_self, zero_mul]
  · rw [sub_self, abs_zero, zero_add]

theorem Spent.step (spent : Spent dur q0 v q w) (coasts : Coasts period dur q w q' w') :
    Spent dur q0 v q' w' := by
  constructor
  · exact coasts.slows.trans spent.slows
  · apply sign_trans coasts.keeps spent.keeps
    intro still
    have slow := coasts.slows
    rw [still, abs_zero] at slow
    exact abs_eq_zero.mp (le_antisymm slow (abs_nonneg _))
  · have onward : 0 ≤ (q' - q) * v := by
      apply sign_trans coasts.forth spent.keeps
      intro still
      have short := coasts.most
      rw [still, abs_zero, zero_mul] at short
      exact abs_eq_zero.mp (le_antisymm short (abs_nonneg _))
    have before := spent.forth
    calc 0 ≤ (q' - q) * v + (q - q0) * v := add_nonneg onward before
      _ = (q' - q0) * v := by ring
  · have triangle : |q' - q0| ≤ |q' - q| + |q - q0| := abs_sub_le q' q q0
    have used := coasts.spends
    have before := spent.spent
    linarith

theorem Spent.distance (spent : Spent dur q0 v q w) (nonneg : 0 ≤ dur) :
    |q - q0| ≤ |v| * dur := by
  have left : 0 ≤ dur * |w| := mul_nonneg nonneg (abs_nonneg w)
  have used := spent.spent
  linarith

end Chain

/-! ### The linear ramp -/

section Ramp

variable {period dur v a b q : R}

/-- Between two samples of a ramp the place moves by the mean of their speeds. -/
theorem coasts_between (nonneg : 0 ≤ period) (rest : 0 ≤ b) (falls : b ≤ a) (full : a ≤ 1)
    (paced : dur * (a - b) = period) :
    Coasts period dur q (v * a) (q + v * period * ((a + b) / 2)) (v * b) := by
  have travel : q + v * period * ((a + b) / 2) - q = v * (period * ((a + b) / 2)) := by ring
  have mean : 0 ≤ (a + b) / 2 := by linarith
  have early : 0 ≤ a := rest.trans falls
  have speed := abs_nonneg v
  have before : |v * a| = |v| * a := by rw [abs_mul, abs_of_nonneg early]
  have after : |v * b| = |v| * b := by rw [abs_mul, abs_of_nonneg rest]
  have length : |v * (period * ((a + b) / 2))| = |v| * (period * ((a + b) / 2)) := by
    rw [abs_mul, abs_of_nonneg (mul_nonneg nonneg mean)]
  constructor
  · rw [before, after]
    exact mul_le_mul_of_nonneg_left falls speed
  · calc 0 ≤ v * v * (b * a) := mul_nonneg (mul_self_nonneg v) (mul_nonneg rest early)
      _ = v * b * (v * a) := by ring
  · rw [travel]
    calc 0 ≤ v * v * (period * ((a + b) / 2) * a) :=
          mul_nonneg (mul_self_nonneg v) (mul_nonneg (mul_nonneg nonneg mean) early)
      _ = v * (period * ((a + b) / 2)) * (v * a) := by ring
  · rw [travel, length, after, mul_assoc, mul_comm b period]
    exact mul_le_mul_of_nonneg_left (mul_le_mul_of_nonneg_left (by linarith) nonneg) speed
  · rw [travel, length, before, mul_assoc, mul_comm a period]
    exact mul_le_mul_of_nonneg_left (mul_le_mul_of_nonneg_left (by linarith) nonneg) speed
  · have least : period * ((a + b) / 2) ≤ period := mul_le_of_le_one_right nonneg (by linarith)
    have room : period * ((a + b) / 2) + dur * b ≤ dur * a := by
      rw [mul_sub] at paced
      linarith
    rw [travel, length, before, after]
    calc |v| * (period * ((a + b) / 2)) + dur * (|v| * b)
        = |v| * (period * ((a + b) / 2) + dur * b) := by ring
      _ ≤ |v| * (dur * a) := mul_le_mul_of_nonneg_left room speed
      _ = dur * (|v| * a) := by ring

/-- How far a ramp of `n` samples has come at the `m`-th, at a speed of one a period. -/
def glide (R : Type) [Field R] (n m : ℕ) : R := m - m ^ 2 / (2 * n)

/-- The share of its speed a ramp of `n` samples has left at the `m`-th. -/
def share (R : Type) [Field R] (n m : ℕ) : R := 1 - m / n

variable {n m : ℕ}

omit [LinearOrder R] [IsStrictOrderedRing R] in
theorem glide_zero (n : ℕ) : glide R n 0 = 0 := by simp [glide]

omit [LinearOrder R] [IsStrictOrderedRing R] in
theorem share_zero (n : ℕ) : share R n 0 = 1 := by simp [share]

/-- A ramp never comes further than half its length at full speed. -/
theorem glide_le (n m : ℕ) (positive : 0 < n) : glide R n m ≤ n / 2 := by
  have whole : (0 : R) < n := by exact_mod_cast positive
  have square : 0 ≤ ((n : R) - m) ^ 2 / (2 * n) := by positivity
  have split : (n : R) / 2 - glide R n m = ((n : R) - m) ^ 2 / (2 * n) := by
    rw [glide]
    field_simp
    ring
  linarith

theorem glide_nonneg (le : m ≤ n) : 0 ≤ glide R n m := by
  rcases Nat.eq_zero_or_pos n with rfl | positive
  · have zero : m = 0 := by omega
    rw [zero, glide_zero]
  · have whole : (0 : R) < n := by exact_mod_cast positive
    have bound : (m : R) ≤ n := by exact_mod_cast le
    have factored : glide R n m = m * (2 * n - m) / (2 * n) := by
      rw [glide]
      field_simp
    rw [factored]
    apply div_nonneg
    · apply mul_nonneg
      · positivity
      · linarith
    · positivity

theorem glide_step (nonneg : 0 ≤ period) (less : m + 1 ≤ n) :
    Coasts period (n * period) (q + v * period * glide R n m) (v * share R n m)
      (q + v * period * glide R n (m + 1)) (v * share R n (m + 1)) := by
  have whole : (0 : R) < n := by exact_mod_cast (by omega : 0 < n)
  have last : ((m + 1 : ℕ) : R) ≤ n := by exact_mod_cast less
  have moved : q + v * period * glide R n (m + 1) = q + v * period * glide R n m +
      v * period * ((share R n m + share R n (m + 1)) / 2) := by
    simp only [glide, share]
    push_cast
    field_simp
    ring
  rw [moved]
  apply coasts_between nonneg
  · rw [share, sub_nonneg]
    exact (div_le_one whole).mpr last
  · simp only [share]
    push_cast
    have more : (m : R) / n ≤ (m + 1) / n := div_le_div_of_nonneg_right (by linarith) whole.le
    linarith
  · have early : (0 : R) ≤ m / n := by positivity
    rw [share]
    linarith
  · simp only [share]
    push_cast
    field_simp
    ring

end Ramp

end AiroFanuc.Library
