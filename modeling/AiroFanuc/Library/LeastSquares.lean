import AiroFanuc.Library.Numerals
import Mathlib.Algebra.BigOperators.Group.List.Lemmas
import Mathlib.Algebra.BigOperators.Ring.List
import Mathlib.Algebra.Order.Field.Basic
import Mathlib.Algebra.Order.Ring.Abs
import Mathlib.Tactic.FieldSimp
import Mathlib.Tactic.Linarith
import Mathlib.Tactic.Positivity
import Mathlib.Tactic.Ring

/-! Lines fitted to readings by least squares: the quotient of centred sums is the slope of the
one line whose squared error is least. -/

namespace AiroFanuc.Library

variable {R α : Type} [Field R]

def mean (l : List α) (f : α → R) : R := (l.map f).sum / l.length

/-- What a reading is above the mean. -/
def centred (l : List α) (f : α → R) (a : α) : R := f a - mean l f

def spread (l : List α) (t : α → R) : R := (l.map fun a => centred l t a * centred l t a).sum

def slope (l : List α) (t y : α → R) : R :=
  (l.map fun a => centred l t a * centred l y a).sum / spread l t

/-- The squared error of the line `offset + rate * t`. -/
def squaredError (l : List α) (t y : α → R) (offset rate : R) : R :=
  (l.map fun a => (y a - (offset + rate * t a)) ^ 2).sum

/-- A least-squares line through the readings has this slope. -/
def FitsWithSlope [LE R] (l : List α) (t y : α → R) (rate : R) : Prop :=
  ∃ offset, ∀ offset' rate', squaredError l t y offset rate ≤ squaredError l t y offset' rate'

section Sums

variable {l : List α} {t y y' : α → R}

theorem mean_perm {l' : List α} (same : l.Perm l') : mean l y = mean l' y := by
  simp only [mean, (same.map y).sum_eq, same.length_eq]

theorem spread_perm {l' : List α} (same : l.Perm l') : spread l t = spread l' t := by
  simp only [spread, centred, mean_perm same]
  exact (same.map _).sum_eq

theorem slope_perm {l' : List α} (same : l.Perm l') : slope l t y = slope l' t y := by
  simp only [slope, spread_perm same, centred, mean_perm same]
  exact congrArg (· / spread l' t) (same.map _).sum_eq

theorem slope_congr (same : ∀ a ∈ l, y a = y' a) : slope l t y = slope l t y' := by
  have means : mean l y = mean l y' := by simp only [mean, List.map_congr_left same]
  simp only [slope, centred, means]
  have terms : ∀ a ∈ l, centred l t a * (y a - mean l y') = centred l t a * (y' a - mean l y') := by
    intro a member
    rw [same a member]
  exact congrArg (· / spread l t) (congrArg List.sum (List.map_congr_left terms))

theorem sum_map_add_const (c : R) : (l.map fun a => y a + c).sum = (l.map y).sum + l.length * c := by
  rw [List.sum_map_add, List.map_const', List.sum_replicate, nsmul_eq_mul]

theorem mean_sub_const [CharZero R] (present : l ≠ []) (c : R) :
    mean l (fun a => t a - c) = mean l t - c := by
  have positive : (l.length : R) ≠ 0 :=
    Nat.cast_ne_zero.mpr (List.length_pos_iff.mpr present).ne'
  simp only [mean, sub_eq_add_neg]
  rw [sum_map_add_const, mul_neg, ← sub_eq_add_neg, sub_div, mul_div_cancel_left₀ c positive,
    sub_eq_add_neg]

theorem centred_sub_const [CharZero R] (present : l ≠ []) (c : R) :
    centred l (fun a => t a - c) = centred l t := by
  funext a
  simp only [centred, mean_sub_const present]
  ring

theorem spread_sub_const [CharZero R] (present : l ≠ []) (c : R) :
    spread l (fun a => t a - c) = spread l t := by
  simp only [spread, centred_sub_const present]

/-- The slope does not depend on when the clock starts. -/
theorem slope_sub_const [CharZero R] (present : l ≠ []) (c : R) :
    slope l (fun a => t a - c) y = slope l t y := by
  simp only [slope, spread_sub_const present, centred_sub_const present]

theorem sum_centred [CharZero R] : (l.map fun a => centred l y a).sum = 0 := by
  cases l with
  | nil => rfl
  | cons first rest =>
    have positive : ((first :: rest).length : R) ≠ 0 := Nat.cast_ne_zero.mpr (Nat.succ_ne_zero _)
    simp only [centred, sub_eq_add_neg]
    rw [sum_map_add_const, mean, mul_neg, mul_div_cancel₀ _ positive, add_neg_cancel]

end Sums

section Fit

variable [LinearOrder R] [IsStrictOrderedRing R] {l : List α} {t y : α → R}

/-- The squared error of a line in centred sums. -/
theorem squaredError_eq (offset rate : R) : squaredError l t y offset rate =
    (l.map fun a => centred l y a * centred l y a).sum
      - 2 * rate * (l.map fun a => centred l t a * centred l y a).sum
      + rate ^ 2 * spread l t
      + l.length * (mean l y - (offset + rate * mean l t)) ^ 2 := by
  generalize gap : mean l y - (offset + rate * mean l t) = e
  have pointwise : ∀ a, (y a - (offset + rate * t a)) ^ 2 =
      centred l y a * centred l y a + -(2 * rate) * (centred l t a * centred l y a)
        + rate ^ 2 * (centred l t a * centred l t a)
        + (2 * e) * centred l y a + -(2 * e * rate) * centred l t a + e ^ 2 := by
    intro a
    rw [← gap]
    simp only [centred]
    ring
  simp only [squaredError, pointwise]
  rw [sum_map_add_const, List.sum_map_add, List.sum_map_add, List.sum_map_add, List.sum_map_add,
    List.sum_map_mul_left, List.sum_map_mul_left, List.sum_map_mul_left, List.sum_map_mul_left,
    sum_centred, sum_centred, spread]
  ring

/-- The squared error of a line beyond the least one. -/
theorem squaredError_slope (wide : 0 < spread l t) (offset rate : R) :
    squaredError l t y offset rate =
      squaredError l t y (mean l y - slope l t y * mean l t) (slope l t y)
      + (rate - slope l t y) ^ 2 * spread l t
      + l.length * (mean l y - (offset + rate * mean l t)) ^ 2 := by
  have product : (l.map fun a => centred l t a * centred l y a).sum = slope l t y * spread l t := by
    rw [slope, div_mul_cancel₀ _ wide.ne']
  rw [squaredError_eq, squaredError_eq, product]
  ring

/-- With readings at two times or more the least-squares slope is the quotient and no other. -/
theorem fitsWithSlope_iff (wide : 0 < spread l t) (rate : R) :
    FitsWithSlope l t y rate ↔ rate = slope l t y := by
  constructor
  · rintro ⟨offset, least⟩
    have error := squaredError_slope (y := y) wide offset rate
    have best := least (mean l y - slope l t y * mean l t) (slope l t y)
    have level : 0 ≤ (l.length : R) * (mean l y - (offset + rate * mean l t)) ^ 2 := by positivity
    have square : (rate - slope l t y) ^ 2 * spread l t ≤ 0 := by linarith
    have zero : (rate - slope l t y) ^ 2 ≤ 0 := nonpos_of_mul_nonpos_left square wide
    exact sub_eq_zero.mp (pow_eq_zero_iff two_ne_zero |>.mp (le_antisymm zero (sq_nonneg _)))
  · rintro rfl
    refine ⟨mean l y - slope l t y * mean l t, fun offset rate => ?_⟩
    rw [squaredError_slope wide offset rate]
    have tilt : 0 ≤ (rate - slope l t y) ^ 2 * spread l t := mul_nonneg (sq_nonneg _) wide.le
    have level : 0 ≤ (l.length : R) * (mean l y - (offset + rate * mean l t)) ^ 2 := by positivity
    linarith

end Fit

end AiroFanuc.Library
