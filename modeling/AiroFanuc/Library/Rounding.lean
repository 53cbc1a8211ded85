import AiroFanuc.Library.Decimal
import Mathlib.Tactic.NormNum

/-! Numbers of a fixed count of binary digits, and rounding to the nearest of them. -/

namespace AiroFanuc.Library

open Decimal

variable {R : Type} [Field R] [LinearOrder R] [IsStrictOrderedRing R] [FloorRing R]

/-- The place of the last digit of a number with `p` digits behind its leading one. -/
def lastPlace (p : ℕ) (x : R) : ℤ := Int.log 2 |x| - p

/-- The nearest number with `p` digits behind its leading one, of two the one that ends in zero.
The exponent is not bounded. -/
def nearest (p : ℕ) (x : R) : R := roundHalfEven (x / 2 ^ lastPlace p x) * 2 ^ lastPlace p x

/-- What a binary64 operation returns for the exact result. -/
abbrev double (x : R) : R := nearest 52 x

def Representable (p : ℕ) (x : R) : Prop := ∃ m e : ℤ, |m| < 2 ^ (p + 1) ∧ x = m * 2 ^ e

example : double (1 / 10 : ℚ) = 3602879701896397 / 2 ^ 55 := by decide +kernel

/-! ### To the nearest integer -/

omit [IsStrictOrderedRing R] in
theorem roundHalfEven_cases (x : R) :
    (roundHalfEven x = ⌊x⌋ ∧ x - ⌊x⌋ ≤ 1 / 2) ∨ (roundHalfEven x = ⌊x⌋ + 1 ∧ 1 / 2 ≤ x - ⌊x⌋) := by
  unfold roundHalfEven
  split
  · rename_i below
    exact .inl ⟨rfl, below.le⟩
  · rename_i reached
    split
    · rename_i above
      exact .inr ⟨rfl, above.le⟩
    · rename_i tie
      split
      · exact .inl ⟨rfl, not_lt.mp tie⟩
      · exact .inr ⟨rfl, not_lt.mp reached⟩

theorem roundHalfEven_half (x : R) : |(roundHalfEven x : R) - x| ≤ 1 / 2 := by
  have low := Int.floor_le x
  have high := Int.lt_floor_add_one x
  rcases roundHalfEven_cases x with ⟨down, near⟩ | ⟨up, near⟩
  · rw [down, abs_le]
    constructor <;> linarith
  · rw [up, abs_le]
    push_cast
    constructor <;> linarith

/-- No integer is nearer: another one lies a whole unit away from the one chosen. -/
theorem roundHalfEven_nearest (x : R) (k : ℤ) : |(roundHalfEven x : R) - x| ≤ |k - x| := by
  by_cases same : roundHalfEven x = k
  · rw [same]
  have apart : (1 : R) ≤ |(roundHalfEven x : R) - k| := by
    exact_mod_cast Int.one_le_abs (sub_ne_zero.mpr same)
  have detour : |(roundHalfEven x : R) - k| ≤ |roundHalfEven x - x| + |k - x| := by
    rw [abs_sub_comm (k : R) x]
    exact abs_sub_le _ _ _
  linarith [roundHalfEven_half x]

/-! ### Multiples of the last place -/

section Places

variable (p : ℕ) (x : R)

theorem place_pos (e : ℤ) : (0 : R) < 2 ^ e := zpow_pos two_pos e

theorem nearest_sub : nearest p x - x =
    (roundHalfEven (x / 2 ^ lastPlace p x) - x / 2 ^ lastPlace p x) * 2 ^ lastPlace p x := by
  have place := (place_pos (R := R) (lastPlace p x)).ne'
  rw [sub_mul, div_mul_cancel₀ _ place, nearest]

theorem nearest_multiple (k : ℤ) : |nearest p x - x| ≤ |k * 2 ^ lastPlace p x - x| := by
  have place := place_pos (R := R) (lastPlace p x)
  have scaled : k * 2 ^ lastPlace p x - x = (k - x / 2 ^ lastPlace p x) * 2 ^ lastPlace p x := by
    rw [sub_mul, div_mul_cancel₀ _ place.ne']
  rw [nearest_sub, scaled, abs_mul, abs_mul]
  exact mul_le_mul_of_nonneg_right (roundHalfEven_nearest _ k) (abs_nonneg _)

theorem leading_place : (2 : R) ^ Int.log 2 |x| = 2 ^ p * 2 ^ lastPlace p x := by
  rw [lastPlace, ← zpow_natCast, ← zpow_add₀ (zero_lt_two' R).ne']
  congr 1
  ring

variable {x}

theorem leading_le (moved : x ≠ 0) : (2 : R) ^ Int.log 2 |x| ≤ |x| := by
  exact_mod_cast Int.zpow_log_le_self (b := 2) (by norm_num) (abs_pos.mpr moved)

/-- The error is at most half a unit of the last place. -/
theorem nearest_error (x : R) : |nearest p x - x| ≤ |x| / 2 ^ (p + 1) := by
  by_cases zero : x = 0
  · subst zero
    have nearer := nearest_multiple p (0 : R) 0
    simpa using nearer
  have place := place_pos (R := R) (lastPlace p x)
  have leading : (2 : R) ^ p * 2 ^ lastPlace p x ≤ |x| := leading_place p x ▸ leading_le zero
  rw [nearest_sub, abs_mul, abs_of_pos place, le_div_iff₀ (by positivity)]
  calc |(roundHalfEven (x / 2 ^ lastPlace p x) : R) - x / 2 ^ lastPlace p x| *
        2 ^ lastPlace p x * 2 ^ (p + 1)
    _ ≤ 1 / 2 * 2 ^ lastPlace p x * 2 ^ (p + 1) := by
        have half := roundHalfEven_half (x / 2 ^ lastPlace p x)
        gcongr
    _ = 2 ^ p * 2 ^ lastPlace p x := by ring
    _ ≤ |x| := leading

end Places

/-! ### What is written with so many digits -/

section Written

variable {p : ℕ} {x y : R}

omit [LinearOrder R] [IsStrictOrderedRing R] [FloorRing R] in
theorem Representable.zero : Representable p (0 : R) := ⟨0, 0, by positivity, by simp⟩

theorem Representable.scaled {m : ℤ} (small : |m| ≤ 2 ^ (p + 1)) (e : ℤ) :
    Representable p (m * 2 ^ e : R) := by
  rcases small.lt_or_eq with less | most
  · exact ⟨m, e, less, rfl⟩
  have one : (1 : ℤ) < 2 ^ (p + 1) := one_lt_pow₀ (by norm_num) (by omega)
  have carried : (2 : R) ^ (p + 1) * 2 ^ e = 2 ^ ((p + 1 : ℕ) + e) := by
    rw [zpow_add₀ (zero_lt_two' R).ne', zpow_natCast]
  rcases (abs_eq (by positivity)).mp most with up | down
  · refine ⟨1, (p + 1 : ℕ) + e, by rwa [abs_one], ?_⟩
    rw [up, ← carried]
    push_cast
    ring
  · refine ⟨-1, (p + 1 : ℕ) + e, by rwa [abs_neg, abs_one], ?_⟩
    rw [down, ← carried]
    push_cast
    ring

theorem Representable.intCast {n : ℤ} (small : |n| ≤ 2 ^ (p + 1)) : Representable p (n : R) := by
  have whole := Representable.scaled (R := R) small 0
  rwa [zpow_zero, mul_one] at whole

theorem Representable.one : Representable p (1 : R) := by
  have small : |(1 : ℤ)| ≤ 2 ^ (p + 1) := by
    rw [abs_one]
    exact one_le_pow₀ one_le_two
  exact_mod_cast Representable.intCast (R := R) small

/-- A number with as many digits is a multiple of the last place, or shorter than the leading
one. -/
theorem Representable.multiple (written : Representable p y) (x : R) :
    (∃ k : ℤ, y = k * 2 ^ lastPlace p x) ∨ |y| < 2 ^ Int.log 2 |x| := by
  obtain ⟨m, e, small, rfl⟩ := written
  rcases le_or_gt (lastPlace p x) e with coarse | fine
  · obtain ⟨n, shift⟩ := Int.eq_ofNat_of_zero_le (sub_nonneg.mpr coarse)
    refine .inl ⟨m * 2 ^ n, ?_⟩
    have split : e = n + lastPlace p x := by omega
    rw [split, zpow_add₀ (zero_lt_two' R).ne']
    push_cast
    rw [zpow_natCast, mul_assoc]
  · right
    have digits : |(m : R)| < 2 ^ (p + 1) := by exact_mod_cast small
    have place : |(2 : R) ^ e| = 2 ^ e := abs_of_pos (place_pos e)
    rw [abs_mul, place]
    calc |(m : R)| * 2 ^ e < 2 ^ (p + 1) * 2 ^ e := mul_lt_mul_of_pos_right digits (place_pos e)
      _ = 2 ^ ((p + 1 : ℕ) + e) := by rw [zpow_add₀ (zero_lt_two' R).ne', zpow_natCast]
      _ ≤ 2 ^ Int.log 2 |x| := by
        apply zpow_le_zpow_right₀ one_le_two
        unfold lastPlace at fine
        push_cast
        omega

/-- No number with as many digits is nearer. -/
theorem nearest_le (written : Representable p y) : |nearest p x - x| ≤ |y - x| := by
  rcases written.multiple x with ⟨k, rfl⟩ | short
  · exact nearest_multiple p x k
  by_cases zero : x = 0
  · subst zero
    have nearer := nearest_multiple p (0 : R) 0
    rw [Int.cast_zero, zero_mul, sub_self, abs_zero] at nearer
    exact nearer.trans (abs_nonneg _)
  -- the leading digit alone is nearer than a number below it
  have leading := leading_le zero
  rcases lt_or_gt_of_ne zero with negative | positive
  · have nearer := nearest_multiple p x (-2 ^ p)
    push_cast at nearer
    rw [neg_mul, ← leading_place] at nearer
    have gap : |-(2 : R) ^ Int.log 2 |x| - x| = -2 ^ Int.log 2 |x| - x :=
      abs_of_nonneg (by linarith [abs_of_neg negative])
    linarith [(abs_lt.mp short).1, le_abs_self (y - x)]
  · have nearer := nearest_multiple p x (2 ^ p)
    push_cast at nearer
    rw [← leading_place] at nearer
    have gap : |(2 : R) ^ Int.log 2 |x| - x| = -(2 ^ Int.log 2 |x| - x) :=
      abs_of_nonpos (by linarith [abs_of_pos positive])
    linarith [(abs_lt.mp short).2, neg_le_abs (y - x)]

theorem nearest_eq (written : Representable p x) : nearest p x = x := by
  have nearer := nearest_le (x := x) written
  rw [sub_self, abs_zero] at nearer
  exact sub_eq_zero.mp (abs_nonpos_iff.mp nearer)

/-- Rounding crosses no number that is itself written so. -/
theorem nearest_le_of_le (written : Representable p y) (le : x ≤ y) : nearest p x ≤ y := by
  have nearer := nearest_le (x := x) written
  rw [abs_of_nonneg (sub_nonneg.mpr le)] at nearer
  linarith [le_abs_self (nearest p x - x)]

theorem le_nearest_of_le (written : Representable p y) (le : y ≤ x) : y ≤ nearest p x := by
  have nearer := nearest_le (x := x) written
  rw [abs_of_nonpos (sub_nonpos.mpr le)] at nearer
  linarith [neg_le_abs (nearest p x - x)]

theorem nearest_nonneg (nonneg : 0 ≤ x) : 0 ≤ nearest p x := le_nearest_of_le .zero nonneg

theorem double_zero : double (0 : R) = 0 := nearest_eq .zero

theorem double_one : double (1 : R) = 1 := nearest_eq .one

variable (p x) in
theorem nearest_representable : Representable p (nearest p x) := by
  apply Representable.scaled
  -- a mantissa past the leading digit would lie farther off than the next power of two
  have place := place_pos (R := R) (lastPlace p x)
  have bound : |x / 2 ^ lastPlace p x| < 2 ^ (p + 1) := by
    have below : |x| < (2 : R) ^ (Int.log 2 |x| + 1) := by
      exact_mod_cast Int.lt_zpow_succ_log_self (b := 2) (by norm_num) |x|
    rw [abs_div, abs_of_pos place, div_lt_iff₀ place]
    rwa [zpow_add₀ (zero_lt_two' R).ne', leading_place p x, zpow_one, mul_right_comm,
      ← pow_succ] at below
  generalize x / 2 ^ lastPlace p x = z at bound
  have up := roundHalfEven_nearest z (2 ^ (p + 1))
  have down := roundHalfEven_nearest z (-2 ^ (p + 1))
  push_cast at up down
  obtain ⟨low, high⟩ := abs_lt.mp bound
  have above : |(2 : R) ^ (p + 1) - z| = 2 ^ (p + 1) - z := abs_of_nonneg (by linarith)
  have under : |-(2 : R) ^ (p + 1) - z| = -(-2 ^ (p + 1) - z) := abs_of_nonpos (by linarith)
  rw [above] at up
  rw [under] at down
  have least := (abs_le.mp up).2
  have most := (abs_le.mp down).1
  rw [abs_le]
  constructor
  · have cast : ((-2 ^ (p + 1) : ℤ) : R) ≤ roundHalfEven z := by
      push_cast
      linarith
    exact_mod_cast cast
  · have cast : ((roundHalfEven z : ℤ) : R) ≤ (2 ^ (p + 1) : ℤ) := by
      push_cast
      linarith
    exact_mod_cast cast

theorem double_double (x : R) : double (double x) = double x :=
  nearest_eq (nearest_representable 52 x)

/-- Rounding an integer cuts digits off its end, if any. -/
theorem nearest_integer (p : ℕ) (n : ℤ) : ∃ m : ℤ, nearest p (n : R) = m := by
  rcases le_or_gt |n| (2 ^ (p + 1)) with small | large
  · exact ⟨n, nearest_eq (.intCast small)⟩
  have long : ((2 : ℕ) : R) ^ ((p + 1 : ℕ) : ℤ) ≤ |(n : R)| := by
    rw [zpow_natCast, Nat.cast_ofNat]
    exact_mod_cast large.le
  have digits : ((p + 1 : ℕ) : ℤ) ≤ Int.log 2 |(n : R)| :=
    (Int.zpow_le_iff_le_log (by norm_num) (lt_of_lt_of_le (zpow_pos (by norm_num) _) long)).mp long
  obtain ⟨k, place⟩ := Int.eq_ofNat_of_zero_le (by omega : 0 ≤ Int.log 2 |(n : R)| - p)
  refine ⟨roundHalfEven ((n : R) / 2 ^ lastPlace p (n : R)) * 2 ^ k, ?_⟩
  rw [nearest, lastPlace, place]
  push_cast
  rw [zpow_natCast]

end Written

end AiroFanuc.Library
