import AiroFanuc.Library.Numerals
import Mathlib.Algebra.Order.Round
import Mathlib.Data.Int.Log
import Mathlib.Data.Rat.Floor
import Mathlib.Tactic.FieldSimp
import Mathlib.Tactic.Linarith
import Mathlib.Tactic.Positivity
import Mathlib.Tactic.Ring

/-! Numbers written with a fixed count of significant decimal digits, as `%g` writes them. -/

namespace AiroFanuc.Library

/-- `±mantissa · 10 ^ exponent`. -/
structure Decimal where
  negative : Bool
  mantissa : ℕ
  exponent : ℤ
  deriving DecidableEq, Repr

namespace Decimal

/-! ### Its text -/

/-- Drops trailing zeros of the mantissa, at most as many as there is fuel for. -/
def stripped : ℕ → Decimal → Decimal
  | 0, d => d
  | fuel + 1, d =>
    if d.mantissa ≠ 0 ∧ d.mantissa % 10 = 0 then
      stripped fuel { d with mantissa := d.mantissa / 10, exponent := d.exponent + 1 }
    else d

def digitsText (m : ℕ) : List Char := Nat.toDigits 10 m

def padded (width : ℕ) (s : List Char) : List Char := List.replicate (width - s.length) '0' ++ s

def pointed (whole fraction : List Char) : List Char :=
  if fraction = [] then whole else whole ++ '.' :: fraction

/-- Fixed notation while the exponent of the leading digit is in `[-4, digits)`, scientific
notation outside. -/
def unsignedText (digits : ℕ) (d : Decimal) : List Char :=
  let ds := digitsText d.mantissa
  let lead : ℤ := ds.length - 1 + d.exponent
  if d.mantissa = 0 then ['0']
  else if lead < -4 ∨ (digits : ℤ) ≤ lead then
    pointed (ds.take 1) (ds.drop 1) ++ 'e' :: (if lead < 0 then '-' else '+') ::
      padded 2 (digitsText lead.natAbs)
  else if 0 ≤ d.exponent then ds ++ List.replicate d.exponent.toNat '0'
  else
    let ds := padded (d.exponent.natAbs + 1) ds
    pointed (ds.take (ds.length - d.exponent.natAbs)) (ds.drop (ds.length - d.exponent.natAbs))

def text (digits : ℕ) (d : Decimal) : String :=
  String.ofList ((if d.negative then ['-'] else []) ++
    unsignedText digits (stripped (digits + 1) d))

example : text 6 ⟨true, 179999, -3⟩ = "-179.999" := by decide +kernel

example : text 6 ⟨false, 123457, 1⟩ = "1.23457e+06" := by decide +kernel

/-! ### Its value -/

variable {R : Type} [Field R] [LinearOrder R] [IsStrictOrderedRing R] [FloorRing R]

def value (d : Decimal) : R := (if d.negative then -1 else 1) * (d.mantissa * 10 ^ d.exponent)

/-- To the nearest integer, the even one of two. -/
def roundHalfEven (x : R) : ℤ :=
  if x - ⌊x⌋ < 1 / 2 then ⌊x⌋
  else if 1 / 2 < x - ⌊x⌋ then ⌊x⌋ + 1
  else if ⌊x⌋ % 2 = 0 then ⌊x⌋
  else ⌊x⌋ + 1

/-- The nearest number of this many significant digits. -/
def rounded (digits : ℕ) (x : R) : Decimal :=
  if x = 0 then ⟨false, 0, 0⟩
  else
    let ulp := Int.log 10 |x| - digits + 1
    ⟨decide (x < 0), (roundHalfEven (|x| / 10 ^ ulp)).toNat, ulp⟩

/-- It takes no more than this many significant digits to write the number down. -/
def HasDigits (digits : ℕ) (x : R) : Prop :=
  ∃ (m : ℕ) (e : ℤ), m < 10 ^ digits ∧ |x| = m * 10 ^ e

theorem roundHalfEven_natCast (n : ℕ) : roundHalfEven (n : R) = n := by
  have half : (0 : R) < 1 / 2 := by positivity
  simp only [roundHalfEven, Int.floor_natCast, Int.cast_natCast, sub_self, if_pos half]

omit [IsStrictOrderedRing R] in
theorem roundHalfEven_le {x : R} {n : ℤ} (below : x < n) : roundHalfEven x ≤ n := by
  have floor : ⌊x⌋ < n := Int.floor_lt.mpr below
  simp only [roundHalfEven]
  split
  · exact floor.le
  · split
    · exact floor
    · split
      · exact floor.le
      · exact floor

omit [FloorRing R] in
theorem sign_mul_abs (x : R) : (if decide (x < 0) = true then -1 else 1) * |x| = x := by
  by_cases negative : x < 0
  · rw [if_pos (decide_eq_true negative), abs_of_neg negative]
    ring
  · rw [if_neg (by simpa using negative), abs_of_nonneg (not_lt.mp negative), one_mul]

/-- Rounding changes exactly the numbers that have more digits. -/
theorem rounded_value_iff {digits : ℕ} (x : R) :
    (rounded digits x).value = x ↔ HasDigits digits x := by
  by_cases zero : x = 0
  · subst zero
    constructor
    · intro _
      exact ⟨0, 0, Nat.pow_pos (by norm_num), by simp⟩
    · intro _
      simp [rounded, value]
  have positive : 0 < |x| := abs_pos.mpr zero
  have ten : (10 : R) ≠ 0 := by norm_num
  have lower : (10 : R) ^ Int.log 10 |x| ≤ |x| := by
    simpa using Int.zpow_log_le_self (b := 10) (by norm_num) positive
  have upper : |x| < (10 : R) ^ (Int.log 10 |x| + 1) := by
    simpa using Int.lt_zpow_succ_log_self (b := 10) (by norm_num) |x|
  simp only [rounded, if_neg zero]
  generalize Int.log 10 |x| = k at lower upper
  have ulp : (0 : R) < 10 ^ (k - digits + 1) := zpow_pos (by norm_num) _
  have whole : (10 : R) ^ digits * 10 ^ (k - digits + 1) = 10 ^ (k + 1) := by
    rw [← zpow_natCast, ← zpow_add₀ ten]
    congr 1
    ring
  have most : |x| / 10 ^ (k - digits + 1) < ((10 ^ digits : ℤ) : R) := by
    rw [div_lt_iff₀ ulp]
    push_cast
    rw [whole]
    exact upper
  constructor
  · intro same
    have absolute : |x| = ((roundHalfEven (|x| / 10 ^ (k - digits + 1))).toNat : R) *
        10 ^ (k - digits + 1) := by
      have signed := congrArg abs same
      simp only [value, abs_mul, Nat.abs_cast, abs_of_pos ulp] at signed
      split at signed
      · rw [abs_neg, abs_one, one_mul] at signed
        exact signed.symm
      · rw [abs_one, one_mul] at signed
        exact signed.symm
    have bound := roundHalfEven_le most
    generalize roundHalfEven (|x| / 10 ^ (k - digits + 1)) = n at absolute bound
    refine ⟨n.toNat, k - digits + 1, ?_, absolute⟩
    -- a carry into one more digit would put the number past its own leading digit
    by_contra carried
    have carry : (10 : R) ^ digits ≤ (n.toNat : R) := by exact_mod_cast not_lt.mp carried
    have beyond : (10 : R) ^ (k + 1) ≤ |x| := by
      rw [absolute, ← whole]
      exact mul_le_mul_of_nonneg_right carry ulp.le
    exact upper.not_ge beyond
  · rintro ⟨m, e, small, written⟩
    have fits : (k - digits + 1 : ℤ) ≤ e := by
      by_contra short
      have exponent : e ≤ k - digits := by omega
      have under : |x| < 10 ^ k := by
        calc |x| = m * 10 ^ e := written
          _ < 10 ^ digits * 10 ^ e := by
            have cast : (m : R) < 10 ^ digits := by exact_mod_cast small
            exact mul_lt_mul_of_pos_right cast (zpow_pos (by norm_num) e)
          _ ≤ 10 ^ digits * 10 ^ (k - digits) := by
            have step : (10 : R) ^ e ≤ 10 ^ (k - digits) :=
              zpow_le_zpow_right₀ (by norm_num) exponent
            exact mul_le_mul_of_nonneg_left step (by positivity)
          _ = 10 ^ k := by
            rw [← zpow_natCast, ← zpow_add₀ ten]
            congr 1
            ring
      exact under.not_ge lower
    obtain ⟨n, places⟩ := Int.eq_ofNat_of_zero_le (sub_nonneg.mpr fits)
    have integral : |x| / 10 ^ (k - digits + 1) = ((m * 10 ^ n : ℕ) : R) := by
      rw [div_eq_iff ulp.ne', written]
      push_cast
      rw [mul_assoc, ← zpow_natCast (10 : R) n, ← zpow_add₀ ten, ← places]
      congr 2
      ring
    rw [integral, roundHalfEven_natCast, Int.toNat_natCast, value, ← integral,
      div_mul_cancel₀ _ ulp.ne']
    exact sign_mul_abs x

end Decimal

end AiroFanuc.Library
