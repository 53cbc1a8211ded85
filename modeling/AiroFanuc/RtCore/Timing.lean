import AiroFanuc.Library.Numerals
import AiroFanuc.Library.Ranks
import Mathlib.Algebra.Order.Floor.Ring
import Mathlib.Algebra.Order.Ring.Cast
import Mathlib.Data.Rat.Floor
import Mathlib.Tactic.Linarith

/-! The timing histograms. -/

namespace AiroFanuc.RtCore

open Library

def kBuckets : Nat := 512

structure Histogram where
  bucketNs : Int
  counts : List Nat
  total : Nat
  maxNs : Int

namespace Histogram

def empty (bucketNs : Int) : Histogram := ⟨bucketNs, List.replicate (kBuckets + 1) 0, 0, 0⟩

/-- The bucket of a sample; the last one takes all that is beyond the range. -/
def bucketOf (bucketNs v : Int) : Nat := min (v.tdiv bucketNs).toNat kBuckets

def add (h : Histogram) (v : Int) : Histogram where
  bucketNs := h.bucketNs
  counts := tally (bucketOf h.bucketNs) h.counts v
  total := h.total + 1
  maxNs := if v > h.maxNs then v else h.maxNs

variable {R : Type} [Field R] [LinearOrder R] [FloorRing R]

/-- How many samples the percentile counts up to. -/
def target (p : R) (total : Nat) : Nat := ⌊p * (total : R) + 1 / 2⌋.toNat

def percentile (h : Histogram) (p : R) : Int :=
  if h.total = 0 then 0
  else
    match reaching (target p h.total) 0 h.counts with
    | some i => ((i : Int) + 1) * h.bucketNs
    | none => h.maxNs

variable {bucketNs : Int} {vs : List Int}

theorem foldl_add (h : Histogram) :
    vs.foldl add h =
      { bucketNs := h.bucketNs
        counts := vs.foldl (tally (bucketOf h.bucketNs)) h.counts
        total := h.total + vs.length
        maxNs := vs.foldl max h.maxNs } := by
  induction vs generalizing h with
  | nil => rfl
  | cons v rest ih =>
      have most : (if v > h.maxNs then v else h.maxNs) = max h.maxNs v := by
        split <;> omega
      rw [List.foldl_cons, ih]
      simp only [add, List.foldl_cons, List.length_cons, most]
      congr 1
      omega

theorem bucketOf_mono (positive : 0 < bucketNs) {v w : Int} (upto : v ≤ w) :
    bucketOf bucketNs v ≤ bucketOf bucketNs w := by
  have quotients : v.tdiv bucketNs ≤ w.tdiv bucketNs := Int.tdiv_le_tdiv positive upto
  simp only [bucketOf]
  omega

theorem bucketOf_negative (positive : 0 < bucketNs) {v : Int} (negative : v < 0) :
    bucketOf bucketNs v = 0 := by
  have quotient : v.tdiv bucketNs ≤ (0 : Int).tdiv bucketNs :=
    Int.tdiv_le_tdiv positive negative.le
  rw [Int.zero_tdiv] at quotient
  simp only [bucketOf]
  omega

/-- In range a bucket is the whole number of widths below the sample. -/
theorem bucketOf_inside (positive : 0 < bucketNs) {v : Int} (low : 0 ≤ v)
    (high : v < kBuckets * bucketNs) : (bucketOf bucketNs v : Int) = v / bucketNs := by
  have nonneg : 0 ≤ v / bucketNs := Int.ediv_nonneg low positive.le
  have below : v / bucketNs < kBuckets := Int.ediv_lt_of_lt_mul positive high
  rw [bucketOf, Int.tdiv_eq_ediv_of_nonneg low]
  omega

theorem bucketOf_beyond (positive : 0 < bucketNs) {v : Int} (far : kBuckets * bucketNs ≤ v) :
    bucketOf bucketNs v = kBuckets := by
  have low : 0 ≤ v := by
    have range : 0 ≤ (kBuckets : Int) * bucketNs := Int.mul_nonneg (by decide) positive.le
    omega
  have quotient : (kBuckets : Int) ≤ v / bucketNs := Int.le_ediv_of_mul_le positive far
  rw [bucketOf, Int.tdiv_eq_ediv_of_nonneg low]
  omega

theorem target_le [IsStrictOrderedRing R] {p : R} (high : p ≤ 1) (n : Nat) : target p n ≤ n := by
  have below : p * (n : R) + 1 / 2 < ((n : Int) + 1 : Int) := by
    have product : p * (n : R) ≤ n := mul_le_of_le_one_left (Nat.cast_nonneg n) high
    push_cast
    linarith
  have floor := Int.floor_lt.mpr below
  rw [target]
  omega

/-- Whatever was measured, the percentile is that of the sample at its rank, rounded up to the end
of a bucket: at most one bucket more than the sample where it is in range, the first bucket's end
where the clock ran backwards, and the end of the last bucket for all that is too long. The search
always ends in a bucket. -/
theorem percentile_brackets [IsStrictOrderedRing R] (bucketNs : Int) (vs : List Int) (p : R)
    (positive : 0 < bucketNs) (high : p ≤ 1) (counted : 0 < target p vs.length) :
    ∃ x ∈ vs, IsRank vs (target p vs.length) x ∧
      (x < 0 → (vs.foldl add (empty bucketNs)).percentile p = bucketNs) ∧
      (0 ≤ x → x < kBuckets * bucketNs → x < (vs.foldl add (empty bucketNs)).percentile p ∧
        (vs.foldl add (empty bucketNs)).percentile p ≤ x + bucketNs) ∧
      (kBuckets * bucketNs ≤ x →
        (vs.foldl add (empty bucketNs)).percentile p = (kBuckets + 1) * bucketNs) := by
  have few := target_le high vs.length
  obtain ⟨x, member, ranked⟩ := exists_rank counted few
  have found : (vs.foldl add (empty bucketNs)).percentile p =
      ((bucketOf bucketNs x : Int) + 1) * bucketNs := by
    have here := reaching_tally (fun v w => bucketOf_mono positive) 
      (by rw [bucketOf]; omega : bucketOf bucketNs x < kBuckets + 1) ranked
    rw [percentile, foldl_add]
    simp only [empty, Nat.zero_add, here]
    rw [if_neg (by omega)]
  refine ⟨x, member, ranked, ?_, ?_, ?_⟩
  · intro negative
    rw [found, bucketOf_negative positive negative]
    exact Int.one_mul bucketNs
  · intro low inside
    have up := Int.lt_ediv_add_one_mul_self x positive
    have down := Int.ediv_mul_le x positive.ne'
    rw [found, bucketOf_inside positive low inside]
    refine ⟨up, ?_⟩
    rw [Int.add_mul, Int.one_mul]
    omega
  · intro far
    rw [found, bucketOf_beyond positive far]

/-- Three intervals of about a millisecond and one of a minute. -/
def outlierSamples : List Int := [1000000, 1010000, 990000, 60000000000]

theorem percentile_brackets_outlier :
    (outlierSamples.foldl add (empty 50000)).percentile (1 / 2 : ℚ) = 1050000 ∧
      ∃ x ∈ outlierSamples, IsRank outlierSamples (target (1 / 2 : ℚ) outlierSamples.length) x ∧
        (x < 0 → (outlierSamples.foldl add (empty 50000)).percentile (1 / 2 : ℚ) = 50000) ∧
        (0 ≤ x → x < kBuckets * 50000 →
          x < (outlierSamples.foldl add (empty 50000)).percentile (1 / 2 : ℚ) ∧
          (outlierSamples.foldl add (empty 50000)).percentile (1 / 2 : ℚ) ≤ x + 50000) ∧
        (kBuckets * 50000 ≤ x → (outlierSamples.foldl add (empty 50000)).percentile (1 / 2 : ℚ) =
          (kBuckets + 1) * 50000) :=
  ⟨by decide +kernel, percentile_brackets 50000 outlierSamples (1 / 2 : ℚ) (by decide)
    (by norm_num) (by decide +kernel)⟩

end Histogram

end AiroFanuc.RtCore
