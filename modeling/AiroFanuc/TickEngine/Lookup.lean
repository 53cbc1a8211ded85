import AiroFanuc.Library.Cubic
import AiroFanuc.TickEngine.Playback
import Mathlib.Tactic.NormNum

/-! Which segment of a trajectory a query is evaluated on. -/

namespace AiroFanuc.TickEngine

open Library

namespace TrajectorySampler

section Lookup

variable {R : Type} [Field R] [LinearOrder R] [FloorRing R]

/-- The trajectory time a wire time stands for. -/
def query (s : TrajectorySampler R) (speedScale tau : R) : R := (s.time 0 : R) + speedScale * tau

/-- The first knot of the segment a query is evaluated on. -/
def lookup (s : TrajectorySampler R) (query : R) : Nat :=
  min (max (upperBound s.times s.n (truncInt64 query)) 1) (s.n - 1) - 1

/-- The length of a segment as the sampler computes it. -/
def segmentNs (s : TrajectorySampler R) (i : Nat) : R := (wrapInt64 (s.time (i + 1) - s.time i) : R)

/-- Where on that segment, as a fraction of its length. -/
def parameter (s : TrajectorySampler R) (query : R) : R :=
  (query - (s.time (s.lookup query) : R)) / s.segmentNs (s.lookup query)

/-- The cubic between two knots with its wire derivatives. -/
def evalSegment (s : TrajectorySampler R) (i : Nat) (u speedScale : R) : HermiteSample R :=
  let nat := hermiteEval (s.q.getD i 0) (s.qd.getD i 0) (s.q.getD (i + 1) 0) (s.qd.getD (i + 1) 0)
    u (s.segmentNs i / 10 ^ 9)
  { q := nat.q
    qd := fun j => speedScale * nat.qd j
    qdd := fun j => speedScale * speedScale * nat.qdd j }

/-- `sample` at any real wire time. -/
def sampleAt (s : TrajectorySampler R) (tau speedScale : R) : HermiteSample R :=
  if s.n < 1 then .zero
  else if s.n = 1 then .atRest (s.q.getD 0 0)
  else if s.query speedScale tau ≤ s.time 0 then .atRest (s.q.getD 0 0)
  else if s.time (s.n - 1) ≤ s.query speedScale tau then .atRest (s.q.getD (s.n - 1) 0)
  else s.evalSegment (s.lookup (s.query speedScale tau)) (s.parameter (s.query speedScale tau))
    speedScale

/-- Strictly between the first knot and the last. -/
def Inside (s : TrajectorySampler R) (query : R) : Prop :=
  (s.time 0 : R) < query ∧ query < (s.time (s.n - 1) : R)

/-- On the segment that contains it, with a parameter in the half-open unit interval. -/
structure Located (s : TrajectorySampler R) (query : R) : Prop where
  bound : s.lookup query + 1 < s.n
  low : (s.time (s.lookup query) : R) ≤ query
  high : query < (s.time (s.lookup query + 1) : R)
  parameter : 0 ≤ s.parameter query ∧ s.parameter query < 1

/-- Truncated toward zero, a query of the last nanosecond before a knot that is not at a
positive time becomes the knot. -/
def Early (s : TrajectorySampler R) (query : R) : Prop :=
  ∃ i, 0 < i ∧ i + 1 < s.n ∧ s.time i ≤ 0 ∧ (s.time i : R) - 1 < query ∧ query < (s.time i : R)

/-- The segment around a query is one whose length fits in 64 bits. -/
def Spanned (s : TrajectorySampler R) (query : R) : Prop :=
  ∀ i, i + 1 < s.n → (s.time i : R) < query → query < (s.time (i + 1) : R) →
    s.time (i + 1) - s.time i ≤ kInt64Max

variable {s : TrajectorySampler R}

theorem sample_sampleAt (two : 2 ≤ s.n) (tauNs : Int) (speedScale : R) :
    s.sample tauNs speedScale = s.sampleAt tauNs speedScale := by
  have picked : min (max (upperBound s.times s.n (truncInt64 (s.query speedScale tauNs))) 1)
      (s.n - 1) = s.lookup (s.query speedScale tauNs) + 1 := by
    rw [lookup]
    omega
  unfold sample sampleAt evalSegment parameter segmentNs
  rw [← picked]
  rfl

variable [IsStrictOrderedRing R]

omit [Field R] [LinearOrder R] [FloorRing R] [IsStrictOrderedRing R] in
theorem Valid.time_le (valid : s.Valid) {i k : Nat} (le : i ≤ k) (bound : k < s.n) :
    s.time i ≤ s.time k := by
  rcases le.eq_or_lt with rfl | less
  · exact le_rfl
  · exact (valid.time_lt less bound).le

omit [Field R] [LinearOrder R] [FloorRing R] [IsStrictOrderedRing R] in
theorem Valid.index_le (valid : s.Valid) {i k : Nat} (bound : i < s.n)
    (below : s.time i < s.time (k + 1)) : i ≤ k := by
  by_contra late
  exact absurd below (not_lt.mpr (valid.time_le (by omega) bound))

/-- The segment a time lies on is the only one. -/
theorem Valid.segment_unique (valid : s.Valid) {i k : Nat} {query : R} (bound : i + 1 < s.n)
    (other : k + 1 < s.n) (low : (s.time i : R) ≤ query) (high : query < (s.time (i + 1) : R))
    (low' : (s.time k : R) ≤ query) (high' : query < (s.time (k + 1) : R)) : i = k := by
  have up : s.time i < s.time (k + 1) := by exact_mod_cast low.trans_lt high'
  have down : s.time k < s.time (i + 1) := by exact_mod_cast low'.trans_lt high
  exact le_antisymm (valid.index_le (by omega) up) (valid.index_le (by omega) down)

omit [IsStrictOrderedRing R] in
theorem truncInt64_nonneg {x : R} (nonneg : 0 ≤ x) (low : kInt64Min ≤ ⌊x⌋)
    (high : ⌊x⌋ ≤ kInt64Max) : truncInt64 x = ⌊x⌋ := by
  simp only [truncInt64, if_pos nonneg]
  exact if_pos ⟨low, high⟩

theorem truncInt64_neg {x : R} (negative : x < 0) (low : kInt64Min ≤ ⌈x⌉) (high : ⌈x⌉ ≤ kInt64Max) :
    truncInt64 x = ⌈x⌉ := by
  simp only [truncInt64, if_neg (not_le.mpr negative), Int.floor_neg, neg_neg]
  exact if_pos ⟨low, high⟩

omit [IsStrictOrderedRing R] in
theorem Valid.lookup_of_bracket (valid : s.Valid) {query : R} {whole : Int}
    (truncated : truncInt64 query = whole) (first : s.time 0 ≤ whole)
    (last : whole < s.time (s.n - 1)) :
    s.lookup query + 1 < s.n ∧ s.time (s.lookup query) ≤ whole ∧
      whole < s.time (s.lookup query + 1) := by
  obtain ⟨i, bound, found, low, high⟩ := valid.bracket first last
  have here : s.lookup query = i := by
    rw [lookup, truncated, found, Nat.add_sub_cancel]
  rw [here]
  exact ⟨bound, low, high⟩

/-- A query that is not early is looked up on the segment that contains it. -/
theorem Valid.lookup_contains (valid : s.Valid) {query : R} (inside : s.Inside query)
    (timely : ¬ s.Early query) : s.lookup query + 1 < s.n ∧
      (s.time (s.lookup query) : R) ≤ query ∧ query < (s.time (s.lookup query + 1) : R) := by
  obtain ⟨after, before⟩ := inside
  have two := valid.two
  have early := valid.time_range (i := 0) (by omega)
  have late := valid.time_range (i := s.n - 1) (by omega)
  rcases le_or_gt 0 query with nonneg | negative
  · have first : s.time 0 ≤ ⌊query⌋ := Int.le_floor.mpr after.le
    have last : ⌊query⌋ < s.time (s.n - 1) := by
      exact_mod_cast (Int.floor_le query).trans_lt before
    have truncated := truncInt64_nonneg nonneg (by omega) (by omega)
    obtain ⟨bound, low, high⟩ := valid.lookup_of_bracket truncated first last
    exact ⟨bound, Int.le_floor.mp low, Int.floor_lt.mp high⟩
  · have first : s.time 0 < ⌈query⌉ := by exact_mod_cast after.trans_le (Int.le_ceil query)
    have last : ⌈query⌉ ≤ s.time (s.n - 1) := Int.ceil_le.mpr before.le
    have truncated := truncInt64_neg negative (by omega) (by omega)
    have near : (⌈query⌉ : R) < query + 1 := Int.ceil_lt_add_one query
    rcases last.lt_or_eq with last | ending
    · obtain ⟨bound, low, high⟩ := valid.lookup_of_bracket truncated first.le last
      refine ⟨bound, ?_, (Int.le_ceil query).trans_lt (by exact_mod_cast high)⟩
      by_contra beyond
      rw [not_le] at beyond
      have fresh : 0 < s.lookup query := by
        rw [Nat.pos_iff_ne_zero]
        intro zero
        rw [zero] at beyond
        exact lt_asymm beyond after
      have whole : (s.time (s.lookup query) : R) ≤ ⌈query⌉ := by exact_mod_cast low
      have still : s.time (s.lookup query) ≤ 0 :=
        low.trans (Int.ceil_le.mpr (by exact_mod_cast negative.le))
      exact timely ⟨_, fresh, bound, still, by linarith, beyond⟩
    -- The last nanosecond of the span is clamped onto the last segment.
    · have all : upperBound s.times s.n ⌈query⌉ = s.n := by
        have whole : s.times.take s.n = s.times := by rw [← valid.knots, List.take_length]
        rw [upperBound, whole, ← valid.knots]
        apply List.findIdx_eq_length_of_false
        intro t member
        obtain ⟨k, below, rfl⟩ := List.mem_iff_getElem.mp member
        have bound : k < s.n := valid.knots ▸ below
        have reached : s.time k ≤ s.time (s.n - 1) := valid.time_le (by omega) (by omega)
        rw [valid.time_eq bound] at reached
        rw [ending, decide_eq_false_iff_not, not_lt]
        exact reached
      have here : s.lookup query = s.n - 2 := by
        rw [lookup, truncated, all]
        omega
      have final : s.n - 2 + 1 = s.n - 1 := by omega
      rw [here, final]
      refine ⟨by omega, ?_, before⟩
      have step := valid.time_lt (i := s.n - 2) (k := s.n - 1) (by omega) (by omega)
      have apart : (s.time (s.n - 2) : R) + 1 ≤ (⌈query⌉ : R) := by
        rw [ending]
        exact_mod_cast step
      linarith

/-- An early query is looked up one segment too far. -/
theorem Valid.early_lookup (valid : s.Valid) {query : R} (early : s.Early query) :
    query < (s.time (s.lookup query) : R) := by
  obtain ⟨i, fresh, bound, still, near, beyond⟩ := early
  have zero : (s.time i : R) ≤ 0 := by exact_mod_cast still
  have negative : query < 0 := beyond.trans_le zero
  have whole : ⌈query⌉ = s.time i := Int.ceil_eq_iff.mpr ⟨near, beyond.le⟩
  have range := valid.time_range (i := i) (by omega)
  have truncated : truncInt64 query = s.time i := by
    rw [← whole] at range ⊢
    exact truncInt64_neg negative range.1 range.2
  have first := valid.time_lt fresh (by omega)
  have last := valid.time_lt (i := i) (k := s.n - 1) (by omega) (by omega)
  obtain ⟨looked, low, high⟩ := valid.lookup_of_bracket truncated first.le last
  have upper : s.lookup query ≤ i := valid.index_le (by omega)
    (low.trans_lt (valid.time_lt (Nat.lt_succ_self i) bound))
  have lower : i ≤ s.lookup query := valid.index_le (by omega) high
  rw [le_antisymm upper lower]
  exact beyond

theorem Valid.wrap_neg (valid : s.Valid) {i : Nat} (bound : i + 1 < s.n)
    (long : kInt64Max < s.time (i + 1) - s.time i) : s.segmentNs i < 0 := by
  have low := valid.time_range (i := i) (by omega)
  have high := valid.time_range (i := i + 1) bound
  simp only [kInt64Min, kInt64Max] at low high long
  have wrapped : wrapInt64 (s.time (i + 1) - s.time i) = s.time (i + 1) - s.time i - 2 ^ 64 := by
    rw [wrapInt64, ← Int.sub_bmod_right]
    exact Int.bmod_eq_of_le_mul_two (by omega) (by omega)
  rw [segmentNs, wrapped]
  exact_mod_cast (by omega : s.time (i + 1) - s.time i - 2 ^ 64 < 0)

omit [LinearOrder R] [FloorRing R] [IsStrictOrderedRing R] in
theorem Valid.segmentNs_fits (valid : s.Valid) {i : Nat} (bound : i + 1 < s.n)
    (fits : s.time (i + 1) - s.time i ≤ kInt64Max) :
    s.segmentNs i = (s.time (i + 1) : R) - (s.time i : R) := by
  have step : s.time i < s.time (i + 1) := valid.time_lt (Nat.lt_succ_self i) bound
  rw [segmentNs, wrapInt64_fits (by simp only [kInt64Min]; omega) fits, Int.cast_sub]

/-- A query inside the span is evaluated where it lies exactly if it is not early and the
segment around it is no longer than 64 bits hold. -/
theorem Valid.located_iff (valid : s.Valid) {query : R} (inside : s.Inside query) :
    s.Located query ↔ ¬ s.Early query ∧ s.Spanned query := by
  constructor
  · intro located
    refine ⟨fun early => (valid.early_lookup early).not_ge located.low, ?_⟩
    intro i bound low high
    have same := valid.segment_unique bound located.bound low.le high located.low located.high
    by_contra long
    rw [not_le] at long
    have back := valid.wrap_neg bound long
    have negative := located.parameter.1
    rw [parameter, ← same] at negative
    have ahead : 0 < query - (s.time i : R) := sub_pos.mpr low
    exact absurd negative (not_le.mpr (div_neg_of_pos_of_neg ahead back))
  · rintro ⟨timely, spanned⟩
    obtain ⟨bound, low, high⟩ := valid.lookup_contains inside timely
    refine ⟨bound, low, high, ?_⟩
    rw [parameter]
    rcases low.eq_or_lt with knot | low
    · have start : query - (s.time (s.lookup query) : R) = 0 := sub_eq_zero.mpr knot.symm
      rw [start, zero_div]
      exact ⟨le_rfl, one_pos⟩
    · rw [valid.segmentNs_fits bound (spanned _ bound low high)]
      have ahead : 0 < query - (s.time (s.lookup query) : R) := sub_pos.mpr low
      have long : 0 < (s.time (s.lookup query + 1) : R) - (s.time (s.lookup query) : R) :=
        sub_pos.mpr (low.trans high)
      exact ⟨(div_pos ahead long).le, (div_lt_one long).mpr (sub_lt_sub_right high _)⟩

/-- A segment of one joint as a cubic. -/
def piece (s : TrajectorySampler R) (i : Nat) (j : Fin kNumJoints) : Library.Cubic R :=
  ⟨s.q.getD i 0 j, s.qd.getD i 0 j, s.q.getD (i + 1) 0 j, s.qd.getD (i + 1) 0 j,
    s.segmentNs i / 10 ^ 9⟩

omit [IsStrictOrderedRing R] in
theorem evalSegment_q (s : TrajectorySampler R) (i : Nat) (u speedScale : R) (j : Fin kNumJoints) :
    (s.evalSegment i u speedScale).q j = (s.piece i j).value u := by
  simp only [evalSegment, hermiteEval, piece, Library.Cubic.value]
  ring

omit [IsStrictOrderedRing R] in
theorem evalSegment_qd (s : TrajectorySampler R) (i : Nat) (u speedScale : R) (j : Fin kNumJoints) :
    (s.evalSegment i u speedScale).qd j = speedScale * (s.piece i j).slope u := by
  simp only [evalSegment, hermiteEval, piece, Library.Cubic.slope]
  ring

omit [IsStrictOrderedRing R] in
theorem evalSegment_qdd (s : TrajectorySampler R) (i : Nat) (u speedScale : R)
    (j : Fin kNumJoints) :
    (s.evalSegment i u speedScale).qdd j = speedScale * speedScale * (s.piece i j).bend u := by
  simp only [evalSegment, hermiteEval, piece, Library.Cubic.bend]
  ring

omit [IsStrictOrderedRing R] in
theorem Valid.sampleAt_inside (valid : s.Valid) {tau speedScale : R}
    (inside : s.Inside (s.query speedScale tau)) : s.sampleAt tau speedScale =
      s.evalSegment (s.lookup (s.query speedScale tau)) (s.parameter (s.query speedScale tau))
        speedScale := by
  have two := valid.two
  rw [sampleAt, if_neg (by omega), if_neg (by omega), if_neg (not_le.mpr inside.1),
    if_neg (not_le.mpr inside.2)]

/-- Every segment is evaluated where the query lies. -/
structure Regular (s : TrajectorySampler R) : Prop where
  positive : ∀ i, 0 < i → i + 1 < s.n → 0 < s.time i
  fits : ∀ i, i + 1 < s.n → s.time (i + 1) - s.time i ≤ kInt64Max

theorem Valid.regular_located (valid : s.Valid) (regular : s.Regular) {query : R}
    (inside : s.Inside query) : s.Located query := by
  refine (valid.located_iff inside).mpr ⟨?_, fun i bound _ _ => regular.fits i bound⟩
  rintro ⟨i, fresh, bound, still, -⟩
  exact absurd (regular.positive i fresh bound) (not_lt.mpr still)

/-- Somewhere in every segment stands a query that is only evaluated there if the segment fits,
and before every interior knot one that is only if the knot is at a positive time. -/
theorem Valid.regular_of_located (valid : s.Valid)
    (located : ∀ query : R, s.Inside query → s.Located query) : s.Regular := by
  have half : (0 : R) < 1 / 2 := by norm_num
  constructor
  · intro i fresh bound
    by_contra still
    have before := valid.time_lt fresh (by omega)
    have after := valid.time_lt (i := i) (k := s.n - 1) (by omega) (by omega)
    have apart : (s.time 0 : R) + 1 ≤ (s.time i : R) := by exact_mod_cast before
    have ahead : (s.time i : R) < (s.time (s.n - 1) : R) := by exact_mod_cast after
    have inside : s.Inside ((s.time i : R) - 1 / 2) := ⟨by linarith, by linarith⟩
    exact ((valid.located_iff inside).mp (located _ inside)).1
      ⟨i, fresh, bound, not_lt.mp still, by linarith, by linarith⟩
  · intro i bound
    have step : s.time i < s.time (i + 1) := valid.time_lt (Nat.lt_succ_self i) bound
    have apart : (s.time i : R) + 1 ≤ (s.time (i + 1) : R) := by exact_mod_cast step
    have first : (s.time 0 : R) ≤ (s.time i : R) := by
      exact_mod_cast valid.time_le (Nat.zero_le i) (by omega)
    have last : (s.time (i + 1) : R) ≤ (s.time (s.n - 1) : R) := by
      exact_mod_cast valid.time_le (by omega) (by omega)
    have inside : s.Inside ((s.time i : R) + 1 / 2) := ⟨by linarith, by linarith⟩
    exact ((valid.located_iff inside).mp (located _ inside)).2 i bound (by linarith) (by linarith)

end Lookup

end TrajectorySampler

end AiroFanuc.TickEngine
