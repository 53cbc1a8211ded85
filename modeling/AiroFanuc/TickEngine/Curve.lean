import AiroFanuc.TickEngine.Sampling

/-! The curve a trajectory is played along at its own speed, counted from its first knot. -/

namespace AiroFanuc.TickEngine

open Library

namespace TrajectorySampler

variable {s : TrajectorySampler ℝ} {i : Nat}

/-- The knots at their times after the first. -/
def fromZero (s : TrajectorySampler ℝ) : TrajectorySampler ℝ :=
  { s with times := s.times.map fun t => t - s.time 0 }

theorem Valid.fromZero_time (valid : s.Valid) (bound : i < s.n) :
    s.fromZero.time i = s.time i - s.time 0 := by
  have below : i < s.times.length := valid.knots ▸ bound
  have here := valid.time_eq bound
  rw [here]
  simp only [fromZero, time, List.getD_eq_getElem?_getD, List.getElem?_map,
    List.getElem?_eq_getElem below, Option.map_some, Option.getD_some, List.get_eq_getElem]

/-- The sampler over a span that fits in 64 bits, counted from zero, is regular. -/
theorem Valid.fromZero_valid (valid : s.Valid) (exact : s.spanNs ≤ kInt64Max) :
    s.fromZero.Valid ∧ s.fromZero.Regular := by
  have two := valid.two
  have stands (i : Nat) (bound : i < s.n) : 0 ≤ s.time i - s.time 0 ∧
      s.time i - s.time 0 ≤ kInt64Max := by
    have first := valid.time_le (Nat.zero_le i) bound
    have last := valid.time_le (i := i) (k := s.n - 1) (by omega) (by omega)
    rw [spanNs] at exact
    exact ⟨by omega, by omega⟩
  constructor
  · constructor
    · exact two
    · simp only [fromZero, List.length_map]
      exact valid.knots
    · exact List.pairwise_map.mpr (valid.increasing.imp fun less => sub_lt_sub_right less _)
    · intro t member
      obtain ⟨i, below, rfl⟩ := List.mem_iff_getElem.mp member
      have bound : i < s.n := by
        rw [fromZero, List.length_map] at below
        exact valid.knots ▸ below
      have here := valid.fromZero_time bound
      rw [time, List.getD_eq_getElem?_getD, List.getElem?_eq_getElem below, Option.getD_some] at here
      rw [here]
      have range := stands i bound
      exact ⟨by simp only [kInt64Min]; omega, range.2⟩
  · constructor
    · intro i fresh bound
      have first := valid.time_lt fresh (by exact (Nat.lt_succ_self i).trans bound)
      rw [valid.fromZero_time (by exact (Nat.lt_succ_self i).trans bound)]
      omega
    · intro i bound
      have low := stands i (by exact (Nat.lt_succ_self i).trans bound)
      have high := stands (i + 1) bound
      rw [valid.fromZero_time bound,
        valid.fromZero_time (by exact (Nat.lt_succ_self i).trans bound)]
      omega

/-- Played at its own speed, a trajectory is sampled on the same curve whatever its start time. -/
theorem Valid.sample_fromZero (valid : s.Valid) (exact : s.spanNs ≤ kInt64Max) (tauNs : Int) :
    s.sample tauNs 1 = s.fromZero.sample tauNs 1 := by
  obtain ⟨valid', regular'⟩ := valid.fromZero_valid exact
  have two := valid.two
  have zero : s.fromZero.time 0 = 0 := by rw [valid.fromZero_time (by omega), sub_self]
  have final : s.fromZero.time (s.n - 1) = s.spanNs := valid.fromZero_time (by omega)
  have stands : s.query 1 tauNs = ((s.time 0 + tauNs : Int) : ℝ) := by
    rw [query, one_mul, Int.cast_add]
  have stands' : s.fromZero.query 1 tauNs = (tauNs : ℝ) := by
    rw [query, zero, one_mul, Int.cast_zero, zero_add]
  rw [sample_sampleAt two, sample_sampleAt valid'.two]
  by_cases inside : s.Inside (s.query 1 tauNs)
  swap
  · have early : s.query 1 tauNs ≤ s.time 0 ↔ s.fromZero.query 1 tauNs ≤ s.fromZero.time 0 := by
      rw [stands, stands', zero, Int.cast_le, Int.cast_le]
      omega
    have late : s.time (s.n - 1) ≤ s.query 1 tauNs ↔
        s.fromZero.time (s.fromZero.n - 1) ≤ s.fromZero.query 1 tauNs := by
      have same : s.fromZero.n = s.n := rfl
      rw [same, stands, stands', final, Int.cast_le, Int.cast_le, spanNs]
      omega
    have outside : s.query 1 tauNs ≤ s.time 0 ∨ s.time (s.n - 1) ≤ s.query 1 tauNs := by
      rw [Inside, not_and_or, not_lt, not_lt] at inside
      exact inside
    have rests (u : TrajectorySampler ℝ) (tau : ℝ) (many : 2 ≤ u.n)
        (out : u.query 1 tau ≤ u.time 0 ∨ u.time (u.n - 1) ≤ u.query 1 tau) :
        u.sampleAt tau 1 = if u.query 1 tau ≤ u.time 0 then .atRest (u.q.getD 0 0)
          else .atRest (u.q.getD (u.n - 1) 0) := by
      rw [sampleAt, if_neg (by omega), if_neg (by omega)]
      split
      · rfl
      · rename_i begun
        rw [if_pos (out.resolve_left begun)]
    rw [rests s _ two outside, rests s.fromZero _ valid'.two (outside.imp early.mp late.mp)]
    simp only [early]
    rfl
  · have within : s.fromZero.Inside (s.fromZero.query 1 tauNs) := by
      have same : s.fromZero.n = s.n := rfl
      rw [Inside, stands, Int.cast_lt, Int.cast_lt] at inside
      rw [Inside, same, stands', zero, final, Int.cast_lt, Int.cast_lt, spanNs]
      omega
    have timely : ¬ s.Early (s.query 1 tauNs) := by
      rintro ⟨i, -, -, -, near, beyond⟩
      rw [stands] at near beyond
      have below : s.time i - 1 < s.time 0 + tauNs := by exact_mod_cast near
      have above : s.time 0 + tauNs < s.time i := by exact_mod_cast beyond
      omega
    have spanned : s.Spanned (s.query 1 tauNs) := by
      intro i bound _ _
      have first := valid.time_le (Nat.zero_le i) (by omega)
      have last := valid.time_le (i := i + 1) (k := s.n - 1) (by omega) (by omega)
      rw [spanNs] at exact
      omega
    have located := (valid.located_iff inside).mpr ⟨timely, spanned⟩
    have located' := valid'.regular_located regular' within
    have same (k : Nat) (bound : k + 1 < s.n)
        (low : (s.fromZero.time k : ℝ) ≤ s.fromZero.query 1 tauNs)
        (high : s.fromZero.query 1 tauNs < (s.fromZero.time (k + 1) : ℝ)) :
        s.lookup (s.query 1 tauNs) = k := by
      rw [valid.fromZero_time (by omega), stands', Int.cast_le] at low
      rw [valid.fromZero_time bound, stands', Int.cast_lt] at high
      apply valid.segment_unique located.bound bound located.low located.high
      · rw [stands, Int.cast_le]
        omega
      · rw [stands, Int.cast_lt]
        omega
    have here := same _ located'.bound located'.low located'.high
    have length : s.segmentNs (s.lookup (s.query 1 tauNs)) =
        s.fromZero.segmentNs (s.lookup (s.query 1 tauNs)) := by
      have bound := located.bound
      rw [segmentNs, segmentNs, valid.fromZero_time bound, valid.fromZero_time (by omega),
        sub_sub_sub_cancel_right]
    have part : s.parameter (s.query 1 tauNs) =
        s.fromZero.parameter (s.fromZero.query 1 tauNs) := by
      have bound := located.bound
      rw [parameter, parameter, ← here, length, valid.fromZero_time (by omega), stands, stands']
      push_cast
      ring
    rw [valid.sampleAt_inside inside, valid'.sampleAt_inside within, part, here]
    simp only [evalSegment, ← here, length]
    rfl

end TrajectorySampler

end AiroFanuc.TickEngine
