import AiroFanuc.TickEngine.Capture

/-! The path a trajectory and its end blend form on one clock, and where the samplers stand
on it. -/

namespace AiroFanuc.TickEngine

/-! ### Clocks that fit in 64 bits -/

theorem wrapInt64_fits {n : Int} (low : kInt64Min ≤ n) (high : n ≤ kInt64Max) : wrapInt64 n = n := by
  simp only [kInt64Min, kInt64Max] at low high
  exact Int.bmod_eq_of_le_mul_two (by omega) (by omega)

section Rounding

variable {R : Type} [Field R] [LinearOrder R] [IsStrictOrderedRing R] [FloorRing R]

theorem truncInt64_whole (n : Int) :
    truncInt64 (n : R) = if kInt64Min ≤ n ∧ n ≤ kInt64Max then n else kInt64Min := by
  have whole : (if (0 : R) ≤ (n : R) then ⌊(n : R)⌋ else -⌊-(n : R)⌋) = n := by
    split
    · exact Int.floor_intCast n
    · rw [← Int.cast_neg, Int.floor_intCast, neg_neg]
  simp only [truncInt64, whole]

theorem truncInt64_intCast {n : Int} (low : kInt64Min ≤ n) (high : n ≤ kInt64Max) :
    truncInt64 (n : R) = n := by
  rw [truncInt64_whole, if_pos ⟨low, high⟩]

omit [IsStrictOrderedRing R] in
theorem llround_floor {x : R} (nonneg : 0 ≤ x) : llround x = ⌊x + 1 / 2⌋ := by
  rw [llround, if_pos nonneg]

theorem llround_intCast {m : Int} (nonneg : 0 ≤ m) : llround (m : R) = m := by
  rw [llround_floor (by exact_mod_cast nonneg), Int.floor_intCast_add]
  norm_num

theorem llround_nonneg {x : R} (nonneg : 0 ≤ x) : 0 ≤ llround x := by
  rw [llround, if_pos nonneg]
  exact Int.floor_nonneg.mpr (by linarith)

theorem llround_nonpos {x : R} (nonpos : x ≤ 0) : llround x ≤ 0 := by
  rw [llround]
  split
  · have half : x + 1 / 2 < 1 := by linarith
    exact Int.lt_add_one_iff.mp (Int.floor_lt.mpr (by push_cast; linarith))
  · have back : 0 ≤ ⌊-x + 1 / 2⌋ := Int.floor_nonneg.mpr (by linarith)
    omega

theorem llround_mono {x y : R} (nonneg : 0 ≤ x) (le : x ≤ y) : llround x ≤ llround y := by
  rw [llround, llround, if_pos nonneg, if_pos (nonneg.trans le)]
  exact Int.floor_le_floor (by linarith)

end Rounding

/-! ### The Hermite basis at the ends of a segment -/

section Eval

variable {R : Type} [Field R]

theorem hermiteEval_one (q0 qd0 q1 qd1 : Vec6 R) (hS : R) :
    (hermiteEval q0 qd0 q1 qd1 1 hS).q = q1 := by
  funext j
  simp only [hermiteEval]
  ring

end Eval

/-! ### The path -/

namespace TrajectorySampler

variable {R : Type} [Field R] [LinearOrder R] [FloorRing R]

def time (s : TrajectorySampler R) (i : Nat) : Int := s.times.getD i 0

def spanNs (s : TrajectorySampler R) : Int := s.time (s.n - 1) - s.time 0

/-- The cubic between two knots. -/
def segment (s : TrajectorySampler R) (i : Nat) (t : Int) : Vec6 R :=
  let hNs : R := ((s.time (i + 1) - s.time i : Int) : R)
  (hermiteEval (s.q.getD i 0) (s.qd.getD i 0) (s.q.getD (i + 1) 0) (s.qd.getD (i + 1) 0)
    (((t - s.time i : Int) : R) / hNs) (hNs / 10 ^ 9)).q

/-- The value of the path at its own time `tauNs`: on a segment, then on the end blend, or at
rest on the last knot when none is planned. -/
def OnPath (s : TrajectorySampler R) (blend : Option (QdEndBlend R)) (tauNs : Int) (v : Vec6 R) :
    Prop :=
  if tauNs ≤ s.spanNs then
    ∃ i, i + 1 < s.n ∧ s.time i ≤ s.time 0 + tauNs ∧ s.time 0 + tauNs ≤ s.time (i + 1) ∧
      v = s.segment i (s.time 0 + tauNs)
  else
    match blend with
    | some b => v = (b.sample (tauNs - s.spanNs)).q
    | none => v = s.qLast

/-- What the driver lets through: two knots or more, at strictly increasing 64-bit times. -/
structure Valid (s : TrajectorySampler R) : Prop where
  two : 2 ≤ s.n
  knots : s.times.length = s.n
  increasing : s.times.Pairwise (· < ·)
  range : ∀ t ∈ s.times, kInt64Min ≤ t ∧ t ≤ kInt64Max

section Valid

variable {s : TrajectorySampler R}

omit [Field R] [LinearOrder R] [FloorRing R] in
theorem Valid.time_eq (valid : s.Valid) {i : Nat} (bound : i < s.n) :
    s.time i = s.times.get ⟨i, valid.knots.symm ▸ bound⟩ := by
  rw [time, List.getD_eq_getElem?_getD, List.getElem?_eq_getElem]
  rfl

omit [Field R] [LinearOrder R] [FloorRing R] in
theorem Valid.time_lt (valid : s.Valid) {i k : Nat} (less : i < k) (bound : k < s.n) :
    s.time i < s.time k := by
  rw [valid.time_eq (less.trans bound), valid.time_eq bound]
  exact List.pairwise_iff_getElem.mp valid.increasing i k _ _ less

omit [Field R] [LinearOrder R] [FloorRing R] in
theorem Valid.time_range (valid : s.Valid) {i : Nat} (bound : i < s.n) :
    kInt64Min ≤ s.time i ∧ s.time i ≤ kInt64Max := by
  rw [valid.time_eq bound]
  exact valid.range _ (List.getElem_mem _)

omit [Field R] [LinearOrder R] [FloorRing R] in
theorem Valid.span_pos (valid : s.Valid) : 0 < s.spanNs := by
  have two := valid.two
  have less := valid.time_lt (i := 0) (k := s.n - 1) (by omega) (by omega)
  rw [spanNs]
  omega

omit [Field R] [LinearOrder R] [FloorRing R] in
/-- The knots on either side of a query inside the span. -/
theorem Valid.bracket (valid : s.Valid) {query : Int} (first : s.time 0 ≤ query)
    (last : query < s.time (s.n - 1)) :
    ∃ i, i + 1 < s.n ∧ min (max (upperBound s.times s.n query) 1) (s.n - 1) = i + 1 ∧
      s.time i ≤ query ∧ query < s.time (i + 1) := by
  have two := valid.two
  have knots := valid.knots
  have whole : s.times.take s.n = s.times := by rw [← knots, List.take_length]
  have bounded : s.times.findIdx (fun t => decide (query < t)) < s.times.length := by
    apply List.findIdx_lt_length_of_exists
    refine ⟨s.times.get ⟨s.n - 1, by omega⟩, List.getElem_mem _, ?_⟩
    rw [valid.time_eq (by omega)] at last
    exact decide_eq_true last
  have past := List.findIdx_getElem (w := bounded)
  simp only [decide_eq_true_eq] at past
  have before (i : Nat) (less : i < s.times.findIdx (fun t => decide (query < t))) :
      s.time i ≤ query := by
    have kept := List.not_of_lt_findIdx less
    rw [valid.time_eq (by omega)]
    simpa using kept
  have positive : 0 < s.times.findIdx (fun t => decide (query < t)) := by
    by_contra zero
    rw [not_lt, Nat.le_zero] at zero
    simp only [zero] at past
    rw [valid.time_eq (by omega)] at first
    exact (first.trans_lt past).false
  rw [upperBound, whole]
  generalize s.times.findIdx (fun t => decide (query < t)) = k at *
  obtain ⟨i, rfl⟩ := Nat.exists_eq_add_one_of_ne_zero positive.ne'
  refine ⟨i, by omega, by omega, before i (Nat.lt_succ_self i), ?_⟩
  rw [valid.time_eq (by omega)]
  exact past

end Valid

section Sample

variable [IsStrictOrderedRing R] {s : TrajectorySampler R}

omit [LinearOrder R] [FloorRing R] [IsStrictOrderedRing R] in
/-- Unscaled, the query is a whole number of nanoseconds. -/
theorem query_eq (s : TrajectorySampler R) (tauNs : Int) :
    ((s.times.getD 0 0 : Int) : R) + 1 * (tauNs : R) = ((s.time 0 + tauNs : Int) : R) := by
  rw [one_mul, Int.cast_add]
  rfl

theorem Valid.sample_inside (valid : s.Valid) {tauNs : Int} (started : 0 < tauNs)
    (inside : tauNs < s.spanNs) (fits : s.spanNs ≤ kInt64Max) :
    ∃ i, i + 1 < s.n ∧ s.time i ≤ s.time 0 + tauNs ∧ s.time 0 + tauNs ≤ s.time (i + 1) ∧
      (s.sample tauNs 1).q = s.segment i (s.time 0 + tauNs) := by
  have two := valid.two
  have early := valid.time_range (i := 0) (by omega)
  have late := valid.time_range (i := s.n - 1) (by omega)
  have ends : s.time 0 + tauNs < s.time (s.n - 1) := by
    rw [spanNs] at inside
    omega
  obtain ⟨i, bound, bracket, low, high⟩ := valid.bracket (by omega) ends
  refine ⟨i, bound, low, high.le, ?_⟩
  have begun : ¬ ((s.time 0 + tauNs : Int) : R) ≤ ((s.times.getD 0 0 : Int) : R) := by
    rw [Int.cast_le, not_le]
    exact lt_add_of_pos_right _ started
  have unfinished : ¬ ((s.times.getD (s.n - 1) 0 : Int) : R) ≤ ((s.time 0 + tauNs : Int) : R) := by
    rw [Int.cast_le, not_le]
    exact ends
  have step : wrapInt64 (s.time (i + 1) - s.time i) = s.time (i + 1) - s.time i := by
    have up := valid.time_lt (Nat.lt_succ_self i) bound
    have head : s.time 0 ≤ s.time i := by
      rcases Nat.eq_zero_or_pos i with rfl | positive
      · exact le_rfl
      · exact (valid.time_lt positive (by omega)).le
    have tail : s.time (i + 1) ≤ s.time (s.n - 1) := by
      rcases Nat.lt_or_ge (i + 1) (s.n - 1) with less | more
      · exact (valid.time_lt less (by omega)).le
      · rw [show i + 1 = s.n - 1 by omega]
    rw [spanNs] at fits
    exact wrapInt64_fits (by simp only [kInt64Min]; omega) (by omega)
  simp only [sample, query_eq]
  rw [if_neg (by omega), if_neg (by omega), if_neg begun, if_neg unfinished,
    truncInt64_intCast (by omega) (by omega), bracket, Nat.add_sub_cancel]
  simp only [segment, time] at step ⊢
  rw [step]
  simp only [Int.cast_sub]

theorem Valid.sample_over (valid : s.Valid) {tauNs : Int} (beyond : s.spanNs ≤ tauNs) :
    (s.sample tauNs 1).q = s.qLast := by
  have two := valid.two
  have span := valid.span_pos
  have begun : ¬ ((s.time 0 + tauNs : Int) : R) ≤ ((s.times.getD 0 0 : Int) : R) := by
    rw [Int.cast_le, not_le]
    exact lt_add_of_pos_right _ (by omega)
  have finished : ((s.times.getD (s.n - 1) 0 : Int) : R) ≤ ((s.time 0 + tauNs : Int) : R) := by
    rw [Int.cast_le]
    rw [spanNs] at beyond
    simp only [time] at beyond ⊢
    omega
  simp only [sample, query_eq]
  rw [if_neg (by omega), if_neg (by omega), if_neg begun, if_pos finished]
  rfl

omit [IsStrictOrderedRing R] in
/-- The path's own end is the last knot. -/
theorem Valid.onPath_span (valid : s.Valid) {blend : Option (QdEndBlend R)} :
    s.OnPath blend s.spanNs s.qLast := by
  have two := valid.two
  unfold OnPath
  rw [if_pos le_rfl]
  have last : s.n - 2 + 1 = s.n - 1 := by omega
  have ends : s.time 0 + s.spanNs = s.time (s.n - 1) := by
    rw [spanNs]
    omega
  have less := valid.time_lt (i := s.n - 2) (k := s.n - 1) (by omega) (by omega)
  refine ⟨s.n - 2, by omega, ?_, ?_, ?_⟩
  · rw [ends]
    exact less.le
  · rw [ends, last]
  · have whole : ((s.time (s.n - 1) - s.time (s.n - 2) : Int) : R) ≠ 0 := by
      rw [Int.cast_ne_zero]
      omega
    simp only [segment, last, ends]
    rw [div_self whole, hermiteEval_one]
    rfl

end Sample

end TrajectorySampler

/-! ### The end blend -/

section MaxAbs

variable {R : Type} [Field R] [LinearOrder R] [IsStrictOrderedRing R]

omit [Field R] [IsStrictOrderedRing R] in
theorem foldl_max_le {f : Fin kNumJoints → R} (joints : List (Fin kNumJoints)) (start x : R) :
    joints.foldl (fun m j => max m (f j)) start ≤ x ↔ start ≤ x ∧ ∀ j ∈ joints, f j ≤ x := by
  induction joints generalizing start with
  | nil => simp
  | cons j rest ih =>
    rw [List.foldl_cons, ih, max_le_iff]
    simp only [List.mem_cons, forall_eq_or_imp, and_assoc]

omit [IsStrictOrderedRing R] in
theorem maxAbs_le {v : Vec6 R} {x : R} : maxAbs v ≤ x ↔ 0 ≤ x ∧ ∀ j, |v j| ≤ x := by
  rw [maxAbs, foldl_max_le (f := fun j => |v j|)]
  simp only [List.mem_finRange, forall_const]

omit [IsStrictOrderedRing R] in
theorem maxAbsDiff_le {a b : Vec6 R} {x : R} :
    maxAbsDiff a b ≤ x ↔ 0 ≤ x ∧ ∀ j, |a j - b j| ≤ x := by
  rw [maxAbsDiff, foldl_max_le (f := fun j => |a j - b j|)]
  simp only [List.mem_finRange, forall_const]

theorem maxAbs_moving {v : Vec6 R} (moving : 0 < maxAbs v) : ∃ j, v j ≠ 0 := by
  by_contra still
  rw [not_exists] at still
  have zero : maxAbs v ≤ 0 := by
    rw [maxAbs_le]
    refine ⟨le_rfl, fun j => ?_⟩
    rw [not_not.mp (still j), abs_zero]
  exact absurd moving (not_lt.mpr zero)

end MaxAbs

section Blend

variable {R : Type} [Field R] [LinearOrder R] [IsStrictOrderedRing R] [FloorRing R]

theorem itp_pos {itpS : R} (ticks : 0 < itpNs itpS) : 0 < itpS := by
  by_contra stopped
  rw [not_lt] at stopped
  have early : itpS * 10 ^ 9 ≤ 0 := mul_nonpos_of_nonpos_of_nonneg stopped (by positivity)
  exact absurd ticks (llround_nonpos early).not_gt

namespace QdEndBlend

variable {qEnd qdEnd : Vec6 R} {minBlendS itpS : R}

omit [IsStrictOrderedRing R] in
theorem ticks_pos : 1 ≤ ticks minBlendS itpS := le_max_left _ _

/-- A planned ramp lasts a tick or more. -/
theorem plan_dur (qEnd : Vec6 R) (minBlendS : R) (ticks : 0 < itpNs itpS)
    (moving : 0 < maxAbs qdEnd) :
    itpNs itpS ≤ (plan qEnd qdEnd minBlendS itpS).durNs ∧
      ∃ durS, 0 < durS ∧
        (plan qEnd qdEnd minBlendS itpS).qCoast = fun j => qEnd j + 1 / 2 * durS * qdEnd j := by
  have positive := itp_pos ticks
  simp only [plan, if_neg moving.not_ge]
  generalize counted : QdEndBlend.ticks minBlendS itpS = numTicks
  have one : (1 : R) ≤ numTicks := by
    have whole : 1 ≤ numTicks := counted ▸ ticks_pos
    exact_mod_cast whole
  have longer : itpS ≤ numTicks * itpS := le_mul_of_one_le_left positive.le one
  constructor
  · apply llround_mono
    · positivity
    · exact mul_le_mul_of_nonneg_right longer (by positivity)
  · exact ⟨numTicks * itpS, lt_of_lt_of_le positive longer, rfl⟩

/-- On a clock that loses nothing a ramp lasts a whole number of ticks. -/
theorem plan_exact (qEnd : Vec6 R) (minBlendS : R) (exact : (itpNs itpS : R) = itpS * 10 ^ 9)
    (ticks : 0 < itpNs itpS) (moving : 0 < maxAbs qdEnd) :
    (plan qEnd qdEnd minBlendS itpS).durNs = QdEndBlend.ticks minBlendS itpS * itpNs itpS := by
  simp only [plan, if_neg moving.not_ge]
  generalize counted : QdEndBlend.ticks minBlendS itpS = numTicks
  have nonneg : 0 ≤ numTicks := counted ▸ zero_le_one.trans ticks_pos
  have whole : (numTicks : R) * itpS * 10 ^ 9 = ((numTicks * itpNs itpS : ℤ) : R) := by
    rw [Int.cast_mul, exact, mul_assoc]
  rw [whole]
  exact llround_intCast (mul_nonneg nonneg ticks.le)

omit [LinearOrder R] [IsStrictOrderedRing R] [FloorRing R] in
theorem sample_over {b : QdEndBlend R} {tauNs : Int} (beyond : b.durNs ≤ tauNs) :
    (b.sample tauNs).q = b.qCoast := by
  rw [sample, if_pos (.inr beyond)]
  rfl

/-- The ramp starts where the trajectory ends. -/
theorem plan_sample_zero (ticks : 0 < itpNs itpS) :
    ((plan qEnd qdEnd minBlendS itpS).sample 0).q = qEnd := by
  by_cases moving : 0 < maxAbs qdEnd
  · have dur := (plan_dur qEnd minBlendS ticks moving).1
    have active : (plan qEnd qdEnd minBlendS itpS).active = true := by
      simp only [plan, if_neg moving.not_ge]
    rw [sample, if_neg (by rw [active]; simp; omega), if_pos le_rfl]
    simp only [plan, if_neg moving.not_ge]
  · simp only [plan, if_pos (not_lt.mp moving), sample, true_or, if_true]
    rfl

/-- On the cubic to the coast point every moving joint has left the start. -/
theorem coast_moves {q0 qd0 : Vec6 R} {durS u hS : R} (started : 0 < u) (inside : u < 1)
    (long : 0 < hS) (positive : 0 < durS) {j : Fin kNumJoints} (moves : qd0 j ≠ 0) :
    (hermiteEval q0 qd0 (fun k => q0 k + 1 / 2 * durS * qd0 k) 0 u hS).q j ≠ q0 j := by
  have travel : (hermiteEval q0 qd0 (fun k => q0 k + 1 / 2 * durS * qd0 k) 0 u hS).q j - q0 j =
      qd0 j * (u * (1 - u) ^ 2 * hS + u ^ 2 * (3 - 2 * u) * (1 / 2 * durS)) := by
    simp only [hermiteEval, Pi.zero_apply]
    ring
  have rest : 0 < 1 - u := by linarith
  have turn : 0 < 3 - 2 * u := by linarith
  have forward : 0 < u * (1 - u) ^ 2 * hS + u ^ 2 * (3 - 2 * u) * (1 / 2 * durS) := by positivity
  intro same
  rw [same, sub_self] at travel
  exact mul_ne_zero moves forward.ne' travel.symm

/-- Past its start the ramp has left the last knot. -/
theorem plan_sample_moves (ticks : 0 < itpNs itpS) (moving : 0 < maxAbs qdEnd) {tauNs : Int}
    (started : 0 < tauNs) (fits : (plan qEnd qdEnd minBlendS itpS).durNs ≤ kInt64Max) :
    ((plan qEnd qdEnd minBlendS itpS).sample tauNs).q ≠ qEnd := by
  obtain ⟨dur, durS, positive, coast⟩ :=
    plan_dur qEnd minBlendS ticks moving
  obtain ⟨j, moves⟩ := maxAbs_moving moving
  intro same
  have still := congrFun same j
  by_cases beyond : (plan qEnd qdEnd minBlendS itpS).durNs ≤ tauNs
  · rw [sample_over beyond, coast] at still
    have travel : 1 / 2 * durS * qdEnd j = 0 := by linarith
    exact mul_ne_zero (by positivity) moves travel
  · have whole : wrapInt64 ((plan qEnd qdEnd minBlendS itpS).durNs - 0) =
        (plan qEnd qdEnd minBlendS itpS).durNs := by
      rw [sub_zero]
      exact wrapInt64_fits (by simp only [kInt64Min]; omega) fits
    have clock : wrapInt64 (tauNs - 0) = tauNs := by
      rw [sub_zero]
      exact wrapInt64_fits (by simp only [kInt64Min]; omega) (by omega)
    have active : (plan qEnd qdEnd minBlendS itpS).active = true := by
      simp only [plan, if_neg moving.not_ge]
    have ends : (plan qEnd qdEnd minBlendS itpS).qEnd = qEnd ∧
        (plan qEnd qdEnd minBlendS itpS).qdEnd = qdEnd := by
      simp only [plan, if_neg moving.not_ge, and_self]
    rw [sample, if_neg (by rw [active]; simpa using beyond), if_neg (by omega), hermiteAtNs] at still
    simp only [whole, clock, ends] at still
    rw [if_neg (by omega), coast] at still
    have length : (0 : R) < ((plan qEnd qdEnd minBlendS itpS).durNs : R) := by
      exact_mod_cast lt_of_lt_of_le ticks dur
    have early : (tauNs : R) < ((plan qEnd qdEnd minBlendS itpS).durNs : R) := by
      exact_mod_cast not_le.mp beyond
    have begun : (0 : R) < tauNs := by exact_mod_cast started
    exact coast_moves (div_pos begun length) ((div_lt_one length).mpr early)
      (div_pos length (by positivity)) positive moves still

end QdEndBlend

end Blend

end AiroFanuc.TickEngine
