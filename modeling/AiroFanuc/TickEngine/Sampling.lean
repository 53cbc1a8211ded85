import AiroFanuc.TickEngine.Lookup

/-! The sampler over real time: its velocity and acceleration are the derivatives of its
position, wherever a query is evaluated on the segment it lies on. -/

namespace AiroFanuc.TickEngine

open Library

namespace TrajectorySampler

section RealTime

open Topology

variable {s : TrajectorySampler ℝ} {speedScale : ℝ} {i : Nat} {j : Fin kNumJoints} {t : ℝ}

/-- The wire state `t` seconds into the playback. -/
noncomputable def wireAt (s : TrajectorySampler ℝ) (speedScale t : ℝ) : HermiteSample ℝ :=
  s.sampleAt (t * 10 ^ 9) speedScale

noncomputable def queryAt (s : TrajectorySampler ℝ) (speedScale t : ℝ) : ℝ :=
  s.query speedScale (t * 10 ^ 9)

noncomputable def fraction (s : TrajectorySampler ℝ) (speedScale : ℝ) (i : Nat) (t : ℝ) : ℝ :=
  (s.queryAt speedScale t - s.time i) / s.segmentNs i

/-- On the closed segment, up to the ends of the span. -/
structure On (s : TrajectorySampler ℝ) (speedScale : ℝ) (i : Nat) (t : ℝ) : Prop where
  inside : s.Inside (s.queryAt speedScale t)
  low : (s.time i : ℝ) ≤ s.queryAt speedScale t
  high : s.queryAt speedScale t ≤ (s.time (i + 1) : ℝ)

theorem queryAt_continuous (s : TrajectorySampler ℝ) (speedScale : ℝ) :
    Continuous (s.queryAt speedScale) := by
  unfold queryAt query
  fun_prop

theorem Valid.wireAt_within (valid : s.Valid) (regular : s.Regular) (bound : i + 1 < s.n)
    (inside : s.Inside (s.queryAt speedScale t)) (low : (s.time i : ℝ) ≤ s.queryAt speedScale t)
    (high : s.queryAt speedScale t < (s.time (i + 1) : ℝ)) :
    s.wireAt speedScale t = s.evalSegment i (s.fraction speedScale i t) speedScale := by
  have located := valid.regular_located regular inside
  have here := valid.segment_unique bound located.bound low high located.low located.high
  rw [wireAt, valid.sampleAt_inside inside, fraction, here]
  rfl

/-- A segment's cubic gives position and velocity up to both of its knots. -/
theorem Valid.wireAt_on (valid : s.Valid) (regular : s.Regular) (bound : i + 1 < s.n)
    (on : s.On speedScale i t) :
    (s.wireAt speedScale t).q j = (s.piece i j).value (s.fraction speedScale i t) ∧
      (s.wireAt speedScale t).qd j =
        speedScale * (s.piece i j).slope (s.fraction speedScale i t) := by
  rcases on.high.lt_or_eq with before | knot
  · rw [valid.wireAt_within regular bound on.inside on.low before]
    exact ⟨evalSegment_q s i _ _ j, evalSegment_qd s i _ _ j⟩
  · have more : i + 1 < s.n - 1 := by
      by_contra last
      have final : i + 1 = s.n - 1 := by omega
      have beyond := on.inside.2
      rw [knot, final] at beyond
      exact lt_irrefl _ beyond
    have step : s.time i < s.time (i + 1) := valid.time_lt (Nat.lt_succ_self i) bound
    have next : s.time (i + 1) < s.time (i + 2) := valid.time_lt (Nat.lt_succ_self _) (by omega)
    have onward : s.queryAt speedScale t < (s.time (i + 2) : ℝ) := by
      rw [knot]
      exact_mod_cast next
    have whole : (s.time (i + 1) : ℝ) - (s.time i : ℝ) ≠ 0 := by
      rw [sub_ne_zero]
      exact_mod_cast step.ne'
    have ended : s.fraction speedScale i t = 1 := by
      rw [fraction, knot, valid.segmentNs_fits bound (regular.fits i bound), div_self whole]
    have begun : s.fraction speedScale (i + 1) t = 0 := by
      rw [fraction, knot, sub_self, zero_div]
    rw [valid.wireAt_within regular (i := i + 1) (by omega) on.inside knot.ge onward, evalSegment_q,
      evalSegment_qd, ended, begun, Library.Cubic.value_zero, Library.Cubic.slope_zero,
      Library.Cubic.value_one, Library.Cubic.slope_one]
    exact ⟨rfl, rfl⟩

/-- The position is the cubic's up to the ends of the span, where the playback rests. -/
theorem Valid.position_on (valid : s.Valid) (regular : s.Regular) (bound : i + 1 < s.n)
    (low : (s.time i : ℝ) ≤ s.queryAt speedScale t)
    (high : s.queryAt speedScale t ≤ (s.time (i + 1) : ℝ)) :
    (s.wireAt speedScale t).q j = (s.piece i j).value (s.fraction speedScale i t) := by
  have two := valid.two
  have step : s.time i < s.time (i + 1) := valid.time_lt (Nat.lt_succ_self i) bound
  by_cases begun : s.queryAt speedScale t ≤ s.time 0
  · have first : i = 0 := by
      by_contra later
      have ahead : (s.time 0 : ℝ) < s.time i := by
        exact_mod_cast valid.time_lt (Nat.pos_of_ne_zero later) (by omega)
      linarith
    subst first
    have start : s.fraction speedScale 0 t = 0 := by
      rw [fraction, le_antisymm begun low, sub_self, zero_div]
    have rests : s.wireAt speedScale t = .atRest (s.q.getD 0 0) := by
      rw [wireAt, sampleAt, if_neg (by omega), if_neg (by omega), if_pos (by exact begun)]
    rw [rests, start, Library.Cubic.value_zero]
    rfl
  by_cases ended : (s.time (s.n - 1) : ℝ) ≤ s.queryAt speedScale t
  · have last : i + 1 = s.n - 1 := by
      by_contra earlier
      have behind : (s.time (i + 1) : ℝ) < s.time (s.n - 1) := by
        exact_mod_cast valid.time_lt (i := i + 1) (k := s.n - 1) (by omega) (by omega)
      linarith
    have whole : (s.time (i + 1) : ℝ) - (s.time i : ℝ) ≠ 0 := by
      rw [sub_ne_zero]
      exact_mod_cast step.ne'
    have finish : s.queryAt speedScale t = s.time (i + 1) := le_antisymm high (last ▸ ended)
    have goal : s.fraction speedScale i t = 1 := by
      rw [fraction, finish, valid.segmentNs_fits bound (regular.fits i bound), div_self whole]
    have rests : s.wireAt speedScale t = .atRest (s.q.getD (s.n - 1) 0) := by
      rw [wireAt, sampleAt, if_neg (by omega), if_neg (by omega), if_neg (by exact begun),
        if_pos (by exact ended)]
    rw [rests, goal, Library.Cubic.value_one, ← last]
    rfl
  exact (valid.wireAt_on regular bound ⟨⟨not_le.mp begun, not_le.mp ended⟩, low, high⟩).1

/-! One second of wire time is `speedScale` seconds of the trajectory. -/

theorem fraction_deriv (s : TrajectorySampler ℝ) (speedScale : ℝ) (i : Nat) (t : ℝ) :
    HasDerivAt (s.fraction speedScale i) (speedScale * 10 ^ 9 / s.segmentNs i) t := by
  have clock := ((hasDerivAt_id t).mul_const (10 ^ 9)).const_mul speedScale
  have moved := (((clock.const_add (s.time 0 : ℝ)).sub_const (s.time i : ℝ)).div_const
    (s.segmentNs i))
  refine moved.congr_deriv ?_
  ring

theorem Valid.segment_solid (valid : s.Valid) (regular : s.Regular) (bound : i + 1 < s.n) :
    s.segmentNs i ≠ 0 := by
  have step : s.time i < s.time (i + 1) := valid.time_lt (Nat.lt_succ_self i) bound
  rw [valid.segmentNs_fits bound (regular.fits i bound), sub_ne_zero]
  exact_mod_cast step.ne'

theorem Valid.value_deriv (valid : s.Valid) (regular : s.Regular) (bound : i + 1 < s.n) (t : ℝ) :
    HasDerivAt (fun t => (s.piece i j).value (s.fraction speedScale i t))
      (speedScale * (s.piece i j).slope (s.fraction speedScale i t)) t := by
  have solid := valid.segment_solid regular bound
  have curve := (s.piece i j).hasDerivAt_value (div_ne_zero solid (by norm_num))
    (s.fraction speedScale i t)
  refine (curve.comp t (s.fraction_deriv speedScale i t)).congr_deriv ?_
  simp only [piece]
  field_simp

theorem Valid.slope_deriv (valid : s.Valid) (regular : s.Regular) (bound : i + 1 < s.n) (t : ℝ) :
    HasDerivAt (fun t => speedScale * (s.piece i j).slope (s.fraction speedScale i t))
      (speedScale * speedScale * (s.piece i j).bend (s.fraction speedScale i t)) t := by
  have solid := valid.segment_solid regular bound
  have curve := (s.piece i j).hasDerivAt_slope (div_ne_zero solid (by norm_num))
    (s.fraction speedScale i t)
  refine ((curve.comp t (s.fraction_deriv speedScale i t)).const_mul speedScale).congr_deriv ?_
  simp only [piece]
  field_simp

theorem queryAt_le (s : TrajectorySampler ℝ) (forward : 0 < speedScale) {a b : ℝ} (le : a ≤ b) :
    s.queryAt speedScale a ≤ s.queryAt speedScale b := by
  have later : a * 10 ^ 9 ≤ b * 10 ^ 9 := mul_le_mul_of_nonneg_right le (by positivity)
  exact add_le_add_right (mul_le_mul_of_nonneg_left later forward.le) _

theorem inside_eventually (inside : s.Inside (s.queryAt speedScale t)) :
    ∀ᶠ x in 𝓝 t, s.Inside (s.queryAt speedScale x) := by
  have near := (queryAt_continuous s speedScale).continuousAt (x := t)
  exact (near.eventually_const_lt inside.1).and (near.eventually_lt_const inside.2)

/-- From any time inside the span the playback goes on along one cubic. -/
theorem Valid.on_right (valid : s.Valid) (regular : s.Regular) (forward : 0 < speedScale)
    (inside : s.Inside (s.queryAt speedScale t)) :
    ∃ i, i + 1 < s.n ∧ (s.time i : ℝ) ≤ s.queryAt speedScale t ∧
      s.queryAt speedScale t < (s.time (i + 1) : ℝ) ∧
      ∀ᶠ x in 𝓝[Set.Ici t] t, s.On speedScale i x := by
  have located := valid.regular_located regular inside
  refine ⟨_, located.bound, located.low, located.high, ?_⟩
  have near := (queryAt_continuous s speedScale).continuousAt (x := t)
  have short := near.eventually_lt_const located.high
  filter_upwards [nhdsWithin_le_nhds (inside_eventually inside), nhdsWithin_le_nhds short,
    self_mem_nhdsWithin] with x within before after
  exact ⟨within, located.low.trans (queryAt_le s forward after), before.le⟩

/-- And it came along one. -/
theorem Valid.on_left (valid : s.Valid) (regular : s.Regular) (forward : 0 < speedScale)
    (inside : s.Inside (s.queryAt speedScale t)) :
    ∃ i, i + 1 < s.n ∧ (s.time i : ℝ) < s.queryAt speedScale t ∧
      s.queryAt speedScale t ≤ (s.time (i + 1) : ℝ) ∧
      ∀ᶠ x in 𝓝[Set.Iic t] t, s.On speedScale i x := by
  have bracket : ∃ i, i + 1 < s.n ∧ (s.time i : ℝ) < s.queryAt speedScale t ∧
      s.queryAt speedScale t ≤ (s.time (i + 1) : ℝ) := by
    have located := valid.regular_located regular inside
    rcases located.low.lt_or_eq with after | knot
    · exact ⟨_, located.bound, after, located.high.le⟩
    · have bound := located.bound
      generalize s.lookup (s.queryAt speedScale t) = k at *
      obtain ⟨i, rfl⟩ : ∃ i, k = i + 1 := by
        apply Nat.exists_eq_add_one_of_ne_zero
        rintro rfl
        exact absurd inside.1 (by rw [knot]; exact lt_irrefl _)
      have step : s.time i < s.time (i + 1) := valid.time_lt (Nat.lt_succ_self i) (by omega)
      refine ⟨i, by omega, ?_, knot.ge⟩
      rw [← knot]
      exact_mod_cast step
  obtain ⟨i, bound, low, high⟩ := bracket
  refine ⟨i, bound, low, high, ?_⟩
  have near := (queryAt_continuous s speedScale).continuousAt (x := t)
  have long := near.eventually_const_lt low
  filter_upwards [nhdsWithin_le_nhds (inside_eventually inside), nhdsWithin_le_nhds long,
    self_mem_nhdsWithin] with x within after before
  exact ⟨within, after.le, (queryAt_le s forward before).trans high⟩

/-- What is a segment's cubic on one side of a time has its derivative on that side. -/
theorem Valid.side_deriv (valid : s.Valid) (regular : s.Regular) (bound : i + 1 < s.n)
    {side : Set ℝ} (self : t ∈ side) (on : ∀ᶠ x in 𝓝[side] t, s.On speedScale i x)
    (j : Fin kNumJoints) :
    HasDerivWithinAt (fun t => (s.wireAt speedScale t).q j) ((s.wireAt speedScale t).qd j) side t ∧
      HasDerivWithinAt (fun t => (s.wireAt speedScale t).qd j)
        (speedScale * speedScale * (s.piece i j).bend (s.fraction speedScale i t)) side t := by
  have now := valid.wireAt_on regular bound (j := j) (mem_of_mem_nhdsWithin self on)
  have position := on.mono fun x here => (valid.wireAt_on regular bound (j := j) here).1
  have velocity := on.mono fun x here => (valid.wireAt_on regular bound (j := j) here).2
  constructor
  · rw [now.2]
    exact (valid.value_deriv regular bound t).hasDerivWithinAt.congr_of_eventuallyEq position now.1
  · exact (valid.slope_deriv regular bound t).hasDerivWithinAt.congr_of_eventuallyEq velocity now.2

theorem hasDerivAt_of_sides {f : ℝ → ℝ} {slope : ℝ} (left : HasDerivWithinAt f slope (Set.Iic t) t)
    (right : HasDerivWithinAt f slope (Set.Ici t) t) : HasDerivAt f slope t := by
  have both := left.union right
  rwa [Set.Iic_union_Ici, hasDerivWithinAt_univ] at both

/-- The sampling law at one speed scale; the last three fields read the wire time in seconds. -/
structure Law (s : TrajectorySampler ℝ) (speedScale : ℝ) : Prop where
  sampled : ∀ tauNs : Int, s.sample tauNs speedScale = s.sampleAt tauNs speedScale
  /-- Inside the span the query is evaluated on the segment it lies on. -/
  located : ∀ tau, s.Inside (s.query speedScale tau) → s.Located (s.query speedScale tau) ∧
    s.sampleAt tau speedScale = s.evalSegment (s.lookup (s.query speedScale tau))
      (s.parameter (s.query speedScale tau)) speedScale
  knots : ∀ i tau, 0 < i → i + 1 < s.n → s.query speedScale tau = s.time i →
    (s.sampleAt tau speedScale).q = s.q.getD i 0 ∧
      (s.sampleAt tau speedScale).qd = fun j => speedScale * s.qd.getD i 0 j
  before : ∀ tau, s.query speedScale tau ≤ s.time 0 →
    s.sampleAt tau speedScale = .atRest (s.q.getD 0 0)
  after : ∀ tau, s.time (s.n - 1) ≤ s.query speedScale tau →
    s.sampleAt tau speedScale = .atRest s.qLast
  continuous : ∀ j, ContinuousOn (fun t => (s.wireAt speedScale t).q j)
      {t | s.Inside (s.queryAt speedScale t)} ∧
    ContinuousOn (fun t => (s.wireAt speedScale t).qd j) {t | s.Inside (s.queryAt speedScale t)}
  velocity : ∀ j t, s.Inside (s.queryAt speedScale t) →
    HasDerivAt (fun t => (s.wireAt speedScale t).q j) ((s.wireAt speedScale t).qd j) t
  /-- At a knot two cubics meet, and the acceleration is the one of the cubic that begins. -/
  acceleration : ∀ j t, s.Inside (s.queryAt speedScale t) →
    HasDerivWithinAt (fun t => (s.wireAt speedScale t).qd j) ((s.wireAt speedScale t).qdd j)
      (Set.Ici t) t ∧
    ((∀ i, i < s.n → s.queryAt speedScale t ≠ s.time i) →
      HasDerivAt (fun t => (s.wireAt speedScale t).qd j) ((s.wireAt speedScale t).qdd j) t)

theorem Valid.knot_sample (valid : s.Valid) (regular : s.Regular) {tau : ℝ} (fresh : 0 < i)
    (bound : i + 1 < s.n) (knot : s.query speedScale tau = s.time i) :
    (s.sampleAt tau speedScale).q = s.q.getD i 0 ∧
      (s.sampleAt tau speedScale).qd = fun j => speedScale * s.qd.getD i 0 j := by
  have first := valid.time_lt fresh (by omega)
  have last := valid.time_lt (i := i) (k := s.n - 1) (by omega) (by omega)
  have step : s.time i < s.time (i + 1) := valid.time_lt (Nat.lt_succ_self i) bound
  have inside : s.Inside (s.query speedScale tau) := by
    rw [knot]
    exact ⟨by exact_mod_cast first, by exact_mod_cast last⟩
  have located := valid.regular_located regular inside
  have onward : s.query speedScale tau < (s.time (i + 1) : ℝ) := by
    rw [knot]
    exact_mod_cast step
  have here := valid.segment_unique bound located.bound knot.ge onward located.low located.high
  have begun : s.parameter (s.query speedScale tau) = 0 := by
    rw [parameter, ← here, knot, sub_self, zero_div]
  rw [valid.sampleAt_inside inside, begun, ← here]
  constructor
  · funext j
    rw [evalSegment_q, Library.Cubic.value_zero]
    rfl
  · funext j
    rw [evalSegment_qd, Library.Cubic.slope_zero]
    rfl

theorem Valid.position_deriv (valid : s.Valid) (regular : s.Regular) (forward : 0 < speedScale)
    (inside : s.Inside (s.queryAt speedScale t)) (j : Fin kNumJoints) :
    HasDerivAt (fun t => (s.wireAt speedScale t).q j) ((s.wireAt speedScale t).qd j) t := by
  obtain ⟨i, bound, -, -, on⟩ := valid.on_left regular forward inside
  obtain ⟨k, bound', -, -, on'⟩ := valid.on_right regular forward inside
  exact hasDerivAt_of_sides (valid.side_deriv regular bound Set.self_mem_Iic on j).1
    (valid.side_deriv regular bound' Set.self_mem_Ici on' j).1

theorem Valid.velocity_continuousAt (valid : s.Valid) (regular : s.Regular)
    (forward : 0 < speedScale) (inside : s.Inside (s.queryAt speedScale t)) (j : Fin kNumJoints) :
    ContinuousAt (fun t => (s.wireAt speedScale t).qd j) t := by
  obtain ⟨i, bound, -, -, on⟩ := valid.on_left regular forward inside
  obtain ⟨k, bound', -, -, on'⟩ := valid.on_right regular forward inside
  apply continuousAt_iff_continuous_left_right.mpr
  exact ⟨(valid.side_deriv regular bound Set.self_mem_Iic on j).2.continuousWithinAt,
    (valid.side_deriv regular bound' Set.self_mem_Ici on' j).2.continuousWithinAt⟩

theorem Valid.velocity_deriv (valid : s.Valid) (regular : s.Regular) (forward : 0 < speedScale)
    (inside : s.Inside (s.queryAt speedScale t)) (j : Fin kNumJoints) :
    HasDerivWithinAt (fun t => (s.wireAt speedScale t).qd j) ((s.wireAt speedScale t).qdd j)
      (Set.Ici t) t ∧
    ((∀ i, i < s.n → s.queryAt speedScale t ≠ s.time i) →
      HasDerivAt (fun t => (s.wireAt speedScale t).qd j) ((s.wireAt speedScale t).qdd j) t) := by
  obtain ⟨i, bound, low, high, on⟩ := valid.on_right regular forward inside
  have now : (s.wireAt speedScale t).qdd j =
      speedScale * speedScale * (s.piece i j).bend (s.fraction speedScale i t) := by
    rw [valid.wireAt_within regular bound inside low high, evalSegment_qdd]
  rw [now]
  have right := (valid.side_deriv regular bound Set.self_mem_Ici on j).2
  refine ⟨right, fun apart => ?_⟩
  obtain ⟨k, bound', low', high', on'⟩ := valid.on_left regular forward inside
  have before : s.queryAt speedScale t < (s.time (k + 1) : ℝ) :=
    lt_of_le_of_ne high' (apart _ bound')
  rw [← valid.segment_unique bound bound' low high low'.le before] at on'
  exact hasDerivAt_of_sides (valid.side_deriv regular bound Set.self_mem_Iic on' j).2 right

theorem Valid.law (valid : s.Valid) (regular : s.Regular) (forward : 0 < speedScale) :
    s.Law speedScale where
  sampled := fun tauNs => sample_sampleAt valid.two tauNs speedScale
  located := fun _ inside => ⟨valid.regular_located regular inside, valid.sampleAt_inside inside⟩
  knots := fun _ _ fresh bound knot => valid.knot_sample regular fresh bound knot
  before := by
    intro tau early
    have two := valid.two
    rw [sampleAt, if_neg (by omega), if_neg (by omega), if_pos early]
  after := by
    intro tau late
    have two := valid.two
    have first : (s.time 0 : ℝ) < (s.time (s.n - 1) : ℝ) := by
      exact_mod_cast valid.time_lt (i := 0) (k := s.n - 1) (by omega) (by omega)
    rw [sampleAt, if_neg (by omega), if_neg (by omega), if_neg (not_le.mpr (first.trans_le late)),
      if_pos late]
    rfl
  continuous := fun j =>
    ⟨fun _ inside =>
        (valid.position_deriv regular forward inside j).continuousAt.continuousWithinAt,
      fun _ inside =>
        (valid.velocity_continuousAt regular forward inside j).continuousWithinAt⟩
  velocity := fun j _ inside => valid.position_deriv regular forward inside j
  acceleration := fun j _ inside => valid.velocity_deriv regular forward inside j

/-- A query inside the span goes to its own segment unless it stands in the nanosecond before an
interior knot at no positive time, or on a segment longer than 64 bits hold; so the whole law
holds exactly if there is no such knot and no such segment. -/
theorem sampling_law_iff (s : TrajectorySampler ℝ) (valid : s.Valid) (speedScale : ℝ)
    (forward : 0 < speedScale) :
    (∀ tau, s.Inside (s.query speedScale tau) → (s.Located (s.query speedScale tau) ↔
      ¬ s.Early (s.query speedScale tau) ∧ s.Spanned (s.query speedScale tau))) ∧
    (s.Law speedScale ↔ s.Regular) := by
  refine ⟨fun tau inside => valid.located_iff inside, ?_, fun regular => valid.law regular forward⟩
  intro law
  apply valid.regular_of_located
  intro query inside
  have reached : s.query speedScale ((query - s.time 0) / speedScale) = query := by
    rw [TrajectorySampler.query, mul_div_cancel₀ _ forward.ne']
    ring
  have located := (law.located ((query - s.time 0) / speedScale) (by rwa [reached])).1
  rwa [reached] at located

/-- Up and back, three seconds in all. -/
def upAndBack : TrajectorySampler ℝ :=
  ⟨[0, 1000000000, 3000000000], [0, 1, 0], [0, 0, 0], 3⟩

theorem upAndBack_valid : upAndBack.Valid :=
  ⟨by decide, rfl, by decide, by decide⟩

theorem sampling_law_iff_upAndBack : upAndBack.Law (1 / 2) := by
  refine (sampling_law_iff upAndBack upAndBack_valid (1 / 2) (by norm_num)).2.mpr ⟨?_, ?_⟩
  · intro i fresh bound
    have one : i = 1 := by
      have more : i + 1 < 3 := bound
      omega
    rw [one]
    decide
  · intro i bound
    have early : i = 0 ∨ i = 1 := by
      have more : i + 1 < 3 := bound
      omega
    rcases early with rfl | rfl <;> decide

/-- Two microseconds around the time zero. -/
def aroundZero : TrajectorySampler ℝ := ⟨[-1000, 0, 1000], [0, 1, 0], [0, 0, 0], 3⟩

theorem aroundZero_valid : aroundZero.Valid :=
  ⟨by decide, rfl, by decide, by decide⟩

/-- Half a nanosecond before its middle knot, at half speed, the path is evaluated on the segment
behind that knot. -/
theorem query_before_zero_is_looked_up_late : ∃ tauNs : Int, tauNs = 1999 ∧
    aroundZero.Inside (aroundZero.query (1 / 2) tauNs) ∧
    aroundZero.query (1 / 2) tauNs <
      aroundZero.time (aroundZero.lookup (aroundZero.query (1 / 2) tauNs)) ∧
    ¬ aroundZero.Law (1 / 2) := by
  have stands : aroundZero.query (1 / 2) ((1999 : Int) : ℝ) = -1 / 2 := by
    simp only [query, aroundZero, time]
    norm_num
  have inside : aroundZero.Inside (aroundZero.query (1 / 2) ((1999 : Int) : ℝ)) := by
    rw [stands]
    simp only [Inside, aroundZero, time]
    norm_num
  have early : aroundZero.Early (aroundZero.query (1 / 2) ((1999 : Int) : ℝ)) := by
    refine ⟨1, by decide, by decide, by decide, ?_⟩
    rw [stands]
    simp only [aroundZero, time]
    norm_num
  have late := aroundZero_valid.early_lookup early
  refine ⟨1999, rfl, inside, late, fun law => ?_⟩
  exact absurd (law.located _ inside).1.low (not_le.mpr late)

end RealTime

end TrajectorySampler

end AiroFanuc.TickEngine
