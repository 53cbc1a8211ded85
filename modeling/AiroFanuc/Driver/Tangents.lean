import AiroFanuc.TickEngine.Curve

/-! The knot velocities the driver derives for a path of positions and times, and the curve the
core plays through them. -/

namespace AiroFanuc.Driver

open TickEngine Library

section Derive

variable {R : Type} [Field R] [LinearOrder R]

/-- The weighted harmonic mean of the secants on both sides of a knot, zero where they turn. -/
def tangent (hLeft hRight dLeft dRight : R) : R :=
  let turning : Bool := decide (0 < dLeft * dRight)
  let wLeft := 2 * hRight + hLeft
  let wRight := hRight + 2 * hLeft
  let whmean := (wLeft / (if turning then dLeft else 1) +
    wRight / (if turning then dRight else 1)) / (wLeft + wRight)
  if turning then 1 / whmean else 0

/-- `np.diff(t_s)`. -/
def spacing (timesNs : List Int) (i : Nat) : R :=
  (timesNs.getD (i + 1) 0 : R) * (1 / 10 ^ 9) - (timesNs.getD i 0 : R) * (1 / 10 ^ 9)

/-- `np.diff(q, axis=0) / h`. -/
def secant (timesNs : List Int) (q : List (Vec6 R)) (i : Nat) : Vec6 R :=
  fun j => (q.getD (i + 1) 0 j - q.getD i 0 j) / spacing timesNs i

def knotVelocities (timesNs : List Int) (q : List (Vec6 R)) : List (Vec6 R) :=
  (List.range q.length).map fun i j =>
    if q.length < 3 then 0
    else if i = 0 ∨ i + 1 = q.length then 0
    else tangent (spacing timesNs (i - 1)) (spacing timesNs i) (secant timesNs q (i - 1) j)
      (secant timesNs q i j)

/-- A path without velocities, as the sampler is bound to it. -/
def derived (timesNs : List Int) (q : List (Vec6 R)) : TrajectorySampler R :=
  .bind timesNs q (knotVelocities timesNs q) q.length

end Derive

/-! ### One tangent -/

section Tangent

variable {R : Type} [Field R] [LinearOrder R] [IsStrictOrderedRing R]
  {hLeft hRight dLeft dRight v : R}

omit [IsStrictOrderedRing R] in
theorem tangent_turning (turns : ¬ 0 < dLeft * dRight) : tangent hLeft hRight dLeft dRight = 0 := by
  simp only [tangent, turns, decide_false, Bool.false_eq_true, if_false]

omit [IsStrictOrderedRing R] in
theorem tangent_eq (onward : 0 < dLeft * dRight) : tangent hLeft hRight dLeft dRight =
    (3 * (hLeft + hRight)) / ((2 * hRight + hLeft) / dLeft + (hRight + 2 * hLeft) / dRight) := by
  have weights : 2 * hRight + hLeft + (hRight + 2 * hLeft) = 3 * (hLeft + hRight) := by ring
  simp only [tangent, onward, decide_true, if_true, weights, one_div, inv_div]

omit [IsStrictOrderedRing R] in
theorem tangent_neg : tangent hLeft hRight (-dLeft) (-dRight) =
    -tangent hLeft hRight dLeft dRight := by
  by_cases onward : 0 < dLeft * dRight
  · have onward' : 0 < -dLeft * -dRight := by rwa [neg_mul_neg]
    rw [tangent_eq onward, tangent_eq onward', div_neg, div_neg, ← neg_add, div_neg]
  · have turns : ¬ 0 < -dLeft * -dRight := by rwa [neg_mul_neg]
    rw [tangent_turning onward, tangent_turning turns, neg_zero]

/-- Each side's weight is at least half of both, so the mean is at most three times either
secant. -/
theorem tangent_rising (left : 0 < hLeft) (right : 0 < hRight) (up : 0 < dLeft) (up' : 0 < dRight) :
    0 < tangent hLeft hRight dLeft dRight ∧ tangent hLeft hRight dLeft dRight ≤ 3 * dLeft ∧
      tangent hLeft hRight dLeft dRight ≤ 3 * dRight := by
  have weights : 0 < (2 * hRight + hLeft) / dLeft + (hRight + 2 * hLeft) / dRight := by positivity
  rw [tangent_eq (mul_pos up up'), div_le_iff₀ weights, div_le_iff₀ weights]
  have expandLeft : 3 * dLeft * ((2 * hRight + hLeft) / dLeft + (hRight + 2 * hLeft) / dRight) =
      3 * (2 * hRight + hLeft) + 3 * (dLeft * (hRight + 2 * hLeft) / dRight) := by
    field_simp
  have expandRight : 3 * dRight * ((2 * hRight + hLeft) / dLeft + (hRight + 2 * hLeft) / dRight) =
      3 * (dRight * (2 * hRight + hLeft) / dLeft) + 3 * (hRight + 2 * hLeft) := by
    field_simp
  have moreLeft : 0 < dLeft * (hRight + 2 * hLeft) / dRight := by positivity
  have moreRight : 0 < dRight * (2 * hRight + hLeft) / dLeft := by positivity
  refine ⟨by positivity, ?_, ?_⟩
  · rw [expandLeft]
    linarith
  · rw [expandRight]
    linarith

/-- What is between zero and three times both secants, strictly if they agree. -/
structure Tame (dLeft dRight v : R) : Prop where
  sign : 0 < dLeft * dRight → 0 < v * dLeft ∧ 0 < v * dRight
  turn : ¬ 0 < dLeft * dRight → v = 0
  left : v ∈ Set.uIcc 0 (3 * dLeft)
  right : v ∈ Set.uIcc 0 (3 * dRight)

theorem tangent_tame (left : 0 < hLeft) (right : 0 < hRight) (dLeft dRight : R) :
    Tame dLeft dRight (tangent hLeft hRight dLeft dRight) := by
  by_cases onward : 0 < dLeft * dRight
  swap
  · rw [tangent_turning onward]
    exact ⟨fun agree => absurd agree onward, fun _ => rfl, Set.left_mem_uIcc, Set.left_mem_uIcc⟩
  rcases mul_pos_iff.mp onward with ⟨up, up'⟩ | ⟨down, down'⟩
  · obtain ⟨positive, belowLeft, belowRight⟩ := tangent_rising left right up up'
    refine ⟨fun _ => ⟨mul_pos positive up, mul_pos positive up'⟩, fun turns => absurd onward turns,
      ?_, ?_⟩
    · exact Set.mem_uIcc.mpr (.inl ⟨positive.le, belowLeft⟩)
    · exact Set.mem_uIcc.mpr (.inl ⟨positive.le, belowRight⟩)
  · obtain ⟨negative, aboveLeft, aboveRight⟩ :=
      tangent_rising left right (neg_pos.mpr down) (neg_pos.mpr down')
    rw [tangent_neg] at negative aboveLeft aboveRight
    have falls := neg_pos.mp negative
    refine ⟨fun _ => ⟨mul_pos_of_neg_of_neg falls down, mul_pos_of_neg_of_neg falls down'⟩,
      fun turns => absurd onward turns, ?_, ?_⟩
    · exact Set.mem_uIcc.mpr (.inr ⟨by linarith, falls.le⟩)
    · exact Set.mem_uIcc.mpr (.inr ⟨by linarith, falls.le⟩)

theorem Tame.abs_le (tame : Tame dLeft dRight v) : |v| ≤ 3 * min |dLeft| |dRight| := by
  have within (d : R) (between : v ∈ Set.uIcc 0 (3 * d)) : |v| ≤ 3 * |d| := by
    have near := Set.abs_sub_left_of_mem_uIcc between
    rwa [sub_zero, sub_zero, abs_mul, abs_of_pos (by norm_num : (0 : R) < 3)] at near
  rcases min_choice |dLeft| |dRight| with least | least <;> rw [least]
  · exact within dLeft tame.left
  · exact within dRight tame.right

end Tangent

/-! ### The tangents of a path -/

section Path

variable {R : Type} [Field R] [LinearOrder R] [IsStrictOrderedRing R] {timesNs : List Int}
  {q : List (Vec6 R)}

omit [IsStrictOrderedRing R] in
theorem knotVelocities_getD {i : Nat} (bound : i < q.length) (j : Fin kNumJoints) :
    (knotVelocities timesNs q).getD i 0 j =
      if q.length < 3 then 0
      else if i = 0 ∨ i + 1 = q.length then 0
      else tangent (spacing timesNs (i - 1)) (spacing timesNs i) (secant timesNs q (i - 1) j)
        (secant timesNs q i j) := by
  simp only [knotVelocities, List.getD_eq_getElem?_getD, List.getElem?_map,
    List.getElem?_range bound, Option.map_some, Option.getD_some]

omit [IsStrictOrderedRing R] in
/-- Both ends are at rest. -/
theorem knotVelocities_end {i : Nat} (bound : i < q.length) (ends : i = 0 ∨ i + 1 = q.length)
    (j : Fin kNumJoints) : (knotVelocities timesNs q).getD i 0 j = 0 := by
  rw [knotVelocities_getD bound, if_pos ends, ite_self]

theorem spacing_eq (timesNs : List Int) (i : Nat) : (spacing timesNs i : R) =
    ((timesNs.getD (i + 1) 0 - timesNs.getD i 0 : Int) : R) / 10 ^ 9 := by
  rw [spacing, Int.cast_sub]
  ring

theorem knotVelocities_inner (spaced : ∀ i, i + 1 < q.length → (0 : R) < spacing timesNs i) {i : Nat}
    (fresh : 0 < i) (bound : i + 1 < q.length) (j : Fin kNumJoints) :
    Tame (secant timesNs q (i - 1) j) (secant timesNs q i j)
      ((knotVelocities timesNs q).getD i 0 j) := by
  have least : ¬ q.length < 3 := by omega
  have inner : ¬ (i = 0 ∨ i + 1 = q.length) := by omega
  rw [knotVelocities_getD (by omega), if_neg least, if_neg inner]
  exact tangent_tame (spaced _ (by omega)) (spaced _ bound) _ _

/-- No knot velocity is against the secant beside it, or steeper than three times. -/
theorem knotVelocities_beside (spaced : ∀ i, i + 1 < q.length → (0 : R) < spacing timesNs i)
    {i : Nat} (bound : i + 1 < q.length) (j : Fin kNumJoints) :
    (knotVelocities timesNs q).getD i 0 j ∈ Set.uIcc 0 (3 * secant timesNs q i j) ∧
      (knotVelocities timesNs q).getD (i + 1) 0 j ∈ Set.uIcc 0 (3 * secant timesNs q i j) := by
  constructor
  · rcases Nat.eq_zero_or_pos i with rfl | fresh
    · rw [knotVelocities_end (by omega) (.inl rfl)]
      exact Set.left_mem_uIcc
    · exact (knotVelocities_inner spaced fresh bound j).right
  · rcases Nat.lt_or_ge (i + 2) q.length with inner | last
    · have tame := knotVelocities_inner spaced (i := i + 1) (by omega) inner j
      exact tame.left
    · rw [knotVelocities_end bound (.inr (by omega))]
      exact Set.left_mem_uIcc

end Path

/-! ### The curve -/

section Curve

variable {timesNs : List Int} {q : List (Vec6 ℝ)} {i : Nat} {j : Fin kNumJoints}

/-- The seconds after its start at which the path is at a knot. -/
noncomputable def knotAt (timesNs : List Int) (i : Nat) : ℝ :=
  ((timesNs.getD i 0 - timesNs.getD 0 0 : Int) : ℝ) / 10 ^ 9

/-- The curve the core plays through the knots at speed scale 1. -/
noncomputable def curve (timesNs : List Int) (q : List (Vec6 ℝ)) (t : ℝ) : HermiteSample ℝ :=
  (derived timesNs q).fromZero.wireAt 1 t

/-- What the derived velocities make of a path. -/
structure PlaysMonotone (timesNs : List Int) (q : List (Vec6 ℝ)) : Prop where
  /-- Every sample is a point of the curve. -/
  sampled : ∀ tauNs : Int, (derived timesNs q).sample tauNs 1 = curve timesNs q (tauNs / 10 ^ 9)
  monotone : ∀ i j, i + 1 < q.length →
    MonotoneOn (fun t => (curve timesNs q t).q j)
        (Set.Icc (knotAt timesNs i) (knotAt timesNs (i + 1))) ∨
      AntitoneOn (fun t => (curve timesNs q t).q j)
        (Set.Icc (knotAt timesNs i) (knotAt timesNs (i + 1)))
  inside : ∀ i j, i + 1 < q.length → ∀ t ∈ Set.Icc (knotAt timesNs i) (knotAt timesNs (i + 1)),
    (curve timesNs q t).q j ∈ Set.uIcc (q.getD i 0 j) (q.getD (i + 1) 0 j)
  passes : ∀ i, i < q.length → (curve timesNs q (knotAt timesNs i)).q = q.getD i 0
  rests : ∀ i, i = 0 ∨ i + 1 = q.length →
    (curve timesNs q (knotAt timesNs i)).qd = 0 ∧ (knotVelocities timesNs q).getD i 0 = 0
  smooth : ∀ i j, 0 < i → i + 1 < q.length →
    ContinuousAt (fun t => (curve timesNs q t).qd j) (knotAt timesNs i) ∧
      (curve timesNs q (knotAt timesNs i)).qd = (knotVelocities timesNs q).getD i 0
  sign : ∀ i j, 0 < i → i + 1 < q.length →
    (0 < secant timesNs q (i - 1) j * secant timesNs q i j →
      0 < (knotVelocities timesNs q).getD i 0 j * secant timesNs q (i - 1) j ∧
        0 < (knotVelocities timesNs q).getD i 0 j * secant timesNs q i j) ∧
    (secant timesNs q (i - 1) j * secant timesNs q i j ≤ 0 →
      (knotVelocities timesNs q).getD i 0 j = 0)
  size : ∀ i j, 0 < i → i + 1 < q.length → |(knotVelocities timesNs q).getD i 0 j| ≤
    3 * min |secant timesNs q (i - 1) j| |secant timesNs q i j|

theorem spacing_pos (valid : (derived timesNs q).Valid) (bound : i + 1 < q.length) :
    (0 : ℝ) < spacing timesNs i := by
  have step := valid.time_lt (Nat.lt_succ_self i) bound
  rw [spacing_eq]
  have positive : 0 < timesNs.getD (i + 1) 0 - timesNs.getD i 0 := sub_pos.mpr step
  have whole : (0 : ℝ) < ((timesNs.getD (i + 1) 0 - timesNs.getD i 0 : Int) : ℝ) := by
    exact_mod_cast positive
  positivity

/-- A segment is as long on the curve as between its knots. -/
theorem segment_length (valid : (derived timesNs q).Valid)
    (exact : (derived timesNs q).spanNs ≤ kInt64Max) (bound : i + 1 < q.length) :
    (derived timesNs q).fromZero.segmentNs i / 10 ^ 9 = (spacing timesNs i : ℝ) := by
  obtain ⟨valid', regular⟩ := valid.fromZero_valid exact
  have early : i < (derived timesNs q).n := by
    exact (Nat.lt_succ_self i).trans bound
  rw [valid'.segmentNs_fits bound (regular.fits i bound), valid.fromZero_time bound,
    valid.fromZero_time early, spacing_eq]
  simp only [TrajectorySampler.time, derived, TrajectorySampler.bind]
  push_cast
  ring

theorem piece_secant (valid : (derived timesNs q).Valid)
    (exact : (derived timesNs q).spanNs ≤ kInt64Max) (bound : i + 1 < q.length) :
    ((derived timesNs q).fromZero.piece i j).secant = secant timesNs q i j := by
  have long := segment_length valid exact bound
  simp only [Library.Cubic.secant, TrajectorySampler.piece, long]
  rfl

/-- Between two knots the time on the curve runs once through the segment. -/
theorem query_knotAt (valid : (derived timesNs q).Valid) (bound : i < q.length) :
    (derived timesNs q).fromZero.queryAt 1 (knotAt timesNs i) =
      (derived timesNs q).fromZero.time i := by
  have two := valid.two
  rw [TrajectorySampler.queryAt, TrajectorySampler.query, valid.fromZero_time (by omega),
    valid.fromZero_time bound, sub_self, knotAt]
  simp only [TrajectorySampler.time, derived, TrajectorySampler.bind]
  push_cast
  ring

theorem curve_position (valid : (derived timesNs q).Valid)
    (exact : (derived timesNs q).spanNs ≤ kInt64Max) (bound : i + 1 < q.length) {t : ℝ}
    (inside : t ∈ Set.Icc (knotAt timesNs i) (knotAt timesNs (i + 1))) :
    (curve timesNs q t).q j = ((derived timesNs q).fromZero.piece i j).value
      ((derived timesNs q).fromZero.fraction 1 i t) := by
  obtain ⟨valid', regular⟩ := valid.fromZero_valid exact
  have low := TrajectorySampler.queryAt_le (derived timesNs q).fromZero one_pos inside.1
  have high := TrajectorySampler.queryAt_le (derived timesNs q).fromZero one_pos inside.2
  rw [query_knotAt valid (by omega)] at low
  rw [query_knotAt valid bound] at high
  exact valid'.position_on regular bound low high

theorem fraction_mono (valid : (derived timesNs q).Valid)
    (exact : (derived timesNs q).spanNs ≤ kInt64Max) (bound : i + 1 < q.length) {a b : ℝ}
    (le : a ≤ b) : (derived timesNs q).fromZero.fraction 1 i a ≤
      (derived timesNs q).fromZero.fraction 1 i b := by
  have later := TrajectorySampler.queryAt_le (derived timesNs q).fromZero one_pos le
  have long : 0 < (derived timesNs q).fromZero.segmentNs i / 10 ^ 9 := by
    rw [segment_length valid exact bound]
    exact spacing_pos valid bound
  have positive : 0 < (derived timesNs q).fromZero.segmentNs i := by
    rwa [div_pos_iff_of_pos_right (by positivity)] at long
  exact div_le_div_of_nonneg_right (sub_le_sub_right later _) positive.le

theorem fraction_mem (valid : (derived timesNs q).Valid)
    (exact : (derived timesNs q).spanNs ≤ kInt64Max) (bound : i + 1 < q.length) {t : ℝ}
    (inside : t ∈ Set.Icc (knotAt timesNs i) (knotAt timesNs (i + 1))) :
    (derived timesNs q).fromZero.fraction 1 i t ∈ Set.Icc 0 1 := by
  obtain ⟨valid', regular⟩ := valid.fromZero_valid exact
  have begun : (derived timesNs q).fromZero.fraction 1 i (knotAt timesNs i) = 0 := by
    rw [TrajectorySampler.fraction, query_knotAt valid (by omega), sub_self, zero_div]
  have ended : (derived timesNs q).fromZero.fraction 1 i (knotAt timesNs (i + 1)) = 1 := by
    have solid := valid'.segment_solid regular bound
    rw [TrajectorySampler.fraction, query_knotAt valid bound]
    rw [valid'.segmentNs_fits bound (regular.fits i bound)] at solid ⊢
    exact div_self solid
  exact ⟨begun.ge.trans (fraction_mono valid exact bound inside.1),
    (fraction_mono valid exact bound inside.2).trans ended.le⟩

/-- With these tangents the cubic of a segment does not turn. -/
theorem piece_unturned (valid : (derived timesNs q).Valid)
    (exact : (derived timesNs q).spanNs ≤ kInt64Max) (bound : i + 1 < q.length) :
    MonotoneOn ((derived timesNs q).fromZero.piece i j).value (Set.Icc 0 1) ∨
      AntitoneOn ((derived timesNs q).fromZero.piece i j).value (Set.Icc 0 1) := by
  have beside := knotVelocities_beside
    (fun i bound => spacing_pos valid bound) bound j
  apply Library.Cubic.monotone_or_antitone
  · have long := segment_length valid exact bound
    simp only [TrajectorySampler.piece, long]
    exact spacing_pos valid bound
  · rw [piece_secant valid exact bound]
    exact beside.1
  · rw [piece_secant valid exact bound]
    exact beside.2

theorem knotAt_mem (valid : (derived timesNs q).Valid) (bound : i + 1 < q.length) :
    knotAt timesNs i ∈ Set.Icc (knotAt timesNs i) (knotAt timesNs (i + 1)) ∧
      knotAt timesNs (i + 1) ∈ Set.Icc (knotAt timesNs i) (knotAt timesNs (i + 1)) := by
  have step := valid.time_lt (Nat.lt_succ_self i) bound
  have le : knotAt timesNs i ≤ knotAt timesNs (i + 1) := by
    apply div_le_div_of_nonneg_right _ (by positivity)
    exact_mod_cast sub_le_sub_right step.le _
  exact ⟨⟨le_rfl, le⟩, ⟨le, le_rfl⟩⟩

theorem curve_knot (valid : (derived timesNs q).Valid)
    (exact : (derived timesNs q).spanNs ≤ kInt64Max) (bound : i < q.length) :
    (curve timesNs q (knotAt timesNs i)).q = q.getD i 0 := by
  have two := valid.two
  obtain ⟨valid', regular⟩ := valid.fromZero_valid exact
  have many : 2 ≤ q.length := two
  funext j
  rcases Nat.lt_or_ge (i + 1) q.length with inner | last
  · have start : (derived timesNs q).fromZero.fraction 1 i (knotAt timesNs i) = 0 := by
      rw [TrajectorySampler.fraction, query_knotAt valid bound, sub_self, zero_div]
    rw [curve_position valid exact inner (knotAt_mem valid inner).1, start, Library.Cubic.value_zero]
    rfl
  · obtain ⟨k, rfl⟩ : ∃ k, i = k + 1 := ⟨i - 1, by omega⟩
    have goal : (derived timesNs q).fromZero.fraction 1 k (knotAt timesNs (k + 1)) = 1 := by
      have solid := valid'.segment_solid regular bound
      rw [TrajectorySampler.fraction, query_knotAt valid bound]
      rw [valid'.segmentNs_fits bound (regular.fits k bound)] at solid ⊢
      exact div_self solid
    rw [curve_position valid exact bound (knotAt_mem valid bound).2, goal, Library.Cubic.value_one]
    rfl

theorem knotAt_inside (valid : (derived timesNs q).Valid) (fresh : 0 < i)
    (bound : i + 1 < q.length) : (derived timesNs q).fromZero.Inside
      ((derived timesNs q).fromZero.queryAt 1 (knotAt timesNs i)) := by
  have many : (derived timesNs q).n = q.length := rfl
  have before := valid.time_lt fresh (by omega)
  have after := valid.time_lt (i := i) (k := q.length - 1) (by omega) (by omega)
  rw [query_knotAt valid (by omega), TrajectorySampler.Inside]
  have same : (derived timesNs q).fromZero.n = q.length := rfl
  rw [same, valid.fromZero_time (by omega), valid.fromZero_time (by omega),
    valid.fromZero_time (by omega), Int.cast_lt, Int.cast_lt]
  omega

theorem curve_monotone (valid : (derived timesNs q).Valid)
    (exact : (derived timesNs q).spanNs ≤ kInt64Max) (bound : i + 1 < q.length) :
    MonotoneOn (fun t => (curve timesNs q t).q j)
        (Set.Icc (knotAt timesNs i) (knotAt timesNs (i + 1))) ∨
      AntitoneOn (fun t => (curve timesNs q t).q j)
        (Set.Icc (knotAt timesNs i) (knotAt timesNs (i + 1))) := by
  have moves : MonotoneOn ((derived timesNs q).fromZero.fraction 1 i)
      (Set.Icc (knotAt timesNs i) (knotAt timesNs (i + 1))) :=
    fun _ _ _ _ le => fraction_mono valid exact bound le
  have maps : Set.MapsTo ((derived timesNs q).fromZero.fraction 1 i)
      (Set.Icc (knotAt timesNs i) (knotAt timesNs (i + 1))) (Set.Icc 0 1) :=
    fun _ inside => fraction_mem valid exact bound inside
  rcases piece_unturned (j := j) valid exact bound with rising | falling
  · exact .inl ((rising.comp moves maps).congr fun t inside =>
      (curve_position valid exact bound inside).symm)
  · exact .inr ((falling.comp_MonotoneOn moves maps).congr fun t inside =>
      (curve_position valid exact bound inside).symm)

theorem curve_between (valid : (derived timesNs q).Valid)
    (exact : (derived timesNs q).spanNs ≤ kInt64Max) (bound : i + 1 < q.length) {t : ℝ}
    (inside : t ∈ Set.Icc (knotAt timesNs i) (knotAt timesNs (i + 1))) :
    (curve timesNs q t).q j ∈ Set.uIcc (q.getD i 0 j) (q.getD (i + 1) 0 j) := by
  have start := congrFun (curve_knot valid exact (i := i) (by omega)) j
  have goal := congrFun (curve_knot valid exact bound) j
  have ends := knotAt_mem valid bound
  rw [← start, ← goal]
  rcases curve_monotone (j := j) valid exact bound with rising | falling
  · exact Set.mem_uIcc.mpr (.inl ⟨rising ends.1 inside inside.1, rising inside ends.2 inside.2⟩)
  · exact Set.mem_uIcc.mpr (.inr ⟨falling inside ends.2 inside.2, falling ends.1 inside inside.1⟩)

theorem curve_rests (valid : (derived timesNs q).Valid)
    (exact : (derived timesNs q).spanNs ≤ kInt64Max) (ends : i = 0 ∨ i + 1 = q.length) :
    (curve timesNs q (knotAt timesNs i)).qd = 0 := by
  have two : 2 ≤ q.length := valid.two
  have valid' := (valid.fromZero_valid exact).1
  have many : (derived timesNs q).fromZero.n = q.length := rfl
  have stands := query_knotAt (i := i) valid (by omega)
  rw [curve, TrajectorySampler.wireAt, TrajectorySampler.sampleAt, if_neg (by omega),
    if_neg (by omega)]
  rcases ends with rfl | last
  · rw [if_pos (by exact stands.le)]
    rfl
  · have final : (derived timesNs q).fromZero.n - 1 = i := by omega
    have later : ((derived timesNs q).fromZero.time 0 : ℝ) < (derived timesNs q).fromZero.time i := by
      exact_mod_cast valid'.time_lt (i := 0) (k := i) (by omega) (by omega)
    rw [if_neg (by exact not_le.mpr (later.trans_le stands.ge)), final,
      if_pos (by exact stands.ge)]
    rfl

theorem curve_smooth (valid : (derived timesNs q).Valid)
    (exact : (derived timesNs q).spanNs ≤ kInt64Max) (fresh : 0 < i) (bound : i + 1 < q.length)
    (j : Fin kNumJoints) :
    ContinuousAt (fun t => (curve timesNs q t).qd j) (knotAt timesNs i) ∧
      (curve timesNs q (knotAt timesNs i)).qd = (knotVelocities timesNs q).getD i 0 := by
  obtain ⟨valid', regular⟩ := valid.fromZero_valid exact
  have inside := knotAt_inside valid fresh bound
  refine ⟨valid'.velocity_continuousAt regular one_pos inside j, ?_⟩
  have sampled := (valid'.knot_sample regular fresh bound (query_knotAt valid (by omega))).2
  funext k
  have here := congrFun sampled k
  rw [one_mul] at here
  exact here

/-- The derived velocities make every path one that is played through its knots, turning at
none but them. -/
theorem derived_tangents_play_monotone (timesNs : List Int) (q : List (Vec6 ℝ))
    (two : 2 ≤ q.length) (timed : timesNs.length = q.length)
    (increasing : timesNs.Pairwise (· < ·))
    (range : ∀ t ∈ timesNs, kInt64Min ≤ t ∧ t ≤ kInt64Max)
    (exact : (derived timesNs q).durationNs = (derived timesNs q).spanNs) :
    PlaysMonotone timesNs q := by
  have valid : (derived timesNs q).Valid := ⟨two, timed, increasing, range⟩
  have fits : (derived timesNs q).spanNs ≤ kInt64Max := by
    have wrapped := Int.bmod_lt (x := (derived timesNs q).spanNs) (m := 2 ^ 64) (by norm_num)
    have many : ¬ (derived timesNs q).n < 2 := not_lt.mpr two
    rw [TrajectorySampler.durationNs, if_neg many] at exact
    rw [← exact]
    exact Int.le_sub_one_of_lt (lt_of_lt_of_le wrapped (by norm_num))
  have spaced (i : Nat) (bound : i + 1 < q.length) : (0 : ℝ) < spacing timesNs i :=
    spacing_pos valid bound
  constructor
  · intro tauNs
    have clock : (tauNs : ℝ) / 10 ^ 9 * 10 ^ 9 = tauNs := by
      field_simp
    rw [valid.sample_fromZero fits, TrajectorySampler.sample_sampleAt two, curve,
      TrajectorySampler.wireAt, clock]
  · exact fun i j bound => curve_monotone valid fits bound
  · exact fun i j bound t inside => curve_between valid fits bound inside
  · exact fun i bound => curve_knot valid fits bound
  · intro i ends
    refine ⟨curve_rests valid fits ends, ?_⟩
    funext j
    exact knotVelocities_end (by omega) ends j
  · exact fun i j fresh bound => curve_smooth valid fits fresh bound j
  · intro i j fresh bound
    have tame := knotVelocities_inner spaced fresh bound j
    exact ⟨tame.sign, fun turns => tame.turn (not_lt.mpr turns)⟩
  · exact fun i j fresh bound => (knotVelocities_inner spaced fresh bound j).abs_le

/-- A way up and down again, at uneven times before and after zero. -/
def humpTimes : List Int := [-1000000000, 0, 500000000, 2000000000]

def hump : List (Vec6 ℝ) := [0, 1, 3, 0]

theorem derived_tangents_play_monotone_hump : PlaysMonotone humpTimes hump := by
  apply derived_tangents_play_monotone
  · decide
  · rfl
  · decide
  · decide
  · decide

end Curve

end AiroFanuc.Driver
