import AiroFanuc.TickEngine.Lookup

/-! The state in which a path passes an instant: its value there and its first two derivatives,
and that the sampler and the end blend give it. -/

namespace AiroFanuc.TickEngine

open Library

section Passage

variable {R : Type} [Field R] [LinearOrder R] [FloorRing R]

/-- At the fraction `u` of one cubic a joint, played at `pace` times its own speed. -/
def alongCubics (c : Fin kNumJoints → Library.Cubic R) (u pace : R) : HermiteSample R where
  q := fun j => (c j).value u
  qd := fun j => pace * (c j).slope u
  qdd := fun j => pace * pace * (c j).bend u

namespace TrajectorySampler

/-- The path of a joint between two knots. -/
def leg (s : TrajectorySampler R) (i : Nat) (j : Fin kNumJoints) : Library.Cubic R :=
  ⟨s.q.getD i 0 j, s.qd.getD i 0 j, s.q.getD (i + 1) 0 j, s.qd.getD (i + 1) 0 j,
    ((s.time (i + 1) : R) - (s.time i : R)) / 10 ^ 9⟩

/-- The trajectory at `speedScale` times its own speed, `tau` nanoseconds after its start. Behind
its last knot it rests only if it ended at rest. -/
inductive Passes (s : TrajectorySampler R) (speedScale tau : R) : HermiteSample R → Prop
  | waits : speedScale ≤ 0 → s.query speedScale tau ≤ (s.time 0 : R) →
      Passes s speedScale tau (.atRest (s.q.getD 0 0))
  | moves (i : Nat) : i + 1 < s.n → (s.time i : R) ≤ s.query speedScale tau →
      s.query speedScale tau < (s.time (i + 1) : R) →
      Passes s speedScale tau (alongCubics (s.leg i)
        ((s.query speedScale tau - (s.time i : R)) / ((s.time (i + 1) : R) - (s.time i : R)))
        speedScale)
  | ends : (s.time (s.n - 1) : R) ≤ s.query speedScale tau → (∀ j, speedScale * s.qdLast j = 0) →
      Passes s speedScale tau (.atRest s.qLast)

section Sample

variable [IsStrictOrderedRing R] {s : TrajectorySampler R} {speedScale : R} {tauNs : Int}

omit [Field R] [LinearOrder R] [FloorRing R] [IsStrictOrderedRing R] in
/-- In a span that fits in 64 bits every segment does. -/
theorem Valid.segment_fits (valid : s.Valid) (fits : s.spanNs ≤ kInt64Max) {i : Nat}
    (bound : i + 1 < s.n) : s.time (i + 1) - s.time i ≤ kInt64Max := by
  have first := valid.time_le (Nat.zero_le i) (by omega)
  have last := valid.time_le (i := i + 1) (k := s.n - 1) (by omega) (by omega)
  rw [spanNs] at fits
  omega

omit [IsStrictOrderedRing R] in
/-- What the sampler evaluates is the path between the two knots. -/
theorem Valid.evalSegment_along (valid : s.Valid) (fits : s.spanNs ≤ kInt64Max) {i : Nat}
    (bound : i + 1 < s.n) (u speedScale : R) :
    s.evalSegment i u speedScale = alongCubics (s.leg i) u speedScale := by
  have whole := valid.segmentNs_fits (R := R) bound (valid.segment_fits fits bound)
  have piece : s.piece i = s.leg i := by
    funext j
    rw [TrajectorySampler.piece, leg, whole]
  rw [← piece]
  refine (HermiteSample.mk.injEq ..).mpr ⟨?_, ?_, ?_⟩
  · funext j
    exact evalSegment_q s i u speedScale j
  · funext j
    exact evalSegment_qd s i u speedScale j
  · funext j
    exact evalSegment_qdd s i u speedScale j

/-- A sample is the state the trajectory passes with, unless it is taken behind an end that still
moves, or in the nanosecond before a knot the lookup takes too early. -/
theorem Valid.sample_passes (valid : s.Valid) (fits : s.spanNs ≤ kInt64Max) (begun : 0 < tauNs)
    (timely : ¬ s.Early (s.query speedScale tauNs))
    (stops : (s.time (s.n - 1) : R) ≤ s.query speedScale tauNs → ∀ j, speedScale * s.qdLast j = 0) :
    s.Passes speedScale tauNs (s.sample tauNs speedScale) := by
  have two := valid.two
  rw [sample_sampleAt two]
  by_cases early : s.query speedScale tauNs ≤ (s.time 0 : R)
  · rw [sampleAt, if_neg (by omega), if_neg (by omega), if_pos early]
    apply Passes.waits
    · by_contra forward
      have ahead : 0 < speedScale * (tauNs : R) :=
        mul_pos (not_le.mp forward) (by exact_mod_cast begun)
      rw [query] at early
      linarith
    · exact early
  by_cases late : (s.time (s.n - 1) : R) ≤ s.query speedScale tauNs
  · rw [sampleAt, if_neg (by omega), if_neg (by omega), if_neg early, if_pos late]
    exact .ends late (stops late)
  · have inside : s.Inside (s.query speedScale tauNs) := ⟨not_le.mp early, not_le.mp late⟩
    have spanned : s.Spanned (s.query speedScale tauNs) :=
      fun i bound _ _ => valid.segment_fits fits bound
    have located := (valid.located_iff inside).mpr ⟨timely, spanned⟩
    have whole := valid.segmentNs_fits (R := R) located.bound (valid.segment_fits fits located.bound)
    rw [valid.sampleAt_inside inside, valid.evalSegment_along fits located.bound, parameter, whole]
    exact .moves _ located.bound located.low located.high

end Sample

end TrajectorySampler

namespace QdEndBlend

/-- The path of a joint from the end of a trajectory to where it coasts. -/
def arc (b : QdEndBlend R) (j : Fin kNumJoints) : Library.Cubic R :=
  ⟨b.qEnd j, b.qdEnd j, b.qCoast j, 0, (b.durNs : R) / 10 ^ 9⟩

/-- The end blend `tauNs` after its start, and at rest behind it. -/
inductive Passes (b : QdEndBlend R) (tauNs : Int) : HermiteSample R → Prop
  | glides : b.active = true → 0 ≤ tauNs → tauNs < b.durNs →
      Passes b tauNs (alongCubics b.arc ((tauNs : R) / (b.durNs : R)) 1)
  | rests : b.active = false ∨ b.durNs ≤ tauNs → Passes b tauNs (.atRest b.qCoast)

section Sample

variable [IsStrictOrderedRing R] {b : QdEndBlend R} {tauNs : Int}

omit [IsStrictOrderedRing R] in
/-- With the coast point half its length away the entry sample is on the cubic too. -/
theorem sample_passes (fits : b.durNs ≤ kInt64Max)
    (coast : b.active = true → ∀ j,
      b.qCoast j = b.qEnd j + 1 / 2 * ((b.durNs : R) / 10 ^ 9) * b.qdEnd j)
    (begun : 0 ≤ tauNs) : b.Passes tauNs (b.sample tauNs) := by
  by_cases beyond : b.active = false ∨ b.durNs ≤ tauNs
  · rw [sample, if_pos beyond]
    exact .rests beyond
  have active : b.active = true := by
    rw [not_or, Bool.not_eq_false] at beyond
    exact beyond.1
  have early : tauNs < b.durNs := not_le.mp fun late => beyond (.inr late)
  have long : (b.durNs : R) ≠ 0 := by
    have positive : b.durNs ≠ 0 := by omega
    exact_mod_cast positive
  have same : b.sample tauNs = alongCubics b.arc ((tauNs : R) / (b.durNs : R)) 1 := by
    rw [sample, if_neg beyond]
    by_cases entry : tauNs ≤ 0
    · have zero : tauNs = 0 := le_antisymm entry begun
      rw [if_pos entry, zero, Int.cast_zero, zero_div]
      refine (HermiteSample.mk.injEq ..).mpr ⟨?_, ?_, ?_⟩
      · funext j
        simp only [arc, Library.Cubic.value_zero]
      · funext j
        simp only [arc, Library.Cubic.slope_zero, one_mul]
      · funext j
        simp only [arc, Library.Cubic.bend, coast active j]
        field_simp
        ring
    · have low : kInt64Min ≤ 0 := by decide
      have keeps {n : Int} (nonneg : 0 ≤ n) (high : n ≤ b.durNs) : wrapInt64 n = n :=
        wrapInt64_fits (low.trans nonneg) (high.trans fits)
      rw [if_neg entry, hermiteAtNs, sub_zero, sub_zero, keeps (begun.trans early.le) le_rfl,
        keeps begun early.le, if_neg (by omega)]
      refine (HermiteSample.mk.injEq ..).mpr ⟨?_, ?_, ?_⟩
      · funext j
        simp only [arc, Library.Cubic.value, Pi.zero_apply]
        ring
      · funext j
        simp only [arc, Library.Cubic.slope, Pi.zero_apply]
        ring
      · funext j
        simp only [arc, Library.Cubic.bend, Pi.zero_apply]
        ring
  rw [same]
  exact .glides active begun early

/-- A blend planned on a clock that loses nothing is such a one. -/
theorem plan_passes {qEnd qdEnd : Vec6 R} {minBlendS itpS : R}
    (exact : (itpNs itpS : R) = itpS * 10 ^ 9) (ticks : 0 < itpNs itpS)
    (fits : QdEndBlend.ticks minBlendS itpS * itpNs itpS ≤ kInt64Max) (begun : 0 ≤ tauNs) :
    (plan qEnd qdEnd minBlendS itpS).Passes tauNs
      ((plan qEnd qdEnd minBlendS itpS).sample tauNs) := by
  by_cases moving : 0 < maxAbs qdEnd
  · have dur := plan_exact qEnd minBlendS exact ticks moving
    apply sample_passes
    · rw [dur]
      exact fits
    · intro _ j
      rw [dur]
      simp only [plan, if_neg moving.not_ge]
      push_cast
      rw [exact]
      field_simp
    · exact begun
  · have still : (plan qEnd qdEnd minBlendS itpS).active = false := by
      simp only [plan, if_pos (not_lt.mp moving)]
    rw [sample, if_pos (.inl still)]
    exact .rests (.inl still)

end Sample

end QdEndBlend

end Passage

end AiroFanuc.TickEngine
