import AiroFanuc.Driver.Tangents

/-! What the driver checks of a trajectory before it submits it. -/

namespace AiroFanuc.Driver

open TickEngine Library

/-- What `_validate_trajectory` raises, always as a `TrajectoryValidationError`. -/
inductive TrajectoryFlaw where
  | qShape
  | qdShape
  | fewKnots (n : Nat)
  | qNonFinite
  | qdNonFinite
  | timesLength (given n : Nat)
  | timesNonFinite
  | timesRange
  | timesOrder
  | velocityLimit (beyond : List (Fin kNumJoints)) (derived : Bool)
  | captureEnvelope (beyond : List (Fin kNumJoints))
  deriving DecidableEq, Repr

section Check

variable {R : Type} [Field R] [LinearOrder R] [FloorRing R]

/-- Rows of doubles as the caller gives them: `none` is a NaN or an infinity. -/
abbrev Rows (R : Type) := List (List (Option R))

def wellShaped (rows : Rows R) : Bool := rows.all fun row => row.length == kNumJoints

def allFinite (rows : Rows R) : Bool := rows.all fun row => row.all Option.isSome

def knots (rows : Rows R) : List (Vec6 R) :=
  rows.map fun row j => (row.getD j none).getD 0

/-- Python's `int` of a float: toward zero, of any size. -/
def pyInt (x : R) : Int := if 0 ≤ x then ⌊x⌋ else -⌊-x⌋

def checkKnots (q : Rows R) (qd : Option (Rows R)) :
    Except TrajectoryFlaw (List (Vec6 R) × Option (List (Vec6 R))) :=
  if wellShaped q = false then .error .qShape
  else if qd.any (fun qd => !wellShaped qd || decide (qd.length ≠ q.length)) then .error .qdShape
  else if q.length < 2 then .error (.fewKnots q.length)
  else if allFinite q = false then .error .qNonFinite
  else if qd.any (fun qd => !allFinite qd) then .error .qdNonFinite
  else .ok (knots q, qd.map knots)

def checkTimes (n : Nat) (times : List (Option R)) : Except TrajectoryFlaw (List Int) :=
  if times.length ≠ n then .error (.timesLength times.length n)
  else if times.any Option.isNone then .error .timesNonFinite
  else
    let timesNs := times.map fun t => pyInt (t.getD 0)
    if timesNs.any (fun t => decide (¬ (-kInt64Max ≤ t ∧ t ≤ kInt64Max))) then .error .timesRange
    else if ¬ timesNs.IsChain (· < ·) then .error .timesOrder
    else .ok timesNs

def kCaptureRateDegS : R := 15

/-- The joints on which some knot is faster than the limit. -/
def overLimit (vlim : Vec6 R) (qd : List (Vec6 R)) : List (Fin kNumJoints) :=
  (List.finRange kNumJoints).filter fun j =>
    qd.any fun knot => decide (vlim j + 1 / 10 ^ 9 < |knot j|)

def overEnvelope (qd : List (Vec6 R)) : List (Fin kNumJoints) :=
  (List.finRange kNumJoints).filter fun j =>
    decide (deg2rad (kCaptureRateDegS : R) * (1 + 1 / 10 ^ 9) < |qd.getD 0 0 j|)

def checkSpeeds (vlim : Vec6 R) (derived : Bool) (qd : List (Vec6 R)) : Except TrajectoryFlaw Unit :=
  if overLimit vlim qd ≠ [] then .error (.velocityLimit (overLimit vlim qd) derived)
  else if overEnvelope qd ≠ [] then .error (.captureEnvelope (overEnvelope qd))
  else .ok ()

/-- `_validate_trajectory`: the times, positions and velocities it hands on. -/
def validateTrajectory (vlim : Vec6 R) (times : List (Option R)) (q : Rows R)
    (qd : Option (Rows R)) : Except TrajectoryFlaw (List Int × List (Vec6 R) × List (Vec6 R)) := do
  let (qArr, qdGiven) ← checkKnots q qd
  let timesNs ← checkTimes qArr.length times
  let qdArr := qdGiven.getD (knotVelocities timesNs qArr)
  checkSpeeds vlim qdGiven.isNone qdArr
  return (timesNs, qArr, qdArr)

end Check

/-! ### What is accepted -/

/-- A chain that returned went through its first link. -/
theorem bind_ok {ε α β : Type} {first : Except ε α} {next : α → Except ε β} {result : β}
    (returned : first >>= next = .ok result) :
    ∃ value, first = .ok value ∧ next value = .ok result := by
  cases first with
  | error flaw => cases returned
  | ok value => exact ⟨value, rfl, returned⟩

section Accepted

variable {R : Type} [Field R] [LinearOrder R] [FloorRing R]

omit [LinearOrder R] [FloorRing R] in
theorem checkKnots_ok {q : Rows R} {qd : Option (Rows R)}
    {arrays : List (Vec6 R) × Option (List (Vec6 R))} (accepted : checkKnots q qd = .ok arrays) :
    arrays = (knots q, qd.map knots) ∧ 2 ≤ q.length ∧ ∀ rows ∈ qd, rows.length = q.length := by
  unfold checkKnots at accepted
  split at accepted
  · cases accepted
  split at accepted
  · cases accepted
  rename_i shaped
  split at accepted
  · cases accepted
  rename_i many
  split at accepted
  · cases accepted
  split at accepted
  · cases accepted
  cases accepted
  refine ⟨rfl, not_lt.mp many, ?_⟩
  rintro rows given
  by_contra unequal
  apply shaped
  rw [Option.mem_def.mp given]
  simp only [Option.any_some, unequal, ne_eq, not_false_eq_true, decide_true, Bool.or_true]

theorem checkTimes_ok {n : Nat} {times : List (Option R)} {timesNs : List Int}
    (accepted : checkTimes n times = .ok timesNs) :
    timesNs.length = n ∧ timesNs.IsChain (· < ·) ∧
      ∀ t ∈ timesNs, -kInt64Max ≤ t ∧ t ≤ kInt64Max := by
  unfold checkTimes at accepted
  split at accepted
  · cases accepted
  rename_i counted
  split at accepted
  · cases accepted
  simp only at accepted
  split at accepted
  · cases accepted
  rename_i ranged
  split at accepted
  · cases accepted
  rename_i ordered
  cases accepted
  refine ⟨?_, not_not.mp ordered, ?_⟩
  · rw [List.length_map]
    exact not_not.mp counted
  · intro t member
    by_contra outside
    exact ranged (List.any_eq_true.mpr ⟨t, member, decide_eq_true outside⟩)

omit [FloorRing R] in
theorem checkSpeeds_ok {vlim : Vec6 R} {derived : Bool} {qd : List (Vec6 R)} :
    checkSpeeds vlim derived qd = .ok () ↔ overLimit vlim qd = [] ∧ overEnvelope qd = [] := by
  unfold checkSpeeds
  split
  · rename_i beyond
    exact iff_of_false nofun fun both => beyond both.1
  · rename_i within
    split
    · rename_i beyond
      exact iff_of_false nofun fun both => beyond both.2
    · rename_i enveloped
      exact iff_of_true rfl ⟨not_not.mp within, not_not.mp enveloped⟩

/-- What the sampler and the core may rely on. -/
structure Accepted (vlim : Vec6 R) (timesNs : List Int) (q qd : List (Vec6 R)) : Prop where
  many : 2 ≤ q.length
  timed : timesNs.length = q.length
  paired : qd.length = q.length
  increasing : timesNs.IsChain (· < ·)
  range : ∀ t ∈ timesNs, -kInt64Max ≤ t ∧ t ≤ kInt64Max
  limited : overLimit vlim qd = []
  enveloped : overEnvelope qd = []

instance (vlim : Vec6 R) (timesNs : List Int) (q qd : List (Vec6 R)) :
    Decidable (Accepted vlim timesNs q qd) :=
  decidable_of_iff (2 ≤ q.length ∧ timesNs.length = q.length ∧ qd.length = q.length ∧
      timesNs.IsChain (· < ·) ∧ (∀ t ∈ timesNs, -kInt64Max ≤ t ∧ t ≤ kInt64Max) ∧
      overLimit vlim qd = [] ∧ overEnvelope qd = [])
    ⟨fun ⟨many, timed, paired, increasing, range, limited, enveloped⟩ =>
      ⟨many, timed, paired, increasing, range, limited, enveloped⟩,
    fun ⟨many, timed, paired, increasing, range, limited, enveloped⟩ =>
      ⟨many, timed, paired, increasing, range, limited, enveloped⟩⟩

theorem validateTrajectory_accepted {vlim : Vec6 R} {times : List (Option R)} {q : Rows R}
    {qd : Option (Rows R)} {timesNs : List Int} {qArr qdArr : List (Vec6 R)}
    (accepted : validateTrajectory vlim times q qd = .ok (timesNs, qArr, qdArr)) :
    Accepted vlim timesNs qArr qdArr := by
  unfold validateTrajectory at accepted
  obtain ⟨arrays, knotted, accepted⟩ := bind_ok accepted
  obtain ⟨rfl, many, paired⟩ := checkKnots_ok knotted
  obtain ⟨ns, timed, accepted⟩ := bind_ok accepted
  obtain ⟨counted, increasing, range⟩ := checkTimes_ok timed
  obtain ⟨_, sped, accepted⟩ := bind_ok accepted
  obtain ⟨limited, enveloped⟩ := checkSpeeds_ok.mp sped
  cases accepted
  refine ⟨?_, counted, ?_, increasing, range, limited, enveloped⟩
  · rwa [knots, List.length_map]
  · cases qd with
    | none =>
      simp only [Option.map_none, Option.getD_none, knotVelocities, List.length_map,
        List.length_range]
    | some rows =>
      have same := paired rows rfl
      simp only [Option.map_some, Option.getD_some, knots, List.length_map, same]

end Accepted

/-! ### Arrays that are given as they are handed on -/

section Given

variable {R : Type} [Field R] [LinearOrder R] [IsStrictOrderedRing R] [FloorRing R]

def givenTimes (timesNs : List Int) : List (Option R) := timesNs.map fun t : Int => some (t : R)

def givenRows (v : List (Vec6 R)) : Rows R :=
  v.map fun knot => (List.finRange kNumJoints).map fun j => some (knot j)

theorem pyInt_cast (n : Int) : pyInt (n : R) = n := by
  unfold pyInt
  split
  · exact Int.floor_intCast n
  · rw [← Int.cast_neg, Int.floor_intCast, neg_neg]

omit [LinearOrder R] [IsStrictOrderedRing R] [FloorRing R] in
theorem knots_givenRows (v : List (Vec6 R)) : knots (givenRows v) = v := by
  unfold knots givenRows
  rw [List.map_map]
  conv_rhs => rw [← List.map_id v]
  apply List.map_congr_left
  intro knot _
  funext j
  simp [List.getD_eq_getElem?_getD]

omit [LinearOrder R] [IsStrictOrderedRing R] [FloorRing R] in
theorem checkKnots_given {q qd : List (Vec6 R)} (many : 2 ≤ q.length)
    (paired : qd.length = q.length) :
    checkKnots (givenRows q) (some (givenRows qd)) = .ok (q, some qd) := by
  have shaped (v : List (Vec6 R)) : wellShaped (givenRows v) = true := by
    simp [wellShaped, givenRows]
  have finite (v : List (Vec6 R)) : allFinite (givenRows v) = true := by
    simp [allFinite, givenRows]
  have length (v : List (Vec6 R)) : (givenRows v).length = v.length := List.length_map _
  unfold checkKnots
  simp only [shaped, finite, length, paired, Option.any_some, Bool.not_true, ne_eq, not_true,
    decide_false, Bool.or_false, Bool.true_eq_false, Bool.false_eq_true, if_false, Option.map_some,
    knots_givenRows]
  rw [if_neg (not_lt.mpr many)]

theorem checkTimes_given {timesNs : List Int} {n : Nat} (timed : timesNs.length = n)
    (increasing : timesNs.IsChain (· < ·))
    (range : ∀ t ∈ timesNs, -kInt64Max ≤ t ∧ t ≤ kInt64Max) :
    checkTimes n (givenTimes timesNs : List (Option R)) = .ok timesNs := by
  have whole : (givenTimes timesNs : List (Option R)).map (fun t => pyInt (t.getD 0)) = timesNs := by
    unfold givenTimes
    rw [List.map_map]
    conv_rhs => rw [← List.map_id timesNs]
    apply List.map_congr_left
    intro t _
    exact pyInt_cast t
  have finite : (givenTimes timesNs : List (Option R)).any Option.isNone = false := by
    simp [givenTimes]
  have inside : timesNs.any (fun t => decide (¬ (-kInt64Max ≤ t ∧ t ≤ kInt64Max))) = false := by
    rw [List.any_eq_false]
    intro t member
    rw [decide_eq_true_eq, not_not]
    exact range t member
  unfold checkTimes
  simp only [whole, finite, inside, Bool.false_eq_true, if_false]
  rw [if_neg, if_neg (not_not.mpr increasing)]
  simp [givenTimes, timed]

/-- The check is complete: what meets its conditions passes. -/
theorem Accepted.passes {vlim : Vec6 R} {timesNs : List Int} {q qd : List (Vec6 R)}
    (accepted : Accepted vlim timesNs q qd) :
    validateTrajectory vlim (givenTimes timesNs) (givenRows q) (some (givenRows qd)) =
      .ok (timesNs, q, qd) := by
  have sped : checkSpeeds vlim false qd = .ok () :=
    checkSpeeds_ok.mpr ⟨accepted.limited, accepted.enveloped⟩
  unfold validateTrajectory
  rw [checkKnots_given accepted.many accepted.paired]
  simp only [bind, Except.bind, checkTimes_given accepted.timed accepted.increasing accepted.range,
    Option.isNone_some, Option.getD_some, sped]
  rfl

end Given

end AiroFanuc.Driver
