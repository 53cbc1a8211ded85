import AiroFanuc.Library.LeastSquares
import AiroFanuc.Library.Machine
import Mathlib.Data.List.Sort

/-! The read-only state interface: the ring of joint samples, the least-squares velocity, and the
capture of a calibration sample with its checks. -/

namespace AiroFanuc.Receive

open Library

inductive Source where
  | stream
  | rmiUnconverted
  | rmiConverted
  deriving DecidableEq, Repr

structure JointSample (R : Type) where
  qDeg : List R
  tWallNs : ℤ
  source : Source
  deriving DecidableEq

/-- The constructor's arguments, and the one fact of `MeasuredFacts` that is read. -/
structure Settings (R : Type) where
  lsqWindowS : R
  stillnessDegS : R
  minSamples : ℤ
  minSpanFraction : R
  minChangeDeg : R
  rmiToStreamJ3PlusJ2Verified : Bool
  ringSize : ℕ

/-- The defaults, with the conversion fact as the installation sets it. -/
def Settings.defaults (R : Type) [Field R] (verified : Bool) : Settings R :=
  ⟨1 / 2, 1 / 10, 3, 4 / 5, 1 / 20, verified, 256⟩

inductive NumpyError where
  | indexError
  | valueError
  deriving DecidableEq, Repr

inductive SettleReason where
  | settled
  | moving
  | velocityUnavailable
  | positionUnchanged
  | noSamples
  deriving DecidableEq, Repr

/-- `ageS` is `none` for the infinite age there is without a sample. -/
structure SettleResult (R : Type) where
  settled : Bool
  sampleCount : ℕ
  ageS : Option R
  maxVelocityDegS : Option R
  reason : SettleReason

/-- What `capture_calibration_sample` raises, with what the message reports. -/
inductive CaptureError (R : Type) where
  | noSamples
  | unverified (source : Source)
  | mixedSources (already now : Source)
  | velocityUnavailable (sampleCount : ℕ) (ageS : Option R)
  | moving (maxVelocity threshold : R)
  | typeError
  | unchanged (change minChange : R)
  | numpy (error : NumpyError)
  deriving DecidableEq

variable {R : Type} [Field R] [LinearOrder R]

/-! ### The ring -/

/-- `deque(maxlen=…).append`: what no longer fits leaves at the old end. -/
def append (ringSize : ℕ) (ring : List (JointSample R)) (sample : JointSample R) :
    List (JointSample R) :=
  (ring ++ [sample]).drop (ring.length + 1 - ringSize)

def recent (nowNs : ℤ) (windowS : R) (sample : JointSample R) : Bool :=
  decide (((nowNs - sample.tWallNs : ℤ) : R) ≤ windowS * 10 ^ 9)

/-! ### Velocity -/

/-- Seconds since the oldest sample of the window. -/
def elapsedS (first sample : JointSample R) : R :=
  ((sample.tWallNs - first.tWallNs : ℤ) : R) / 10 ^ 9

def joint (j : ℕ) (sample : JointSample R) : R := sample.qDeg.getD j 0

/-- `estimate_velocity_deg_s`, from the samples its one look at the ring finds. -/
def estimateVelocityDegS (settings : Settings R) (samples : List (JointSample R)) (windowS : R) :
    Except NumpyError (Option (List R)) :=
  if (samples.length : ℤ) < settings.minSamples then .ok none
  else
    match samples.insertionSort fun a b => a.tWallNs ≤ b.tWallNs with
    | [] => .error .indexError
    | first :: rest =>
      let last := (first :: rest).getLast (List.cons_ne_nil first rest)
      if elapsedS first last < windowS * settings.minSpanFraction then .ok none
      else if rest.any fun s => s.qDeg.length != first.qDeg.length then .error .valueError
      else if spread (first :: rest) (elapsedS first) ≤ 0 then .ok none
      else .ok (some ((List.range first.qDeg.length).map fun j =>
        slope (first :: rest) (elapsedS first) (joint j)))

/-- `np.max(np.abs(v))`. -/
def maxAbs : List R → Except NumpyError R
  | [] => .error .valueError
  | x :: xs => .ok (xs.foldl (fun m y => max m |y|) |x|)

/-- `numpy` subtraction: an array of one entry is stretched over the other. -/
def subtract (a b : List R) : Except NumpyError (List R) :=
  if a.length = b.length then .ok (List.zipWith (· - ·) a b)
  else
    match a, b with
    | [x], b => .ok (b.map fun y => x - y)
    | a, [y] => .ok (a.map fun x => x - y)
    | _, _ => .error .valueError

def maxAbsChange (a b : List R) : Except NumpyError R :=
  match subtract a b with
  | .error error => .error error
  | .ok change => maxAbs change

/-- `settled` after its own look at the ring found `count` samples in the window and a newest one
of this age, with the velocity it then estimated. -/
def settled (settings : Settings R) (threshold : R) (previousQ : Option (List R)) (newest : List R)
    (count : ℕ) (ageS : R) (velocity : Option (List R)) : Except NumpyError (SettleResult R) :=
  match velocity with
  | none => .ok ⟨false, count, some ageS, none, .velocityUnavailable⟩
  | some velocity =>
    match maxAbs velocity with
    | .error error => .error error
    | .ok maxVel =>
      if threshold < maxVel then .ok ⟨false, count, some ageS, some maxVel, .moving⟩
      else
        match previousQ with
        | none => .ok ⟨true, count, some ageS, some maxVel, .settled⟩
        | some previousQ =>
          match maxAbsChange newest previousQ with
          | .error error => .error error
          | .ok change =>
            if change < settings.minChangeDeg then
              .ok ⟨false, count, some ageS, some maxVel, .positionUnchanged⟩
            else .ok ⟨true, count, some ageS, some maxVel, .settled⟩

/-! ### The source policy -/

/-- `q[2] += q[1]`, the single conversion point. -/
def applyRmiJointPolicy (sample : JointSample R) : Except NumpyError (JointSample R) :=
  match sample.qDeg[1]?, sample.qDeg[2]? with
  | some j2, some j3 =>
    .ok { sample with qDeg := sample.qDeg.set 2 (j3 + j2), source := .rmiConverted }
  | _, _ => .error .indexError

def applySourcePolicy (settings : Settings R) (sample : JointSample R) :
    Except (CaptureError R) (JointSample R) :=
  if sample.source ≠ .rmiUnconverted then .ok sample
  else if settings.rmiToStreamJ3PlusJ2Verified = false then .error (.unverified sample.source)
  else
    match applyRmiJointPolicy sample with
    | .ok converted => .ok converted
    | .error error => .error (.numpy error)

/-! ### The checks of a capture -/

/-- The accepted-sample bookkeeping. -/
structure Dataset (R : Type) where
  lastAcceptedQ : Option (List R)
  acceptedSource : Option Source
  deriving DecidableEq

def Dataset.empty : Dataset R := ⟨none, none⟩

/-- The checks before the velocity gate, on the sample that is to be captured. -/
def checkSource (settings : Settings R) (dataset : Dataset R) (newest : JointSample R) :
    Except (CaptureError R) (JointSample R) :=
  match applySourcePolicy settings newest with
  | .error error => .error error
  | .ok accepted =>
    match dataset.acceptedSource with
    | none => .ok accepted
    | some source =>
      if accepted.source ≠ source then .error (.mixedSources source accepted.source)
      else .ok accepted

/-- The velocity gate. Formatting the speed of a result that has none raises as well. -/
def gate (threshold : R) (result : SettleResult R) : Except (CaptureError R) Unit :=
  if result.reason = .velocityUnavailable then
    .error (.velocityUnavailable result.sampleCount result.ageS)
  else if result.settled = false then
    match result.maxVelocityDegS with
    | some maxVelocity => .error (.moving maxVelocity threshold)
    | none => .error .typeError
  else .ok ()

/-- The frozen-feed guard. -/
def checkChanged (settings : Settings R) (dataset : Dataset R) (accepted : JointSample R) :
    Except (CaptureError R) Unit :=
  match dataset.lastAcceptedQ with
  | none => .ok ()
  | some lastQ =>
    match maxAbsChange accepted.qDeg lastQ with
    | .error error => .error (.numpy error)
    | .ok change =>
      if change < settings.minChangeDeg then .error (.unchanged change settings.minChangeDeg)
      else .ok ()

/-- What is left of a capture once the velocity is estimated. -/
def conclude (settings : Settings R) (dataset : Dataset R) (accepted : JointSample R)
    (threshold : R) (newest : List R) (count : ℕ) (ageS : R)
    (velocity : Except NumpyError (Option (List R))) : Except (CaptureError R) Unit :=
  match velocity with
  | .error error => .error (.numpy error)
  | .ok velocity =>
    match settled settings threshold none newest count ageS velocity with
    | .error error => .error (.numpy error)
    | .ok result =>
      match gate threshold result with
      | .error error => .error error
      | .ok () => checkChanged settings dataset accepted

def record (accepted : JointSample R) : Dataset R := ⟨some accepted.qDeg, some accepted.source⟩

/-! ### What each function gives -/

section Specs

variable [IsStrictOrderedRing R] {settings : Settings R}

def wallS (sample : JointSample R) : R := (sample.tWallNs : R) / 10 ^ 9

omit [LinearOrder R] [IsStrictOrderedRing R] in
theorem elapsedS_eq (first sample : JointSample R) :
    elapsedS first sample = wallS sample - wallS first := by
  simp only [elapsedS, wallS, Int.cast_sub, sub_div]

/-- A velocity is the least-squares slope of each joint over the window, which has two stamps. -/
theorem estimateVelocityDegS_some {samples : List (JointSample R)} {windowS : R}
    {velocity : List R} (estimated :
      estimateVelocityDegS settings samples windowS = .ok (some velocity)) :
    samples ≠ [] ∧ 0 < spread samples wallS ∧
      ∃ dof, (∀ s ∈ samples, s.qDeg.length = dof) ∧
        velocity = (List.range dof).map fun j => slope samples wallS (joint j) := by
  simp only [estimateVelocityDegS] at estimated
  split at estimated
  · cases estimated
  · split at estimated
    · cases estimated
    case h_2 first rest sorted =>
      have same : samples.Perm (first :: rest) := by
        rw [← sorted]
        exact (List.perm_insertionSort _ samples).symm
      have times : elapsedS first = fun s => wallS s - wallS first :=
        funext (elapsedS_eq first)
      have present : first :: rest ≠ [] := List.cons_ne_nil first rest
      simp only [times, spread_sub_const present, slope_sub_const present, ← spread_perm same,
        ← slope_perm same] at estimated
      split at estimated
      · cases estimated
      · split at estimated
        · cases estimated
        case isFalse even =>
          split at estimated
          · cases estimated
          case isFalse wide =>
            cases estimated
            refine ⟨?_, not_le.mp wide, first.qDeg.length, ?_, rfl⟩
            · rintro rfl
              exact present (List.nil_perm.mp same)
            · intro s member
              rcases List.mem_cons.mp (same.mem_iff.mp member) with rfl | later
              · rfl
              · simp only [List.any_eq_true, bne_iff_ne, not_exists, not_and, not_not] at even
                exact even s later

omit [IsStrictOrderedRing R] in
theorem le_foldl_max (xs : List R) (m : R) :
    m ≤ xs.foldl (fun m y => max m |y|) m ∧
      ∀ y ∈ xs, |y| ≤ xs.foldl (fun m y => max m |y|) m := by
  induction xs generalizing m with
  | nil =>
    constructor
    · exact le_rfl
    · intro y member
      cases member
  | cons x xs ih =>
    obtain ⟨start, rest⟩ := ih (max m |x|)
    constructor
    · exact (le_max_left m |x|).trans start
    · intro y member
      rcases List.mem_cons.mp member with rfl | later
      · exact (le_max_right m |y|).trans start
      · exact rest y later

omit [IsStrictOrderedRing R] in
theorem foldl_max_attained (xs : List R) (m : R) :
    xs.foldl (fun m y => max m |y|) m = m ∨
      ∃ y ∈ xs, xs.foldl (fun m y => max m |y|) m = |y| := by
  induction xs generalizing m with
  | nil => exact .inl rfl
  | cons x xs ih =>
    rcases ih (max m |x|) with start | ⟨y, member, found⟩
    · rcases max_choice m |x| with kept | raised
      · exact .inl (start.trans kept)
      · exact .inr ⟨x, List.mem_cons_self, start.trans raised⟩
    · exact .inr ⟨y, List.mem_cons_of_mem x member, found⟩

omit [IsStrictOrderedRing R] in
theorem maxAbs_bound {v : List R} {m : R} (found : maxAbs v = .ok m) : ∀ y ∈ v, |y| ≤ m := by
  cases v with
  | nil => cases found
  | cons x xs =>
    cases found
    intro y member
    obtain ⟨start, rest⟩ := le_foldl_max xs |x|
    rcases List.mem_cons.mp member with rfl | later
    · exact start
    · exact rest y later

omit [IsStrictOrderedRing R] in
theorem maxAbs_attained {v : List R} {m : R} (found : maxAbs v = .ok m) : ∃ y ∈ v, m = |y| := by
  cases v with
  | nil => cases found
  | cons x xs =>
    cases found
    rcases foldl_max_attained xs |x| with start | ⟨y, member, found⟩
    · exact ⟨x, List.mem_cons_self, start⟩
    · exact ⟨y, List.mem_cons_of_mem x member, found⟩

/-- An array of one entry stands for any number of equal ones. -/
def stretched (q : List R) (j : ℕ) : Option R := if q.length = 1 then q[0]? else q[j]?

/-- Two joint vectors differ by at least this in some joint. -/
def Apart (least : R) (a b : List R) : Prop :=
  ∃ j x y, stretched a j = some x ∧ stretched b j = some y ∧ least ≤ |x - y|

omit [LinearOrder R] [IsStrictOrderedRing R] in
theorem subtract_mem {a b v : List R} (subtracted : subtract a b = .ok v) {d : R} (member : d ∈ v) :
    ∃ j x y, stretched a j = some x ∧ stretched b j = some y ∧ d = x - y := by
  simp only [subtract] at subtracted
  split at subtracted
  case isTrue same =>
    cases subtracted
    obtain ⟨j, bound, rfl⟩ := List.getElem_of_mem member
    simp only [List.length_zipWith] at bound
    have first : j < a.length := by omega
    have second : j < b.length := by omega
    refine ⟨j, a[j], b[j], ?_, ?_, by rw [List.getElem_zipWith]⟩
    · simp only [stretched]
      split
      · have zero : j = 0 := by omega
        subst zero
        exact List.getElem?_eq_getElem first
      · exact List.getElem?_eq_getElem first
    · simp only [stretched]
      split
      · have zero : j = 0 := by omega
        subst zero
        exact List.getElem?_eq_getElem second
      · exact List.getElem?_eq_getElem second
  case isFalse differ =>
    split at subtracted
    case h_1 _ x =>
      cases subtracted
      obtain ⟨y, inside, rfl⟩ := List.mem_map.mp member
      obtain ⟨j, bound, rfl⟩ := List.getElem_of_mem inside
      have several : b.length ≠ 1 := fun one => differ one.symm
      refine ⟨j, x, b[j], rfl, ?_, rfl⟩
      rw [stretched, if_neg several, List.getElem?_eq_getElem bound]
    case h_2 y _ =>
      cases subtracted
      obtain ⟨x, inside, rfl⟩ := List.mem_map.mp member
      obtain ⟨j, bound, rfl⟩ := List.getElem_of_mem inside
      have several : a.length ≠ 1 := differ
      refine ⟨j, a[j], y, ?_, rfl, rfl⟩
      rw [stretched, if_neg several, List.getElem?_eq_getElem bound]
    case h_3 => cases subtracted

omit [IsStrictOrderedRing R] in
theorem maxAbsChange_apart {a b : List R} {change : R} (found : maxAbsChange a b = .ok change)
    {least : R} (large : least ≤ change) : Apart least a b := by
  simp only [maxAbsChange] at found
  split at found
  · cases found
  case h_2 v subtracted =>
    obtain ⟨d, member, rfl⟩ := maxAbs_attained found
    obtain ⟨j, x, y, here, there, rfl⟩ := subtract_mem subtracted member
    exact ⟨j, x, y, here, there, large⟩

/-- The sample in the frame samples are accepted in, with the source tag it is accepted under. -/
def inAcceptedFrame (sample : JointSample R) : JointSample R :=
  if sample.source = .rmiUnconverted then
    { sample with
      qDeg := sample.qDeg.set 2 (joint 2 sample + joint 1 sample), source := .rmiConverted }
  else sample

/-- What the source policy lets through. -/
structure Represents (settings : Settings R) (raw accepted : JointSample R) : Prop where
  verified : raw.source = .rmiUnconverted → settings.rmiToStreamJ3PlusJ2Verified = true
  joints : raw.source = .rmiUnconverted → 3 ≤ raw.qDeg.length
  frame : accepted = inAcceptedFrame raw

omit [LinearOrder R] [IsStrictOrderedRing R] in
theorem Represents.source {raw accepted : JointSample R}
    (represents : Represents settings raw accepted) :
    accepted.source ≠ .rmiUnconverted := by
  rw [represents.frame, inAcceptedFrame]
  split
  · intro same
    cases same
  · assumption

omit [LinearOrder R] [IsStrictOrderedRing R] in
theorem applySourcePolicy_ok {raw accepted : JointSample R}
    (applied : applySourcePolicy settings raw = .ok accepted) :
    Represents settings raw accepted := by
  simp only [applySourcePolicy] at applied
  split at applied
  case isTrue other =>
    cases applied
    exact ⟨fun same => absurd same other, fun same => absurd same other, (if_neg other).symm⟩
  case isFalse rmi =>
    have source : raw.source = .rmiUnconverted := not_not.mp rmi
    split at applied
    · cases applied
    case isFalse verified =>
      split at applied
      case h_1 converted applies =>
        cases applied
        simp only [applyRmiJointPolicy] at applies
        split at applies
        case h_1 j2 j3 second third =>
          cases applies
          have long : 3 ≤ raw.qDeg.length := (List.getElem?_eq_some_iff.mp third).1
          refine ⟨fun _ => Bool.eq_true_of_not_eq_false verified, fun _ => long, ?_⟩
          simp only [inAcceptedFrame, if_pos source, joint, List.getD_eq_getElem?_getD, second,
            third, Option.getD_some]
        · cases applies
      · cases applied

omit [LinearOrder R] [IsStrictOrderedRing R] in
theorem checkSource_ok {dataset : Dataset R} {newest accepted : JointSample R}
    (checked : checkSource settings dataset newest = .ok accepted) :
    Represents settings newest accepted ∧
      ∀ source, dataset.acceptedSource = some source → accepted.source = source := by
  simp only [checkSource] at checked
  split at checked
  · cases checked
  case h_2 policy =>
    have represents := applySourcePolicy_ok policy
    split at checked
    case h_1 fresh =>
      cases checked
      refine ⟨represents, fun source same => ?_⟩
      rw [fresh] at same
      cases same
    case h_2 source begun =>
      split at checked
      · cases checked
      case isFalse same =>
        cases checked
        refine ⟨represents, fun source' same' => ?_⟩
        rw [begun] at same'
        cases same'
        exact not_not.mp same

omit [IsStrictOrderedRing R] in
theorem checkChanged_ok {dataset : Dataset R} {accepted : JointSample R}
    (checked : checkChanged settings dataset accepted = .ok ()) {lastQ : List R}
    (last : dataset.lastAcceptedQ = some lastQ) :
    Apart settings.minChangeDeg accepted.qDeg lastQ := by
  simp only [checkChanged, last] at checked
  split at checked
  · cases checked
  case h_2 change found =>
    split at checked
    · cases checked
    case isFalse large => exact maxAbsChange_apart found (not_lt.mp large)

omit [IsStrictOrderedRing R] in
/-- A capture that concludes had a velocity, no joint of it over the threshold, and a changed
pose. -/
theorem conclude_ok {dataset : Dataset R} {accepted : JointSample R} {threshold ageS : R}
    {newest : List R} {count : ℕ} {velocity : Except NumpyError (Option (List R))}
    (concluded :
      conclude settings dataset accepted threshold newest count ageS velocity = .ok ()) :
    (∃ v, velocity = .ok (some v) ∧ ∀ y ∈ v, |y| ≤ threshold) ∧
      checkChanged settings dataset accepted = .ok () := by
  simp only [conclude] at concluded
  split at concluded
  · cases concluded
  case h_2 velocity =>
    split at concluded
    · cases concluded
    case h_2 result judged =>
      split at concluded
      · cases concluded
      case h_2 passed =>
        refine ⟨?_, concluded⟩
        simp only [settled] at judged
        split at judged
        · cases judged
          cases passed
        case h_2 v =>
          split at judged
          · cases judged
          case h_2 maxVel found =>
            split at judged
            · cases judged
              cases passed
            case isFalse slow =>
              exact ⟨v, rfl, fun y member => (maxAbs_bound found y member).trans (not_lt.mp slow)⟩

end Specs

end AiroFanuc.Receive
