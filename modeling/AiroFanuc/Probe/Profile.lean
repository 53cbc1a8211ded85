import AiroFanuc.Library.Decimal
import AiroFanuc.Probe.Sysvars

/-! The profile that is derived from what the controller reports. -/

namespace AiroFanuc.Probe

open Library

variable {R : Type} [Field R] [LinearOrder R] [FloorRing R]

/-! ### The limits -/

def sysvarVelocity : Name := "$PARAM_GROUP[1].$JNTVELLIM".toList

def sysvarLower : Name := "$PARAM_GROUP[1].$LOWERLIMS".toList

def sysvarUpper : Name := "$PARAM_GROUP[1].$UPPERLIMS".toList

def sysvarMasterVelocity : Name := "$MRR_GRP[1].$JNTVELLIM".toList

def sysvarMasterLower : Name := "$MRR_GRP[1].$LOWERLIMS".toList

def sysvarMasterUpper : Name := "$MRR_GRP[1].$UPPERLIMS".toList

def sysvarMaxPayload : Name := "$MRR_GRP[1].$MAX_PAYLOAD".toList

/-- `_WANTED_SYSVARS`. -/
def wantedSysvars : List Name :=
  [sysvarVelocity, sysvarLower, sysvarUpper, "$PARAM_GROUP[1].$JNT23_UPLIM".toList,
    "$PARAM_GROUP[1].$JNT23_LOWLI".toList, sysvarMasterVelocity, sysvarMasterLower,
    sysvarMasterUpper, sysvarMaxPayload]

/-- `_floats`. -/
def floats : Option (Value R) → List (Double R)
  | none => []
  | some (.scalar v) => [v]
  | some (.tuple vs) => vs

def scalar? : Option (Value R) → Option (Double R)
  | some (.scalar v) => some v
  | _ => none

/-- `factor * x`. -/
def Double.scaled (factor : R) : Double R → Double R
  | .finite x => .finite (factor * x)
  | .infinite negative =>
    if factor = 0 then .nan else .infinite (negative != decide (factor < 0))
  | .nan => .nan

inductive LimitLabel where
  | velocity
  | lower
  | upper
  deriving DecidableEq, Repr

inductive LimitsWarning (R : Type) where
  | missing (names : List Name)
  | noPositiveVelocity
  | mismatch (label : LimitLabel) (joint : ℕ) (active master : Double R)
  deriving DecidableEq

def disagree (n : ℕ) (label : LimitLabel) (active master : List (Double R)) :
    List (LimitsWarning R) :=
  (List.range (min n (min active.length master.length))).filterMap fun j =>
    let (a, m) := (active.getD j .nan, master.getD j .nan)
    if (a.sub m).abs.above (1 / 100) then some (.mismatch label (j + 1) a m) else none

def ControllerLimits.disagreements (limits : ControllerLimits R) : List (LimitsWarning R) :=
  disagree limits.ndof .velocity limits.velocityDegS limits.masterVelocityDegS ++
    disagree limits.ndof .lower limits.lowerDeg limits.masterLowerDeg ++
    disagree limits.ndof .upper limits.upperDeg limits.masterUpperDeg

/-- `_limits_from_sysvars`, with the warnings it adds. -/
def limitsFromSysvars (sysvars : Name → Option (Value R)) :
    Option (ControllerLimits R) × List (LimitsWarning R) :=
  let velocity := floats (sysvars sysvarVelocity)
  let lower := floats (sysvars sysvarLower)
  let upper := floats (sysvars sysvarUpper)
  if velocity = [] ∨ lower = [] ∨ upper = [] then
    (none, [.missing ((if velocity = [] then [sysvarVelocity] else []) ++
      (if lower = [] then [sysvarLower] else []) ++ if upper = [] then [sysvarUpper] else [])])
  else
    let toDeg := List.map (Double.scaled (180 / pi R))
    let limits : ControllerLimits R :=
      ⟨velocity, lower, upper, toDeg (floats (sysvars sysvarMasterVelocity)),
        toDeg (floats (sysvars sysvarMasterLower)), toDeg (floats (sysvars sysvarMasterUpper)),
        scalar? (sysvars sysvarMaxPayload)⟩
    if limits.ndof = 0 then (none, [.noPositiveVelocity]) else (some limits, limits.disagreements)

/-! ### The profile -/

/-- An address on one line, as any host's is. -/
structure Host where
  text : String
  oneLine : ∀ c ∈ text.toList, lineBreak c = false

inductive ProbeError where
  | noLimits
  | profile (error : ProfileError)
  deriving DecidableEq, Repr

/-- The keyword arguments of `profile_from_controller`. -/
structure Derivation (R : Type) where
  accelFromVelocity : R
  jerkFromAccel : R
  name : Option String

/-- `model.lower().replace("/", "").replace("-", "")`. -/
def plainName (model : String) : String :=
  String.ofList (model.toLower.toList.filter fun c => c ≠ '/' ∧ c ≠ '-')

def derivedSource (ip : Host) (derivation : Derivation R) : String :=
  "velocity + position limits read from " ++ ip.text ++ " $PARAM_GROUP via FTP (symotn.va); " ++
    "acceleration = " ++ (Decimal.rounded 6 derivation.accelFromVelocity).text 6 ++
    "x velocity and jerk = " ++ (Decimal.rounded 6 derivation.jerkFromAccel).text 6 ++
    "x acceleration derived, not measured"

/-- What `profile_from_controller` hands to `from_degrees`. -/
def derivedArguments (ip : Host) (derivation : Derivation R) (model : Option String)
    (limits : ControllerLimits R) : FromDegrees R :=
  let n := limits.ndof
  let velocity := limits.velocityDegS.take n
  let accel := velocity.map (Double.scaled derivation.accelFromVelocity)
  let shown := model.filter fun m => m ≠ ""
  { name := ((derivation.name.filter fun name => name ≠ "").getD
      ((shown.map plainName).getD "probed"))
    model := shown.getD "unknown FANUC"
    velocityLimitsDegS := velocity
    accelerationLimitsDegS2 := accel
    jerkLimitsDegS3 := accel.map (Double.scaled derivation.jerkFromAccel)
    positionLimitsLowerDeg := limits.lowerDeg.take n
    positionLimitsUpperDeg := limits.upperDeg.take n
    ndof := n
    maxPayloadKg := limits.maxPayloadKg
    source := derivedSource ip derivation }

def profileFromController (ip : Host) (derivation : Derivation R) (facts : ControllerFacts R) :
    Except ProbeError (RobotProfile R) :=
  match facts.limits with
  | none => .error .noLimits
  | some limits =>
    match fromDegrees (derivedArguments ip derivation facts.model limits) with
    | .error error => .error (.profile error)
    | .ok profile => .ok profile

/-! ### What a profile is built of -/

/-- The joints of a vector are the entries of the list it was given as, in radians. -/
def Converts (deg : List (Double R)) (v : Joints R) : Prop :=
  deg.length = supportedNdof ∧ ∀ j : Fin supportedNdof, ∃ x, deg[j.val]? = some (.finite x) ∧
    v j = radians x

omit [Field R] [LinearOrder R] [FloorRing R] in
theorem value?_eq_some {d : Double R} {x : R} : d.value? = some x ↔ d = .finite x := by
  cases d <;> simp [Double.value?]

omit [Field R] [LinearOrder R] [FloorRing R] in
theorem mapM_value? {deg : List (Double R)} {xs : List R} :
    deg.mapM Double.value? = some xs ↔ deg = xs.map Double.finite := by
  induction deg generalizing xs with
  | nil => cases xs <;> simp
  | cons d deg ih =>
    rw [List.mapM_cons]
    cases xs with
    | nil => simp [Option.bind_eq_some_iff]
    | cons x xs => simp [Option.bind_eq_some_iff, value?_eq_some, ih]

omit [LinearOrder R] [FloorRing R] in
theorem checkVector_iff {attr : ProfileField} {deg : List (Double R)} {v : Joints R} :
    checkVector attr deg = .ok v ↔ Converts deg v := by
  simp only [checkVector, Converts]
  split
  case isTrue size =>
    constructor
    · intro checked
      cases checked
    · intro converts
      exact absurd converts.1 size
  case isFalse size =>
    have length : deg.length = supportedNdof := not_not.mp size
    split
    case h_1 infinite =>
      constructor
      · intro checked
        cases checked
      · rintro ⟨-, entries⟩
        choose x found _ using entries
        have same : deg = (List.ofFn x).map Double.finite := by
          apply List.ext_getElem?
          intro k
          by_cases bound : k < supportedNdof
          · rw [found ⟨k, bound⟩, List.getElem?_map, List.getElem?_ofFn, dif_pos bound,
              Option.map_some]
          · rw [List.getElem?_eq_none (by omega),
              List.getElem?_eq_none (by simpa using not_lt.mp bound)]
        rw [mapM_value?.mpr same] at infinite
        cases infinite
    case h_2 xs finite =>
      have same := mapM_value?.mp finite
      have entry (j : Fin supportedNdof) : deg[j.val]? = some (.finite (xs.getD j 0)) := by
        have bound : j.val < xs.length := by
          have sizes := congrArg List.length same
          rw [List.length_map, length] at sizes
          exact sizes ▸ j.isLt
        rw [same, List.getElem?_map, List.getD_eq_getElem?_getD, List.getElem?_eq_getElem bound,
          Option.map_some, Option.getD_some]
      constructor
      · intro checked
        cases checked
        exact ⟨length, fun j => ⟨_, entry j, rfl⟩⟩
      · rintro ⟨-, entries⟩
        congr 1
        funext j
        obtain ⟨x, found, value⟩ := entries j
        rw [entry j] at found
        cases found
        exact value.symm

structure BuiltOf (args : FromDegrees R) (p : RobotProfile R) : Prop where
  name : p.name = args.name
  model : p.model = args.model
  velocity : Converts args.velocityLimitsDegS p.velocityLimits
  acceleration : Converts args.accelerationLimitsDegS2 p.accelerationLimits
  jerk : Converts args.jerkLimitsDegS3 p.jerkLimits
  lower : Converts args.positionLimitsLowerDeg p.positionLimitsLower
  upper : Converts args.positionLimitsUpperDeg p.positionLimitsUpper
  ndof : args.ndof = supportedNdof
  maxPayloadKg : p.maxPayloadKg = args.maxPayloadKg
  source : p.source = args.source

theorem bind_eq_ok {ε α β : Type} {x : Except ε α} {f : α → Except ε β} {b : β} :
    (x >>= f) = .ok b ↔ ∃ a, x = .ok a ∧ f a = .ok b := by
  cases x with
  | error e =>
    constructor
    · intro impossible
      cases impossible
    · rintro ⟨a, impossible, -⟩
      cases impossible
  | ok a =>
    constructor
    · intro done
      exact ⟨a, rfl, done⟩
    · rintro ⟨a', same, done⟩
      cases same
      exact done

omit [FloorRing R] in
theorem notPositive_eq_nil {v : Joints R} (positive : ∀ j, 0 < v j) : notPositive v = [] := by
  apply List.filter_eq_nil_iff.mpr
  intro j _
  rw [decide_eq_true_eq]
  exact not_le.mpr (positive j)

omit [Field R] [FloorRing R] in
theorem crossed_eq_nil {lower upper : Joints R} (uncrossed : ∀ j, lower j < upper j) :
    crossed lower upper = [] := by
  apply List.filter_eq_nil_iff.mpr
  intro j _
  rw [decide_eq_true_eq]
  exact not_le.mpr (uncrossed j)

omit [FloorRing R] in
/-- `from_degrees` gives exactly the profile its arguments convert to, when there is one. -/
theorem fromDegrees_iff {args : FromDegrees R} {p : RobotProfile R} :
    fromDegrees args = .ok p ↔ BuiltOf args p := by
  simp only [fromDegrees]
  split
  case isTrue other =>
    constructor
    · intro impossible
      cases impossible
    · intro built
      exact absurd built.ndof other
  case isFalse ndof =>
    simp only [bind_eq_ok, checkVector_iff]
    constructor
    · rintro ⟨velocity, v, acceleration, a, jerk, j, lower, l, upper, u, built⟩
      split at built
      · split at built
        · split at built
          · split at built
            · cases built
              exact ⟨rfl, rfl, v, a, j, l, u, not_not.mp ndof, rfl, rfl⟩
            · cases built
          · cases built
        · cases built
      · cases built
    · intro built
      refine ⟨_, built.velocity, _, built.acceleration, _, built.jerk, _, built.lower, _,
        built.upper, ?_⟩
      rw [dif_pos (notPositive_eq_nil p.velocityPos), dif_pos (notPositive_eq_nil p.accelerationPos),
        dif_pos (notPositive_eq_nil p.jerkPos), dif_pos (crossed_eq_nil p.uncrossed)]
      simp only [← built.name, ← built.model, ← built.maxPayloadKg, ← built.source]

/-! ### Whose limit is whose -/

section Alignment

variable {py : PythonText R} {text : List Char}

/-- What a dump gives for one index of an array. -/
def dumpGives (py : PythonText R) (text : List Char) (names : List Name) (key : Name)
    (index : ℕ) : Option (Double R) :=
  (lastBlock py text names key).bind (valueAt · index)

/-- Every joint's entry is the value the dump gives for that joint. -/
def Own (py : PythonText R) (text : List Char) (key : Name) (v : Joints R) : Prop :=
  ∀ j : Fin supportedNdof, ∃ x,
    dumpGives py text wantedSysvars key (j + 1) = some (.finite x) ∧ v j = radians x

omit [LinearOrder R] [FloorRing R] in
/-- Entries taken from an aligned array are those of their own joints. -/
theorem own_of_converts {key : Name} {v : Joints R} (contiguous : Contiguous py text wantedSysvars key)
    (converts :
      Converts ((floats (extractSysvars py text wantedSysvars key)).take supportedNdof) v) :
    Own py text key v := by
  obtain ⟨length, entries⟩ := converts
  intro j
  obtain ⟨x, entry, value⟩ := entries j
  refine ⟨x, ?_, value⟩
  cases found : extractSysvars py text wantedSysvars key with
  | none =>
    rw [found] at length
    cases length
  | some given =>
    cases given with
    | scalar only =>
      rw [found] at length
      cases length
    | tuple vs =>
      rw [found, floats, List.getElem?_take_of_lt j.isLt] at entry
      exact (tuple_aligned_iff found).mpr contiguous j _ entry

omit [FloorRing R] in
theorem limitsFromSysvars_some {sysvars : Name → Option (Value R)} {limits : ControllerLimits R}
    (found : (limitsFromSysvars sysvars).1 = some limits) :
    limits.velocityDegS = floats (sysvars sysvarVelocity) ∧
      limits.lowerDeg = floats (sysvars sysvarLower) ∧
      limits.upperDeg = floats (sysvars sysvarUpper) := by
  simp only [limitsFromSysvars] at found
  split at found
  · cases found
  · split at found
    · cases found
    · cases found
      exact ⟨rfl, rfl, rfl⟩

theorem profileFromController_ok {ip : Host} {derivation : Derivation R} {facts : ControllerFacts R}
    {p : RobotProfile R} (derived : profileFromController ip derivation facts = .ok p) :
    ∃ limits, facts.limits = some limits ∧
      BuiltOf (derivedArguments ip derivation facts.model limits) p := by
  simp only [profileFromController] at derived
  split at derived
  · cases derived
  case h_2 limits known =>
    split at derived
    · cases derived
    case h_2 profile built =>
      cases derived
      exact ⟨limits, known, fromDegrees_iff.mp built⟩

/-- An array that comes out of a dump is aligned exactly if its last block with a value gives the
indices from 1 on without a gap, and a profile built of such arrays gives each joint its own
limits. -/
theorem sysvars_aligned_iff (py : PythonText R) (text : List Char) (names : List Name) :
    (∀ key vs, extractSysvars py text names key = some (.tuple vs) →
      (Aligned py text names key vs ↔ Contiguous py text names key)) ∧
    ∀ ip derivation (facts : ControllerFacts R) p,
      facts.limits = (limitsFromSysvars (extractSysvars py text wantedSysvars)).1 →
      profileFromController ip derivation facts = .ok p →
      (Contiguous py text wantedSysvars sysvarVelocity →
        Own py text sysvarVelocity p.velocityLimits) ∧
      (Contiguous py text wantedSysvars sysvarLower →
        Own py text sysvarLower p.positionLimitsLower) ∧
      (Contiguous py text wantedSysvars sysvarUpper →
        Own py text sysvarUpper p.positionLimitsUpper) := by
  constructor
  · intro key vs found
    exact tuple_aligned_iff found
  · intro ip derivation facts p read derived
    obtain ⟨limits, known, built⟩ := profileFromController_ok derived
    obtain ⟨velocity, lower, upper⟩ := limitsFromSysvars_some (read.symm.trans known)
    have ndof : limits.ndof = supportedNdof := built.ndof
    have velocities := built.velocity
    have lowers := built.lower
    have uppers := built.upper
    simp only [derivedArguments, ndof, velocity, lower, upper] at velocities lowers uppers
    constructor
    · intro contiguous
      exact own_of_converts contiguous velocities
    constructor
    · intro contiguous
      exact own_of_converts contiguous lowers
    · intro contiguous
      exact own_of_converts contiguous uppers

/-- Whole numbers, as far as a dump of them needs it. -/
def wholeFloat (s : List Char) : Option (Double ℚ) :=
  match s with
  | '-' :: ds => (digits ds).bind fun n => if n.2 = [] then some (.finite (-n.1)) else none
  | ds => (digits ds).bind fun n => if n.2 = [] then some (.finite n.1) else none

def asciiText : PythonText ℚ where
  space := isSpace
  decimal c := if c.isDigit then some (c.toNat - 48) else none
  word c := c.isAlphanum || c = '_'
  lower := Char.toLower
  upper := List.map Char.toUpper
  float := wholeFloat

def arrayText (name : Name) (values : List String) : List Char :=
  "   Field: ".toList ++ name ++ "  ARRAY[9] OF REAL\n".toList ++
    (values.zipIdx 1).flatMap fun v =>
      "    [".toList ++ Nat.toDigits 10 v.2 ++ "] = ".toList ++ v.1.toList ++ ['\n']

/-- A dump whose second lower limit is not printed as a number. -/
def starredDump : List Char :=
  arrayText sysvarVelocity ["120", "120", "180", "180", "180", "180"] ++
    arrayText sysvarLower ["-180", "********", "-270", "-190", "-180", "-225", "0"] ++
    arrayText sysvarUpper ["180", "180", "270", "190", "180", "225"]

theorem bench_oneLine : ∀ c ∈ "192.0.2.10".toList, lineBreak c = false := by
  have plain : "192.0.2.10".toList.all (fun c => lineBreak c = false) = true := by decide +kernel
  exact fun c member => of_decide_eq_true (List.all_eq_true.mp plain c member)

def bench : Host := ⟨"192.0.2.10", bench_oneLine⟩

/-- `profile_from_controller` with its defaults. -/
def Derivation.defaults : Derivation R := ⟨2, 8, none⟩

def factsOf (text : List Char) : ControllerFacts ℚ :=
  ⟨none, none, (limitsFromSysvars (extractSysvars asciiText text wantedSysvars)).1, [], []⟩

/-- A dump that prints every limit as a number. -/
def wholeDump : List Char :=
  arrayText sysvarVelocity ["120", "120", "180", "180", "180", "180"] ++
    arrayText sysvarLower ["-180", "-100", "-270", "-190", "-180", "-225"] ++
    arrayText sysvarUpper ["180", "180", "270", "190", "180", "225"]

omit [Field R] [LinearOrder R] [FloorRing R] in
theorem contiguous_of_six {py : PythonText R} {text : List Char} {names : List Name} {key : Name}
    (six : (lastBlock py text names key).map (·.map Prod.fst) = some [1, 2, 3, 4, 5, 6]) :
    Contiguous py text names key := by
  intro block last
  rw [last, Option.map_some, Option.some.injEq] at six
  refine ⟨6, fun i => ?_⟩
  rw [six]
  simp only [List.mem_cons, List.not_mem_nil, or_false]
  omega

theorem sysvars_aligned_iff_whole : ∃ (vs : List (Double ℚ)) (p : RobotProfile ℚ),
    extractSysvars asciiText wholeDump wantedSysvars sysvarLower = some (.tuple vs) ∧
      Aligned asciiText wholeDump wantedSysvars sysvarLower vs ∧
      profileFromController bench .defaults (factsOf wholeDump) = .ok p ∧
      Own asciiText wholeDump sysvarVelocity p.velocityLimits ∧
      Own asciiText wholeDump sysvarLower p.positionLimitsLower ∧
      Own asciiText wholeDump sysvarUpper p.positionLimitsUpper := by
  have velocity : Contiguous asciiText wholeDump wantedSysvars sysvarVelocity :=
    contiguous_of_six (by decide +kernel)
  have lower : Contiguous asciiText wholeDump wantedSysvars sysvarLower :=
    contiguous_of_six (by decide +kernel)
  have upper : Contiguous asciiText wholeDump wantedSysvars sysvarUpper :=
    contiguous_of_six (by decide +kernel)
  have built : (profileFromController bench .defaults (factsOf wholeDump)).toBool = true := by
    decide +kernel
  have found : extractSysvars asciiText wholeDump wantedSysvars sysvarLower =
      some (.tuple ([-180, -100, -270, -190, -180, -225].map Double.finite)) := by decide +kernel
  obtain ⟨aligned, own⟩ := sysvars_aligned_iff asciiText wholeDump wantedSysvars
  cases derived : profileFromController bench .defaults (factsOf wholeDump) with
  | error error =>
    rw [derived] at built
    cases built
  | ok p =>
    obtain ⟨velocities, lowers, uppers⟩ := own bench .defaults (factsOf wholeDump) p rfl derived
    exact ⟨_, p, found, (aligned sysvarLower _ found).mpr lower, rfl, velocities velocity,
      lowers lower, uppers upper⟩

/-- J2 gets J3's lower limit. -/
theorem shifted_lower_limits : ∃ (vs : List (Double ℚ)) (p : RobotProfile ℚ),
    extractSysvars asciiText starredDump wantedSysvars sysvarLower = some (.tuple vs) ∧
      ¬ Aligned asciiText starredDump wantedSysvars sysvarLower vs ∧
      profileFromController bench .defaults (factsOf starredDump) = .ok p ∧
      ¬ Own asciiText starredDump sysvarLower p.positionLimitsLower := by
  have unread : dumpGives asciiText starredDump wantedSysvars sysvarLower 2 = none := by
    decide +kernel
  have built : (profileFromController bench .defaults (factsOf starredDump)).toBool = true := by
    decide +kernel
  cases derived : profileFromController bench .defaults (factsOf starredDump) with
  | error error =>
    rw [derived] at built
    cases built
  | ok p =>
    refine ⟨[-180, -270, -190, -180, -225, 0].map Double.finite, p, by decide +kernel, ?_, rfl,
      ?_⟩
    · intro aligned
      have second := aligned 1 (.finite (-270)) (by decide +kernel)
      exact absurd (unread.symm.trans second) (by simp)
    · intro own
      obtain ⟨x, given, -⟩ := own ⟨1, by decide⟩
      exact absurd (unread.symm.trans given) (by simp)

end Alignment

end AiroFanuc.Probe
