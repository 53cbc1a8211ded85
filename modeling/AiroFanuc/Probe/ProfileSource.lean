import AiroFanuc.Probe.Profile

/-! The source text of a profile, and what executing it builds. -/

namespace AiroFanuc.Probe

open Library

variable {R : Type} [Field R] [LinearOrder R] [IsStrictOrderedRing R] [FloorRing R]

/-! ### The text -/

/-- An argument as it is printed. Strings are printed by `repr`; a decimal stands for its `text`,
and what `:g` prints of an infinity or a NaN is a bare name. -/
inductive Expr where
  | text (s : String)
  | numbers (ds : List Decimal)
  | number (d : Decimal)
  | none
  | bareName (name : String)
  deriving DecidableEq

inductive SourceLine where
  | importProfile
  | blank
  | comment (text : String)
  | opening
  | keyword (name : String) (value : Expr)
  | closing
  deriving DecidableEq

/-- `f"{x:g}"`. -/
def formatG (x : R) : Decimal := Decimal.rounded 6 x

/-- `fmt(np_degrees(values))`. -/
def fmt (v : Joints R) : Expr :=
  .numbers ((List.finRange supportedNdof).map fun j => formatG (degrees (v j)))

def formatPayload : Option (Double R) → Expr
  | Option.none => .none
  | some (.finite x) => .number (formatG x)
  | some (.infinite negative) => .bareName (if negative then "-inf" else "inf")
  | some .nan => .bareName "nan"

def formatProfileSource (profile : RobotProfile R) : List SourceLine :=
  [.importProfile, .blank, .comment profile.source, .opening,
    .keyword "name" (.text profile.name),
    .keyword "model" (.text profile.model),
    .keyword "velocity_limits_deg_s" (fmt profile.velocityLimits),
    .keyword "acceleration_limits_deg_s2" (fmt profile.accelerationLimits),
    .keyword "jerk_limits_deg_s3" (fmt profile.jerkLimits),
    .keyword "position_limits_lower_deg" (fmt profile.positionLimitsLower),
    .keyword "position_limits_upper_deg" (fmt profile.positionLimitsUpper),
    .keyword "max_payload_kg" (formatPayload profile.maxPayloadKg),
    .keyword "source" (.text profile.source), .closing]

/-! ### Executing it -/

inductive ExecError where
  | syntaxError
  | typeError (keyword : String)
  | nameError (name : String)
  | profile (error : ProfileError)
  deriving DecidableEq, Repr

def SourceLine.keyword? (key : String) : SourceLine → Option Expr
  | .keyword name value => if name = key then some value else Option.none
  | _ => Option.none

/-- A comment ends with its line. What a line break in it would make of the rest is code that is
not read here. -/
def SourceLine.readable : SourceLine → Bool
  | .comment text => text.toList.all fun c => !lineBreak c
  | _ => true

def asText (key : String) : Option Expr → Except ExecError String
  | some (.text s) => .ok s
  | _ => .error (.typeError key)

def asNumbers (R : Type) [Field R] (key : String) : Option Expr → Except ExecError (List (Double R))
  | some (.numbers ds) => .ok (ds.map fun d => .finite d.value)
  | _ => .error (.typeError key)

/-- An argument that may be left out. -/
def asPayload (R : Type) [Field R] : Option Expr → Except ExecError (Option (Double R))
  | some (.number d) => .ok (some (.finite d.value))
  | some (.bareName name) => .error (.nameError name)
  | some .none | Option.none => .ok Option.none
  | some _ => .error (.typeError "max_payload_kg")

/-- The value `PROFILE` has after the text is executed. The joint count is not among the arguments
and takes its default. -/
def execute (R : Type) [Field R] [LinearOrder R] [IsStrictOrderedRing R] [FloorRing R]
    (source : List SourceLine) : Except ExecError (RobotProfile R) :=
  if source.all SourceLine.readable = false then .error .syntaxError
  else do
    let argument := fun key => source.findSome? (SourceLine.keyword? key)
    let name ← asText "name" (argument "name")
    let model ← asText "model" (argument "model")
    let velocity ← asNumbers R "velocity_limits_deg_s" (argument "velocity_limits_deg_s")
    let acceleration ←
      asNumbers R "acceleration_limits_deg_s2" (argument "acceleration_limits_deg_s2")
    let jerk ← asNumbers R "jerk_limits_deg_s3" (argument "jerk_limits_deg_s3")
    let lower ← asNumbers R "position_limits_lower_deg" (argument "position_limits_lower_deg")
    let upper ← asNumbers R "position_limits_upper_deg" (argument "position_limits_upper_deg")
    let payload ← asPayload R (argument "max_payload_kg")
    let source ← asText "source" (argument "source")
    match fromDegrees ⟨name, model, velocity, acceleration, jerk, lower, upper, supportedNdof,
        payload, source⟩ with
    | .error error => .error (.profile error)
    | .ok profile => .ok profile

/-! ### The text on one line -/

/-- What `Decimal.text` writes with. -/
def Printed (c : Char) : Prop := c.isDigit = true ∨ c ∈ ['-', '+', 'e', '.']

theorem Printed.oneLine {c : Char} (printed : Printed c) : lineBreak c = false := by
  rcases printed with digit | sign
  · simp only [Char.isDigit, Bool.and_eq_true, decide_eq_true_eq] at digit
    have low : 48 ≤ c.toNat := digit.1
    have high : c.toNat ≤ 57 := digit.2
    simp only [lineBreak, List.contains_eq_mem, List.mem_cons, List.not_mem_nil, or_false,
      decide_eq_false_iff_not, not_or]
    omega
  · have signs : ['-', '+', 'e', '.'].all (fun c => lineBreak c = false) = true := by decide
    exact of_decide_eq_true (List.all_eq_true.mp signs c sign)

theorem printed_digits (m : ℕ) : ∀ c ∈ Decimal.digitsText m, Printed c := by
  intro c member
  exact .inl (Nat.isDigit_of_mem_toDigits (by decide) (by decide) member)

theorem printed_padded {width : ℕ} {s : List Char} (printed : ∀ c ∈ s, Printed c) :
    ∀ c ∈ Decimal.padded width s, Printed c := by
  intro c member
  rcases List.mem_append.mp member with zero | inside
  · rw [List.eq_of_mem_replicate zero]
    exact .inl rfl
  · exact printed c inside

theorem printed_pointed {whole fraction : List Char} (first : ∀ c ∈ whole, Printed c)
    (second : ∀ c ∈ fraction, Printed c) : ∀ c ∈ Decimal.pointed whole fraction, Printed c := by
  intro c member
  simp only [Decimal.pointed] at member
  split at member
  · exact first c member
  · rcases List.mem_append.mp member with before | after
    · exact first c before
    · rcases List.mem_cons.mp after with rfl | after
      · exact .inr (by decide)
      · exact second c after

theorem printed_unsignedText (digits : ℕ) (d : Decimal) :
    ∀ c ∈ Decimal.unsignedText digits d, Printed c := by
  have mantissa := printed_digits d.mantissa
  intro c member
  simp only [Decimal.unsignedText] at member
  split at member
  · rw [List.mem_singleton.mp member]
    exact .inl rfl
  · split at member
    · rcases List.mem_append.mp member with before | after
      · exact printed_pointed (fun c inside => mantissa c (List.mem_of_mem_take inside))
          (fun c inside => mantissa c (List.mem_of_mem_drop inside)) c before
      · rcases List.mem_cons.mp after with rfl | after
        · exact .inr (by decide)
        · rcases List.mem_cons.mp after with rfl | after
          · split
            · exact .inr (by decide)
            · exact .inr (by decide)
          · exact printed_padded (printed_digits _) c after
    · split at member
      · rcases List.mem_append.mp member with before | zero
        · exact mantissa c before
        · rw [List.eq_of_mem_replicate zero]
          exact .inl rfl
      · have wide : ∀ c ∈ Decimal.padded (d.exponent.natAbs + 1) (Decimal.digitsText d.mantissa),
            Printed c := printed_padded mantissa
        exact printed_pointed (fun c inside => wide c (List.mem_of_mem_take inside))
          (fun c inside => wide c (List.mem_of_mem_drop inside)) c member

theorem text_oneLine (digits : ℕ) (d : Decimal) :
    ∀ c ∈ (d.text digits).toList, lineBreak c = false := by
  intro c member
  rw [Decimal.text, String.toList_ofList] at member
  rcases List.mem_append.mp member with sign | body
  · split at sign
    · rw [List.mem_singleton.mp sign]
      decide
    · cases sign
  · exact (printed_unsignedText digits _ c body).oneLine

def OneLine (s : String) : Prop := ∀ c ∈ s.toList, lineBreak c = false

instance (s : String) : Decidable (OneLine s) := List.decidableBAll _ s.toList

theorem OneLine.append {s t : String} (first : OneLine s) (second : OneLine t) :
    OneLine (s ++ t) := by
  intro c member
  rw [String.toList_append] at member
  rcases List.mem_append.mp member with before | after
  · exact first c before
  · exact second c after

omit [IsStrictOrderedRing R] in
/-- The source of a derived profile is one line, as the comment it is printed in has to be. -/
theorem derivedSource_oneLine (ip : Host) (derivation : Derivation R) :
    OneLine (derivedSource ip derivation) := by
  have read : OneLine "velocity + position limits read from " := by decide +kernel
  have dumped : OneLine " $PARAM_GROUP via FTP (symotn.va); " := by decide +kernel
  have acceleration : OneLine "acceleration = " := by decide +kernel
  have jerk : OneLine "x velocity and jerk = " := by decide +kernel
  have derived : OneLine "x acceleration derived, not measured" := by decide +kernel
  have accelFactor := text_oneLine 6 (Decimal.rounded 6 derivation.accelFromVelocity)
  have jerkFactor := text_oneLine 6 (Decimal.rounded 6 derivation.jerkFromAccel)
  -- the equation of this definition is slow to state, its body is not
  delta derivedSource
  apply OneLine.append _ derived
  apply OneLine.append _ jerkFactor
  apply OneLine.append _ jerk
  apply OneLine.append _ accelFactor
  apply OneLine.append _ acceleration
  apply OneLine.append _ dumped
  exact read.append ip.oneLine

/-! ### The round trip -/

section RoundTrip

variable {p p' : RobotProfile R}

omit [FloorRing R] in
theorem pi_ne_zero : pi R ≠ 0 := by
  simp only [pi]
  positivity

theorem degrees_radians (x : R) : degrees (radians x) = x := by
  have nonzero := pi_ne_zero (R := R)
  simp only [degrees, radians]
  field_simp

theorem radians_degrees (x : R) : radians (degrees x) = x := by
  have nonzero := pi_ne_zero (R := R)
  simp only [degrees, radians]
  field_simp

/-- The limits and the payload are the same; the joint count is that of the type. -/
structure SameEnvelope (p p' : RobotProfile R) : Prop where
  velocity : p.velocityLimits = p'.velocityLimits
  acceleration : p.accelerationLimits = p'.accelerationLimits
  jerk : p.jerkLimits = p'.jerkLimits
  lower : p.positionLimitsLower = p'.positionLimitsLower
  upper : p.positionLimitsUpper = p'.positionLimitsUpper
  payload : p.maxPayloadKg = p'.maxPayloadKg

/-- In degrees every joint's entry has six significant digits at most. -/
def SixDigits (v : Joints R) : Prop := ∀ j, Decimal.HasDigits 6 (degrees (v j))

/-- Everything that is printed with `:g` has six significant digits at most. -/
structure Printable (p : RobotProfile R) : Prop where
  velocity : SixDigits p.velocityLimits
  acceleration : SixDigits p.accelerationLimits
  jerk : SixDigits p.jerkLimits
  lower : SixDigits p.positionLimitsLower
  upper : SixDigits p.positionLimitsUpper
  payload : ∀ d, p.maxPayloadKg = some d → ∃ x, d = .finite x ∧ Decimal.HasDigits 6 x

/-- The list that executing `fmt v` gives. -/
def reread (v : Joints R) : List (Double R) :=
  (List.finRange supportedNdof).map fun j => .finite (formatG (degrees (v j))).value

omit [IsStrictOrderedRing R] in
theorem converts_reread (v v' : Joints R) :
    Converts (reread v) v' ↔ ∀ j, v' j = radians (formatG (degrees (v j))).value := by
  have entry (j : Fin supportedNdof) :
      (reread v)[j.val]? = some (.finite (formatG (degrees (v j))).value) := by
    have bound : j.val < (List.finRange supportedNdof).length := by
      rw [List.length_finRange]
      exact j.isLt
    rw [reread, List.getElem?_map, List.getElem?_eq_getElem bound, List.getElem_finRange]
    rfl
  constructor
  · rintro ⟨-, entries⟩ j
    obtain ⟨x, found, value⟩ := entries j
    rw [entry j] at found
    cases found
    exact value
  · intro values
    refine ⟨?_, fun j => ⟨_, entry j, values j⟩⟩
    rw [reread, List.length_map, List.length_finRange]

/-- A vector survives the text exactly if six digits write every entry of it. -/
theorem converts_reread_self (v : Joints R) : Converts (reread v) v ↔ SixDigits v := by
  rw [converts_reread]
  apply forall_congr'
  intro j
  rw [← Decimal.rounded_value_iff]
  constructor
  · intro same
    have unconverted := congrArg degrees same
    rw [degrees_radians] at unconverted
    exact unconverted.symm
  · intro same
    rw [formatG, same, radians_degrees]

/-- The arguments that executing the text hands to `from_degrees`. -/
def rereadArguments (p : RobotProfile R) (payload : Option (Double R)) : FromDegrees R :=
  { name := p.name
    model := p.model
    velocityLimitsDegS := reread p.velocityLimits
    accelerationLimitsDegS2 := reread p.accelerationLimits
    jerkLimitsDegS3 := reread p.jerkLimits
    positionLimitsLowerDeg := reread p.positionLimitsLower
    positionLimitsUpperDeg := reread p.positionLimitsUpper
    ndof := supportedNdof
    maxPayloadKg := payload
    source := p.source }

omit [IsStrictOrderedRing R] in
theorem asNumbers_fmt (key : String) (v : Joints R) :
    asNumbers R key (some (fmt v)) = .ok (reread v) := by
  simp only [asNumbers, fmt, reread, List.map_map, Function.comp_def]

theorem execute_format (oneLine : OneLine p.source) :
    execute R (formatProfileSource p) = .ok p' ↔
      ∃ payload, asPayload R (some (formatPayload p.maxPayloadKg)) = .ok payload ∧
        BuiltOf (rereadArguments p payload) p' := by
  have readable : (formatProfileSource p).all SourceLine.readable = true := by
    have comment : p.source.toList.all (fun c => !lineBreak c) = true := by
      rw [List.all_eq_true]
      intro c member
      rw [oneLine c member]
      rfl
    simp only [formatProfileSource, List.all_cons, List.all_nil, SourceLine.readable, comment,
      Bool.and_self]
  have executed : execute R (formatProfileSource p) = .ok p' ↔
      ∃ payload, asPayload R (some (formatPayload p.maxPayloadKg)) = .ok payload ∧
        (match fromDegrees (rereadArguments p payload) with
          | .error error => .error (.profile error)
          | .ok profile => .ok profile) = (.ok p' : Except ExecError (RobotProfile R)) := by
    simp only [execute, readable, Bool.true_eq_false, if_false]
    simp [formatProfileSource, List.findSome?_cons, SourceLine.keyword?, asText, asNumbers_fmt,
      bind_eq_ok, rereadArguments]
  rw [executed]
  apply exists_congr
  intro payload
  apply and_congr_right
  intro _
  rw [← fromDegrees_iff]
  cases fromDegrees (rereadArguments p payload) with
  | error error =>
    constructor
    · intro impossible
      cases impossible
    · intro impossible
      cases impossible
  | ok profile =>
    constructor
    · intro same
      cases same
      rfl
    · intro same
      cases same
      rfl

/-- Executing the source of a derived profile gives a profile of the same limits and payload
exactly if no number that is printed has more than six significant digits. -/
theorem round_trip_iff {ip : Host} {derivation : Derivation R} {facts : ControllerFacts R}
    (derived : profileFromController ip derivation facts = .ok p) :
    (∃ p', execute R (formatProfileSource p) = .ok p' ∧ SameEnvelope p' p) ↔ Printable p := by
  obtain ⟨limits, -, built⟩ := profileFromController_ok derived
  have oneLine : OneLine p.source := by
    rw [built.source]
    exact derivedSource_oneLine ip derivation
  simp only [execute_format oneLine]
  constructor
  · rintro ⟨p', ⟨payload, printed, rebuilt⟩, same⟩
    have velocity := rebuilt.velocity
    have acceleration := rebuilt.acceleration
    have jerk := rebuilt.jerk
    have lower := rebuilt.lower
    have upper := rebuilt.upper
    rw [same.velocity] at velocity
    rw [same.acceleration] at acceleration
    rw [same.jerk] at jerk
    rw [same.lower] at lower
    rw [same.upper] at upper
    constructor
    · exact (converts_reread_self _).mp velocity
    · exact (converts_reread_self _).mp acceleration
    · exact (converts_reread_self _).mp jerk
    · exact (converts_reread_self _).mp lower
    · exact (converts_reread_self _).mp upper
    · intro d given
      have reprinted : payload = some d := by
        rw [← given, ← same.payload]
        exact rebuilt.maxPayloadKg.symm
      rw [given, reprinted] at printed
      cases d with
      | finite x =>
        refine ⟨x, rfl, ?_⟩
        have value : (formatG x).value = x := by simpa [formatPayload, asPayload] using printed
        exact (Decimal.rounded_value_iff x).mp value
      | infinite negative => cases printed
      | nan => cases printed
  · intro printable
    refine ⟨p, ⟨p.maxPayloadKg, ?_, ?_⟩, ?_⟩
    · cases given : p.maxPayloadKg with
      | none => rfl
      | some d =>
        obtain ⟨x, rfl, six⟩ := printable.payload d given
        have value : (formatG x).value = x := (Decimal.rounded_value_iff x).mpr six
        simp only [formatPayload, asPayload, value]
    · constructor
      · rfl
      · rfl
      · exact (converts_reread_self _).mpr printable.velocity
      · exact (converts_reread_self _).mpr printable.acceleration
      · exact (converts_reread_self _).mpr printable.jerk
      · exact (converts_reread_self _).mpr printable.lower
      · exact (converts_reread_self _).mpr printable.upper
      · rfl
      · rfl
      · rfl
    · exact ⟨rfl, rfl, rfl, rfl, rfl, rfl⟩

/-- What a probe reports of an arm with these limits. -/
def reported (velocity : List ℚ) : ControllerFacts ℚ :=
  let finite := List.map Double.finite
  ⟨none, some ⟨some "CRX-10iA/L", none⟩,
    some ⟨finite velocity, finite [-180, -180, -270, -190, -180, -225],
      finite [180, 180, 270, 190, 180, 225], [], [], [], some (.finite 10)⟩, [], []⟩

theorem round_trip_iff_crx : ∃ p : RobotProfile ℚ,
    profileFromController bench .defaults (reported [120, 120, 180, 180, 180, 180]) = .ok p ∧
      ((∃ p', execute ℚ (formatProfileSource p) = .ok p' ∧ SameEnvelope p' p) ↔ Printable p) := by
  have built : (profileFromController bench .defaults
      (reported [120, 120, 180, 180, 180, 180])).toBool = true := by decide +kernel
  cases derived : profileFromController bench .defaults (reported [120, 120, 180, 180, 180, 180]) with
  | error error =>
    rw [derived] at built
    cases built
  | ok p => exact ⟨p, rfl, round_trip_iff derived⟩

/-- A limit of 123.4567 deg/s comes back as 123.457, above what the controller enforces. -/
theorem rounds_a_limit_up : ∃ p p' : RobotProfile ℚ,
    profileFromController bench .defaults (reported [123.4567, 120, 180, 180, 180, 180]) = .ok p ∧
      execute ℚ (formatProfileSource p) = .ok p' ∧ ¬ SameEnvelope p' p ∧
      p.velocityLimits ⟨0, by decide⟩ < p'.velocityLimits ⟨0, by decide⟩ := by
  have raised : ((profileFromController bench .defaults
      (reported [123.4567, 120, 180, 180, 180, 180])).toOption.any fun p =>
        (execute ℚ (formatProfileSource p)).toOption.any fun p' =>
          decide (p.velocityLimits ⟨0, by decide⟩ < p'.velocityLimits ⟨0, by decide⟩)) = true := by
    decide +kernel
  cases derived : profileFromController bench .defaults
      (reported [123.4567, 120, 180, 180, 180, 180]) with
  | error error =>
    rw [derived] at raised
    cases raised
  | ok p =>
    rw [derived] at raised
    cases executed : execute ℚ (formatProfileSource p) with
    | error error =>
      simp only [Except.toOption, Option.any_some, executed, Option.any_none] at raised
      cases raised
    | ok p' =>
      simp only [Except.toOption, Option.any_some, executed, decide_eq_true_eq] at raised
      refine ⟨p, p', rfl, executed, fun same => ?_, raised⟩
      rw [same.velocity] at raised
      exact lt_irrefl _ raised

end RoundTrip

end AiroFanuc.Probe
