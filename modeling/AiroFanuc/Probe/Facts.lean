import AiroFanuc.Library.Numerals
import Mathlib.Algebra.Order.Field.Basic
import Mathlib.Algebra.Order.Group.Abs
import Mathlib.Data.List.Infix

/-! What a probe of the controller finds out, and the arm profile it is compared with. -/

namespace AiroFanuc.Probe

/-- A Python float, exact where it is finite. -/
inductive Double (R : Type) where
  | finite (x : R)
  | infinite (negative : Bool)
  | nan
  deriving DecidableEq

namespace Double

variable {R : Type} [Field R] [LinearOrder R]

/-- `x <= 0.0`. -/
def nonpos : Double R → Bool
  | .finite x => decide (x ≤ 0)
  | .infinite negative => negative
  | .nan => false

def value? : Double R → Option R
  | .finite x => some x
  | _ => none

/-- `a - b`. -/
def sub : Double R → Double R → Double R
  | .finite x, .finite y => .finite (x - y)
  | .infinite negative, .finite _ => .infinite negative
  | .finite _, .infinite negative => .infinite (!negative)
  | .infinite a, .infinite b => if a = b then .nan else .infinite a
  | _, _ => .nan

/-- `a > b` against a finite bound. -/
def above (bound : R) : Double R → Bool
  | .finite x => decide (bound < x)
  | .infinite negative => !negative
  | .nan => false

def abs : Double R → Double R
  | .finite x => .finite |x|
  | .infinite _ => .infinite false
  | .nan => .nan

end Double

/-! ### The profile -/

/-- `SUPPORTED_NDOF`. -/
def supportedNdof : ℕ := 6

abbrev Joints (R : Type) := Fin supportedNdof → R

/-- `math.pi`, to the digits it prints with. -/
def pi (R : Type) [Field R] : R := 3141592653589793 / 10 ^ 15

/-- A validated profile: every clamp is positive and no position limits cross. -/
structure RobotProfile (R : Type) [Field R] [LinearOrder R] where
  name : String
  model : String
  velocityLimits : Joints R
  accelerationLimits : Joints R
  jerkLimits : Joints R
  positionLimitsLower : Joints R
  positionLimitsUpper : Joints R
  maxPayloadKg : Option (Double R)
  source : String
  velocityPos : ∀ j, 0 < velocityLimits j
  accelerationPos : ∀ j, 0 < accelerationLimits j
  jerkPos : ∀ j, 0 < jerkLimits j
  uncrossed : ∀ j, positionLimitsLower j < positionLimitsUpper j

inductive ProfileField where
  | velocityLimits
  | accelerationLimits
  | jerkLimits
  | positionLimitsLower
  | positionLimitsUpper
  deriving DecidableEq, Repr

inductive ProfileError where
  | ndof (declared : ℕ)
  | size (attr : ProfileField) (size : ℕ)
  | nonFinite (attr : ProfileField)
  | notPositive (attr : ProfileField) (joints : List (Fin supportedNdof))
  | crossed (joints : List (Fin supportedNdof))
  deriving DecidableEq, Repr

section Profile

variable {R : Type} [Field R] [LinearOrder R]

def radians (x : R) : R := x * (pi R / 180)

def degrees (x : R) : R := x * (180 / pi R)

/-- The length and finiteness checks on one vector, which `np.radians` has converted. -/
def checkVector (attr : ProfileField) (deg : List (Double R)) : Except ProfileError (Joints R) :=
  if deg.length ≠ supportedNdof then .error (.size attr deg.length)
  else
    match deg.mapM Double.value? with
    | none => .error (.nonFinite attr)
    | some xs => .ok fun j => radians (xs.getD j 0)

def notPositive (v : Joints R) : List (Fin supportedNdof) :=
  (List.finRange supportedNdof).filter fun j => decide (v j ≤ 0)

def crossed (lower upper : Joints R) : List (Fin supportedNdof) :=
  (List.finRange supportedNdof).filter fun j => decide (upper j ≤ lower j)

/-- The keyword arguments of `from_degrees`. -/
structure FromDegrees (R : Type) where
  name : String
  model : String
  velocityLimitsDegS : List (Double R)
  accelerationLimitsDegS2 : List (Double R)
  jerkLimitsDegS3 : List (Double R)
  positionLimitsLowerDeg : List (Double R)
  positionLimitsUpperDeg : List (Double R)
  ndof : ℕ
  maxPayloadKg : Option (Double R)
  source : String

theorem pos_of_notPositive {v : Joints R} (none : notPositive v = []) (j : Fin supportedNdof) :
    0 < v j := by
  by_contra bad
  have member : j ∈ notPositive v :=
    List.mem_filter.mpr ⟨List.mem_finRange j, decide_eq_true (not_lt.mp bad)⟩
  rw [none] at member
  cases member

omit [Field R] in
theorem lt_of_crossed {lower upper : Joints R} (none : crossed lower upper = [])
    (j : Fin supportedNdof) : lower j < upper j := by
  by_contra bad
  have member : j ∈ crossed lower upper :=
    List.mem_filter.mpr ⟨List.mem_finRange j, decide_eq_true (not_lt.mp bad)⟩
  rw [none] at member
  cases member

/-- `from_degrees` and the checks of `__post_init__`, in their order. -/
def fromDegrees (args : FromDegrees R) : Except ProfileError (RobotProfile R) :=
  if args.ndof ≠ supportedNdof then .error (.ndof args.ndof)
  else do
    let velocity ← checkVector .velocityLimits args.velocityLimitsDegS
    let acceleration ← checkVector .accelerationLimits args.accelerationLimitsDegS2
    let jerk ← checkVector .jerkLimits args.jerkLimitsDegS3
    let lower ← checkVector .positionLimitsLower args.positionLimitsLowerDeg
    let upper ← checkVector .positionLimitsUpper args.positionLimitsUpperDeg
    if v : notPositive velocity = [] then
      if a : notPositive acceleration = [] then
        if j : notPositive jerk = [] then
          if c : crossed lower upper = [] then
            .ok ⟨args.name, args.model, velocity, acceleration, jerk, lower, upper,
              args.maxPayloadKg, args.source, pos_of_notPositive v, pos_of_notPositive a,
              pos_of_notPositive j, lt_of_crossed c⟩
          else .error (.crossed (crossed lower upper))
        else .error (.notPositive .jerkLimits (notPositive jerk))
      else .error (.notPositive .accelerationLimits (notPositive acceleration))
    else .error (.notPositive .velocityLimits (notPositive velocity))

end Profile

/-! ### The facts -/

/-- Decoded `orderfil.dat`, as far as anything reads it. -/
structure OrderFile where
  deliverVersion : Option String
  options : List (String × String)
  deriving DecidableEq

structure VersionInfo where
  model : Option String
  softwareEdition : Option String
  deriving DecidableEq

structure ControllerLimits (R : Type) where
  velocityDegS : List (Double R)
  lowerDeg : List (Double R)
  upperDeg : List (Double R)
  masterVelocityDegS : List (Double R)
  masterLowerDeg : List (Double R)
  masterUpperDeg : List (Double R)
  maxPayloadKg : Option (Double R)

structure ControllerFacts (R : Type) where
  order : Option OrderFile
  version : Option VersionInfo
  limits : Option (ControllerLimits R)
  tpPrograms : List String
  warnings : List String

/-- `_infer_ndof`: how many of the leading velocity limits are positive. -/
def inferNdof {R : Type} [Field R] [LinearOrder R] (velocityDegS : List (Double R)) : ℕ :=
  (velocityDegS.takeWhile fun v => !v.nonpos).length

def ControllerLimits.ndof {R : Type} [Field R] [LinearOrder R] (limits : ControllerLimits R) : ℕ :=
  inferNdof limits.velocityDegS

def optionExternalControl : String := "S636"

/-- Matches on any part of an ordered code, whatever the case. -/
def OrderFile.hasOption (order : OrderFile) (code : String) : Bool :=
  order.options.any fun o => decide (code.toUpper.toList <:+: o.1.toUpper.toList)

def ControllerFacts.hasExternalControl {R : Type} (facts : ControllerFacts R) : Bool :=
  facts.order.any fun order => order.hasOption optionExternalControl

def ControllerFacts.hasTpProgram {R : Type} (facts : ControllerFacts R) (name : String) : Bool :=
  facts.tpPrograms.contains name.toLower

def ControllerFacts.model {R : Type} (facts : ControllerFacts R) : Option String :=
  facts.version.bind VersionInfo.model

/-! ### P-levels -/

/-- Python's whitespace, as far as a Latin-1 text has it. -/
def isSpace (c : Char) : Bool :=
  [' ', '\t', '\n', '\r'].contains c ||
    [0x0b, 0x0c, 0x1c, 0x1d, 0x1e, 0x1f, 0x85, 0xa0].contains c.toNat

def digits (s : List Char) : Option (ℕ × List Char) :=
  let run := s.takeWhile Char.isDigit
  if run = [] then none
  else some (run.foldl (fun n c => 10 * n + (c.toNat - 48)) 0, s.dropWhile Char.isDigit)

def skipSlash (s : List Char) : List Char :=
  match s.dropWhile isSpace with
  | '/' :: rest => rest.dropWhile isSpace
  | rest => rest

/-- `V(\d+)\.(\d+)\s*/?\s*P\s*/?\s*(\d+)` at the start of the text, in any case. -/
def matchPLevel : List Char → Option (ℕ × ℕ × ℕ)
  | v :: s =>
    if v = 'V' ∨ v = 'v' then
      match digits s with
      | some (major, '.' :: s) =>
        match digits s with
        | some (minor, s) =>
          match skipSlash s with
          | p :: s =>
            if p = 'P' ∨ p = 'p' then (digits (skipSlash s)).map fun level => (major, minor, level.1)
            else none
          | [] => none
        | none => none
      | _ => none
    else none
  | [] => none

/-- `p_level_key`: the first match anywhere in the text. -/
def pLevelKey (text : String) : Option (ℕ × ℕ × ℕ) := text.toList.tails.findSome? matchPLevel

def below (a b : ℕ × ℕ × ℕ) : Bool :=
  decide (a.1 < b.1 ∨ a.1 = b.1 ∧ (a.2.1 < b.2.1 ∨ a.2.1 = b.2.1 ∧ a.2.2 < b.2.2))

example : pLevelKey "Software Edition No.: V9.40P/84" = some (9, 40, 84) := by decide +kernel

end AiroFanuc.Probe
