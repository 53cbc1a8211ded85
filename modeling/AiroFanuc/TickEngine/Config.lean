import AiroFanuc.Library.Numerals
import Mathlib.Algebra.Order.Field.Basic
import Mathlib.Algebra.Order.Floor.Ring
import Mathlib.Data.Rat.Floor
import Mathlib.Tactic.Linarith
import Mathlib.Tactic.Ring

/-! Numbers, per-joint vectors and the tick-engine knobs. A C++ `double` is an
element of an arbitrary ordered field with a floor, so every result below is
about exact arithmetic; `int64_t` keeps its width through `wrapInt64`. -/

namespace AiroFanuc.TickEngine

abbrev kNumJoints : Nat := 6

abbrev Vec6 (R : Type) := Fin kNumJoints → R

/-- Two's complement reading of an integer in 64 bits. -/
def wrapInt64 (n : Int) : Int := n.bmod (2 ^ 64)

def kInt64Min : Int := -2 ^ 63
def kInt64Max : Int := 2 ^ 63 - 1

/-- `static_cast<int>` of a whole double; what does not fit gives the minimum. -/
def castInt32 (n : Int) : Int := if -2 ^ 31 ≤ n ∧ n ≤ 2 ^ 31 - 1 then n else -2 ^ 31

section Scalars

variable {R : Type} [Field R] [LinearOrder R] [FloorRing R]

/-- `std::llround`: to nearest, halves away from zero. -/
def llround (x : R) : Int := if 0 ≤ x then ⌊x + 1 / 2⌋ else -⌊-x + 1 / 2⌋

/-- `static_cast<std::int64_t>(double)`: toward zero. A value that does not fit
gives the minimum, as the x86-64 conversion does. -/
def truncInt64 (x : R) : Int :=
  let n := if 0 ≤ x then ⌊x⌋ else -⌊-x⌋
  if kInt64Min ≤ n ∧ n ≤ kInt64Max then n else kInt64Min

def clamp (x lo hi : R) : R := if x < lo then lo else if hi < x then hi else x

/-- `std::clamp` against soft stops; `none` is the infinite default. -/
def clampPos (lo hi : Option R) (x : R) : R :=
  match lo, hi with
  | some l, some h => clamp x l h
  | some l, none => if x < l then l else x
  | none, some h => if h < x then h else x
  | none, none => x

def maxAbs (v : Vec6 R) : R := (List.finRange kNumJoints).foldl (fun m j => max m |v j|) 0

def maxAbsDiff (a b : Vec6 R) : R :=
  (List.finRange kNumJoints).foldl (fun m j => max m |a j - b j|) 0

def kPi : R := 3141592653589793238462643383279502884 / 10 ^ 36
def deg2rad (deg : R) : R := deg * (kPi / 180)
def rad2deg (rad : R) : R := rad * (180 / kPi)

/-- The interpolation period in whole nanoseconds, as every playback clock steps. -/
def itpNs (itpS : R) : Int := llround (itpS * 10 ^ 9)

end Scalars

structure Limits (R : Type) where
  v : Vec6 R
  a : Vec6 R
  j : Vec6 R
  posLo : Fin kNumJoints → Option R
  posHi : Fin kNumJoints → Option R

structure TickEngineConfig (R : Type) where
  itpS : R
  limits : Limits R
  stopScaleVa : R
  stopScaleJ : R
  slewFactor : R
  slewSustainedTicks : Int
  brakeSettleVelEpsRadS : R
  brakeMaxDurationS : R
  captureRateRadS : R
  captureTolRad : R
  servoLimitScale : R
  qdEndBlendMinS : R
  settleTolRad : R
  settleVelEpsRadS : R
  settleTimeoutS : R

section Defaults

variable {R : Type} [Field R]

def defaultLimits : Limits R where
  v := fun _ => 2
  a := fun _ => 4
  j := fun _ => 32
  posLo := fun _ => none
  posHi := fun _ => none

def defaultTickEngineConfig : TickEngineConfig R where
  itpS := 8 / 1000
  limits := defaultLimits
  stopScaleVa := 4 / 10
  stopScaleJ := 15 / 100
  slewFactor := 12 / 10
  slewSustainedTicks := 3
  brakeSettleVelEpsRadS := deg2rad 1
  brakeMaxDurationS := 2
  captureRateRadS := deg2rad 15
  captureTolRad := deg2rad 5
  servoLimitScale := 1
  qdEndBlendMinS := 25 / 1000
  settleTolRad := deg2rad (1 / 2)
  settleVelEpsRadS := deg2rad 2
  settleTimeoutS := 2

end Defaults

inductive ControlInterface where
  | position
  | velocity
  deriving DecidableEq, Repr

/-- Ruckig's verdict of one `update`; every code below zero is an error. -/
inductive Result where
  | working
  | finished
  | error (code : Int)
  deriving DecidableEq, Repr

structure InputParameter (R : Type) where
  controlInterface : ControlInterface
  maxVelocity : Vec6 R
  maxAcceleration : Vec6 R
  maxJerk : Vec6 R
  currentPosition : Vec6 R
  currentVelocity : Vec6 R
  currentAcceleration : Vec6 R
  targetPosition : Vec6 R
  targetVelocity : Vec6 R
  targetAcceleration : Vec6 R
  minimumDuration : Option R

structure OutputParameter (R : Type) where
  newPosition : Vec6 R
  newVelocity : Vec6 R
  newAcceleration : Vec6 R
  time : R
  duration : R

/-- Code outside the repository. A Ruckig instance is a deterministic function of
its cycle time, the inputs it was updated with before, and the present input;
`sqrt` is the library square root. -/
structure External (R : Type) where
  ruckig : R → List (InputParameter R) → InputParameter R → Result × OutputParameter R
  sqrt : R → R

def InputParameter.zero {R : Type} [Zero R] : InputParameter R where
  controlInterface := .position
  maxVelocity := 0
  maxAcceleration := 0
  maxJerk := 0
  currentPosition := 0
  currentVelocity := 0
  currentAcceleration := 0
  targetPosition := 0
  targetVelocity := 0
  targetAcceleration := 0
  minimumDuration := none

def OutputParameter.passToInput {R : Type} (out : OutputParameter R) (inp : InputParameter R) :
    InputParameter R :=
  { inp with
    currentPosition := out.newPosition
    currentVelocity := out.newVelocity
    currentAcceleration := out.newAcceleration }

end AiroFanuc.TickEngine
