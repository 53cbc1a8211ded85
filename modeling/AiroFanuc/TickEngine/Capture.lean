import AiroFanuc.TickEngine.Hermite

/-! The capture splice: its single generator and the gate in front of it. -/

namespace AiroFanuc.TickEngine

/-- The splice knots, one a tick; `knots` is the first `count` entries of the arrays. -/
structure CapturePath (R : Type) where
  knots : List (HermiteSample R)
  result : Result
  overflow : Bool
  finished : Bool
  residueNs : Int

def CapturePath.kMaxKnots : Nat := 300

def CapturePath.cleared {R : Type} : CapturePath R := ⟨[], .working, false, false, 0⟩

def CapturePath.count {R : Type} (p : CapturePath R) : Nat := p.knots.length

def CapturePath.ok {R : Type} (p : CapturePath R) : Bool := p.finished && !p.overflow

section Generate

variable {R : Type} [Field R] [LinearOrder R] [FloorRing R]

def captureInput (qCmd qdCmd q0 qd0 : Vec6 R) (cfg : TickEngineConfig R) : InputParameter R :=
  { controlInterface := .position
    maxVelocity := fun _ => cfg.captureRateRadS
    maxAcceleration := fun j => cfg.stopScaleVa * cfg.limits.a j
    maxJerk := fun j => cfg.stopScaleJ * cfg.limits.j j
    currentPosition := qCmd
    currentVelocity := qdCmd
    currentAcceleration := 0
    targetPosition := q0
    targetVelocity := qd0
    targetAcceleration := 0
    minimumDuration := none }

/-- The generator's loop, one knot a pass; the buffer running out is the overflow. -/
def captureLoop (lib : External R) (itpS : R) :
    Nat → List (InputParameter R) → InputParameter R → CapturePath R → CapturePath R
  | 0, _, _, out => { out with overflow := true }
  | room + 1, history, inp, out =>
    let (r, o) := lib.ruckig itpS history inp
    let knot : HermiteSample R := ⟨o.newPosition, o.newVelocity, o.newAcceleration⟩
    match r with
    | .error code => { out with result := .error code }
    | .finished =>
      let residueS := clamp (o.time - o.duration) 0 itpS
      { out with
        result := .finished
        knots := out.knots ++ [knot]
        finished := true
        residueNs := llround (residueS * 10 ^ 9) }
    | .working =>
      captureLoop lib itpS room (history ++ [inp]) (o.passToInput inp)
        { out with result := .working, knots := out.knots ++ [knot] }

def generateCapturePath (lib : External R) (qCmd qdCmd q0 qd0 : Vec6 R)
    (cfg : TickEngineConfig R) : CapturePath R :=
  let inp := captureInput qCmd qdCmd q0 qd0 cfg
  captureLoop lib cfg.itpS (CapturePath.kMaxKnots - 1) [] inp
    { (CapturePath.cleared : CapturePath R) with knots := [⟨qCmd, qdCmd, inp.currentAcceleration⟩] }

end Generate

structure CaptureGate (R : Type) where
  reject : Bool
  tolExceeded : Bool
  rejectMask : Fin kNumJoints → Bool
  shedTravel : Vec6 R

section Gate

variable {R : Type} [Field R] [LinearOrder R]

def shedTime (lib : External R) (dv a j : R) : R :=
  if ¬ 0 < a ∨ ¬ 0 < j ∨ ¬ 0 < dv then 0
  else if dv < a * a / j then 2 * lib.sqrt (dv / j) else dv / a + a / j

def captureGate (lib : External R) (qCmd qdCmd q0 qd0 : Vec6 R) (cfg : TickEngineConfig R) :
    CaptureGate R :=
  let tolFailed (j : Fin kNumJoints) : Bool := decide (cfg.captureTolRad < |qCmd j - q0 j|)
  let rateFailed (j : Fin kNumJoints) : Bool := decide (cfg.captureRateRadS < |qd0 j|)
  let shedTravel (j : Fin kNumJoints) : R :=
    let aB := cfg.stopScaleVa * cfg.limits.a j
    let jB := cfg.stopScaleJ * cfg.limits.j j
    1 / 2 * (|qdCmd j| + |qd0 j|) * shedTime lib |qd0 j - qdCmd j| aB jB
  let shedFailed (j : Fin kNumJoints) : Bool := decide (cfg.captureTolRad < shedTravel j)
  { reject := (List.finRange kNumJoints).any (fun j => tolFailed j || rateFailed j || shedFailed j)
    tolExceeded := (List.finRange kNumJoints).any tolFailed
    rejectMask := fun j => rateFailed j || shedFailed j
    shedTravel := shedTravel }

def captureWouldReject (lib : External R) (qCmd qdCmd q0 qd0 : Vec6 R)
    (cfg : TickEngineConfig R) : Bool :=
  (captureGate lib qCmd qdCmd q0 qd0 cfg).reject

end Gate

end AiroFanuc.TickEngine
