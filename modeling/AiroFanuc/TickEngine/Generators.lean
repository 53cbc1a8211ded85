import AiroFanuc.TickEngine.Hermite

/-! The per-tick motion objects: brake, servo, settle detector and slew limiter. -/

namespace AiroFanuc.TickEngine

/-- `history` is the list of inputs the Ruckig instance was updated with so far. -/
structure Brake (R : Type) where
  cfg : TickEngineConfig R
  history : List (InputParameter R)
  inp : InputParameter R
  elapsedTicks : Nat
  finished : Bool
  seeded : Bool

structure BrakeStep (R : Type) where
  q : Vec6 R
  qd : Vec6 R
  qdd : Vec6 R
  result : Result
  finished : Bool
  error : Bool

section Brake

variable {R : Type} [Field R] [LinearOrder R]

def Brake.new (cfg : TickEngineConfig R) : Brake R := ⟨cfg, [], .zero, 0, false, false⟩

def Brake.seed (b : Brake R) (qCmd qdCmd qddCmd : Vec6 R) : Brake R :=
  { b with
    inp :=
      { b.inp with
        controlInterface := .velocity
        maxVelocity := fun j => max (b.cfg.stopScaleVa * b.cfg.limits.v j) (|qdCmd j| * (101 / 100))
        maxAcceleration := fun j => b.cfg.stopScaleVa * b.cfg.limits.a j
        maxJerk := fun j => b.cfg.stopScaleJ * b.cfg.limits.j j
        currentPosition := qCmd
        currentVelocity := qdCmd
        currentAcceleration := qddCmd
        targetVelocity := 0
        targetAcceleration := 0 }
    elapsedTicks := 0
    finished := false
    seeded := true }

def Brake.step (lib : External R) (b : Brake R) : BrakeStep R × Brake R :=
  if b.seeded = false then (⟨0, 0, 0, .error (-1), false, true⟩, b)
  else
    let (r, o) := lib.ruckig b.cfg.itpS b.history b.inp
    let history := b.history ++ [b.inp]
    match r with
    | .error code => (⟨b.inp.currentPosition, 0, 0, .error code, false, true⟩, { b with history })
    | r =>
      let finished := decide (r = .finished)
      (⟨o.newPosition, o.newVelocity, o.newAcceleration, r, finished, false⟩,
        { b with
          history
          inp := o.passToInput b.inp
          elapsedTicks := b.elapsedTicks + 1
          finished })

def Brake.velocitySettled (b : Brake R) (qdMeas : Vec6 R) : Bool :=
  (List.finRange kNumJoints).all (fun j => decide (|qdMeas j| < b.cfg.brakeSettleVelEpsRadS))

def Brake.elapsedS (b : Brake R) : R := (b.elapsedTicks : R) * b.cfg.itpS

def Brake.timedOut (b : Brake R) : Bool := decide (b.cfg.brakeMaxDurationS ≤ b.elapsedS)

def Brake.done (b : Brake R) (qdMeas : Vec6 R) : Bool :=
  (b.finished && b.velocitySettled qdMeas) || b.timedOut

end Brake

structure Servo (R : Type) where
  cfg : TickEngineConfig R
  history : List (InputParameter R)
  inp : InputParameter R
  active : Bool

structure ServoStep (R : Type) where
  q : Vec6 R
  qd : Vec6 R
  qdd : Vec6 R
  result : Result
  error : Bool

section Servo

variable {R : Type} [Field R] [LinearOrder R]

def Servo.new (cfg : TickEngineConfig R) : Servo R := ⟨cfg, [], .zero, false⟩

def Servo.start (s : Servo R) (qCmd qdCmd qddCmd : Vec6 R) : Servo R :=
  { s with
    inp :=
      { controlInterface := .position
        maxVelocity := fun j => s.cfg.servoLimitScale * s.cfg.limits.v j
        maxAcceleration := fun j => s.cfg.servoLimitScale * s.cfg.limits.a j
        maxJerk := fun j => s.cfg.servoLimitScale * s.cfg.limits.j j
        currentPosition := qCmd
        currentVelocity := qdCmd
        currentAcceleration := qddCmd
        targetPosition := qCmd
        targetVelocity := 0
        targetAcceleration := 0
        minimumDuration := none }
    active := true }

def Servo.setTarget (s : Servo R) (qTarget : Vec6 R) (durationS : R) : Servo R :=
  { s with
    inp :=
      { s.inp with
        targetPosition := fun j => clampPos (s.cfg.limits.posLo j) (s.cfg.limits.posHi j) (qTarget j)
        targetVelocity := 0
        targetAcceleration := 0
        minimumDuration := if 0 < durationS then some durationS else none } }

def Servo.step (lib : External R) (s : Servo R) : ServoStep R × Servo R :=
  if s.active = false then (⟨0, 0, 0, .error (-1), true⟩, s)
  else
    let (r, o) := lib.ruckig s.cfg.itpS s.history s.inp
    let history := s.history ++ [s.inp]
    match r with
    | .error code => (⟨s.inp.currentPosition, 0, 0, .error code, true⟩, { s with history })
    | r =>
      (⟨o.newPosition, o.newVelocity, o.newAcceleration, r, false⟩,
        { s with history, inp := o.passToInput s.inp })

end Servo

inductive SettleState where
  | settling
  | done
  | timeout
  deriving DecidableEq, Repr

structure SettleDetector (R : Type) where
  cfg : TickEngineConfig R
  elapsedTicks : Nat
  state : SettleState

section Settle

variable {R : Type} [Field R] [LinearOrder R]

def SettleDetector.new (cfg : TickEngineConfig R) : SettleDetector R := ⟨cfg, 0, .settling⟩

def SettleDetector.reset (d : SettleDetector R) : SettleDetector R :=
  { d with elapsedTicks := 0, state := .settling }

def SettleDetector.elapsedS (d : SettleDetector R) : R := (d.elapsedTicks : R) * d.cfg.itpS

def SettleDetector.converged (d : SettleDetector R) (qTarget qMeas qdMeas : Vec6 R) : Bool :=
  (List.finRange kNumJoints).all (fun j =>
    decide (|qMeas j - qTarget j| < d.cfg.settleTolRad) &&
    decide (|qdMeas j| < d.cfg.settleVelEpsRadS))

def SettleDetector.update (d : SettleDetector R) (qTarget qMeas qdMeas : Vec6 R) :
    SettleState × SettleDetector R :=
  if d.state ≠ .settling then (d.state, d)
  else
    let d := { d with elapsedTicks := d.elapsedTicks + 1 }
    let state :=
      if d.converged qTarget qMeas qdMeas then SettleState.done
      else if d.cfg.settleTimeoutS ≤ d.elapsedS then .timeout
      else .settling
    (state, { d with state })

end Settle

structure SlewLimiter (R : Type) where
  cfg : TickEngineConfig R
  prevQ : Vec6 R
  hasPrev : Bool
  totalClips : Nat
  consecutiveClipTicks : Nat

structure SlewResult (R : Type) where
  q : Vec6 R
  clippedJoints : Nat

section Slew

variable {R : Type} [Field R] [LinearOrder R]

def SlewLimiter.new (cfg : TickEngineConfig R) : SlewLimiter R := ⟨cfg, 0, false, 0, 0⟩

def SlewLimiter.reset (l : SlewLimiter R) (q : Vec6 R) : SlewLimiter R :=
  { l with prevQ := q, hasPrev := true, consecutiveClipTicks := 0 }

def SlewLimiter.maxStep (l : SlewLimiter R) (joint : Fin kNumJoints) : R :=
  l.cfg.slewFactor * l.cfg.limits.v joint * l.cfg.itpS

def SlewLimiter.clip (l : SlewLimiter R) (qDesired : Vec6 R) (j : Fin kNumJoints) : R × Bool :=
  let step := l.maxStep j
  let delta := qDesired j - l.prevQ j
  if step < delta then (l.prevQ j + step, true)
  else if delta < -step then (l.prevQ j - step, true)
  else (qDesired j, false)

def SlewLimiter.apply (l : SlewLimiter R) (qDesired : Vec6 R) : SlewResult R × SlewLimiter R :=
  if l.hasPrev = false then
    (⟨qDesired, 0⟩, { l with prevQ := qDesired, hasPrev := true })
  else
    let q : Vec6 R := fun j => (l.clip qDesired j).1
    let clipped := (List.finRange kNumJoints).countP (fun j => (l.clip qDesired j).2)
    (⟨q, clipped⟩,
      { l with
        prevQ := q
        totalClips := l.totalClips + clipped
        consecutiveClipTicks := if 0 < clipped then l.consecutiveClipTicks + 1 else 0 })

def SlewLimiter.sustainedClip (l : SlewLimiter R) : Bool :=
  decide (l.cfg.slewSustainedTicks ≤ (l.consecutiveClipTicks : Int))

end Slew

end AiroFanuc.TickEngine
