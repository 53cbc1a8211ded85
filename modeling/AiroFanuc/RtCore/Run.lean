import AiroFanuc.RtCore.Stages
import AiroFanuc.Library.Machine

/-! Runs of the tick core: its ticks, and the calls its owner makes between them. -/

namespace AiroFanuc.RtCore

open TickEngine Library

inductive Input (R : Type) where
  | tick (rx : Option (RxSample R)) (pending : Option (Target R)) (consumeSuperseded : Bool)
  | requestStop
  | requestHold
  | requestRecover
  | kick
  | heartbeat
  | beginStreaming (qMeas : Vec6 R)

variable {R : Type} [Field R] [LinearOrder R] [FloorRing R]

namespace TickCore

def apply (lib : External R) (s : TickCore R) : Input R → TickCore R
  | .tick rx pending consumeSuperseded => (s.tick lib rx pending consumeSuperseded).2
  | .requestStop => s.requestStop
  | .requestHold => s.requestHold
  | .requestRecover => s.requestRecover
  | .kick => s.kick
  | .heartbeat => s.heartbeat
  | .beginStreaming qMeas => s.beginStreaming qMeas

def machine (lib : External R) (cfg : RtCoreConfig R) : Machine (TickCore R) (Input R) where
  start := .new cfg
  step := fun s i => some (s.apply lib i)

/-- The control view after `consume`, from the one before it. -/
theorem consumePending_control (lib : External R) (s : TickCore R) (pending : Option (Target R))
    (consumeSuperseded : Bool) :
    (s.consumePending lib pending consumeSuperseded).control =
      match pending with
      | none => s.control
      | some t => (s.consume lib t consumeSuperseded).2.control := by
  cases pending with
  | none => rfl
  | some t => rfl

/-- From the mailbox on, a tick only dispatches its mode and sends. -/
theorem tick_moves (lib : External R) (s : TickCore R) (rx : Option (RxSample R))
    (pending : Option (Target R)) (consumeSuperseded : Bool) :
    Control.Moves
      ((s.beforeConsume lib rx).consumePending lib pending consumeSuperseded).control
      (s.tick lib rx pending consumeSuperseded).2.control := by
  simp only [tick, sendCommand_control]
  exact dispatchMode_moves lib _

theorem beforeConsume_control (lib : External R) (s : TickCore R) (rx : Option (RxSample R)) :
    (s.beforeConsume lib rx).control =
      if (s.beforeDwell lib rx).dwellCompletes then (s.beforeDwell lib rx).control.recovered
      else (s.beforeDwell lib rx).control :=
  recoveryDwell_control _

/-- What the moves, the end of a dwell and the mailbox preserve, a tick preserves. -/
theorem tick_invariant {I : Control → Prop} {lib : External R} {s : TickCore R}
    {rx : Option (RxSample R)} {pending : Option (Target R)} {consumeSuperseded : Bool}
    (moves : ∀ ⦃c d : Control⦄, I c → Control.Moves c d → I d)
    (dwell : (s.beforeDwell lib rx).dwellCompletes = true →
      I (s.beforeDwell lib rx).control → I (s.beforeDwell lib rx).control.recovered)
    (mailbox : I (s.beforeConsume lib rx).control →
      I ((s.beforeConsume lib rx).consumePending lib pending consumeSuperseded).control)
    (initial : I s.control) : I (s.tick lib rx pending consumeSuperseded).2.control := by
  have early : I (s.beforeDwell lib rx).control := moves initial (beforeDwell_moves lib s rx)
  have recovered : I (s.beforeConsume lib rx).control := by
    rw [beforeConsume_control]
    by_cases completes : (s.beforeDwell lib rx).dwellCompletes = true
    · rw [if_pos completes]
      exact dwell completes early
    · rw [if_neg completes]
      exact early
  exact moves (mailbox recovered) (tick_moves lib s rx pending consumeSuperseded)

end TickCore

/-! ### A bench: an arm at rest at zero, commanded where it stands -/

section Bench

/-- Ruckig asked to stay where it is: finished within its first cycle. -/
def benchExternal : External ℚ where
  ruckig := fun itpS _ inp => (.finished, ⟨inp.targetPosition, 0, 0, itpS, 0⟩)
  sqrt := fun x => x

def benchGates : Gates :=
  { eStopped := false
    tpEnabled := false
    inError := false
    motionPossible := true
    motionInProgress := false
    contactStopActive := false
    safetyClamp := false }

/-- The teach pendant is enabled, everything else is clear. -/
def pendantGates : Gates := { benchGates with tpEnabled := true }

def benchRx (gates : Gates) (q : Vec6 ℚ) : RxSample ℚ where
  qMeas := q
  qdEst := 0
  gates := gates
  safetyScale := 1
  contactStopStatus := 0
  fx := 0
  fy := 0
  fz := 0
  mx := 0
  my := 0
  mz := 0
  fsType := 0
  wrenchValid := false
  rxSeq := 0
  ctrlTimeStampMs := 0
  cart := 0
  rxMonoNs := 0

def benchServo (motionId epoch : Nat) : Target ℚ :=
  { (Target.empty : Target ℚ) with
    kind := .servo
    motionId := motionId
    epoch := epoch
    servoDurationS := 8 / 1000 }

/-- Two knots, 100 ms apart, that both stand at `q`. -/
def benchTrajectory (motionId epoch : Nat) (q : Vec6 ℚ) : Target ℚ :=
  { (Target.empty : Target ℚ) with
    kind := .trajectory
    motionId := motionId
    epoch := epoch
    timesNs := some [0, 100000000]
    q := some [q, q]
    qd := some [0, 0]
    n := 2 }

def benchTick (target : Option (Target ℚ)) : Input ℚ :=
  .tick (some (benchRx benchGates 0)) target false

end Bench

end AiroFanuc.RtCore
