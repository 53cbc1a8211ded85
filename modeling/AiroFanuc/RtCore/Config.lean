import AiroFanuc.TickEngine.Capture
import AiroFanuc.TickEngine.Generators

/-! The RT core's enumerations, gates, knobs, targets and events. -/

namespace AiroFanuc.RtCore

open TickEngine

inductive Mode where
  | streamDown
  | preroll
  | hold
  | capture
  | trajectory
  | servo
  | brake
  | safeFollow
  | rxSilent
  deriving DecidableEq, Repr

inductive FaultReason where
  | none
  | eStop
  | inError
  | motionNotPossible
  | teachMode
  | contactStop
  | safetyClamp
  | rxSilent
  | rxDegraded
  | watchdogExpired
  | forceGuard
  | rejectedStartMismatch
  | supervisorLost
  | internal
  deriving DecidableEq, Repr

inductive MotionStatus where
  | pending
  | running
  | done
  | settleTimeout
  | stopped
  | preempted
  | faulted
  | rejected
  deriving DecidableEq, Repr

inductive Condition where
  | eStop
  | inError
  | motionNotPossible
  | teach
  | contactStop
  | safetyClamp
  | rxDegraded
  | rxSilent
  | sustainedSlew
  deriving DecidableEq, Repr

/-- The condition bitmask, read one bit at a time. -/
abbrev Conditions := Condition → Bool

def Conditions.none : Conditions := fun _ => false

/-- The place of a condition's bit in the mask, as the gate-edge event reports it. -/
def Condition.mask : Condition → Int
  | .eStop => 1
  | .inError => 2
  | .motionNotPossible => 4
  | .teach => 8
  | .contactStop => 16
  | .safetyClamp => 32
  | .rxDegraded => 64
  | .rxSilent => 128
  | .sustainedSlew => 256

def kKillMask : List Condition :=
  [.eStop, .inError, .motionNotPossible, .teach, .contactStop, .safetyClamp]

/-- `(conditions_ & kKillMask) != 0`. -/
def Conditions.killed (c : Conditions) : Bool := kKillMask.any c

inductive BumpReason where
  | none
  | faultEntry
  | safeFollowEntry
  | killDegradedEntry
  | recoveryComplete
  | eStopEdge
  | rxSilentEntry
  | deadmanTrip
  | supervisorLost
  deriving DecidableEq, Repr

def BumpReason.ordinal : BumpReason → Int
  | .none => 0
  | .faultEntry => 1
  | .safeFollowEntry => 2
  | .killDegradedEntry => 3
  | .recoveryComplete => 4
  | .eStopEdge => 5
  | .rxSilentEntry => 6
  | .deadmanTrip => 7
  | .supervisorLost => 8

structure Gates where
  eStopped : Bool
  tpEnabled : Bool
  inError : Bool
  motionPossible : Bool
  motionInProgress : Bool
  contactStopActive : Bool
  safetyClamp : Bool
  deriving DecidableEq, Repr

def Gates.initial : Gates := ⟨false, false, false, false, false, false, false⟩

section Decode

variable {R : Type} [LinearOrder R]

def decodeGates (status robotStatus contactStopStatus : UInt8) (safetyScale safetyScaleMin : R) :
    Gates :=
  { inError := robotStatus &&& 0x1 != 0
    tpEnabled := robotStatus &&& 0x2 != 0
    eStopped := robotStatus &&& 0x4 != 0
    motionPossible := status &&& 0x1 != 0
    motionInProgress := status &&& 0x8 != 0
    contactStopActive := contactStopStatus == 2 || contactStopStatus == 4
    safetyClamp := decide (safetyScale < safetyScaleMin) }

end Decode

/-- The knobs the tick core and the RT loop read; the socket and scheduling knobs are left out. -/
structure RtCoreConfig (R : Type) where
  tick : TickEngineConfig R
  rxSilenceBlindHoldMs : R
  rxSilenceQdRampMs : R
  rxSilentParkMs : R
  antiflapDwellMs : R
  safeFollowRateRadS : R
  safeFollowDeadbandRad : R
  supervisorLostS : R
  safetyScaleMin : R

def defaultRtCoreConfig {R : Type} [Field R] : RtCoreConfig R where
  tick := defaultTickEngineConfig
  rxSilenceBlindHoldMs := 100
  rxSilenceQdRampMs := 60
  rxSilentParkMs := 500
  antiflapDwellMs := 500
  safeFollowRateRadS := deg2rad 15
  safeFollowDeadbandRad := deg2rad 5
  supervisorLostS := 3
  safetyScaleMin := 5 / 100

structure Command (R : Type) where
  qRad : Vec6 R
  tx : Bool
  isLast : Bool
  slewClippedJoints : Nat

inductive TargetKind where
  | none
  | hold
  | trajectory
  | servo
  | brake
  deriving DecidableEq, Repr

/-- A pointer with its provenance: `addr` is all the code can compare, `serial`
says which allocation the address was obtained from. -/
structure Owner where
  addr : Nat
  serial : Nat
  deriving DecidableEq, Repr

/-- A mailbox payload. The knot pointers are `none` when null, else the knots they
point at. -/
structure Target (R : Type) where
  kind : TargetKind
  motionId : Nat
  epoch : Nat
  stopGen : Nat
  bufferOwner : Option Owner
  timesNs : Option (List Int)
  q : Option (List (Vec6 R))
  qd : Option (List (Vec6 R))
  n : Nat
  speedScale : R
  settleTolRad : R
  settleVelEpsRadS : R
  settleTimeoutS : R
  forceStopN : R
  deadmanS : R
  servoQ : Vec6 R
  servoDurationS : R

/-- `Target{}`: the defaults every submission starts from. -/
def Target.empty {R : Type} [Field R] : Target R where
  kind := .none
  motionId := 0
  epoch := 0
  stopGen := 0
  bufferOwner := none
  timesNs := none
  q := none
  qd := none
  n := 0
  speedScale := 1
  settleTolRad := deg2rad (1 / 2)
  settleVelEpsRadS := deg2rad 2
  settleTimeoutS := 2
  forceStopN := 0
  deadmanS := 0
  servoQ := 0
  servoDurationS := 0

inductive EventType where
  | modeChange
  | epochBump
  | safeFollowEntry
  | faultEntry
  | recoveryComplete
  | rxDegraded
  | rxSilentEntry
  | deadmanTrip
  | forceGuardTrip
  | captureRejected
  | sustainedSlew
  | motionDone
  | motionSettleTimeout
  | motionStopped
  | motionPreempted
  | motionFaulted
  | motionRejected
  | motionRunning
  | gateEdge
  | supervisorLost
  deriving DecidableEq, Repr

structure Event where
  type : EventType
  reason : FaultReason
  motionId : Nat
  epoch : Nat
  value : Int
  deriving DecidableEq, Repr

def isResolutionEvent : EventType → Bool
  | .motionDone | .motionSettleTimeout | .motionStopped | .motionPreempted | .motionFaulted
  | .motionRejected => true
  | _ => false

def motionEventFor : MotionStatus → EventType
  | .done => .motionDone
  | .settleTimeout => .motionSettleTimeout
  | .stopped => .motionStopped
  | .preempted => .motionPreempted
  | .faulted => .motionFaulted
  | .rejected => .motionRejected
  | _ => .motionDone

def eventToStatus : EventType → MotionStatus
  | .motionDone => .done
  | .motionSettleTimeout => .settleTimeout
  | .motionStopped => .stopped
  | .motionPreempted => .preempted
  | .motionFaulted => .faulted
  | .motionRejected => .rejected
  | _ => .running

/-- Only motion events for a terminal status are ever emitted through this table. -/
theorem motionEventFor_resolution (st : MotionStatus) :
    isResolutionEvent (motionEventFor st) = true := by
  cases st <;> rfl

/-- The two tables are inverse on the terminal statuses. -/
theorem eventToStatus_motionEventFor (st : MotionStatus) (pending : st ≠ .pending)
    (running : st ≠ .running) : eventToStatus (motionEventFor st) = st := by
  cases st <;> first | rfl | contradiction

structure RxSample (R : Type) where
  qMeas : Vec6 R
  qdEst : Vec6 R
  gates : Gates
  safetyScale : R
  contactStopStatus : UInt8
  fx : R
  fy : R
  fz : R
  mx : R
  my : R
  mz : R
  fsType : Nat
  wrenchValid : Bool
  rxSeq : Nat
  ctrlTimeStampMs : Nat
  cart : Fin 9 → R
  rxMonoNs : Int

structure ConsumeResult where
  accepted : Bool
  rejectedStale : Bool
  rejectedCapture : Bool
  motionId : Nat
  deriving DecidableEq, Repr

def ConsumeResult.empty : ConsumeResult := ⟨false, false, false, 0⟩

end AiroFanuc.RtCore
