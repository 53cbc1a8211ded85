import AiroFanuc.RtCore.Control

/-! The tick core's state, grouped as its header groups it, and the helpers every
stage of a tick is built from. -/

namespace AiroFanuc.RtCore

open TickEngine

inductive TrajPhase where
  | playing
  | endBlend
  | settling
  deriving DecidableEq, Repr

inductive FollowPhase where
  | ramp
  | reanchor
  deriving DecidableEq, Repr

structure Health where
  mode : Mode
  fault : FaultReason
  conditions : Conditions
  epoch : Nat
  bumpCounts : BumpReason → Nat

structure Anchor (R : Type) where
  qCmd : Vec6 R
  qdCmd : Vec6 R
  qddCmd : Vec6 R
  streaming : Bool

structure Measured (R : Type) where
  qMeas : Vec6 R
  qdEst : Vec6 R
  haveMeas : Bool

structure Playback (R : Type) where
  trajPhase : TrajPhase
  tauNs : Int
  trajEndTauNs : Int
  speedScale : R
  qdEndWire : Vec6 R
  qHold : Vec6 R
  tauBlendNs : Int
  motionTickCfg : TickEngineConfig R
  sampler : TrajectorySampler R
  settle : SettleDetector R

structure Splice (R : Type) where
  capture : CapturePath R
  capturePending : CapturePath R
  captureIdx : Nat
  capturedTarget : Target R

structure ServoState (R : Type) where
  servo : Servo R
  lastQ : Vec6 R
  lastDur : R
  ticksSinceSet : Nat
  held : Bool

structure BrakeState (R : Type) where
  brake : Brake R
  destReason : FaultReason
  isMotion : Bool

structure Follow where
  phase : FollowPhase
  tauNs : Int

structure RxWatch where
  ticksSinceRx : Nat
  degradedEntered : Bool

structure Deadman (R : Type) where
  armed : Bool
  deadmanS : R
  ticksSinceKick : Nat

structure Liveness where
  heartbeated : Bool
  armed : Bool
  ticksSinceHeartbeat : Nat
  lostLatched : Bool

structure ForceGuard (R : Type) where
  armed : Bool
  stopN : R

structure Recovery where
  pending : Bool
  allClearTicks : Nat

structure ControlOps where
  stopRequested : Bool
  holdRequested : Bool
  kicked : Bool

structure TickCore (R : Type) where
  cfg : RtCoreConfig R
  health : Health
  anchor : Anchor R
  measured : Measured R
  lastGates : Gates
  active : ActiveMotion
  playback : Playback R
  splice : Splice R
  tickNo : Nat
  servo : ServoState R
  brake : BrakeState R
  follow : Follow
  rxWatch : RxWatch
  deadman : Deadman R
  liveness : Liveness
  forceGuard : ForceGuard R
  recovery : Recovery
  ops : ControlOps
  slew : SlewLimiter R
  qdBlend : QdEndBlend R
  events : List Event
  lastConsume : ConsumeResult
  sustainedSlewLatched : Bool

/-- Slots of the event ring that can hold an event: one of its 256 stays free. -/
def kEventRoom : Nat := 255

/-- Drops the event when the ring is full. -/
def pushEvent (ring : List Event) (e : Event) : List Event :=
  if ring.length < kEventRoom then ring ++ [e] else ring

variable {R : Type} [Field R] [LinearOrder R] [FloorRing R]

namespace TickCore

def new (cfg : RtCoreConfig R) : TickCore R where
  cfg := cfg
  health := ⟨.streamDown, .none, .none, 0, fun _ => 0⟩
  anchor := ⟨0, 0, 0, false⟩
  measured := ⟨0, 0, false⟩
  lastGates := .initial
  active := ⟨0, .pending⟩
  playback :=
    { trajPhase := .playing
      tauNs := 0
      trajEndTauNs := 0
      speedScale := 1
      qdEndWire := 0
      qHold := 0
      tauBlendNs := 0
      motionTickCfg := cfg.tick
      sampler := .unbound
      settle := .new cfg.tick }
  splice := ⟨.cleared, .cleared, 0, .empty⟩
  tickNo := 0
  servo := ⟨.new cfg.tick, 0, 0, 0, false⟩
  brake := ⟨.new cfg.tick, .none, false⟩
  follow := ⟨.ramp, 0⟩
  rxWatch := ⟨0, false⟩
  deadman := ⟨false, 0, 0⟩
  liveness := ⟨false, false, 0, false⟩
  forceGuard := ⟨false, 0⟩
  recovery := ⟨false, 0⟩
  ops := ⟨false, false, false⟩
  slew := .new cfg.tick
  qdBlend := .cleared
  events := []
  lastConsume := .empty
  sustainedSlewLatched := false

def itp (s : TickCore R) : R := s.cfg.tick.itpS

def msToTicks (s : TickCore R) (ms : R) : Nat :=
  let t : Int := ⌈ms / 1000 / s.itp - 1 / 10 ^ 9⌉
  if t < 1 then 1 else t.toNat

def servoStaleTicks (s : TickCore R) : Int :=
  max 1 ⌈s.servo.lastDur / s.itp - 1 / 10 ^ 9⌉ + 2

def emit (s : TickCore R) (type : EventType) (reason : FaultReason) (value : Int)
    (motionId : Nat) : TickCore R :=
  { s with events := pushEvent s.events ⟨type, reason, motionId, s.health.epoch, value⟩ }

def setCondition (s : TickCore R) (bit : Condition) (on : Bool) : TickCore R :=
  { s with health.conditions := Function.update s.health.conditions bit on }

def bumpEpoch (s : TickCore R) (r : BumpReason) : TickCore R :=
  let s := { s with
    health.epoch := s.health.epoch + 1
    health.bumpCounts := Function.update s.health.bumpCounts r (s.health.bumpCounts r + 1) }
  s.emit .epochBump .none r.ordinal 0

def beginStreaming (s : TickCore R) (qMeas : Vec6 R) : TickCore R :=
  { s with
    measured := ⟨qMeas, 0, true⟩
    anchor := ⟨qMeas, 0, 0, true⟩
    slew := s.slew.reset qMeas
    health.mode := .hold
    health.fault := .none
    health.conditions := .none
    rxWatch.ticksSinceRx := 0
    liveness.ticksSinceHeartbeat := 0
    liveness.lostLatched := false }

def requestStop (s : TickCore R) : TickCore R := { s with ops.stopRequested := true }

def requestHold (s : TickCore R) : TickCore R := { s with ops.holdRequested := true }

def requestRecover (s : TickCore R) : TickCore R :=
  if s.health.mode = .safeFollow ∨ s.health.mode = .rxSilent then
    { s with recovery := ⟨true, 0⟩ }
  else s

def kick (s : TickCore R) : TickCore R := { s with ops.kicked := true }

def heartbeat (s : TickCore R) : TickCore R := { s with liveness.heartbeated := true }

def resolveActive (s : TickCore R) (st : MotionStatus) : TickCore R :=
  if s.active.status = .running then
    { s with active.status := st }.emit (motionEventFor st) s.health.fault 0 s.active.motionId
  else s

def beginBrake (s : TickCore R) (motionResult : MotionStatus) (reason : FaultReason) :
    TickCore R :=
  let s := s.resolveActive motionResult
  { s with
    brake := ⟨s.brake.brake.seed s.anchor.qCmd s.anchor.qdCmd s.anchor.qddCmd, reason, false⟩
    health.mode := .brake
    deadman.armed := false
    forceGuard.armed := false }

def goHold (s : TickCore R) : TickCore R :=
  { s with
    health.mode := .hold
    brake.destReason := .none
    brake.isMotion := false }

def enterFault (s : TickCore R) (cause : FaultReason) (bump : BumpReason)
    (motionResult : MotionStatus) : TickCore R :=
  let s := s.bumpEpoch bump
  let s := { s with health.fault := cause }
  let s := s.resolveActive motionResult
  let s := { s with
    qdBlend := .plan s.anchor.qCmd s.anchor.qdCmd (s.cfg.rxSilenceQdRampMs / 1000) s.itp
    follow := ⟨.ramp, itpNs s.itp⟩
    health.mode := .safeFollow
    recovery := ⟨false, 0⟩
    deadman.armed := false
    forceGuard.armed := false }
  (s.emit .safeFollowEntry cause 0 0).emit .faultEntry cause 0 0

def enterRxSilent (s : TickCore R) : TickCore R :=
  let s := s.bumpEpoch .rxSilentEntry
  let s := { s with health.fault := .rxSilent }
  let s := s.setCondition .rxSilent true
  let s := s.resolveActive .faulted
  let s := { s with
    health.mode := .rxSilent
    deadman.armed := false
    forceGuard.armed := false }
  s.emit .rxSilentEntry .rxSilent 0 0

/-- The kill gates a packet raises over the packet ingested before it, in severity order. -/
def gateEdges (last g : Gates) : List (Condition × FaultReason × BumpReason) :=
  (if g.eStopped && !last.eStopped then [(.eStop, .eStop, .eStopEdge)] else []) ++
  (if g.inError && !last.inError then [(.inError, .inError, .faultEntry)] else []) ++
  (if g.tpEnabled && !last.tpEnabled then [(.teach, .teachMode, .killDegradedEntry)] else []) ++
  (if g.contactStopActive && !last.contactStopActive then
    [(.contactStop, .contactStop, .killDegradedEntry)] else []) ++
  (if g.safetyClamp && !last.safetyClamp then
    [(.safetyClamp, .safetyClamp, .killDegradedEntry)] else []) ++
  (if !g.motionPossible && last.motionPossible then
    [(.motionNotPossible, .motionNotPossible, .killDegradedEntry)] else [])

def setGateConditions (s : TickCore R) (g : Gates) : TickCore R :=
  ((((((s.setCondition .eStop g.eStopped).setCondition .inError g.inError).setCondition
    .teach g.tpEnabled).setCondition .contactStop g.contactStopActive).setCondition
    .safetyClamp g.safetyClamp).setCondition
    .motionNotPossible (!g.motionPossible && s.anchor.streaming))

/-- The levels become condition bits, every edge an event, and the gates the last ones. -/
def observeGates (s : TickCore R) (g : Gates) : TickCore R :=
  let edges := gateEdges s.lastGates g
  let s := s.setGateConditions g
  let s := edges.foldl (fun s e => s.emit .gateEdge e.2.1 e.1.mask 0) s
  { s with lastGates := g }

/-- The most severe edge kills, but only while streaming. -/
def processGates (s : TickCore R) (g : Gates) : TickCore R :=
  let edges := gateEdges s.lastGates g
  let s := s.observeGates g
  if s.anchor.streaming then
    match edges with
    | [] => s
    | (_, cause, bump) :: _ => s.enterFault cause bump .faulted
  else s

def degradeRx (s : TickCore R) : TickCore R :=
  let s := { s with rxWatch.degradedEntered := true }
  let s := s.setCondition .rxDegraded true
  s.emit .rxDegraded .rxDegraded 0 0

def handleRxSilence (s : TickCore R) : TickCore R :=
  if s.rxWatch.ticksSinceRx = 0 then s
  else if s.health.mode = .rxSilent then s
  else
    let ageMs : R := (s.rxWatch.ticksSinceRx : R) * s.itp * 1000
    if s.cfg.rxSilentParkMs ≤ ageMs then s.enterRxSilent
    else
      let active := s.health.mode = .trajectory ∨ s.health.mode = .capture ∨
        s.health.mode = .servo ∨ s.health.mode = .brake
      if active ∧ s.cfg.rxSilenceBlindHoldMs ≤ ageMs ∧ s.rxWatch.degradedEntered = false then
        s.degradeRx.enterFault .rxDegraded .safeFollowEntry .faulted
      else s

def handleDeadman (s : TickCore R) : TickCore R :=
  if s.deadman.armed = false ∨ s.health.mode ≠ .trajectory then s
  else
    let s := { s with deadman.ticksSinceKick := s.deadman.ticksSinceKick + 1 }
    if s.deadman.deadmanS ≤ (s.deadman.ticksSinceKick : R) * s.itp then
      (s.enterFault .watchdogExpired .deadmanTrip .stopped).emit .deadmanTrip .watchdogExpired 0 0
    else s

def handleSupervisorLiveness (s : TickCore R) : TickCore R :=
  if s.anchor.streaming = false ∨ s.liveness.armed = false then s
  else if s.liveness.lostLatched then s
  else
    let s := { s with liveness.ticksSinceHeartbeat := s.liveness.ticksSinceHeartbeat + 1 }
    if s.cfg.supervisorLostS ≤ (s.liveness.ticksSinceHeartbeat : R) * s.itp then
      let s := { s with liveness.lostLatched := true }
      (s.enterFault .supervisorLost .supervisorLost .faulted).emit
        .supervisorLost .supervisorLost 0 0
    else s

def handleForceGuard (lib : External R) (s : TickCore R) (rx : RxSample R) : TickCore R :=
  if s.forceGuard.armed = false ∨ rx.wrenchValid = false then s
  else if s.forceGuard.stopN < lib.sqrt (rx.fx * rx.fx + rx.fy * rx.fy + rx.fz * rx.fz) then
    (s.beginBrake .stopped .none).emit .forceGuardTrip .forceGuard 0 0
  else s

end TickCore

end AiroFanuc.RtCore
