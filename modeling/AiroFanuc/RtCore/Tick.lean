import AiroFanuc.RtCore.TickCore

/-! Consuming a target, dispatching the mode, and the one tick that composes them. -/

namespace AiroFanuc.RtCore

open TickEngine

variable {R : Type} [Field R] [LinearOrder R] [FloorRing R]

namespace Target

def q0 (t : Target R) : Vec6 R := (t.q.getD []).getD 0 0
def qd0 (t : Target R) : Vec6 R := (t.qd.getD []).getD 0 0
def qdLast (t : Target R) : Vec6 R := (t.qd.getD []).getD (t.n - 1) 0

/-- `t.n < 2 || t.times_ns == nullptr || t.q == nullptr || t.qd == nullptr`. -/
def malformed (t : Target R) : Bool :=
  decide (t.n < 2) || t.timesNs.isNone || t.q.isNone || t.qd.isNone

end Target

namespace TickCore

/-- Faulted, following or parked: the state in which no motion may start. -/
def refusesMotion (s : TickCore R) : Bool :=
  decide (s.health.fault ≠ .none ∨ s.health.mode = .safeFollow ∨ s.health.mode = .rxSilent)

/-- The single active slot is overwritten by a refused target. -/
def rejectTarget (s : TickCore R) (t : Target R) (reason : FaultReason) : TickCore R :=
  { s with active := ⟨t.motionId, .rejected⟩ }.emit .motionRejected reason 0 t.motionId

def consumeHold (s : TickCore R) (t : Target R) : TickCore R :=
  let s := s.resolveActive .preempted
  let s :=
    if s.health.mode = .capture ∨ s.health.mode = .trajectory ∨ s.health.mode = .servo then
      s.beginBrake .preempted .none
    else s
  { s with active := ⟨t.motionId, .done⟩ }.emit .motionDone .none 0 t.motionId

def consumeBrake (s : TickCore R) (t : Target R) : TickCore R :=
  let s := s.resolveActive .preempted
  let s := { s with
    active := ⟨t.motionId, .running⟩
    brake := ⟨s.brake.brake.seed s.anchor.qCmd s.anchor.qdCmd s.anchor.qddCmd, .none, true⟩
    health.mode := .brake
    deadman.armed := false
    forceGuard.armed := false }
  s.emit .motionRunning .none 0 t.motionId

def consumeServo (s : TickCore R) (t : Target R) : TickCore R :=
  let s := s.resolveActive .preempted
  let s :=
    if s.health.mode ≠ .servo then
      { s with
        servo.servo := s.servo.servo.start s.anchor.qCmd s.anchor.qdCmd s.anchor.qddCmd
        health.mode := .servo }
    else s
  let s := { s with
    servo := ⟨s.servo.servo.setTarget t.servoQ t.servoDurationS, t.servoQ, t.servoDurationS,
      0, false⟩
    forceGuard.armed := false
    active := ⟨t.motionId, .running⟩ }
  s.emit .motionRunning .none 0 t.motionId

/-- The checks a target must pass before `consume` commits to it. -/
def refuses (lib : External R) (s : TickCore R) (t : Target R) (supersededByStop : Bool) : Bool :=
  decide (t.epoch ≠ s.health.epoch) ||
  (supersededByStop && decide (t.kind = .trajectory ∨ t.kind = .servo)) ||
  (decide (t.kind ≠ .hold) && s.refusesMotion) ||
  (decide (t.kind = .trajectory) && (t.malformed ||
    captureWouldReject lib s.anchor.qCmd s.anchor.qdCmd t.q0 t.qd0 s.cfg.tick ||
    !(generateCapturePath lib s.anchor.qCmd s.anchor.qdCmd t.q0 t.qd0 s.cfg.tick).ok))

/-- The part of a trajectory's consumption that no rejection can follow. -/
def acceptTrajectory (s : TickCore R) (t : Target R) : TickCore R :=
  let s := { s with splice.capture := s.splice.capturePending }
  let s := s.resolveActive .preempted
  let s := { s with
    splice.capturedTarget := t
    playback.speedScale := t.speedScale
    playback.motionTickCfg :=
      { s.cfg.tick with
        settleTolRad := t.settleTolRad
        settleVelEpsRadS := t.settleVelEpsRadS
        settleTimeoutS := t.settleTimeoutS }
    playback.qdEndWire := fun j => t.qdLast j * t.speedScale
    deadman := ⟨decide (0 < t.deadmanS), t.deadmanS, 0⟩
    forceGuard := ⟨decide (0 < t.forceStopN), t.forceStopN⟩
    health.mode := .capture
    splice.captureIdx := 1
    active := ⟨t.motionId, .running⟩ }
  s.emit .motionRunning .none 0 t.motionId

/-- The pending buffer is written before it is known to be admissible. -/
def planCapture (lib : External R) (s : TickCore R) (t : Target R) : TickCore R :=
  { s with
    splice.capturePending :=
      generateCapturePath lib s.anchor.qCmd s.anchor.qdCmd t.q0 t.qd0 s.cfg.tick }

def rejectStart (s : TickCore R) (t : Target R) : TickCore R :=
  ({ s with active := ⟨t.motionId, .rejected⟩ }.emit
    .captureRejected .rejectedStartMismatch 0 t.motionId).emit
    .motionRejected .rejectedStartMismatch 0 t.motionId

def consumeTrajectory (lib : External R) (s : TickCore R) (t : Target R) :
    ConsumeResult × TickCore R :=
  let r : ConsumeResult := ⟨false, false, false, t.motionId⟩
  if t.malformed then (r, s.rejectTarget t .internal)
  else if s.refusesMotion then (r, s.rejectTarget t s.health.fault)
  else if captureWouldReject lib s.anchor.qCmd s.anchor.qdCmd t.q0 t.qd0 s.cfg.tick then
    ({ r with rejectedCapture := true }, s.rejectStart t)
  else
    let s := s.planCapture lib t
    if s.splice.capturePending.ok then ({ r with accepted := true }, s.acceptTrajectory t)
    else ({ r with rejectedCapture := true }, s.rejectTarget t .internal)

def consume (lib : External R) (s : TickCore R) (t : Target R) (supersededByStop : Bool) :
    ConsumeResult × TickCore R :=
  let r : ConsumeResult := ⟨false, false, false, t.motionId⟩
  if t.kind = .none then (r, s)
  else if t.epoch ≠ s.health.epoch then
    ({ r with rejectedStale := true }, s.rejectTarget t .none)
  else if supersededByStop = true ∧ (t.kind = .trajectory ∨ t.kind = .servo) then
    (r, s.rejectTarget t .none)
  else
    match t.kind with
    | .none => (r, s)
    | .hold => ({ r with accepted := true }, s.consumeHold t)
    | .brake =>
      if s.refusesMotion then (r, s.rejectTarget t s.health.fault)
      else ({ r with accepted := true }, s.consumeBrake t)
    | .servo =>
      if s.refusesMotion then (r, s.rejectTarget t s.health.fault)
      else ({ r with accepted := true }, s.consumeServo t)
    | .trajectory => s.consumeTrajectory lib t

def installTrajectory (s : TickCore R) (t : Target R) : TickCore R :=
  let sampler := TrajectorySampler.bind (t.timesNs.getD []) (t.q.getD []) (t.qd.getD []) t.n
  let dur := sampler.durationNs
  { s with
    playback.sampler := sampler
    playback.trajEndTauNs :=
      if 0 < s.playback.speedScale then truncInt64 ((dur : R) / s.playback.speedScale) else dur
    playback.tauNs := wrapInt64 (itpNs s.itp + s.splice.capture.residueNs)
    playback.trajPhase := .playing
    health.mode := .trajectory }

def startSettling (s : TickCore R) (qHold : Vec6 R) : TickCore R :=
  { s with
    playback.trajPhase := .settling
    playback.qHold := qHold
    playback.settle := (SettleDetector.new s.playback.motionTickCfg).reset }

def dispatchTrajectory (s : TickCore R) : Vec6 R × TickCore R :=
  match s.playback.trajPhase with
  | .playing =>
    let h := s.playback.sampler.sample s.playback.tauNs s.playback.speedScale
    let s := { s with
      anchor.qdCmd := h.qd
      anchor.qddCmd := h.qdd
      playback.tauNs := wrapInt64 (s.playback.tauNs + itpNs s.itp) }
    if s.playback.trajEndTauNs ≤ s.playback.tauNs then
      if s.cfg.tick.settleVelEpsRadS < maxAbs s.playback.qdEndWire then
        (h.q, { s with
          qdBlend := .plan s.playback.sampler.qLast s.playback.qdEndWire
            s.cfg.tick.qdEndBlendMinS s.itp
          playback.trajPhase := .endBlend
          playback.tauBlendNs := wrapInt64 (s.playback.tauNs - s.playback.trajEndTauNs) })
      else (h.q, s.startSettling s.playback.sampler.qLast)
    else (h.q, s)
  | .endBlend =>
    let h := s.qdBlend.sample s.playback.tauBlendNs
    let s := { s with
      anchor.qdCmd := h.qd
      anchor.qddCmd := h.qdd
      playback.tauBlendNs := wrapInt64 (s.playback.tauBlendNs + itpNs s.itp) }
    if s.qdBlend.durNs ≤ s.playback.tauBlendNs then (h.q, s.startSettling s.qdBlend.qCoast)
    else (h.q, s)
  | .settling =>
    let (st, settle) := s.playback.settle.update s.playback.qHold s.measured.qMeas s.measured.qdEst
    let s := { s with anchor.qdCmd := 0, anchor.qddCmd := 0, playback.settle := settle }
    let s :=
      match st with
      | .done => (s.resolveActive .done).goHold
      | .timeout => (s.resolveActive .settleTimeout).goHold
      | .settling => s
    (s.playback.qHold, s)

/-- The staleness re-issue of the last target. -/
def reissueServo (s : TickCore R) : TickCore R :=
  let s := { s with servo.ticksSinceSet := s.servo.ticksSinceSet + 1 }
  if s.servo.held = false ∧ s.servoStaleTicks < (s.servo.ticksSinceSet : Int) then
    { s with
      servo.servo := s.servo.servo.setTarget s.servo.lastQ s.servo.lastDur
      servo.held := true }
  else s

def dispatchServo (lib : External R) (s : TickCore R) : Vec6 R × TickCore R :=
  let s := s.reissueServo
  let (step, servo) := s.servo.servo.step lib
  let s := { s with servo.servo := servo }
  if step.error then
    let s := s.enterFault .internal .faultEntry .faulted
    (s.anchor.qCmd, s)
  else (step.q, { s with anchor.qdCmd := step.qd, anchor.qddCmd := step.qdd })

def dispatchBrake (lib : External R) (s : TickCore R) : Vec6 R × TickCore R :=
  let (step, brake) := s.brake.brake.step lib
  let s := { s with brake.brake := brake }
  if step.error then
    let s := s.enterFault .internal .faultEntry .faulted
    (s.anchor.qCmd, s)
  else
    let s := { s with anchor.qdCmd := step.qd, anchor.qddCmd := step.qdd }
    if s.brake.brake.done s.measured.qdEst then
      let s := if s.brake.isMotion then s.resolveActive .done else s
      (step.q, s.goHold)
    else (step.q, s)

def dispatchSafeFollow (s : TickCore R) : Vec6 R × TickCore R :=
  match s.follow.phase with
  | .ramp =>
    let h := s.qdBlend.sample s.follow.tauNs
    let tau := wrapInt64 (s.follow.tauNs + itpNs s.itp)
    let phase := if s.qdBlend.durNs ≤ tau then FollowPhase.reanchor else .ramp
    (h.q, { s with anchor.qdCmd := h.qd, anchor.qddCmd := 0, follow := ⟨phase, tau⟩ })
  | .reanchor =>
    let s := { s with anchor.qdCmd := 0, anchor.qddCmd := 0 }
    if s.measured.haveMeas = false ∨ s.rxWatch.ticksSinceRx ≠ 0 then (s.anchor.qCmd, s)
    else if maxAbsDiff s.anchor.qCmd s.measured.qMeas < s.cfg.safeFollowDeadbandRad then
      (s.anchor.qCmd, s)
    else
      let maxStep := s.cfg.safeFollowRateRadS * s.itp
      (fun j => s.anchor.qCmd j +
        clamp (s.measured.qMeas j - s.anchor.qCmd j) (-maxStep) maxStep, s)

def dispatchMode (lib : External R) (s : TickCore R) : Vec6 R × TickCore R :=
  match s.health.mode with
  | .streamDown | .preroll | .rxSilent =>
    let s := { s with anchor.qdCmd := 0, anchor.qddCmd := 0 }
    (if s.measured.haveMeas then s.measured.qMeas else s.anchor.qCmd, s)
  | .hold => (s.anchor.qCmd, { s with anchor.qdCmd := 0, anchor.qddCmd := 0 })
  | .capture =>
    match s.splice.capture.knots[s.splice.captureIdx]? with
    | some knot =>
      (knot.q, { s with
        anchor.qdCmd := knot.qd
        anchor.qddCmd := knot.qdd
        splice.captureIdx := s.splice.captureIdx + 1 })
    | none => (s.installTrajectory s.splice.capturedTarget).dispatchTrajectory
  | .trajectory => s.dispatchTrajectory
  | .servo => s.dispatchServo lib
  | .brake => s.dispatchBrake lib
  | .safeFollow => s.dispatchSafeFollow

def takeRx (s : TickCore R) (rx : RxSample R) : TickCore R :=
  let s := { s with
    measured := ⟨rx.qMeas, rx.qdEst, true⟩
    rxWatch := ⟨0, false⟩ }
  s.setCondition .rxDegraded false

/-- Step 1 of a tick: take the packet in, or count the silence. -/
def ingestRx (s : TickCore R) (rx : Option (RxSample R)) : TickCore R :=
  match rx with
  | some rx => (s.takeRx rx).processGates rx.gates
  | none => { s with rxWatch.ticksSinceRx := s.rxWatch.ticksSinceRx + 1 }

def answerStop (s : TickCore R) : TickCore R :=
  if s.ops.stopRequested then
    let s := { s with ops.stopRequested := false }
    match s.health.mode with
    | .hold | .capture | .trajectory | .servo => s.beginBrake .stopped .none
    | .brake =>
      let s := s.resolveActive .stopped
      { s with brake.isMotion := false }
    | _ => s
  else s

def answerHold (s : TickCore R) : TickCore R :=
  if s.ops.holdRequested then
    let s := { s with ops.holdRequested := false }
    match s.health.mode with
    | .capture | .trajectory | .servo => s.beginBrake .preempted .none
    | _ => s
  else s

def answerKick (s : TickCore R) : TickCore R :=
  if s.ops.kicked then { s with ops.kicked := false, deadman.ticksSinceKick := 0 } else s

def answerHeartbeat (s : TickCore R) : TickCore R :=
  if s.liveness.heartbeated then { s with liveness := ⟨false, true, 0, false⟩ } else s

/-- Leaving the fault once the dwell is over; out of the park the anchor is re-seeded. -/
def completeRecovery (s : TickCore R) : TickCore R :=
  let s := s.bumpEpoch .recoveryComplete
  let s := { s with health.fault := .none }
  let s := (s.setCondition .rxSilent false).setCondition .rxDegraded false
  let s := { s with
    recovery := ⟨false, 0⟩
    rxWatch.degradedEntered := false
    liveness.lostLatched := false }
  let s :=
    if s.health.mode = .rxSilent ∧ s.measured.haveMeas = true then
      { s with
        anchor.qCmd := s.measured.qMeas
        slew := s.slew.reset s.measured.qMeas }
    else s
  s.goHold.emit .recoveryComplete .none 0 0

/-- No kill condition stands and, out of the park, the packet is this tick's. -/
def dwellClear (s : TickCore R) : Bool :=
  !s.health.conditions.killed &&
    (decide (s.health.mode ≠ .rxSilent) || decide (s.rxWatch.ticksSinceRx = 0))

def countDwell (s : TickCore R) : TickCore R :=
  { s with recovery.allClearTicks := s.recovery.allClearTicks + 1 }

/-- Whether this tick's dwell is the one that ends a recovery. -/
def dwellCompletes (s : TickCore R) : Bool :=
  s.recovery.pending && s.dwellClear &&
    decide (s.msToTicks s.cfg.antiflapDwellMs ≤ s.recovery.allClearTicks + 1)

def recoveryDwell (s : TickCore R) : TickCore R :=
  if s.recovery.pending then
    if s.dwellClear then
      if s.msToTicks s.cfg.antiflapDwellMs ≤ s.recovery.allClearTicks + 1 then
        s.countDwell.completeRecovery
      else s.countDwell
    else { s with recovery.allClearTicks := 0 }
  else s

def consumePending (lib : External R) (s : TickCore R) (pending : Option (Target R))
    (consumeSuperseded : Bool) : TickCore R :=
  match pending with
  | some t =>
    let (r, s) := s.consume lib t consumeSuperseded
    { s with lastConsume := r }
  | none => { s with lastConsume := .empty }

def countTick (s : TickCore R) : TickCore R := { s with tickNo := s.tickNo + 1 }

/-- Steps 0 to 5: the packet, the control requests and the watches over them. -/
def beforeDwell (lib : External R) (s : TickCore R) (rx : Option (RxSample R)) : TickCore R :=
  let s := s.countTick.ingestRx rx
  let s := s.answerStop.answerHold.answerKick.answerHeartbeat
  let s := s.handleRxSilence.handleDeadman.handleSupervisorLiveness
  match rx with
  | some rx => s.handleForceGuard lib rx
  | none => s

/-- Steps 0 to 6: everything a tick does before it looks at the mailbox. -/
def beforeConsume (lib : External R) (s : TickCore R) (rx : Option (RxSample R)) : TickCore R :=
  (s.beforeDwell lib rx).recoveryDwell

def clampPositions (s : TickCore R) (q : Vec6 R) : Vec6 R :=
  fun j => clampPos (s.cfg.tick.limits.posLo j) (s.cfg.tick.limits.posHi j) (q j)

/-- Steps 8b to 10: clamp, slew, report sustained clipping, move the anchor. -/
def sendCommand (s : TickCore R) (qDesired : Vec6 R) : Command R × TickCore R :=
  let (sr, slew) := s.slew.apply (s.clampPositions qDesired)
  let sustained := slew.sustainedClip
  let s := { s with slew := slew }.setCondition .sustainedSlew sustained
  let s : TickCore R :=
    if sustained = true ∧ s.sustainedSlewLatched = false then
      { s.emit .sustainedSlew .none 0 0 with sustainedSlewLatched := true }
    else if sustained = false then { s with sustainedSlewLatched := false }
    else s
  (⟨sr.q, s.anchor.streaming && decide (s.health.mode ≠ .rxSilent), false, sr.clippedJoints⟩,
    { s with anchor.qCmd := sr.q })

def tick (lib : External R) (s : TickCore R) (rx : Option (RxSample R))
    (pending : Option (Target R)) (consumeSuperseded : Bool) : Command R × TickCore R :=
  let s := s.beforeConsume lib rx
  let s := s.consumePending lib pending consumeSuperseded
  let (qDesired, s) := s.dispatchMode lib
  s.sendCommand qDesired

end TickCore

end AiroFanuc.RtCore
