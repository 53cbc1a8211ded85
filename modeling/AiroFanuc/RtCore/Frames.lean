import AiroFanuc.RtCore.Stages

/-! What the stages of a tick leave alone. Only a packet changes the remembered gates
and the standing kill conditions, only the mailbox the consume result. -/

namespace AiroFanuc.RtCore

open TickEngine

/-- The commanded pose and the limiter in front of it. -/
structure Pose (R : Type) where
  qCmd : Vec6 R
  slew : SlewLimiter R

structure Frame (R : Type) where
  cfg : RtCoreConfig R
  lastGates : Gates
  streaming : Bool
  killed : Bool
  lastConsume : ConsumeResult
  measured : Measured R
  ticksSinceRx : Nat
  slewCfg : TickEngineConfig R
  captured : Target R
  stopRequested : Bool
  pose : Pose R

theorem killed_update {c : Conditions} {bit : Condition} (benign : bit ∉ kKillMask) (on : Bool) :
    Conditions.killed (Function.update c bit on) = c.killed := by
  have other (b : Condition) (member : b ∈ kKillMask) : Function.update c bit on b = c b :=
    Function.update_of_ne (by rintro rfl; exact benign member) _ _
  simp only [Conditions.killed, kKillMask, List.any_cons, List.any_nil]
  rw [other _ (by decide), other _ (by decide), other _ (by decide), other _ (by decide),
    other _ (by decide), other _ (by decide)]

namespace TickCore

variable {R : Type} [Field R] [LinearOrder R] [FloorRing R]

def frame (s : TickCore R) : Frame R :=
  ⟨s.cfg, s.lastGates, s.anchor.streaming, s.health.conditions.killed, s.lastConsume, s.measured,
    s.rxWatch.ticksSinceRx, s.slew.cfg, s.splice.capturedTarget, s.ops.stopRequested,
    ⟨s.anchor.qCmd, s.slew⟩⟩

/-- The pose a completed recovery goes on from: out of the park, the measured one. -/
def resumed (s : TickCore R) : Pose R :=
  if s.health.mode = .rxSilent ∧ s.measured.haveMeas = true then
    ⟨s.measured.qMeas, s.slew.reset s.measured.qMeas⟩
  else ⟨s.anchor.qCmd, s.slew⟩

/-- The pose behind the dwell, from the state in front of it. -/
def dwelt (s : TickCore R) : Pose R :=
  if s.dwellCompletes then s.resumed else ⟨s.anchor.qCmd, s.slew⟩

omit [Field R] [LinearOrder R] [FloorRing R] in
theorem emit_frame (s : TickCore R) (type : EventType) (reason : FaultReason) (value : Int)
    (motionId : Nat) : (s.emit type reason value motionId).frame = s.frame := rfl

omit [Field R] [LinearOrder R] [FloorRing R] in
theorem setCondition_frame (s : TickCore R) {bit : Condition} (benign : bit ∉ kKillMask)
    (on : Bool) : (s.setCondition bit on).frame = s.frame := by
  simp only [frame, setCondition, killed_update benign]

omit [Field R] [LinearOrder R] [FloorRing R] in
theorem resolveActive_frame (s : TickCore R) (st : MotionStatus) :
    (s.resolveActive st).frame = s.frame := by
  rw [resolveActive_shape]
  rfl

omit [FloorRing R] in
theorem beginBrake_frame (s : TickCore R) (st : MotionStatus) (reason : FaultReason) :
    (s.beginBrake st reason).frame = s.frame :=
  resolveActive_frame s st

theorem enterFault_frame (s : TickCore R) (cause : FaultReason) (bump : BumpReason)
    (st : MotionStatus) : (s.enterFault cause bump st).frame = s.frame :=
  resolveActive_frame { s.bumpEpoch bump with health.fault := cause } st

omit [Field R] [LinearOrder R] [FloorRing R] in
theorem enterRxSilent_frame (s : TickCore R) : s.enterRxSilent.frame = s.frame := by
  have resolved := resolveActive_frame (TickCore.setCondition
    { s.bumpEpoch .rxSilentEntry with health.fault := .rxSilent } .rxSilent true) .faulted
  rw [setCondition_frame _ (by decide)] at resolved
  exact resolved

/-- The kill conditions a packet stands for, while streaming or before. -/
def killLevel (streaming : Bool) (g : Gates) : Bool :=
  g.eStopped || g.inError || (!g.motionPossible && streaming) || g.tpEnabled ||
    g.contactStopActive || g.safetyClamp

omit [Field R] [LinearOrder R] [FloorRing R] in
theorem setGateConditions_killed (s : TickCore R) (g : Gates) :
    (s.setGateConditions g).health.conditions.killed = killLevel s.anchor.streaming g := by
  simp only [setGateConditions, setCondition, Conditions.killed, kKillMask, List.any_cons,
    List.any_nil, killLevel, Function.update_apply, reduceCtorEq, if_true, if_false, Bool.or_false,
    Bool.or_assoc]

omit [Field R] [LinearOrder R] [FloorRing R] in
/-- A packet's gates become the last gates, and its levels the standing conditions. -/
theorem observeGates_frame (s : TickCore R) (g : Gates) :
    (s.observeGates g).frame =
      { s.frame with lastGates := g, killed := killLevel s.anchor.streaming g } := by
  have leveled : (s.setGateConditions g).frame =
      { s.frame with killed := killLevel s.anchor.streaming g } := by
    rw [← setGateConditions_killed]
    rfl
  simp only [observeGates, gateEvents_shape]
  generalize s.setGateConditions g = a at leveled
  exact congrArg (fun f : Frame R => { f with lastGates := g }) leveled

theorem processGates_frame (s : TickCore R) (g : Gates) :
    (s.processGates g).frame = (s.observeGates g).frame := by
  simp only [processGates]
  split
  · split
    · rfl
    · exact enterFault_frame _ _ _ _
  · rfl

omit [Field R] [LinearOrder R] [FloorRing R] in
theorem takeRx_frame (s : TickCore R) (rx : RxSample R) :
    (s.takeRx rx).frame =
      { s.frame with measured := ⟨rx.qMeas, rx.qdEst, true⟩, ticksSinceRx := 0 } :=
  setCondition_frame { s with measured := ⟨rx.qMeas, rx.qdEst, true⟩, rxWatch := ⟨0, false⟩ }
    (by decide) false

theorem ingestRx_frame (s : TickCore R) (rx : Option (RxSample R)) :
    (s.ingestRx rx).frame =
      match rx with
      | none => { s.frame with ticksSinceRx := s.rxWatch.ticksSinceRx + 1 }
      | some rx =>
        { s.frame with
          lastGates := rx.gates
          killed := killLevel s.anchor.streaming rx.gates
          measured := ⟨rx.qMeas, rx.qdEst, true⟩
          ticksSinceRx := 0 } := by
  cases rx with
  | none => rfl
  | some rx =>
    simp only [ingestRx]
    rw [processGates_frame, observeGates_frame, takeRx_frame]
    rfl

theorem ingestRx_cfg (s : TickCore R) (rx : Option (RxSample R)) : (s.ingestRx rx).cfg = s.cfg := by
  have kept := congrArg Frame.cfg (ingestRx_frame s rx)
  cases rx <;> exact kept

theorem ingestRx_streaming (s : TickCore R) (rx : Option (RxSample R)) :
    (s.ingestRx rx).anchor.streaming = s.anchor.streaming := by
  have kept := congrArg Frame.streaming (ingestRx_frame s rx)
  cases rx <;> exact kept

omit [FloorRing R] in
/-- Answering the stop takes the request down, whether it was up or not. -/
theorem answerStop_frame (s : TickCore R) :
    s.answerStop.frame = { s.frame with stopRequested := false } := by
  unfold answerStop
  split
  · cases mode : s.health.mode with
    | hold | capture | trajectory | servo =>
      simp only [mode]
      exact beginBrake_frame { s with ops.stopRequested := false } _ _
    | brake =>
      simp only [mode]
      exact resolveActive_frame { s with ops.stopRequested := false } _
    | streamDown | preroll | safeFollow | rxSilent =>
      simp only [mode]
      rfl
  · rename_i unasked
    simp only [frame, Bool.eq_false_of_not_eq_true unasked]

omit [FloorRing R] in
theorem answerHold_frame (s : TickCore R) : s.answerHold.frame = s.frame := by
  unfold answerHold
  split
  · cases mode : s.health.mode with
    | capture | trajectory | servo =>
      simp only [mode]
      exact beginBrake_frame { s with ops.holdRequested := false } _ _
    | hold | brake | streamDown | preroll | safeFollow | rxSilent =>
      simp only [mode]
      rfl
  · rfl

omit [Field R] [LinearOrder R] [FloorRing R] in
theorem answerKick_frame (s : TickCore R) : s.answerKick.frame = s.frame := by
  unfold answerKick
  split <;> rfl

omit [Field R] [LinearOrder R] [FloorRing R] in
theorem answerHeartbeat_frame (s : TickCore R) : s.answerHeartbeat.frame = s.frame := by
  unfold answerHeartbeat
  split <;> rfl

omit [Field R] [LinearOrder R] [FloorRing R] in
theorem degradeRx_frame (s : TickCore R) : s.degradeRx.frame = s.frame :=
  setCondition_frame { s with rxWatch.degradedEntered := true } (by decide) true

theorem handleRxSilence_frame (s : TickCore R) : s.handleRxSilence.frame = s.frame := by
  simp only [handleRxSilence]
  split
  · rfl
  · split
    · rfl
    · split
      · exact enterRxSilent_frame s
      · split
        · rw [enterFault_frame, degradeRx_frame]
        · rfl

theorem handleDeadman_frame (s : TickCore R) : s.handleDeadman.frame = s.frame := by
  simp only [handleDeadman]
  split
  · rfl
  · split
    · rw [emit_frame, enterFault_frame]
      rfl
    · rfl

theorem handleSupervisorLiveness_frame (s : TickCore R) :
    s.handleSupervisorLiveness.frame = s.frame := by
  simp only [handleSupervisorLiveness]
  split
  · rfl
  · split
    · rfl
    · split
      · rw [emit_frame, enterFault_frame]
        rfl
      · rfl

omit [FloorRing R] in
theorem handleForceGuard_frame (lib : External R) (s : TickCore R) (rx : RxSample R) :
    (s.handleForceGuard lib rx).frame = s.frame := by
  simp only [handleForceGuard]
  split
  · rfl
  · split
    · exact beginBrake_frame s .stopped .none
    · rfl

/-- After the packet is in, the stages before the mailbox only take the stop request. -/
theorem beforeDwell_frame (lib : External R) (s : TickCore R) (rx : Option (RxSample R)) :
    (s.beforeDwell lib rx).frame =
      { (s.countTick.ingestRx rx).frame with stopRequested := false } := by
  simp only [beforeDwell]
  generalize s.countTick.ingestRx rx = a
  have watched : (a.answerStop.answerHold.answerKick.answerHeartbeat.handleRxSilence.handleDeadman
      ).handleSupervisorLiveness.frame = { a.frame with stopRequested := false } := by
    rw [handleSupervisorLiveness_frame, handleDeadman_frame, handleRxSilence_frame,
      answerHeartbeat_frame, answerKick_frame, answerHold_frame, answerStop_frame]
  cases rx with
  | none => exact watched
  | some rx => exact (handleForceGuard_frame lib _ rx).trans watched

omit [Field R] [LinearOrder R] [FloorRing R] in
theorem completeRecovery_frame (s : TickCore R) :
    s.completeRecovery.frame = { s.frame with pose := s.resumed } := by
  have cleared : ((TickCore.setCondition { s.bumpEpoch .recoveryComplete with
      health.fault := .none } .rxSilent false).setCondition .rxDegraded false).frame = s.frame := by
    rw [setCondition_frame _ (by decide), setCondition_frame _ (by decide)]
    rfl
  simp only [completeRecovery]
  split
  · rename_i parked
    rw [resumed, if_pos (by exact parked)]
    exact congrArg (fun f : Frame R => { f with
      pose := ⟨s.measured.qMeas, s.slew.reset s.measured.qMeas⟩ }) cleared
  · rename_i unparked
    rw [resumed, if_neg (by exact unparked)]
    exact cleared

theorem recoveryDwell_frame (s : TickCore R) :
    s.recoveryDwell.frame = { s.frame with pose := s.dwelt } := by
  cases completes : s.dwellCompletes with
  | true =>
    simp only [dwelt, completes, if_true]
    simp only [dwellCompletes, Bool.and_eq_true, decide_eq_true_eq] at completes
    simp only [recoveryDwell, completes, if_true]
    exact completeRecovery_frame s.countDwell
  | false =>
    simp only [dwelt, completes, Bool.false_eq_true, if_false]
    unfold recoveryDwell
    split
    · split
      · rename_i pending clear
        have early : ¬ s.msToTicks s.cfg.antiflapDwellMs ≤ s.recovery.allClearTicks + 1 := by
          simpa [dwellCompletes, pending, clear] using completes
        rw [if_neg early]
        rfl
      · rfl
    · rfl

theorem beforeConsume_frame (lib : External R) (s : TickCore R) (rx : Option (RxSample R)) :
    (s.beforeConsume lib rx).frame =
      { (s.ingestRx rx).frame with
        stopRequested := false
        pose := (s.beforeDwell lib rx).dwelt } := by
  rw [beforeConsume, recoveryDwell_frame, beforeDwell_frame, ingestRx_frame, ingestRx_frame]
  rfl

omit [FloorRing R] in
theorem consumeHold_frame (s : TickCore R) (t : Target R) : (s.consumeHold t).frame = s.frame := by
  have resolved := resolveActive_frame s .preempted
  simp only [consumeHold]
  split
  · exact (beginBrake_frame (s.resolveActive .preempted) .preempted .none).trans resolved
  · exact resolved

omit [FloorRing R] in
theorem consumeServo_frame (s : TickCore R) (t : Target R) :
    (s.consumeServo t).frame = s.frame := by
  have resolved := resolveActive_frame s .preempted
  simp only [consumeServo]
  split
  · exact resolved
  · exact resolved

/-- The target the capture splice leads to: the last trajectory that was accepted. -/
def capturedAfter (accepted : Bool) (captured : Target R) (pending : Option (Target R)) :
    Target R :=
  match pending with
  | none => captured
  | some t => if accepted = true ∧ t.kind = .trajectory then t else captured

theorem consume_frame (lib : External R) (s : TickCore R) (t : Target R)
    (supersededByStop : Bool) : (s.consume lib t supersededByStop).2.frame =
      { s.frame with
        captured := capturedAfter (s.consume lib t supersededByStop).1.accepted
          s.splice.capturedTarget (some t) } := by
  by_cases absent : t.kind = .none
  · simp only [consume_ignored absent, capturedAfter, Bool.false_eq_true, false_and, if_false]
    rfl
  by_cases refusing : s.refuses lib t supersededByStop = true
  · obtain ⟨verdict, left⟩ := consume_refused absent refusing
    simp only [verdict, capturedAfter, Bool.false_eq_true, false_and, if_false]
    rcases left with ⟨reason, refused⟩ | refused | refused <;>
      · rw [refused]
        rfl
  · obtain ⟨verdict, taken⟩ := consume_admitted absent (Bool.eq_false_of_not_eq_true refusing)
    rw [verdict, taken]
    cases kind : t.kind with
    | none => exact absurd kind absent
    | hold =>
      simp only [capturedAfter, kind, reduceCtorEq, and_false, if_false]
      exact consumeHold_frame s t
    | brake =>
      simp only [capturedAfter, kind, reduceCtorEq, and_false, if_false]
      exact resolveActive_frame s .preempted
    | servo =>
      simp only [capturedAfter, kind, reduceCtorEq, and_false, if_false]
      exact consumeServo_frame s t
    | trajectory =>
      simp only [capturedAfter, kind, and_self, if_true]
      have resolved := resolveActive_frame { s.planCapture lib t with
        splice.capture := (s.planCapture lib t).splice.capturePending } .preempted
      exact congrArg (fun f : Frame R => { f with captured := t }) resolved

theorem dispatchTrajectory_frame (s : TickCore R) : s.dispatchTrajectory.2.frame = s.frame := by
  unfold dispatchTrajectory
  cases s.playback.trajPhase with
  | playing =>
    simp only
    split
    · split <;> rfl
    · rfl
  | endBlend =>
    simp only
    split <;> rfl
  | settling =>
    simp only
    split
    · exact resolveActive_frame { s with
        anchor.qdCmd := 0, anchor.qddCmd := 0, playback.settle := _ } .done
    · exact resolveActive_frame { s with
        anchor.qdCmd := 0, anchor.qddCmd := 0, playback.settle := _ } .settleTimeout
    · rfl

theorem reissueServo_frame (s : TickCore R) : s.reissueServo.frame = s.frame := by
  simp only [reissueServo]
  split <;> rfl

theorem dispatchServo_frame (lib : External R) (s : TickCore R) :
    (s.dispatchServo lib).2.frame = s.frame := by
  simp only [dispatchServo]
  rw [← reissueServo_frame s]
  split
  · exact enterFault_frame { s.reissueServo with
      servo.servo := (s.reissueServo.servo.servo.step lib).2 } _ _ _
  · rfl

theorem dispatchBrake_frame (lib : External R) (s : TickCore R) :
    (s.dispatchBrake lib).2.frame = s.frame := by
  simp only [dispatchBrake]
  split
  · exact enterFault_frame { s with brake.brake := (s.brake.brake.step lib).2 } _ _ _
  · split
    · split
      · exact resolveActive_frame { s with
          brake.brake := (s.brake.brake.step lib).2
          anchor.qdCmd := (s.brake.brake.step lib).1.qd
          anchor.qddCmd := (s.brake.brake.step lib).1.qdd } .done
      · rfl
    · rfl

theorem dispatchSafeFollow_frame (s : TickCore R) : s.dispatchSafeFollow.2.frame = s.frame := by
  unfold dispatchSafeFollow
  cases s.follow.phase with
  | ramp => rfl
  | reanchor =>
    simp only
    split
    · rfl
    · split <;> rfl

theorem dispatchMode_frame (lib : External R) (s : TickCore R) :
    (s.dispatchMode lib).2.frame = s.frame := by
  unfold dispatchMode
  cases s.health.mode with
  | streamDown | preroll | rxSilent | hold => rfl
  | capture =>
    simp only
    split
    · rfl
    · exact dispatchTrajectory_frame (s.installTrajectory s.splice.capturedTarget)
  | trajectory => exact dispatchTrajectory_frame s
  | servo => exact dispatchServo_frame lib s
  | brake => exact dispatchBrake_frame lib s
  | safeFollow => exact dispatchSafeFollow_frame s

omit [FloorRing R] in
theorem slewApply_cfg (l : SlewLimiter R) (qDesired : Vec6 R) : (l.apply qDesired).2.cfg = l.cfg := by
  unfold SlewLimiter.apply
  split <;> rfl

/-- The pose a command moves on to. -/
def sentPose (s : TickCore R) (qDesired : Vec6 R) : Pose R :=
  ⟨(s.slew.apply (s.clampPositions qDesired)).1.q, (s.slew.apply (s.clampPositions qDesired)).2⟩

omit [FloorRing R] in
theorem sendCommand_frame (s : TickCore R) (qDesired : Vec6 R) :
    (s.sendCommand qDesired).2.frame = { s.frame with pose := s.sentPose qDesired } := by
  let r := s.slew.apply (s.clampPositions qDesired)
  have slewed (on : Bool) : (TickCore.setCondition { s with slew := r.2 } .sustainedSlew on).frame =
      { s.frame with pose := ⟨s.anchor.qCmd, r.2⟩ } := by
    rw [setCondition_frame _ (by decide)]
    simp only [frame, r, slewApply_cfg]
  have moved (on : Bool) := congrArg (fun f : Frame R => { f with pose := ⟨r.1.q, r.2⟩ }) (slewed on)
  simp only [sendCommand]
  split
  · exact moved _
  · split
    · exact moved _
    · exact moved _

/-- The frame a tick leaves: the packet's gates, the verdict on the target, and no stop
request open. -/
theorem tick_frame (lib : External R) (s : TickCore R) (rx : Option (RxSample R))
    (pending : Option (Target R)) (consumeSuperseded : Bool) :
    (s.tick lib rx pending consumeSuperseded).2.frame =
      { (s.ingestRx rx).frame with
        lastConsume :=
          match pending with
          | none => .empty
          | some t => ((s.beforeConsume lib rx).consume lib t consumeSuperseded).1
        captured :=
          match pending with
          | none => (s.ingestRx rx).frame.captured
          | some t => capturedAfter
              ((s.beforeConsume lib rx).consume lib t consumeSuperseded).1.accepted
              (s.ingestRx rx).frame.captured (some t)
        stopRequested := false
        pose := (s.tick lib rx pending consumeSuperseded).2.frame.pose } := by
  have before := beforeConsume_frame lib s rx
  let c := (s.beforeConsume lib rx).consumePending lib pending consumeSuperseded
  let pose := (c.dispatchMode lib).2.sentPose (c.dispatchMode lib).1
  have sent : (s.tick lib rx pending consumeSuperseded).2.frame = { c.frame with pose := pose } := by
    rw [← dispatchMode_frame lib c]
    exact sendCommand_frame _ _
  rw [sent]
  cases pending with
  | none => exact congrArg (fun f : Frame R => { f with lastConsume := .empty, pose := pose }) before
  | some t =>
    have consumed := consume_frame lib (s.beforeConsume lib rx) t consumeSuperseded
    exact (congrArg (fun f : Frame R => { f with
      lastConsume := ((s.beforeConsume lib rx).consume lib t consumeSuperseded).1
      pose := pose })
      (consumed.trans (congrArg (fun f : Frame R => { f with
        captured := capturedAfter
          ((s.beforeConsume lib rx).consume lib t consumeSuperseded).1.accepted
          f.captured (some t) }) before)))

/-- The command of a tick moves the pose on from where the dwell left it. -/
theorem tick_pose (lib : External R) (s : TickCore R) (rx : Option (RxSample R))
    (pending : Option (Target R)) (consumeSuperseded : Bool) :
    ∃ qDesired, (s.tick lib rx pending consumeSuperseded).2.frame.pose =
        ⟨((s.beforeDwell lib rx).dwelt.slew.apply (s.clampPositions qDesired)).1.q,
          ((s.beforeDwell lib rx).dwelt.slew.apply (s.clampPositions qDesired)).2⟩ ∧
      (s.tick lib rx pending consumeSuperseded).1.qRad =
        ((s.beforeDwell lib rx).dwelt.slew.apply (s.clampPositions qDesired)).1.q := by
  let c := (s.beforeConsume lib rx).consumePending lib pending consumeSuperseded
  let d := c.dispatchMode lib
  have before := beforeConsume_frame lib s rx
  have consumed : c.frame.pose = (s.beforeConsume lib rx).frame.pose ∧
      c.frame.cfg = (s.beforeConsume lib rx).frame.cfg := by
    cases pending with
    | none => exact ⟨rfl, rfl⟩
    | some t =>
      have taken := consume_frame lib (s.beforeConsume lib rx) t consumeSuperseded
      have pose := congrArg Frame.pose taken
      have cfg := congrArg Frame.cfg taken
      exact ⟨pose, cfg⟩
  have dispatched := dispatchMode_frame lib c
  have limiter : d.2.slew = (s.beforeDwell lib rx).dwelt.slew :=
    congrArg Pose.slew ((congrArg Frame.pose dispatched).trans
      (consumed.1.trans (congrArg Frame.pose before)))
  have cfg : d.2.cfg = s.cfg := (congrArg Frame.cfg dispatched).trans
    (consumed.2.trans ((congrArg Frame.cfg before).trans (ingestRx_cfg s rx)))
  have clamped : d.2.clampPositions d.1 = s.clampPositions d.1 := by
    funext j
    rw [clampPositions, clampPositions, cfg]
  refine ⟨d.1, ?_, ?_⟩
  · have sent := congrArg Frame.pose (sendCommand_frame d.2 d.1)
    simp only [sentPose, limiter, clamped] at sent
    exact sent
  · rw [← limiter, ← clamped]
    simp only [tick, sendCommand]
    rfl

end TickCore

end AiroFanuc.RtCore
