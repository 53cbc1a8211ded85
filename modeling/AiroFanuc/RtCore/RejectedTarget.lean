import AiroFanuc.RtCore.Run
import AiroFanuc.Library.TwoRuns

/-! A rejected target does not disturb motion: no stage of a tick lets the active slot, the
event ring, the last verdict or the pending splice reach the command stream. -/

namespace AiroFanuc.RtCore

open TickEngine Library

variable {R : Type} [Field R] [LinearOrder R] [FloorRing R]

/-- What a rejected target may leave behind. -/
structure Report (R : Type) where
  active : ActiveMotion
  events : List Event
  lastConsume : ConsumeResult
  capturePending : CapturePath R

namespace TickCore

def dress (s : TickCore R) (d : Report R) : TickCore R :=
  { s with
    active := d.active
    events := d.events
    lastConsume := d.lastConsume
    splice.capturePending := d.capturePending }

def report (s : TickCore R) : Report R :=
  ⟨s.active, s.events, s.lastConsume, s.splice.capturePending⟩

/-- The state under a blank report. -/
def erase (s : TickCore R) : TickCore R := s.dress ⟨⟨0, .pending⟩, [], .empty, .cleared⟩

omit [Field R] [LinearOrder R] [FloorRing R] in
theorem dress_erase (s : TickCore R) (d : Report R) : (s.dress d).erase = s.erase := rfl

omit [Field R] [LinearOrder R] [FloorRing R] in
theorem erase_dress (s : TickCore R) : s.erase.dress s.report = s := rfl

/-- A function of the state whose result, its report apart, does not depend on the report. -/
def Oblivious (f : TickCore R → TickCore R) : Prop :=
  ∀ s d, (f (s.dress d)).erase = (f s).erase

section Oblivious

variable {f g : TickCore R → TickCore R}

omit [Field R] [LinearOrder R] [FloorRing R] in
theorem Oblivious.same (oblivious : Oblivious f) {s t : TickCore R} (same : s.erase = t.erase) :
    (f s).erase = (f t).erase := by
  rw [← erase_dress s, ← erase_dress t, oblivious, oblivious, same]

omit [Field R] [LinearOrder R] [FloorRing R] in
theorem Oblivious.comp (outer : Oblivious g) (inner : Oblivious f) :
    Oblivious fun s => g (f s) := fun s d => outer.same (inner s d)

omit [Field R] [LinearOrder R] [FloorRing R] in
theorem Oblivious.id : Oblivious fun s : TickCore R => s := fun _ _ => rfl

omit [Field R] [LinearOrder R] [FloorRing R] in
/-- A test that the report cannot sway chooses between oblivious branches. -/
theorem Oblivious.ite (c : TickCore R → Prop) [∀ s, Decidable (c s)]
    (blind : ∀ s d, c (s.dress d) ↔ c s) (holds : Oblivious f) (fails : Oblivious g) :
    Oblivious fun s => if c s then f s else g s := by
  intro s d
  by_cases h : c s
  · simp only [(blind s d).mpr h, h, if_true]
    exact holds s d
  · simp only [mt (blind s d).mp h, h, if_false]
    exact fails s d

end Oblivious

/-! ### The stages before the mailbox -/

omit [Field R] [LinearOrder R] [FloorRing R] in
theorem resolveActive_erase (s : TickCore R) (st : MotionStatus) :
    (s.resolveActive st).erase = s.erase := by
  rw [resolveActive_shape]
  rfl

omit [FloorRing R] in
theorem beginBrake_oblivious (st : MotionStatus) (reason : FaultReason) :
    Oblivious (R := R) fun s => s.beginBrake st reason := by
  intro s d
  simp only [beginBrake, resolveActive_shape]
  rfl

theorem enterFault_oblivious (cause : FaultReason) (bump : BumpReason) (st : MotionStatus) :
    Oblivious (R := R) fun s => s.enterFault cause bump st := by
  intro s d
  simp only [enterFault, resolveActive_shape]
  rfl

omit [Field R] [LinearOrder R] [FloorRing R] in
theorem enterRxSilent_oblivious : Oblivious (R := R) enterRxSilent := by
  intro s d
  simp only [enterRxSilent, resolveActive_shape]
  rfl

omit [Field R] [LinearOrder R] [FloorRing R] in
theorem observeGates_oblivious (g : Gates) : Oblivious (R := R) fun s => s.observeGates g := by
  intro s d
  simp only [observeGates, gateEvents_shape]
  rfl

theorem processGates_oblivious (g : Gates) : Oblivious (R := R) fun s => s.processGates g := by
  intro s d
  have observed := observeGates_oblivious g s d
  have streams (a : TickCore R) : (a.observeGates g).anchor.streaming = a.anchor.streaming :=
    congrArg Anchor.streaming (observeGates_anchor a g)
  have edges : (s.dress d).lastGates = s.lastGates := rfl
  have anchor : (s.dress d).anchor = s.anchor := rfl
  simp only [processGates, streams, edges, anchor]
  by_cases live : s.anchor.streaming = true
  · simp only [live, if_true]
    split
    · exact observed
    · exact (enterFault_oblivious _ _ .faulted).same observed
  · simp only [live]
    exact observed

theorem ingestRx_oblivious (rx : Option (RxSample R)) : Oblivious fun s => s.ingestRx rx := by
  intro s d
  cases rx with
  | none => rfl
  | some r => exact processGates_oblivious r.gates (s.takeRx r) d

omit [FloorRing R] in
theorem answerStop_oblivious : Oblivious (R := R) answerStop := by
  apply Oblivious.ite (fun s => s.ops.stopRequested = true) (fun _ _ => Iff.rfl)
  · intro s d
    have health : (s.dress d).health = s.health := rfl
    simp only [health]
    split
    · exact beginBrake_oblivious .stopped .none { s with ops.stopRequested := false } d
    · exact beginBrake_oblivious .stopped .none { s with ops.stopRequested := false } d
    · exact beginBrake_oblivious .stopped .none { s with ops.stopRequested := false } d
    · exact beginBrake_oblivious .stopped .none { s with ops.stopRequested := false } d
    · simp only [resolveActive_shape]
      rfl
    · rfl
  · exact .id

omit [FloorRing R] in
theorem answerHold_oblivious : Oblivious (R := R) answerHold := by
  apply Oblivious.ite (fun s => s.ops.holdRequested = true) (fun _ _ => Iff.rfl)
  · intro s d
    have health : (s.dress d).health = s.health := rfl
    simp only [health]
    split
    · exact beginBrake_oblivious .preempted .none { s with ops.holdRequested := false } d
    · exact beginBrake_oblivious .preempted .none { s with ops.holdRequested := false } d
    · exact beginBrake_oblivious .preempted .none { s with ops.holdRequested := false } d
    · rfl
  · exact .id

omit [Field R] [LinearOrder R] [FloorRing R] in
theorem answerKick_oblivious : Oblivious (R := R) answerKick :=
  .ite (fun s => s.ops.kicked = true) (fun _ _ => Iff.rfl) (fun _ _ => rfl) .id

omit [Field R] [LinearOrder R] [FloorRing R] in
theorem answerHeartbeat_oblivious : Oblivious (R := R) answerHeartbeat :=
  .ite (fun s => s.liveness.heartbeated = true) (fun _ _ => Iff.rfl) (fun _ _ => rfl) .id

theorem handleRxSilence_oblivious : Oblivious (R := R) handleRxSilence := by
  apply Oblivious.ite (fun s => s.rxWatch.ticksSinceRx = 0) (fun _ _ => Iff.rfl) .id
  apply Oblivious.ite (fun s => s.health.mode = .rxSilent) (fun _ _ => Iff.rfl) .id
  apply Oblivious.ite
    (fun s => s.cfg.rxSilentParkMs ≤ (s.rxWatch.ticksSinceRx : R) * s.itp * 1000)
    (fun _ _ => Iff.rfl) enterRxSilent_oblivious
  apply Oblivious.ite (fun s => (s.health.mode = .trajectory ∨ s.health.mode = .capture ∨
    s.health.mode = .servo ∨ s.health.mode = .brake) ∧
      s.cfg.rxSilenceBlindHoldMs ≤ (s.rxWatch.ticksSinceRx : R) * s.itp * 1000 ∧
      s.rxWatch.degradedEntered = false) (fun _ _ => Iff.rfl)
  · exact (enterFault_oblivious .rxDegraded .safeFollowEntry .faulted).comp fun _ _ => rfl
  · exact .id

theorem handleDeadman_oblivious : Oblivious (R := R) handleDeadman := by
  have emits : Oblivious fun s : TickCore R => s.emit .deadmanTrip .watchdogExpired 0 0 :=
    fun _ _ => rfl
  have counts : Oblivious fun s : TickCore R =>
      { s with deadman.ticksSinceKick := s.deadman.ticksSinceKick + 1 } := fun _ _ => rfl
  apply Oblivious.ite (fun s => s.deadman.armed = false ∨ s.health.mode ≠ .trajectory)
    (fun _ _ => Iff.rfl) .id
  apply Oblivious.ite
    (fun s => s.deadman.deadmanS ≤ ((s.deadman.ticksSinceKick + 1 : Nat) : R) * s.itp)
    (fun _ _ => Iff.rfl)
  · exact emits.comp ((enterFault_oblivious .watchdogExpired .deadmanTrip .stopped).comp counts)
  · exact counts

theorem handleSupervisorLiveness_oblivious : Oblivious (R := R) handleSupervisorLiveness := by
  have emits : Oblivious fun s : TickCore R => s.emit .supervisorLost .supervisorLost 0 0 :=
    fun _ _ => rfl
  have latches : Oblivious fun s : TickCore R => { s with
      liveness.ticksSinceHeartbeat := s.liveness.ticksSinceHeartbeat + 1
      liveness.lostLatched := true } := fun _ _ => rfl
  apply Oblivious.ite (fun s => s.anchor.streaming = false ∨ s.liveness.armed = false)
    (fun _ _ => Iff.rfl) .id
  apply Oblivious.ite (fun s => s.liveness.lostLatched = true) (fun _ _ => Iff.rfl) .id
  apply Oblivious.ite
    (fun s => s.cfg.supervisorLostS ≤ ((s.liveness.ticksSinceHeartbeat + 1 : Nat) : R) * s.itp)
    (fun _ _ => Iff.rfl)
  · exact emits.comp ((enterFault_oblivious .supervisorLost .supervisorLost .faulted).comp latches)
  · exact fun _ _ => rfl

omit [FloorRing R] in
theorem handleForceGuard_oblivious (lib : External R) (rx : RxSample R) :
    Oblivious fun s => s.handleForceGuard lib rx := by
  have emits : Oblivious fun s : TickCore R => s.emit .forceGuardTrip .forceGuard 0 0 :=
    fun _ _ => rfl
  apply Oblivious.ite (fun s => s.forceGuard.armed = false ∨ rx.wrenchValid = false)
    (fun _ _ => Iff.rfl) .id
  apply Oblivious.ite
    (fun s => s.forceGuard.stopN < lib.sqrt (rx.fx * rx.fx + rx.fy * rx.fy + rx.fz * rx.fz))
    (fun _ _ => Iff.rfl)
  · exact emits.comp (beginBrake_oblivious .stopped .none)
  · exact .id

theorem recoveryDwell_oblivious : Oblivious (R := R) recoveryDwell := by
  have reseeds : Oblivious fun s : TickCore R => if s.health.mode = .rxSilent ∧
      s.measured.haveMeas = true then { s with
        anchor.qCmd := s.measured.qMeas
        slew := s.slew.reset s.measured.qMeas } else s :=
    .ite (fun s => s.health.mode = .rxSilent ∧ s.measured.haveMeas = true) (fun _ _ => Iff.rfl)
      (fun _ _ => rfl) .id
  have leaves : Oblivious fun s : TickCore R => s.goHold.emit .recoveryComplete .none 0 0 :=
    fun _ _ => rfl
  have clears : Oblivious fun s : TickCore R =>
      let s := s.countDwell.bumpEpoch .recoveryComplete
      let s := { s with health.fault := .none }
      let s := (s.setCondition .rxSilent false).setCondition .rxDegraded false
      { s with
        recovery := ⟨false, 0⟩
        rxWatch.degradedEntered := false
        liveness.lostLatched := false } := fun _ _ => rfl
  apply Oblivious.ite (fun s => s.recovery.pending = true) (fun _ _ => Iff.rfl) ?_ .id
  apply Oblivious.ite (fun s => s.dwellClear = true) (fun _ _ => Iff.rfl) ?_ (fun _ _ => rfl)
  apply Oblivious.ite
    (fun s => s.msToTicks s.cfg.antiflapDwellMs ≤ s.recovery.allClearTicks + 1)
    (fun _ _ => Iff.rfl)
  · exact leaves.comp (reseeds.comp clears)
  · exact fun _ _ => rfl

theorem beforeConsume_oblivious (lib : External R) (rx : Option (RxSample R)) :
    Oblivious fun s => s.beforeConsume lib rx := by
  have ingested : Oblivious fun s : TickCore R => s.countTick.ingestRx rx :=
    fun s d => ingestRx_oblivious rx s.countTick d
  have asked : Oblivious fun s : TickCore R => s.answerStop.answerHold.answerKick.answerHeartbeat :=
    answerHeartbeat_oblivious.comp
      (answerKick_oblivious.comp (answerHold_oblivious.comp answerStop_oblivious))
  have watched : Oblivious fun s : TickCore R =>
      s.handleRxSilence.handleDeadman.handleSupervisorLiveness :=
    handleSupervisorLiveness_oblivious.comp
      (handleDeadman_oblivious.comp handleRxSilence_oblivious)
  have early := watched.comp (asked.comp ingested)
  cases rx with
  | none => exact recoveryDwell_oblivious.comp early
  | some r => exact recoveryDwell_oblivious.comp ((handleForceGuard_oblivious lib r).comp early)

/-! ### The mailbox -/

omit [FloorRing R] in
theorem consumeHold_oblivious (t : Target R) : Oblivious fun s => s.consumeHold t := by
  have resolves : Oblivious fun s : TickCore R => s.resolveActive .preempted := by
    intro s d
    rw [resolveActive_erase, resolveActive_erase, dress_erase]
  have brakes : Oblivious fun s : TickCore R => if s.health.mode = .capture ∨
      s.health.mode = .trajectory ∨ s.health.mode = .servo then s.beginBrake .preempted .none else s :=
    .ite (fun s => s.health.mode = .capture ∨ s.health.mode = .trajectory ∨ s.health.mode = .servo)
      (fun _ _ => Iff.rfl) (beginBrake_oblivious .preempted .none) .id
  have takes : Oblivious fun s : TickCore R =>
      { s with active := ⟨t.motionId, .done⟩ }.emit .motionDone .none 0 t.motionId := fun _ _ => rfl
  exact takes.comp (brakes.comp resolves)

omit [FloorRing R] in
theorem consumeBrake_oblivious (t : Target R) : Oblivious fun s => s.consumeBrake t := by
  intro s d
  simp only [consumeBrake, resolveActive_shape]
  rfl

omit [FloorRing R] in
theorem consumeServo_oblivious (t : Target R) : Oblivious fun s => s.consumeServo t := by
  have resolves : Oblivious fun s : TickCore R => s.resolveActive .preempted := by
    intro s d
    rw [resolveActive_erase, resolveActive_erase, dress_erase]
  have starts : Oblivious fun s : TickCore R => if s.health.mode ≠ .servo then { s with
        servo.servo := s.servo.servo.start s.anchor.qCmd s.anchor.qdCmd s.anchor.qddCmd
        health.mode := .servo } else s :=
    .ite (fun s => s.health.mode ≠ .servo) (fun _ _ => Iff.rfl) (fun _ _ => rfl) .id
  have takes : Oblivious fun s : TickCore R =>
      { s with
        servo := ⟨s.servo.servo.setTarget t.servoQ t.servoDurationS, t.servoQ, t.servoDurationS,
          0, false⟩
        forceGuard.armed := false
        active := ⟨t.motionId, .running⟩ }.emit .motionRunning .none 0 t.motionId := fun _ _ => rfl
  exact takes.comp (starts.comp resolves)

/-- The pending splice is planned afresh, so the one left behind is never read. -/
theorem acceptTrajectory_oblivious (lib : External R) (t : Target R) :
    Oblivious fun s => (s.planCapture lib t).acceptTrajectory t := by
  intro s d
  simp only [acceptTrajectory, resolveActive_shape]
  rfl

/-- A target that is not accepted changes the report, and nothing else. -/
theorem consume_rejected {lib : External R} {s : TickCore R} {t : Target R}
    {supersededByStop : Bool}
    (rejected : (s.consume lib t supersededByStop).1.accepted = false) :
    (s.consume lib t supersededByStop).2.erase = s.erase := by
  by_cases absent : t.kind = .none
  · rw [(consume_ignored absent).2]
  have refusing : s.refuses lib t supersededByStop = true := by
    simpa [consume_accepted, absent] using rejected
  rcases (consume_refused absent refusing).2 with ⟨reason, refused⟩ | refused | refused
  · rw [refused]
    rfl
  · rw [refused]
    rfl
  · rw [refused]
    rfl

theorem consume_oblivious (lib : External R) (t : Target R) (supersededByStop : Bool) :
    Oblivious fun s => (s.consume lib t supersededByStop).2 := by
  intro s d
  have verdict : (s.dress d).refuses lib t supersededByStop = s.refuses lib t supersededByStop := rfl
  by_cases accepted : (s.consume lib t supersededByStop).1.accepted = true
  · rw [consume_accepted] at accepted
    simp only [Bool.and_eq_true, decide_eq_true_eq, Bool.not_eq_true'] at accepted
    simp only [(consume_admitted accepted.1 accepted.2).2,
      (consume_admitted accepted.1 (verdict.trans accepted.2)).2]
    cases t.kind with
    | none => rfl
    | hold => exact consumeHold_oblivious t s d
    | brake => exact consumeBrake_oblivious t s d
    | servo => exact consumeServo_oblivious t s d
    | trajectory => exact acceptTrajectory_oblivious lib t s d
  · have rejected := Bool.eq_false_of_not_eq_true accepted
    have rejected' : ((s.dress d).consume lib t supersededByStop).1.accepted = false := by
      rw [consume_accepted, verdict, ← consume_accepted]
      exact rejected
    simp only [consume_rejected rejected, consume_rejected rejected', dress_erase]

theorem consumePending_oblivious (lib : External R) (pending : Option (Target R))
    (consumeSuperseded : Bool) :
    Oblivious fun s => s.consumePending lib pending consumeSuperseded := by
  cases pending with
  | none => exact fun _ _ => rfl
  | some t =>
    intro s d
    exact consume_oblivious lib t consumeSuperseded s d

/-! ### The dispatch and the send -/

/-- The same of a function that also answers. -/
def Answers {α : Type} (f : TickCore R → α × TickCore R) : Prop :=
  ∀ s d, (f (s.dress d)).1 = (f s).1 ∧ (f (s.dress d)).2.erase = (f s).2.erase

section Answers

variable {α : Type} {f g : TickCore R → α × TickCore R}

omit [Field R] [LinearOrder R] [FloorRing R] in
theorem Answers.same (answers : Answers f) {s t : TickCore R} (same : s.erase = t.erase) :
    (f s).1 = (f t).1 ∧ (f s).2.erase = (f t).2.erase := by
  have left := answers s.erase s.report
  have right := answers t.erase t.report
  rw [erase_dress] at left right
  rw [left.1, left.2, right.1, right.2, same]
  exact ⟨rfl, rfl⟩

omit [Field R] [LinearOrder R] [FloorRing R] in
theorem Answers.ite (c : TickCore R → Prop) [∀ s, Decidable (c s)]
    (blind : ∀ s d, c (s.dress d) ↔ c s) (holds : Answers f) (fails : Answers g) :
    Answers fun s => if c s then f s else g s := by
  intro s d
  by_cases h : c s
  · simp only [(blind s d).mpr h, h, if_true]
    exact holds s d
  · simp only [mt (blind s d).mp h, h, if_false]
    exact fails s d

omit [Field R] [LinearOrder R] [FloorRing R] in
/-- Work on the state before an answer. -/
theorem Answers.comp {w : TickCore R → TickCore R} (answers : Answers f) (works : Oblivious w) :
    Answers fun s => f (w s) := fun s d => answers.same (works s d)

end Answers

theorem dispatchTrajectory_answers : Answers (R := R) dispatchTrajectory := by
  intro s d
  simp only [dispatchTrajectory, dress, itp]
  cases phase : s.playback.trajPhase with
  | playing =>
    simp only
    by_cases ended : s.playback.trajEndTauNs ≤
        wrapInt64 (s.playback.tauNs + itpNs s.cfg.tick.itpS)
    · by_cases blends : s.cfg.tick.settleVelEpsRadS < maxAbs s.playback.qdEndWire
      · simp only [ended, blends, if_true]
        exact ⟨trivial, rfl⟩
      · simp only [ended, blends, if_true, if_false]
        exact ⟨trivial, rfl⟩
    · simp only [ended, if_false]
      exact ⟨trivial, rfl⟩
  | endBlend =>
    simp only
    by_cases ended : s.qdBlend.durNs ≤
        wrapInt64 (s.playback.tauBlendNs + itpNs s.cfg.tick.itpS)
    · simp only [ended, if_true]
      exact ⟨trivial, rfl⟩
    · simp only [ended, if_false]
      exact ⟨trivial, rfl⟩
  | settling =>
    simp only
    split
    · simp only [resolveActive_shape]
      exact ⟨rfl, rfl⟩
    · simp only [resolveActive_shape]
      exact ⟨rfl, rfl⟩
    · exact ⟨rfl, rfl⟩

theorem reissueServo_oblivious : Oblivious (R := R) reissueServo := by
  have counts : Oblivious fun s : TickCore R =>
      { s with servo.ticksSinceSet := s.servo.ticksSinceSet + 1 } := fun _ _ => rfl
  have reissues : Oblivious fun s : TickCore R => if s.servo.held = false ∧
      s.servoStaleTicks < (s.servo.ticksSinceSet : Int) then { s with
        servo.servo := s.servo.servo.setTarget s.servo.lastQ s.servo.lastDur
        servo.held := true } else s :=
    .ite (fun s => s.servo.held = false ∧ s.servoStaleTicks < (s.servo.ticksSinceSet : Int))
      (fun _ _ => Iff.rfl) (fun _ _ => rfl) .id
  exact reissues.comp counts

/-- A generator that fails holds the anchor and faults. -/
theorem internalFault_answers : Answers (R := R) fun s =>
    ((s.enterFault .internal .faultEntry .faulted).anchor.qCmd,
      s.enterFault .internal .faultEntry .faulted) := by
  intro s d
  have faulted := enterFault_oblivious (R := R) .internal .faultEntry .faulted s d
  have held := congrArg (fun s : TickCore R => s.anchor.qCmd) faulted
  exact ⟨held, faulted⟩

theorem dispatchServo_answers (lib : External R) :
    Answers (R := R) fun s => s.dispatchServo lib := by
  have steps : Answers fun s : TickCore R =>
      if (s.servo.servo.step lib).1.error = true then
        (({ s with servo.servo := (s.servo.servo.step lib).2 }.enterFault .internal .faultEntry
          .faulted).anchor.qCmd,
          { s with servo.servo := (s.servo.servo.step lib).2 }.enterFault .internal .faultEntry
            .faulted)
      else ((s.servo.servo.step lib).1.q, { s with
        servo.servo := (s.servo.servo.step lib).2
        anchor.qdCmd := (s.servo.servo.step lib).1.qd
        anchor.qddCmd := (s.servo.servo.step lib).1.qdd }) := by
    apply Answers.ite (fun s => (s.servo.servo.step lib).1.error = true) (fun _ _ => Iff.rfl)
    · exact internalFault_answers.comp fun _ _ => rfl
    · exact fun _ _ => ⟨rfl, rfl⟩
  exact steps.comp reissueServo_oblivious

theorem dispatchBrake_answers (lib : External R) :
    Answers (R := R) fun s => s.dispatchBrake lib := by
  have resolves : Oblivious fun s : TickCore R =>
      (if s.brake.isMotion then s.resolveActive .done else s).goHold := by
    intro s d
    simp only [resolveActive_shape, dress]
    by_cases own : s.brake.isMotion = true
    · simp only [own, if_true]
      rfl
    · simp only [own]
      rfl
  apply Answers.ite (fun s => (s.brake.brake.step lib).1.error = true) (fun _ _ => Iff.rfl)
  · exact internalFault_answers.comp fun _ _ => rfl
  · apply Answers.ite
      (fun s => ((s.brake.brake.step lib).2.done s.measured.qdEst) = true) (fun _ _ => Iff.rfl)
    · exact fun s d => ⟨rfl, resolves { s with
        brake.brake := (s.brake.brake.step lib).2
        anchor.qdCmd := (s.brake.brake.step lib).1.qd
        anchor.qddCmd := (s.brake.brake.step lib).1.qdd } d⟩
    · exact fun _ _ => ⟨rfl, rfl⟩

theorem dispatchSafeFollow_answers : Answers (R := R) dispatchSafeFollow := by
  intro s d
  simp only [dispatchSafeFollow, dress, itp]
  cases s.follow.phase with
  | ramp => exact ⟨rfl, rfl⟩
  | reanchor =>
    simp only
    by_cases blind : s.measured.haveMeas = false ∨ s.rxWatch.ticksSinceRx ≠ 0
    · simp only [blind, if_true]
      exact ⟨trivial, rfl⟩
    · by_cases near : maxAbsDiff s.anchor.qCmd s.measured.qMeas < s.cfg.safeFollowDeadbandRad
      · simp only [blind, near, if_true, if_false]
        exact ⟨trivial, rfl⟩
      · simp only [blind, near, if_false]
        exact ⟨trivial, rfl⟩

theorem dispatchMode_answers (lib : External R) :
    Answers (R := R) fun s => s.dispatchMode lib := by
  intro s d
  have health : (s.dress d).health = s.health := rfl
  simp only [dispatchMode, health]
  cases s.health.mode with
  | streamDown | preroll | rxSilent | hold => exact ⟨rfl, rfl⟩
  | capture =>
    have knots : (s.dress d).splice.capture.knots[(s.dress d).splice.captureIdx]? =
        s.splice.capture.knots[s.splice.captureIdx]? := rfl
    simp only [knots]
    split
    · exact ⟨rfl, rfl⟩
    · exact dispatchTrajectory_answers (s.installTrajectory s.splice.capturedTarget) d
  | trajectory => exact dispatchTrajectory_answers s d
  | servo => exact dispatchServo_answers lib s d
  | brake => exact dispatchBrake_answers lib s d
  | safeFollow => exact dispatchSafeFollow_answers s d

omit [FloorRing R] in
theorem sendCommand_answers (qDesired : Vec6 R) :
    Answers fun s => s.sendCommand qDesired := by
  intro s d
  have same : (s.dress d).slew.apply ((s.dress d).clampPositions qDesired) =
      s.slew.apply (s.clampPositions qDesired) := rfl
  simp only [sendCommand, same]
  generalize s.slew.apply (s.clampPositions qDesired) = r
  have latches : Oblivious fun s : TickCore R =>
      if r.2.sustainedClip = true ∧ s.sustainedSlewLatched = false then
        { s.emit .sustainedSlew .none 0 0 with sustainedSlewLatched := true }
      else if r.2.sustainedClip = false then { s with sustainedSlewLatched := false }
      else s := by
    apply Oblivious.ite (fun s => r.2.sustainedClip = true ∧ s.sustainedSlewLatched = false)
      (fun _ _ => Iff.rfl) (fun _ _ => rfl)
    exact .ite (fun _ => r.2.sustainedClip = false) (fun _ _ => Iff.rfl) (fun _ _ => rfl) .id
  have latched := latches ({ s with slew := r.2 }.setCondition .sustainedSlew r.2.sustainedClip) d
  have command := congrArg (fun s : TickCore R => (⟨r.1.q,
    s.anchor.streaming && decide (s.health.mode ≠ .rxSilent), false, r.1.clippedJoints⟩ : Command R))
    latched
  have moved := congrArg (fun s : TickCore R => { s with anchor.qCmd := r.1.q }) latched
  exact ⟨command, moved⟩

theorem dispatchSend_answers (lib : External R) : Answers fun s : TickCore R =>
    (s.dispatchMode lib).2.sendCommand (s.dispatchMode lib).1 := by
  intro s d
  obtain ⟨desired, left⟩ := dispatchMode_answers lib s d
  simp only at desired left ⊢
  rw [desired]
  exact (sendCommand_answers _).same left

theorem tick_answers (lib : External R) (rx : Option (RxSample R)) (pending : Option (Target R))
    (consumeSuperseded : Bool) : Answers fun s => s.tick lib rx pending consumeSuperseded :=
  (dispatchSend_answers lib).comp
    ((consumePending_oblivious lib pending consumeSuperseded).comp (beforeConsume_oblivious lib rx))

theorem apply_oblivious (lib : External R) (i : Input R) : Oblivious fun s => s.apply lib i := by
  cases i with
  | tick rx pending consumeSuperseded =>
    exact fun s d => (tick_answers lib rx pending consumeSuperseded s d).2
  | requestRecover =>
    exact .ite (fun s => s.health.mode = .safeFollow ∨ s.health.mode = .rxSilent)
      (fun _ _ => Iff.rfl) (fun _ _ => rfl) .id
  | requestStop | requestHold | kick | heartbeat | beginStreaming => exact fun _ _ => rfl

/-- What a tick shows: the command it sends, and the health it leaves. -/
structure Shown (R : Type) where
  command : Command R
  mode : Mode
  fault : FaultReason
  conditions : Conditions
  epoch : Nat

def shown (r : Command R × TickCore R) : Shown R :=
  ⟨r.1, r.2.health.mode, r.2.health.fault, r.2.health.conditions, r.2.health.epoch⟩

omit [Field R] [LinearOrder R] [FloorRing R] in
theorem shown_same {r q : Command R × TickCore R} (same : r.1 = q.1 ∧ r.2.erase = q.2.erase) :
    shown r = shown q := by
  have health := congrArg TickCore.health same.2
  simp only [erase, dress] at health
  simp only [shown, same.1, health]

def reactive (lib : External R) : Reactive (TickCore R) (Input R) (Shown R) where
  step := fun s i => s.apply lib i
  answer := fun s i =>
    match i with
    | .tick rx pending consumeSuperseded => some (shown (s.tick lib rx pending consumeSuperseded))
    | _ => none

theorem reactive_blind (lib : External R) : (reactive lib).Blind erase where
  step := fun s t i same => (apply_oblivious lib i).same same
  answer := by
    intro s t i same
    cases i with
    | tick rx pending consumeSuperseded =>
      exact congrArg some (shown_same ((tick_answers lib rx pending consumeSuperseded).same same))
    | requestStop | requestHold | requestRecover | kick | heartbeat | beginStreaming => rfl

/-- With or without the rejected target, every tick from there on shows the same, and the
runs end in states that differ at most in their report. -/
theorem rejected_target_is_inert (lib : External R) (cfg : RtCoreConfig R)
    (before further : List (Input R)) (rx : Option (RxSample R)) (t : Target R)
    (consumeSuperseded : Bool)
    (rejected : ((((reactive lib).run (.new cfg) before).beforeConsume lib rx).consume lib t
      consumeSuperseded).1.accepted = false) :
    (reactive lib).answers (.new cfg) (before ++ .tick rx (some t) consumeSuperseded :: further) =
        (reactive lib).answers (.new cfg) (before ++ .tick rx none false :: further) ∧
      ((reactive lib).run (.new cfg)
        (before ++ .tick rx (some t) consumeSuperseded :: further)).erase =
        ((reactive lib).run (.new cfg) (before ++ .tick rx none false :: further)).erase := by
  -- Up to the mailbox the two ticks are one, and what they consume leaves the same view.
  let s := (reactive lib).run (.new cfg) before
  have consumed : ((s.beforeConsume lib rx).consumePending lib (some t) consumeSuperseded).erase =
      ((s.beforeConsume lib rx).consumePending lib none false).erase := consume_rejected rejected
  have sent := (dispatchSend_answers lib).same consumed
  apply (reactive_blind lib).replace before
  · exact congrArg some (shown_same sent)
  · exact sent.2

/-- A servo stream meets a trajectory that starts a radian away, and goes on under it. -/
theorem rejected_target_is_inert_mismatch :
    (reactive benchExternal).answers (.new defaultRtCoreConfig)
      ([.beginStreaming 0, benchTick (some (benchServo 1 0))] ++
        .tick (some (benchRx benchGates 0)) (some (benchTrajectory 2 0 1)) false ::
          [benchTick none, benchTick (some (benchServo 3 0))]) =
    (reactive benchExternal).answers (.new defaultRtCoreConfig)
      ([.beginStreaming 0, benchTick (some (benchServo 1 0))] ++
        .tick (some (benchRx benchGates 0)) none false ::
          [benchTick none, benchTick (some (benchServo 3 0))]) :=
  (rejected_target_is_inert benchExternal defaultRtCoreConfig
    [.beginStreaming 0, benchTick (some (benchServo 1 0))]
    [benchTick none, benchTick (some (benchServo 3 0))] (some (benchRx benchGates 0))
    (benchTrajectory 2 0 1) false (by decide +kernel)).1

end TickCore

end AiroFanuc.RtCore
