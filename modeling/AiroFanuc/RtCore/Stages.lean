import AiroFanuc.RtCore.Tick

/-! What every stage of a tick does to the core, read through its control view. -/

namespace AiroFanuc.RtCore.TickCore

open TickEngine Control

variable {R : Type} [Field R] [LinearOrder R] [FloorRing R]

def control (s : TickCore R) : Control :=
  ⟨s.health.mode, s.health.fault, s.active, s.brake.isMotion, s.recovery.pending,
    s.forceGuard.armed⟩

omit [Field R] [LinearOrder R] [FloorRing R] in
/-- A motion's outcome changes the active slot and the event ring, and nothing else. -/
theorem resolveActive_shape (s : TickCore R) (st : MotionStatus) :
    s.resolveActive st = { s with
      active := (s.control.resolve st).active
      events := if s.active.status = .running then
        pushEvent s.events ⟨motionEventFor st, s.health.fault, s.active.motionId,
          s.health.epoch, 0⟩
        else s.events } := by
  unfold resolveActive emit resolve
  by_cases runs : s.active.status = .running
  · simp only [control, runs, if_true]
  · simp only [control, runs, if_false]

omit [Field R] [LinearOrder R] [FloorRing R] in
theorem resolveActive_control (s : TickCore R) (st : MotionStatus) :
    (s.resolveActive st).control = s.control.resolve st := by
  unfold resolveActive resolve
  by_cases runs : s.active.status = .running
  · simp only [control, emit, runs, if_true]
  · simp only [control, runs, if_false]

omit [FloorRing R] in
theorem beginBrake_control (s : TickCore R) (st : MotionStatus) (reason : FaultReason) :
    (s.beginBrake st reason).control = s.control.braking st := by
  simp only [beginBrake, resolveActive_shape, braking, control, resolve_fault,
    resolve_recoveryPending]

omit [Field R] [LinearOrder R] [FloorRing R] in
theorem halt_control (s : TickCore R) :
    ({ s.resolveActive .stopped with brake.isMotion := false } : TickCore R).control =
      s.control.halted := by
  rw [halted, ← resolveActive_control]
  rfl

omit [Field R] [LinearOrder R] [FloorRing R] in
theorem goHold_control (s : TickCore R) : s.goHold.control = s.control.rested := rfl

theorem enterFault_control (s : TickCore R) (cause : FaultReason) (bump : BumpReason)
    (st : MotionStatus) : (s.enterFault cause bump st).control = s.control.faulted cause st := by
  simp only [enterFault, resolveActive_shape, bumpEpoch, emit, faulted, control,
    resolve_brakeIsMotion]
  simp only [resolve]
  split <;> rfl

omit [Field R] [LinearOrder R] [FloorRing R] in
theorem enterRxSilent_control (s : TickCore R) : s.enterRxSilent.control = s.control.parked := by
  simp only [enterRxSilent, resolveActive_shape, bumpEpoch, emit, setCondition, parked, control,
    resolve_brakeIsMotion, resolve_recoveryPending]
  simp only [resolve]
  split <;> rfl

omit [Field R] [LinearOrder R] [FloorRing R] in
/-- Reporting the edges only fills the event ring. -/
theorem gateEvents_shape (edges : List (Condition × FaultReason × BumpReason)) (s : TickCore R) :
    edges.foldl (fun s e => s.emit .gateEdge e.2.1 e.1.mask 0) s =
      { s with events := edges.foldl (fun ring e =>
        pushEvent ring ⟨.gateEdge, e.2.1, 0, s.health.epoch, e.1.mask⟩) s.events } := by
  induction edges generalizing s with
  | nil => rfl
  | cons e rest ih =>
    rw [List.foldl_cons, ih]
    rfl

omit [Field R] [LinearOrder R] [FloorRing R] in
theorem observeGates_control (s : TickCore R) (g : Gates) :
    (s.observeGates g).control = s.control := by
  simp only [observeGates, gateEvents_shape]
  rfl

omit [Field R] [LinearOrder R] [FloorRing R] in
theorem observeGates_anchor (s : TickCore R) (g : Gates) :
    (s.observeGates g).anchor = s.anchor := by
  simp only [observeGates, gateEvents_shape]
  rfl

theorem gateEdges_real {last g : Gates} {e : Condition × FaultReason × BumpReason}
    (member : e ∈ gateEdges last g) : e.2.1 ≠ .none := by
  simp only [gateEdges, List.mem_append] at member
  rcases member with ((((member | member) | member) | member) | member) | member <;>
    · split at member
      · rw [List.mem_singleton.mp member]
        decide
      · cases member

theorem processGates_moves (s : TickCore R) (g : Gates) :
    Moves s.control (s.processGates g).control := by
  simp only [processGates]
  rw [← observeGates_control s g]
  split
  · split
    · exact .refl
    · rename_i bit cause bump rest edges
      rw [enterFault_control]
      refine .single (.fault _ _ _ ?_ (by decide))
      exact gateEdges_real (e := (bit, cause, bump)) (edges ▸ List.mem_cons_self)
  · exact .refl

omit [Field R] [LinearOrder R] [FloorRing R] in
theorem takeRx_control (s : TickCore R) (rx : RxSample R) : (s.takeRx rx).control = s.control :=
  rfl

theorem ingestRx_moves (s : TickCore R) (rx : Option (RxSample R)) :
    Moves s.control (s.ingestRx rx).control := by
  cases rx with
  | none => exact .refl
  | some rx =>
    simp only [ingestRx]
    rw [← takeRx_control s rx]
    exact processGates_moves _ _

omit [FloorRing R] in
theorem answerStop_moves (s : TickCore R) : Moves s.control s.answerStop.control := by
  unfold answerStop
  split
  · cases mode : s.health.mode with
    | hold | capture | trajectory | servo =>
      simp only [mode, beginBrake_control]
      refine .single (.brake _ _ (.inl ?_) (by decide))
      simp [safed, control, mode]
    | brake =>
      simp only [mode, halt_control]
      exact .single (.halt _ mode)
    | streamDown | preroll | safeFollow | rxSilent =>
      simp only [mode]
      exact .refl
  · exact .refl

omit [FloorRing R] in
theorem answerHold_moves (s : TickCore R) : Moves s.control s.answerHold.control := by
  unfold answerHold
  split
  · cases mode : s.health.mode with
    | capture | trajectory | servo =>
      simp only [mode, beginBrake_control]
      refine .single (.brake _ _ (.inl ?_) (by decide))
      simp [safed, control, mode]
    | hold | brake | streamDown | preroll | safeFollow | rxSilent =>
      simp only [mode]
      exact .refl
  · exact .refl

omit [Field R] [LinearOrder R] [FloorRing R] in
theorem answerKick_control (s : TickCore R) : s.answerKick.control = s.control := by
  unfold answerKick
  split <;> rfl

omit [Field R] [LinearOrder R] [FloorRing R] in
theorem answerHeartbeat_control (s : TickCore R) : s.answerHeartbeat.control = s.control := by
  unfold answerHeartbeat
  split <;> rfl

theorem handleRxSilence_moves (s : TickCore R) : Moves s.control s.handleRxSilence.control := by
  simp only [handleRxSilence]
  split
  · exact .refl
  · split
    · exact .refl
    · split
      · rw [enterRxSilent_control]
        exact .single (.park _)
      · split
        · rw [enterFault_control]
          exact .single (.fault s.control _ _ (by decide) (by decide))
        · exact .refl

omit [Field R] [LinearOrder R] [FloorRing R] in
theorem emit_control (s : TickCore R) (type : EventType) (reason : FaultReason) (value : Int)
    (motionId : Nat) : (s.emit type reason value motionId).control = s.control := rfl

theorem handleDeadman_moves (s : TickCore R) : Moves s.control s.handleDeadman.control := by
  simp only [handleDeadman]
  split
  · exact .refl
  · split
    · rw [emit_control, enterFault_control]
      exact .single (.fault s.control _ _ (by decide) (by decide))
    · exact .refl

theorem handleSupervisorLiveness_moves (s : TickCore R) :
    Moves s.control s.handleSupervisorLiveness.control := by
  simp only [handleSupervisorLiveness]
  split
  · exact .refl
  · split
    · exact .refl
    · split
      · rw [emit_control, enterFault_control]
        exact .single (.fault s.control _ _ (by decide) (by decide))
      · exact .refl

omit [FloorRing R] in
theorem handleForceGuard_moves (lib : External R) (s : TickCore R) (rx : RxSample R) :
    Moves s.control (s.handleForceGuard lib rx).control := by
  simp only [handleForceGuard]
  split
  · exact .refl
  · rename_i armed
    split
    · rw [emit_control, beginBrake_control]
      refine .single (.brake _ _ (.inr ?_) (by decide))
      simpa [control] using (not_or.mp armed).1
    · exact .refl

omit [FloorRing R] in
/-- A stop request leaves no motion that was being played running. -/
theorem answerStop_idle {s : TickCore R} (requested : s.ops.stopRequested = true)
    (owned : s.control.running → s.control.plays) : ¬ s.answerStop.control.running := by
  unfold answerStop
  rw [if_pos requested]
  cases mode : s.health.mode with
  | hold | capture | trajectory | servo =>
    simp only [mode, beginBrake_control]
    exact resolve_not_running (by decide)
  | brake =>
    simp only [mode, halt_control]
    exact resolve_not_running (by decide)
  | streamDown | preroll | safeFollow | rxSilent =>
    simp only [mode]
    intro runs
    have playing := owned runs
    simp [plays, control, mode] at playing

/-- Everything between the stop request and the dwell. -/
theorem afterStop_moves (lib : External R) (s : TickCore R) (rx : Option (RxSample R)) :
    Moves (s.countTick.ingestRx rx).answerStop.control (s.beforeDwell lib rx).control := by
  simp only [beforeDwell]
  generalize (s.countTick.ingestRx rx).answerStop = a
  have answered : Moves a.control a.answerHold.answerKick.answerHeartbeat.control := by
    rw [answerHeartbeat_control, answerKick_control]
    exact answerHold_moves a
  revert answered
  generalize a.answerHold.answerKick.answerHeartbeat = b
  intro answered
  have watched : Moves b.control b.handleRxSilence.handleDeadman.handleSupervisorLiveness.control :=
    ((handleRxSilence_moves b).trans (handleDeadman_moves _)).trans
      (handleSupervisorLiveness_moves _)
  have upto := Relation.ReflTransGen.trans answered watched
  cases rx with
  | none => exact upto
  | some rx => exact upto.trans (handleForceGuard_moves lib _ rx)

/-- Everything between the packet and the dwell. -/
theorem watches_move (lib : External R) (s : TickCore R) (rx : Option (RxSample R)) :
    Moves (s.countTick.ingestRx rx).control (s.beforeDwell lib rx).control :=
  (answerStop_moves _).trans (afterStop_moves lib s rx)

theorem beforeDwell_moves (lib : External R) (s : TickCore R) (rx : Option (RxSample R)) :
    Moves s.control (s.beforeDwell lib rx).control := by
  have ingested : Moves s.control (s.countTick.ingestRx rx).control :=
    ingestRx_moves s.countTick rx
  exact ingested.trans (watches_move lib s rx)

omit [Field R] [LinearOrder R] [FloorRing R] in
theorem completeRecovery_control (s : TickCore R) :
    s.completeRecovery.control = s.control.recovered := by
  simp only [completeRecovery]
  split <;> rfl

theorem recoveryDwell_control (s : TickCore R) :
    s.recoveryDwell.control = if s.dwellCompletes then s.control.recovered else s.control := by
  unfold recoveryDwell dwellCompletes
  by_cases pending : s.recovery.pending = true
  · by_cases clear : s.dwellClear = true
    · by_cases long : s.msToTicks s.cfg.antiflapDwellMs ≤ s.recovery.allClearTicks + 1
      · simp only [pending, clear, long, if_true, completeRecovery_control, Bool.and_self,
          decide_true]
        rfl
      · simp only [pending, clear, long, if_true, if_false, decide_false, Bool.and_false,
          Bool.false_eq_true]
        rfl
    · simp only [pending, clear, if_true, Bool.and_false, Bool.false_and, Bool.false_eq_true,
        if_false, control]
  · simp only [pending, Bool.false_and, Bool.false_eq_true, if_false]

/-! ### Consuming a target -/

theorem refuses_of_refusesMotion {lib : External R} {s : TickCore R} {t : Target R}
    {supersededByStop : Bool} (moving : t.kind ≠ .hold) (standing : s.refusesMotion = true) :
    s.refuses lib t supersededByStop = true := by
  simp [refuses, moving, standing]

omit [FloorRing R] in
theorem consumeHold_control (s : TickCore R) (t : Target R) (guard : Bool) :
    (s.consumeHold t).control = s.control.accept .hold t.motionId guard := by
  have resolved := resolveActive_control s .preempted
  simp only [consumeHold, accept]
  rw [emit_control]
  generalize s.resolveActive .preempted = a at resolved
  have mode : a.health.mode = s.control.mode := by
    rw [← resolve_mode s.control .preempted, ← resolved]
    rfl
  have taken (b : TickCore R) : ({ b with active := ⟨t.motionId, .done⟩ } : TickCore R).control =
      { b.control with active := ⟨t.motionId, .done⟩ } := rfl
  rw [taken, mode]
  split
  · rw [beginBrake_control, resolved]
    simp only [braking, resolve_fault, resolve_recoveryPending]
  · rw [resolved]
    simp only [resolve]
    split <;> rfl

omit [FloorRing R] in
theorem consumeBrake_control (s : TickCore R) (t : Target R) (guard : Bool) :
    (s.consumeBrake t).control = s.control.accept .brake t.motionId guard := by
  simp only [consumeBrake, resolveActive_shape]
  rfl

omit [FloorRing R] in
theorem consumeServo_control (s : TickCore R) (t : Target R) (guard : Bool) :
    (s.consumeServo t).control = s.control.accept .servo t.motionId guard := by
  simp only [consumeServo, resolveActive_shape, emit_control]
  by_cases mode : s.health.mode = .servo
  · simp only [mode, ne_eq, not_true_eq_false, if_false, accept, control]
  · simp only [mode, ne_eq, not_false_eq_true, if_true, accept, control]

omit [FloorRing R] in
theorem acceptTrajectory_control (s : TickCore R) (t : Target R) :
    (s.acceptTrajectory t).control =
      s.control.accept .trajectory t.motionId (decide (0 < t.forceStopN)) := by
  simp only [acceptTrajectory, resolveActive_shape]
  rfl

/-- What a trajectory still has to pass once it is current and not superseded. -/
theorem consumeTrajectory_refused {lib : External R} {s : TickCore R} {t : Target R}
    (refusing : (s.refusesMotion || (t.malformed ||
      captureWouldReject lib s.anchor.qCmd s.anchor.qdCmd t.q0 t.qd0 s.cfg.tick ||
      !(generateCapturePath lib s.anchor.qCmd s.anchor.qdCmd t.q0 t.qd0 s.cfg.tick).ok)) = true) :
    (s.consumeTrajectory lib t).1.accepted = false ∧
      ((∃ reason, (s.consumeTrajectory lib t).2 = s.rejectTarget t reason) ∨
        (s.consumeTrajectory lib t).2 = s.rejectStart t ∨
        (s.consumeTrajectory lib t).2 = (s.planCapture lib t).rejectTarget t .internal) := by
  simp only [consumeTrajectory]
  by_cases malformed : t.malformed = true
  · rw [if_pos malformed]
    exact ⟨rfl, .inl ⟨_, rfl⟩⟩
  rw [if_neg malformed]
  by_cases faulted : s.refusesMotion = true
  · rw [if_pos faulted]
    exact ⟨rfl, .inl ⟨_, rfl⟩⟩
  rw [if_neg faulted]
  by_cases gap : captureWouldReject lib s.anchor.qCmd s.anchor.qdCmd t.q0 t.qd0 s.cfg.tick = true
  · rw [if_pos gap]
    exact ⟨rfl, .inr (.inl rfl)⟩
  rw [if_neg gap]
  have unplanned : ¬ (s.planCapture lib t).splice.capturePending.ok = true := by
    simpa [malformed, faulted, gap, planCapture] using refusing
  rw [if_neg unplanned]
  exact ⟨rfl, .inr (.inr rfl)⟩

/-- A refused target never starts; all it does is take the slot and report itself. -/
theorem consume_refused {lib : External R} {s : TickCore R} {t : Target R}
    {supersededByStop : Bool} (real : t.kind ≠ .none)
    (refusing : s.refuses lib t supersededByStop = true) :
    (s.consume lib t supersededByStop).1.accepted = false ∧
      ((∃ reason, (s.consume lib t supersededByStop).2 = s.rejectTarget t reason) ∨
        (s.consume lib t supersededByStop).2 = s.rejectStart t ∨
        (s.consume lib t supersededByStop).2 = (s.planCapture lib t).rejectTarget t .internal) := by
  simp only [consume]
  rw [if_neg real]
  by_cases stale : t.epoch ≠ s.health.epoch
  · rw [if_pos stale]
    exact ⟨rfl, .inl ⟨_, rfl⟩⟩
  rw [if_neg stale]
  by_cases superseded : supersededByStop = true ∧ (t.kind = .trajectory ∨ t.kind = .servo)
  · rw [if_pos superseded]
    exact ⟨rfl, .inl ⟨_, rfl⟩⟩
  rw [if_neg superseded]
  have unstopped : (supersededByStop && decide (t.kind = .trajectory ∨ t.kind = .servo)) = false := by
    simpa using superseded
  simp only [refuses, stale, unstopped, decide_false, Bool.false_or] at refusing
  cases kind : t.kind with
  | none => exact absurd kind real
  | hold => simp [kind] at refusing
  | brake | servo =>
    have faulted : s.refusesMotion = true := by simpa [kind] using refusing
    simp only
    rw [if_pos faulted]
    exact ⟨rfl, .inl ⟨_, rfl⟩⟩
  | trajectory =>
    refine consumeTrajectory_refused ?_
    simpa [kind] using refusing

/-- An admitted target is taken up by the branch of its kind. -/
theorem consume_admitted {lib : External R} {s : TickCore R} {t : Target R}
    {supersededByStop : Bool} (real : t.kind ≠ .none)
    (admitted : s.refuses lib t supersededByStop = false) :
    (s.consume lib t supersededByStop).1.accepted = true ∧
      (s.consume lib t supersededByStop).2 =
        match t.kind with
        | .none => s
        | .hold => s.consumeHold t
        | .brake => s.consumeBrake t
        | .servo => s.consumeServo t
        | .trajectory => (s.planCapture lib t).acceptTrajectory t := by
  simp only [refuses, Bool.or_eq_false_iff, decide_eq_false_iff_not, not_not] at admitted
  obtain ⟨⟨⟨current, unstopped⟩, moving⟩, planned⟩ := admitted
  have unsuperseded : ¬ (supersededByStop = true ∧ (t.kind = .trajectory ∨ t.kind = .servo)) := by
    simpa using unstopped
  simp only [consume]
  rw [if_neg real, if_neg (not_not.mpr current), if_neg unsuperseded]
  cases kind : t.kind with
  | none => exact absurd kind real
  | hold => exact ⟨rfl, rfl⟩
  | brake | servo =>
    have clear : s.refusesMotion = false := by simpa [kind] using moving
    simp only
    rw [if_neg (Bool.eq_false_iff.mp clear)]
    exact ⟨rfl, rfl⟩
  | trajectory =>
    have clear : s.refusesMotion = false := by simpa [kind] using moving
    simp only [kind, decide_true, Bool.true_and, Bool.or_eq_false_iff, Bool.not_eq_false'] at planned
    have ok : (s.planCapture lib t).splice.capturePending.ok = true := planned.2
    simp only [consumeTrajectory]
    rw [if_neg (Bool.eq_false_iff.mp planned.1.1), if_neg (Bool.eq_false_iff.mp clear),
      if_neg (Bool.eq_false_iff.mp planned.1.2), if_pos ok]
    exact ⟨rfl, rfl⟩

theorem consume_ignored {lib : External R} {s : TickCore R} {t : Target R}
    {supersededByStop : Bool} (absent : t.kind = .none) :
    (s.consume lib t supersededByStop).1.accepted = false ∧
      (s.consume lib t supersededByStop).2 = s := by
  simp only [consume]
  rw [if_pos absent]
  exact ⟨rfl, rfl⟩

theorem consume_accepted (lib : External R) (s : TickCore R) (t : Target R)
    (supersededByStop : Bool) :
    (s.consume lib t supersededByStop).1.accepted =
      (decide (t.kind ≠ .none) && !s.refuses lib t supersededByStop) := by
  by_cases absent : t.kind = .none
  · simp [consume_ignored absent, absent]
  by_cases refusing : s.refuses lib t supersededByStop = true
  · simp [consume_refused absent refusing, refusing]
  · have admitted := Bool.eq_false_of_not_eq_true refusing
    simp [consume_admitted absent admitted, admitted, absent]

/-- A target is ignored, refused with the slot overwritten, or accepted. -/
theorem consume_control (lib : External R) (s : TickCore R) (t : Target R)
    (supersededByStop : Bool) :
    (s.consume lib t supersededByStop).2.control =
      if t.kind = .none then s.control
      else if s.refuses lib t supersededByStop then s.control.refuse t.motionId
      else s.control.accept t.kind t.motionId (decide (0 < t.forceStopN)) := by
  by_cases absent : t.kind = .none
  · rw [if_pos absent, (consume_ignored absent).2]
  rw [if_neg absent]
  by_cases refusing : s.refuses lib t supersededByStop = true
  · rw [if_pos refusing]
    rcases (consume_refused absent refusing).2 with ⟨reason, refused⟩ | refused | refused <;>
      · rw [refused]
        rfl
  · rw [if_neg refusing,
      (consume_admitted absent (Bool.eq_false_of_not_eq_true refusing)).2]
    cases kind : t.kind with
    | none => exact absurd kind absent
    | hold => exact consumeHold_control s t _
    | brake => exact consumeBrake_control s t _
    | servo => exact consumeServo_control s t _
    | trajectory => exact acceptTrajectory_control (s.planCapture lib t) t

/-! ### Dispatching the mode -/

omit [Field R] [LinearOrder R] [FloorRing R] in
theorem finish_control (s : TickCore R) (st : MotionStatus) :
    (s.resolveActive st).goHold.control = (s.control.resolve st).rested := by
  rw [goHold_control, resolveActive_control]

theorem dispatchTrajectory_moves (s : TickCore R) (mode : s.health.mode = .trajectory) :
    Moves s.control s.dispatchTrajectory.2.control := by
  have playing : s.control.plays := .inr (.inl mode)
  unfold dispatchTrajectory
  cases s.playback.trajPhase with
  | playing =>
    simp only
    split
    · split
      · exact .refl
      · exact .refl
    · exact .refl
  | endBlend =>
    simp only
    split
    · exact .refl
    · exact .refl
  | settling =>
    simp only
    split
    · rw [finish_control]
      exact .single (.finish s.control .done playing (by decide))
    · rw [finish_control]
      exact .single (.finish s.control .settleTimeout playing (by decide))
    · exact .refl

theorem reissueServo_control (s : TickCore R) : s.reissueServo.control = s.control := by
  simp only [reissueServo]
  split <;> rfl

theorem dispatchServo_moves (lib : External R) (s : TickCore R) :
    Moves s.control (s.dispatchServo lib).2.control := by
  simp only [dispatchServo]
  rw [← reissueServo_control s]
  split
  · simp only [enterFault_control]
    exact .single (.fault s.reissueServo.control _ _ (by decide) (by decide))
  · exact .refl

theorem dispatchBrake_moves (lib : External R) (s : TickCore R) (mode : s.health.mode = .brake) :
    Moves s.control (s.dispatchBrake lib).2.control := by
  simp only [dispatchBrake]
  split
  · simp only [enterFault_control]
    exact .single (.fault s.control _ _ (by decide) (by decide))
  · split
    · by_cases own : s.brake.isMotion = true
      · rw [if_pos own, finish_control]
        exact .single (.finish s.control .done (.inr (.inr (.inr ⟨mode, own⟩))) (by decide))
      · rw [if_neg own, goHold_control]
        exact .single (.rest s.control mode (Bool.eq_false_of_not_eq_true own))
    · exact .refl

theorem dispatchSafeFollow_control (s : TickCore R) :
    s.dispatchSafeFollow.2.control = s.control := by
  unfold dispatchSafeFollow
  cases s.follow.phase with
  | ramp => rfl
  | reanchor =>
    simp only
    split
    · rfl
    · split <;> rfl

theorem dispatchMode_moves (lib : External R) (s : TickCore R) :
    Moves s.control (s.dispatchMode lib).2.control := by
  unfold dispatchMode
  cases mode : s.health.mode with
  | streamDown | preroll | rxSilent | hold => exact .refl
  | capture =>
    simp only
    split
    · exact .refl
    · have installed : Moves s.control (s.installTrajectory s.splice.capturedTarget).control :=
        .single (.play s.control mode)
      exact installed.trans (dispatchTrajectory_moves _ rfl)
  | trajectory => exact dispatchTrajectory_moves s mode
  | servo => exact dispatchServo_moves lib s
  | brake => exact dispatchBrake_moves lib s mode
  | safeFollow =>
    simp only [dispatchSafeFollow_control]
    exact .refl

omit [FloorRing R] in
theorem sendCommand_control (s : TickCore R) (qDesired : Vec6 R) :
    (s.sendCommand qDesired).2.control = s.control := by
  simp only [sendCommand]
  split
  · rfl
  · split <;> rfl

end AiroFanuc.RtCore.TickCore
