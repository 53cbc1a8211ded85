import AiroFanuc.RtCore.Reel
import AiroFanuc.RtCore.Accounts

/-! Which stages of a tick report a guard's trip, and what disarms a guard on the way there. -/

namespace AiroFanuc.RtCore

open TickEngine

def EventType.trips : EventType → Bool
  | .forceGuardTrip | .deadmanTrip => true
  | _ => false

/-- No trip was added to the ring. -/
def Untripped (ring more : List Event) : Prop :=
  ∀ e ∈ more, e ∈ ring ∨ e.type.trips = false

namespace Untripped

variable {a b c : List Event}

theorem refl (a : List Event) : Untripped a a := fun _ member => .inl member

theorem trans (first : Untripped a b) (second : Untripped b c) : Untripped a c := by
  intro e member
  rcases second e member with early | quiet
  · exact first e early
  · exact .inr quiet

theorem push (ring : List Event) {e : Event} (quiet : e.type.trips = false) :
    Untripped ring (pushEvent ring e) := by
  intro posted member
  unfold pushEvent at member
  split at member
  · rcases List.mem_append.mp member with early | late
    · exact .inl early
    · rw [List.mem_singleton.mp late]
      exact .inr quiet
  · exact .inl member

end Untripped

theorem motionEventFor_trips (st : MotionStatus) : (motionEventFor st).trips = false := by
  cases st <;> rfl

/-- What a guard belongs to: the trajectory, its thresholds, the slot and the verdicts so far. -/
structure Scope (R : Type) where
  captured : Target R
  forceGuard : ForceGuard R
  deadmanArmed : Bool
  deadmanS : R
  active : ActiveMotion
  terminals : Nat → Nat

namespace TickCore

variable {R : Type} [Field R] [LinearOrder R] [FloorRing R]

def scope (s : TickCore R) : Scope R :=
  ⟨s.splice.capturedTarget, s.forceGuard, s.deadman.armed, s.deadman.deadmanS, s.active,
    terminals s.events⟩

/-- A stage that trips no guard: a motion that still rolls behind it rolled in front of it, under
the same guards and without a verdict. -/
structure Spares (s s' : TickCore R) : Prop where
  posts : Untripped s.events s'.events
  keeps : s'.reel.rolls → s.reel.rolls ∧ s'.scope = s.scope

namespace Spares

variable {s t u : TickCore R}

omit [Field R] [LinearOrder R] [FloorRing R] in
theorem refl (s : TickCore R) : Spares s s := ⟨.refl _, fun rolls => ⟨rolls, rfl⟩⟩

omit [Field R] [LinearOrder R] [FloorRing R] in
theorem trans (first : Spares s t) (second : Spares t u) : Spares s u := by
  constructor
  · exact first.posts.trans second.posts
  · intro rolls
    have late := second.keeps rolls
    have early := first.keeps late.1
    exact ⟨early.1, late.2.trans early.2⟩

omit [Field R] [LinearOrder R] [FloorRing R] in
theorem ended (posts : Untripped s.events t.events)
    (mode : t.health.mode ≠ .capture ∧ t.health.mode ≠ .trajectory) : Spares s t := by
  refine ⟨posts, ?_⟩
  rintro (rolls | rolls)
  · exact absurd rolls mode.1
  · exact absurd rolls mode.2

end Spares

/-! ### The stages before the mailbox -/

omit [Field R] [LinearOrder R] [FloorRing R] in
theorem emit_spares (s : TickCore R) {type : EventType} (quiet : type.trips = false)
    (silent : isResolutionEvent type = false) (reason : FaultReason) (value : Int)
    (motionId : Nat) : Spares s (s.emit type reason value motionId) := by
  constructor
  · exact Untripped.push _ quiet
  · intro rolls
    have same : terminals (s.emit type reason value motionId).events = terminals s.events := by
      funext id
      simp only [emit, pushEvent]
      split
      · rw [terminals_append, terminals_silent silent, Nat.add_zero]
      · rfl
    exact ⟨rolls, by simp only [scope, same]; rfl⟩

omit [Field R] [LinearOrder R] [FloorRing R] in
theorem resolveActive_posts (s : TickCore R) (st : MotionStatus) :
    Untripped s.events (s.resolveActive st).events := by
  unfold resolveActive
  split
  · exact Untripped.push _ (motionEventFor_trips st)
  · exact .refl _

omit [FloorRing R] in
theorem beginBrake_spares (s : TickCore R) (st : MotionStatus) (reason : FaultReason) :
    Spares s (s.beginBrake st reason) := by
  apply Spares.ended
  · exact resolveActive_posts s st
  · exact ⟨nofun, nofun⟩

theorem enterFault_spares (s : TickCore R) (cause : FaultReason) (bump : BumpReason)
    (st : MotionStatus) : Spares s (s.enterFault cause bump st) := by
  apply Spares.ended
  · have bumped : Untripped s.events (s.bumpEpoch bump).events := Untripped.push _ rfl
    have resolved := bumped.trans
      (resolveActive_posts { s.bumpEpoch bump with health.fault := cause } st)
    exact (resolved.trans (Untripped.push _ rfl)).trans (Untripped.push _ rfl)
  · exact ⟨nofun, nofun⟩

omit [Field R] [LinearOrder R] [FloorRing R] in
theorem enterRxSilent_spares (s : TickCore R) : Spares s s.enterRxSilent := by
  apply Spares.ended
  · have bumped : Untripped s.events (s.bumpEpoch .rxSilentEntry).events := Untripped.push _ rfl
    have resolved := bumped.trans (resolveActive_posts (TickCore.setCondition
      { s.bumpEpoch .rxSilentEntry with health.fault := .rxSilent } .rxSilent true) .faulted)
    exact resolved.trans (Untripped.push _ rfl)
  · exact ⟨nofun, nofun⟩

omit [Field R] [LinearOrder R] [FloorRing R] in
theorem gateEvents_spares (edges : List (Condition × FaultReason × BumpReason)) (s : TickCore R) :
    Spares s (edges.foldl (fun s e => s.emit .gateEdge e.2.1 e.1.mask 0) s) := by
  induction edges generalizing s with
  | nil => exact .refl s
  | cons e rest ih => exact (emit_spares s rfl rfl _ _ _).trans (ih _)

omit [Field R] [LinearOrder R] [FloorRing R] in
theorem setCondition_spares (s : TickCore R) (bit : Condition) (on : Bool) :
    Spares s (s.setCondition bit on) := ⟨.refl _, fun rolls => ⟨rolls, rfl⟩⟩

theorem processGates_spares (s : TickCore R) (g : Gates) : Spares s (s.processGates g) := by
  have stopped := ((setCondition_spares s .eStop g.eStopped).trans
    (setCondition_spares _ .inError g.inError)).trans (setCondition_spares _ .teach g.tpEnabled)
  have leveled : Spares s (s.setGateConditions g) :=
    ((stopped.trans (setCondition_spares _ .contactStop g.contactStopActive)).trans
      (setCondition_spares _ .safetyClamp g.safetyClamp)).trans
      (setCondition_spares _ .motionNotPossible (!g.motionPossible && s.anchor.streaming))
  have reported := leveled.trans (gateEvents_spares (gateEdges s.lastGates g) _)
  have observed : Spares s (s.observeGates g) := ⟨reported.posts, reported.keeps⟩
  simp only [processGates]
  split
  · split
    · exact observed
    · exact observed.trans (enterFault_spares _ _ _ _)
  · exact observed

theorem ingestRx_spares (s : TickCore R) (rx : Option (RxSample R)) : Spares s (s.ingestRx rx) := by
  cases rx with
  | none => exact ⟨.refl _, fun rolls => ⟨rolls, rfl⟩⟩
  | some rx =>
    have taken : Spares s (s.takeRx rx) := ⟨.refl _, fun rolls => ⟨rolls, rfl⟩⟩
    exact taken.trans (processGates_spares _ rx.gates)

omit [FloorRing R] in
theorem answerStop_spares (s : TickCore R) : Spares s s.answerStop := by
  have lowered : Spares s { s with ops.stopRequested := false } :=
    ⟨.refl _, fun rolls => ⟨rolls, rfl⟩⟩
  unfold answerStop
  split
  · cases mode : s.health.mode with
    | hold | capture | trajectory | servo =>
      simp only [mode]
      exact lowered.trans (beginBrake_spares _ .stopped .none)
    | brake =>
      simp only [mode]
      apply Spares.ended
      · exact resolveActive_posts { s with ops.stopRequested := false } .stopped
      · rw [resolveActive_shape]
        simp only [mode]
        exact ⟨nofun, nofun⟩
    | streamDown | preroll | safeFollow | rxSilent =>
      simp only [mode]
      exact lowered
  · exact .refl s

omit [FloorRing R] in
theorem answerHold_spares (s : TickCore R) : Spares s s.answerHold := by
  have lowered : Spares s { s with ops.holdRequested := false } :=
    ⟨.refl _, fun rolls => ⟨rolls, rfl⟩⟩
  unfold answerHold
  split
  · cases mode : s.health.mode with
    | capture | trajectory | servo =>
      simp only [mode]
      exact lowered.trans (beginBrake_spares _ .preempted .none)
    | hold | brake | streamDown | preroll | safeFollow | rxSilent =>
      simp only [mode]
      exact lowered
  · exact .refl s

omit [Field R] [LinearOrder R] [FloorRing R] in
theorem answerKick_spares (s : TickCore R) : Spares s s.answerKick := by
  unfold answerKick
  split
  · exact ⟨.refl _, fun rolls => ⟨rolls, rfl⟩⟩
  · exact .refl s

omit [Field R] [LinearOrder R] [FloorRing R] in
theorem answerHeartbeat_spares (s : TickCore R) : Spares s s.answerHeartbeat := by
  unfold answerHeartbeat
  split
  · exact ⟨.refl _, fun rolls => ⟨rolls, rfl⟩⟩
  · exact .refl s

theorem handleRxSilence_spares (s : TickCore R) : Spares s s.handleRxSilence := by
  simp only [handleRxSilence]
  split
  · exact .refl s
  · split
    · exact .refl s
    · split
      · exact enterRxSilent_spares s
      · split
        · have marked : Spares s (TickCore.setCondition
              { s with rxWatch.degradedEntered := true } .rxDegraded true) :=
            ⟨.refl _, fun rolls => ⟨rolls, rfl⟩⟩
          have degraded : Spares s s.degradeRx :=
            marked.trans (emit_spares _ rfl rfl .rxDegraded 0 0)
          exact degraded.trans (enterFault_spares s.degradeRx _ _ _)
        · exact .refl s

theorem handleSupervisorLiveness_spares (s : TickCore R) : Spares s s.handleSupervisorLiveness := by
  simp only [handleSupervisorLiveness]
  split
  · exact .refl s
  · split
    · exact .refl s
    · split
      · have latched : Spares s { s with
            liveness.ticksSinceHeartbeat := s.liveness.ticksSinceHeartbeat + 1
            liveness.lostLatched := true } := ⟨.refl _, fun rolls => ⟨rolls, rfl⟩⟩
        exact (latched.trans (enterFault_spares _ _ _ _)).trans (emit_spares _ rfl rfl _ _ _)
      · exact ⟨.refl _, fun rolls => ⟨rolls, rfl⟩⟩

theorem recoveryDwell_spares (s : TickCore R) : Spares s s.recoveryDwell := by
  unfold recoveryDwell
  split
  · split
    · split
      · apply Spares.ended
        · have bumped : Untripped s.events (s.countDwell.bumpEpoch .recoveryComplete).events :=
            Untripped.push _ rfl
          simp only [completeRecovery]
          split
          · exact bumped.trans (Untripped.push _ rfl)
          · exact bumped.trans (Untripped.push _ rfl)
        · exact ⟨by rintro ⟨⟩, by rintro ⟨⟩⟩
      · exact ⟨.refl _, fun rolls => ⟨rolls, rfl⟩⟩
    · exact ⟨.refl _, fun rolls => ⟨rolls, rfl⟩⟩
  · exact .refl s

/-! ### The dispatch -/

omit [Field R] [LinearOrder R] [FloorRing R] in
theorem finish_spares (s : TickCore R) (st : MotionStatus) : Spares s (s.resolveActive st).goHold := by
  apply Spares.ended
  · exact resolveActive_posts s st
  · exact ⟨nofun, nofun⟩

theorem dispatchTrajectory_spares (s : TickCore R) : Spares s s.dispatchTrajectory.2 := by
  have finished (settle : SettleDetector R) (st : MotionStatus) : Spares s
      (TickCore.resolveActive { s with
        anchor.qdCmd := 0, anchor.qddCmd := 0, playback.settle := settle } st).goHold := by
    have rested : Spares s { s with
        anchor.qdCmd := 0, anchor.qddCmd := 0, playback.settle := settle } :=
      ⟨.refl _, fun rolls => ⟨rolls, rfl⟩⟩
    exact rested.trans (finish_spares _ st)
  unfold dispatchTrajectory
  cases s.playback.trajPhase with
  | playing =>
    simp only
    split
    · split
      · exact ⟨.refl _, fun rolls => ⟨rolls, rfl⟩⟩
      · exact ⟨.refl _, fun rolls => ⟨rolls, rfl⟩⟩
    · exact ⟨.refl _, fun rolls => ⟨rolls, rfl⟩⟩
  | endBlend =>
    simp only
    split
    · exact ⟨.refl _, fun rolls => ⟨rolls, rfl⟩⟩
    · exact ⟨.refl _, fun rolls => ⟨rolls, rfl⟩⟩
  | settling =>
    simp only
    split
    · exact finished _ .done
    · exact finished _ .settleTimeout
    · exact ⟨.refl _, fun rolls => ⟨rolls, rfl⟩⟩

theorem dispatchServo_spares (lib : External R) (s : TickCore R) :
    Spares s (s.dispatchServo lib).2 := by
  have reissued : Spares s s.reissueServo := by
    simp only [reissueServo]
    split
    · exact ⟨.refl _, fun rolls => ⟨rolls, rfl⟩⟩
    · exact ⟨.refl _, fun rolls => ⟨rolls, rfl⟩⟩
  simp only [dispatchServo]
  split
  · have stepped : Spares s.reissueServo { s.reissueServo with
        servo.servo := (s.reissueServo.servo.servo.step lib).2 } :=
      ⟨.refl _, fun rolls => ⟨rolls, rfl⟩⟩
    exact (reissued.trans stepped).trans (enterFault_spares _ _ _ _)
  · exact reissued.trans ⟨.refl _, fun rolls => ⟨rolls, rfl⟩⟩

theorem dispatchBrake_spares (lib : External R) (s : TickCore R) :
    Spares s (s.dispatchBrake lib).2 := by
  simp only [dispatchBrake]
  split
  · have stepped : Spares s { s with brake.brake := (s.brake.brake.step lib).2 } :=
      ⟨.refl _, fun rolls => ⟨rolls, rfl⟩⟩
    exact stepped.trans (enterFault_spares _ _ _ _)
  · have stepped : Spares s { s with
        brake.brake := (s.brake.brake.step lib).2
        anchor.qdCmd := (s.brake.brake.step lib).1.qd
        anchor.qddCmd := (s.brake.brake.step lib).1.qdd } :=
      ⟨.refl _, fun rolls => ⟨rolls, rfl⟩⟩
    split
    · split
      · exact stepped.trans (finish_spares _ .done)
      · exact Spares.ended (.refl _) ⟨by rintro ⟨⟩, by rintro ⟨⟩⟩
    · exact stepped

theorem dispatchSafeFollow_spares (s : TickCore R) : Spares s s.dispatchSafeFollow.2 := by
  unfold dispatchSafeFollow
  cases s.follow.phase with
  | ramp => exact ⟨.refl _, fun rolls => ⟨rolls, rfl⟩⟩
  | reanchor =>
    simp only
    split
    · exact ⟨.refl _, fun rolls => ⟨rolls, rfl⟩⟩
    · split
      · exact ⟨.refl _, fun rolls => ⟨rolls, rfl⟩⟩
      · exact ⟨.refl _, fun rolls => ⟨rolls, rfl⟩⟩

theorem dispatchMode_spares (lib : External R) (s : TickCore R) : Spares s (s.dispatchMode lib).2 := by
  unfold dispatchMode
  cases mode : s.health.mode with
  | streamDown | preroll | rxSilent | hold => exact ⟨.refl _, fun rolls => ⟨rolls, rfl⟩⟩
  | capture =>
    simp only
    split
    · exact ⟨.refl _, fun rolls => ⟨rolls, rfl⟩⟩
    · have installed : Spares s (s.installTrajectory s.splice.capturedTarget) :=
        ⟨.refl _, fun _ => ⟨.inl mode, rfl⟩⟩
      exact installed.trans (dispatchTrajectory_spares _)
  | trajectory => exact dispatchTrajectory_spares s
  | servo => exact dispatchServo_spares lib s
  | brake => exact dispatchBrake_spares lib s
  | safeFollow => exact dispatchSafeFollow_spares s

omit [FloorRing R] in
theorem sendCommand_spares (s : TickCore R) (qDesired : Vec6 R) :
    Spares s (s.sendCommand qDesired).2 := by
  have slewed (slew : SlewLimiter R) (on : Bool) : Spares s
      (TickCore.setCondition { s with slew := slew } .sustainedSlew on) :=
    ⟨.refl _, fun rolls => ⟨rolls, rfl⟩⟩
  simp only [sendCommand]
  split
  · let clipped := slewed (s.slew.apply (s.clampPositions qDesired)).2
      (s.slew.apply (s.clampPositions qDesired)).2.sustainedClip
    have posted (u : TickCore R) : Spares u (u.emit .sustainedSlew .none 0 0) :=
      emit_spares u rfl rfl .none 0 0
    have reported := clipped.trans (posted _)
    exact ⟨reported.posts, reported.keeps⟩
  · split
    · exact ⟨.refl _, fun rolls => ⟨rolls, rfl⟩⟩
    · exact ⟨.refl _, fun rolls => ⟨rolls, rfl⟩⟩

/-! ### The mailbox -/

omit [Field R] [LinearOrder R] [FloorRing R] in
theorem rejectTarget_posts (s : TickCore R) (t : Target R) (reason : FaultReason) :
    Untripped s.events (s.rejectTarget t reason).events := Untripped.push _ rfl

theorem consume_posts (lib : External R) (s : TickCore R) (t : Target R)
    (supersededByStop : Bool) :
    Untripped s.events (s.consume lib t supersededByStop).2.events := by
  have resolved (u : TickCore R) := resolveActive_posts u .preempted
  by_cases absent : t.kind = .none
  · rw [(consume_ignored absent).2]
    exact .refl _
  by_cases refusing : s.refuses lib t supersededByStop = true
  · rcases (consume_refused absent refusing).2 with ⟨reason, refused⟩ | refused | refused
    · rw [refused]
      exact rejectTarget_posts s t reason
    · rw [refused]
      have mismatch : Untripped s.events (s.emit .captureRejected .rejectedStartMismatch 0
        t.motionId).events := Untripped.push _ rfl
      exact mismatch.trans (Untripped.push _ rfl)
    · rw [refused]
      exact rejectTarget_posts (s.planCapture lib t) t .internal
  · rw [(consume_admitted absent (Bool.eq_false_of_not_eq_true refusing)).2]
    cases kind : t.kind with
    | none => exact .refl _
    | hold =>
      simp only [consumeHold]
      split
      · exact ((resolved s).trans (resolved _)).trans (Untripped.push _ rfl)
      · exact (resolved s).trans (Untripped.push _ rfl)
    | brake => exact (resolved s).trans (Untripped.push _ rfl)
    | servo =>
      simp only [consumeServo]
      split
      · exact (resolved s).trans (Untripped.push _ rfl)
      · exact (resolved s).trans (Untripped.push _ rfl)
    | trajectory =>
      exact (resolved { s.planCapture lib t with
        splice.capture := (s.planCapture lib t).splice.capturePending }).trans
        (Untripped.push _ rfl)

theorem consumePending_posts (lib : External R) (s : TickCore R) (pending : Option (Target R))
    (consumeSuperseded : Bool) :
    Untripped s.events (s.consumePending lib pending consumeSuperseded).events := by
  cases pending with
  | none => exact .refl _
  | some t => exact consume_posts lib s t consumeSuperseded

end TickCore

end AiroFanuc.RtCore
