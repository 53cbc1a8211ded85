import AiroFanuc.RtCore.Frames
import AiroFanuc.RtCore.Run

/-! What a trajectory in progress is played from, and that a tick either leaves it alone up to
its dispatch or ends the motion. -/

namespace AiroFanuc.RtCore

open TickEngine

/-- What a motion in progress is played from. -/
structure Reel (R : Type) where
  cfg : RtCoreConfig R
  mode : Mode
  playback : Playback R
  capture : CapturePath R
  captureIdx : Nat
  captured : Target R
  qdBlend : QdEndBlend R

namespace Reel

variable {R : Type} {a b c : Reel R}

def rolls (r : Reel R) : Prop := r.mode = .capture ∨ r.mode = .trajectory

/-- A motion that still rolls rolls on from where it was. -/
def Keeps (a b : Reel R) : Prop := b.rolls → b = a

theorem Keeps.refl (a : Reel R) : a.Keeps a := fun _ => rfl

theorem Keeps.trans (first : a.Keeps b) (second : b.Keeps c) : a.Keeps c := by
  intro rolls
  have same := second rolls
  rw [same] at rolls ⊢
  exact first rolls

/-- Any other mode ends the motion. -/
theorem Keeps.ended (mode : b.mode ≠ .capture ∧ b.mode ≠ .trajectory) : a.Keeps b := by
  rintro (rolls | rolls)
  · exact absurd rolls mode.1
  · exact absurd rolls mode.2

end Reel

namespace TickCore

variable {R : Type} [Field R] [LinearOrder R] [FloorRing R]

def reel (s : TickCore R) : Reel R :=
  ⟨s.cfg, s.health.mode, s.playback, s.splice.capture, s.splice.captureIdx,
    s.splice.capturedTarget, s.qdBlend⟩

/-! ### Up to the dispatch a tick interrupts a motion or leaves it alone -/

omit [Field R] [LinearOrder R] [FloorRing R] in
theorem emit_reel (s : TickCore R) (type : EventType) (reason : FaultReason) (value : Int)
    (motionId : Nat) : (s.emit type reason value motionId).reel = s.reel := rfl

omit [Field R] [LinearOrder R] [FloorRing R] in
theorem setCondition_reel (s : TickCore R) (bit : Condition) (on : Bool) :
    (s.setCondition bit on).reel = s.reel := rfl

omit [Field R] [LinearOrder R] [FloorRing R] in
theorem setGateConditions_reel (s : TickCore R) (g : Gates) :
    (s.setGateConditions g).reel = s.reel := by
  simp only [setGateConditions, setCondition_reel]

omit [Field R] [LinearOrder R] [FloorRing R] in
theorem resolveActive_reel (s : TickCore R) (st : MotionStatus) :
    (s.resolveActive st).reel = s.reel := by
  rw [resolveActive_shape]
  rfl

omit [FloorRing R] in
theorem beginBrake_keeps (s : TickCore R) (st : MotionStatus) (reason : FaultReason) :
    s.reel.Keeps (s.beginBrake st reason).reel := by
  apply Reel.Keeps.ended
  exact ⟨nofun, nofun⟩

theorem enterFault_keeps (s : TickCore R) (cause : FaultReason) (bump : BumpReason)
    (st : MotionStatus) : s.reel.Keeps (s.enterFault cause bump st).reel := by
  apply Reel.Keeps.ended
  exact ⟨nofun, nofun⟩

theorem ingestRx_keeps (s : TickCore R) (rx : Option (RxSample R)) :
    s.reel.Keeps (s.ingestRx rx).reel := by
  cases rx with
  | none => exact .refl _
  | some r =>
    have observed : ((s.takeRx r).observeGates r.gates).reel = s.reel := by
      simp only [observeGates, gateEvents_shape]
      exact setGateConditions_reel (s.takeRx r) r.gates
    simp only [ingestRx, processGates]
    split
    · split
      · rw [observed]
        exact .refl _
      · rw [← observed]
        exact enterFault_keeps _ _ _ _
    · rw [observed]
      exact .refl _

omit [FloorRing R] in
theorem answerStop_keeps (s : TickCore R) : s.reel.Keeps s.answerStop.reel := by
  unfold answerStop
  split
  · cases mode : s.health.mode with
    | hold | capture | trajectory | servo =>
      simp only [mode]
      exact beginBrake_keeps { s with ops.stopRequested := false } .stopped .none
    | brake =>
      simp only [mode]
      apply Reel.Keeps.ended
      rw [resolveActive_shape]
      simp only [reel, mode]
      exact ⟨nofun, nofun⟩
    | streamDown | preroll | safeFollow | rxSilent =>
      simp only [mode]
      exact .refl _
  · exact .refl _

omit [FloorRing R] in
theorem answerHold_keeps (s : TickCore R) : s.reel.Keeps s.answerHold.reel := by
  unfold answerHold
  split
  · cases mode : s.health.mode with
    | capture | trajectory | servo =>
      simp only [mode]
      exact beginBrake_keeps { s with ops.holdRequested := false } .preempted .none
    | hold | brake | streamDown | preroll | safeFollow | rxSilent =>
      simp only [mode]
      exact .refl _
  · exact .refl _

omit [Field R] [LinearOrder R] [FloorRing R] in
theorem answerKick_reel (s : TickCore R) : s.answerKick.reel = s.reel := by
  unfold answerKick
  split <;> rfl

omit [Field R] [LinearOrder R] [FloorRing R] in
theorem answerHeartbeat_reel (s : TickCore R) : s.answerHeartbeat.reel = s.reel := by
  unfold answerHeartbeat
  split <;> rfl

theorem handleRxSilence_keeps (s : TickCore R) : s.reel.Keeps s.handleRxSilence.reel := by
  simp only [handleRxSilence]
  split
  · exact .refl _
  · split
    · exact .refl _
    · split
      · apply Reel.Keeps.ended
        exact ⟨by rintro ⟨⟩, by rintro ⟨⟩⟩
      · split
        · exact enterFault_keeps s.degradeRx .rxDegraded .safeFollowEntry .faulted
        · exact .refl _

theorem handleDeadman_keeps (s : TickCore R) : s.reel.Keeps s.handleDeadman.reel := by
  simp only [handleDeadman]
  split
  · exact .refl _
  · split
    · rw [emit_reel]
      exact enterFault_keeps
        { s with deadman.ticksSinceKick := s.deadman.ticksSinceKick + 1 } _ _ _
    · exact .refl _

theorem handleSupervisorLiveness_keeps (s : TickCore R) :
    s.reel.Keeps s.handleSupervisorLiveness.reel := by
  simp only [handleSupervisorLiveness]
  split
  · exact .refl _
  · split
    · exact .refl _
    · split
      · apply Reel.Keeps.ended
        exact ⟨by rintro ⟨⟩, by rintro ⟨⟩⟩
      · exact .refl _

omit [FloorRing R] in
theorem handleForceGuard_keeps (lib : External R) (s : TickCore R) (rx : RxSample R) :
    s.reel.Keeps (s.handleForceGuard lib rx).reel := by
  simp only [handleForceGuard]
  split
  · exact .refl _
  · split
    · exact beginBrake_keeps s .stopped .none
    · exact .refl _

theorem recoveryDwell_keeps (s : TickCore R) : s.reel.Keeps s.recoveryDwell.reel := by
  simp only [recoveryDwell]
  split
  · split
    · split
      · apply Reel.Keeps.ended
        exact ⟨by rintro ⟨⟩, by rintro ⟨⟩⟩
      · exact .refl _
    · exact .refl _
  · exact .refl _

theorem beforeConsume_keeps (lib : External R) (s : TickCore R) (rx : Option (RxSample R)) :
    s.reel.Keeps (s.beforeConsume lib rx).reel := by
  have ingested : s.reel.Keeps (s.countTick.ingestRx rx).reel := ingestRx_keeps s.countTick rx
  simp only [beforeConsume, beforeDwell]
  generalize s.countTick.ingestRx rx = a at *
  have answered : a.reel.Keeps a.answerStop.answerHold.answerKick.answerHeartbeat.reel := by
    rw [answerHeartbeat_reel, answerKick_reel]
    exact (answerStop_keeps a).trans (answerHold_keeps _)
  generalize a.answerStop.answerHold.answerKick.answerHeartbeat = b at *
  have watched : b.reel.Keeps b.handleRxSilence.handleDeadman.handleSupervisorLiveness.reel :=
    ((handleRxSilence_keeps b).trans (handleDeadman_keeps _)).trans
      (handleSupervisorLiveness_keeps _)
  have early := (ingested.trans answered).trans watched
  generalize b.handleRxSilence.handleDeadman.handleSupervisorLiveness = d at *
  cases rx with
  | none => exact early.trans (recoveryDwell_keeps d)
  | some r => exact (early.trans (handleForceGuard_keeps lib d r)).trans (recoveryDwell_keeps _)

/-! ### The mailbox -/

/-- What an accepted trajectory is played from. -/
def splicedReel (lib : External R) (s : TickCore R) (t : Target R) : Reel R where
  cfg := s.cfg
  mode := .capture
  playback :=
    { s.playback with
      speedScale := t.speedScale
      motionTickCfg :=
        { s.cfg.tick with
          settleTolRad := t.settleTolRad
          settleVelEpsRadS := t.settleVelEpsRadS
          settleTimeoutS := t.settleTimeoutS }
      qdEndWire := fun j => t.qdLast j * t.speedScale }
  capture := generateCapturePath lib s.anchor.qCmd s.anchor.qdCmd t.q0 t.qd0 s.cfg.tick
  captureIdx := 1
  captured := t
  qdBlend := s.qdBlend

theorem acceptTrajectory_reel (lib : External R) (s : TickCore R) (t : Target R) :
    ((s.planCapture lib t).acceptTrajectory t).reel = s.splicedReel lib t := by
  simp only [acceptTrajectory, resolveActive_shape]
  rfl

/-- What rolls behind the mailbox rolled in front of it, or was just accepted. -/
theorem consume_reel (lib : External R) (s : TickCore R) (t : Target R) (supersededByStop : Bool)
    (rolls : (s.consume lib t supersededByStop).2.reel.rolls) :
    (s.consume lib t supersededByStop).2.reel = s.reel ∨
      t.kind = .trajectory ∧
        (s.consume lib t supersededByStop).2.reel = s.splicedReel lib t := by
  by_cases absent : t.kind = .none
  · rw [(consume_ignored absent).2]
    exact .inl rfl
  by_cases refusing : s.refuses lib t supersededByStop = true
  · rcases (consume_refused absent refusing).2 with ⟨reason, refused⟩ | refused | refused <;>
      · rw [refused]
        exact .inl rfl
  · rw [(consume_admitted absent (Bool.eq_false_of_not_eq_true refusing)).2] at rolls ⊢
    cases kind : t.kind with
    | none => exact absurd kind absent
    | hold =>
      simp only [kind] at rolls ⊢
      have resolved := resolveActive_reel s .preempted
      simp only [consumeHold] at rolls ⊢
      split at rolls
      · rename_i moves
        rw [if_pos moves]
        exact .inl ((beginBrake_keeps _ .preempted .none rolls).trans resolved)
      · rename_i still
        rw [if_neg still]
        exact .inl resolved
    | brake =>
      simp only [kind] at rolls
      rcases rolls with rolls | rolls <;> cases rolls
    | servo =>
      simp only [kind, consumeServo] at rolls
      have held : s.health.mode = (s.resolveActive .preempted).health.mode :=
        (congrArg Reel.mode (resolveActive_reel s .preempted)).symm
      rcases rolls with rolls | rolls <;>
        · simp only [reel, emit] at rolls
          split at rolls
          · cases rolls
          · simp_all
    | trajectory => exact .inr ⟨rfl, acceptTrajectory_reel lib s t⟩

/-- What a tick dispatches rolled when it began, or was accepted by it. -/
theorem consumePending_reel (lib : External R) (s : TickCore R) (rx : Option (RxSample R))
    (pending : Option (Target R)) (consumeSuperseded : Bool)
    (rolls : ((s.beforeConsume lib rx).consumePending lib pending consumeSuperseded).reel.rolls) :
    ((s.beforeConsume lib rx).consumePending lib pending consumeSuperseded).reel = s.reel ∨
      ∃ t ∈ pending, t.kind = .trajectory ∧
        ((s.beforeConsume lib rx).consumePending lib pending consumeSuperseded).reel =
          (s.beforeConsume lib rx).splicedReel lib t := by
  have keeps := beforeConsume_keeps lib s rx
  cases pending with
  | none => exact .inl (keeps rolls)
  | some t =>
    rcases consume_reel lib (s.beforeConsume lib rx) t consumeSuperseded rolls with same | taken
    · have reel : ((s.beforeConsume lib rx).consumePending lib (some t) consumeSuperseded).reel =
          (s.beforeConsume lib rx).reel := same
      rw [reel] at rolls ⊢
      exact .inl (keeps rolls)
    · exact .inr ⟨t, rfl, taken⟩

/-! ### The dispatch -/

/-- A playback goes on or ends in a hold. -/
theorem dispatchTrajectory_mode (s : TickCore R) :
    s.dispatchTrajectory.2.health.mode = s.health.mode ∨
      s.dispatchTrajectory.2.health.mode = .hold := by
  unfold dispatchTrajectory
  cases s.playback.trajPhase with
  | playing =>
    simp only
    split
    · split <;> exact .inl rfl
    · exact .inl rfl
  | endBlend =>
    simp only
    split <;> exact .inl rfl
  | settling =>
    simp only
    split
    · exact .inr rfl
    · exact .inr rfl
    · exact .inl rfl

/-- The dispatch of any other mode starts no motion. -/
theorem dispatchMode_idle (lib : External R) {s : TickCore R} (idle : ¬ s.reel.rolls) :
    ¬ (s.dispatchMode lib).2.reel.rolls := by
  have faulted (u : TickCore R) : ¬ (u.enterFault .internal .faultEntry .faulted).reel.rolls := by
    rintro (rolls | rolls) <;> cases rolls
  unfold dispatchMode
  cases mode : s.health.mode with
  | capture => exact absurd (.inl mode) idle
  | trajectory => exact absurd (.inr mode) idle
  | streamDown | preroll | rxSilent | hold =>
    rintro (rolls | rolls) <;>
      · simp only [reel, mode] at rolls
        cases rolls
  | servo =>
    have still : s.reissueServo.health.mode = .servo := by
      simp only [reissueServo]
      split <;> exact mode
    simp only [dispatchServo]
    split
    · exact faulted _
    · rintro (rolls | rolls) <;>
        · simp only [reel, still] at rolls
          cases rolls
  | brake =>
    simp only [dispatchBrake]
    split
    · exact faulted _
    · split
      · rintro (rolls | rolls) <;> cases rolls
      · rintro (rolls | rolls) <;>
          · simp only [reel, mode] at rolls
            cases rolls
  | safeFollow =>
    have still : s.dispatchSafeFollow.2.health.mode = .safeFollow := by
      unfold dispatchSafeFollow
      cases s.follow.phase with
      | ramp => exact mode
      | reanchor =>
        simp only
        split
        · exact mode
        · split <;> exact mode
    rintro (rolls | rolls) <;>
      · simp only [reel, still] at rolls
        cases rolls

omit [FloorRing R] in
theorem sendCommand_reel (s : TickCore R) (qDesired : Vec6 R) :
    (s.sendCommand qDesired).2.reel = s.reel := by
  simp only [sendCommand]
  split
  · rfl
  · split <;> rfl

/-! ### The settings -/

theorem beforeConsume_cfg (lib : External R) (s : TickCore R) (rx : Option (RxSample R)) :
    (s.beforeConsume lib rx).cfg = s.cfg :=
  (congrArg Frame.cfg (beforeConsume_frame lib s rx)).trans (ingestRx_cfg s rx)

theorem consumePending_cfg (lib : External R) (s : TickCore R) (rx : Option (RxSample R))
    (pending : Option (Target R)) (consumeSuperseded : Bool) :
    ((s.beforeConsume lib rx).consumePending lib pending consumeSuperseded).cfg = s.cfg := by
  cases pending with
  | none => exact beforeConsume_cfg lib s rx
  | some t =>
    have frame := consume_frame lib (s.beforeConsume lib rx) t consumeSuperseded
    exact (congrArg Frame.cfg frame).trans (beforeConsume_cfg lib s rx)

theorem tick_cfg (lib : External R) (s : TickCore R) (rx : Option (RxSample R))
    (pending : Option (Target R)) (consumeSuperseded : Bool) :
    (s.tick lib rx pending consumeSuperseded).2.cfg = s.cfg :=
  (congrArg Frame.cfg (tick_frame lib s rx pending consumeSuperseded)).trans (ingestRx_cfg s rx)

/-- No call changes the configuration the core was made with. -/
theorem cfg_of_reachable {lib : External R} {cfg : RtCoreConfig R}
    {legal : TickCore R → Input R → Prop} {s : TickCore R}
    (reached : (machine lib cfg).Reachable legal s) : s.cfg = cfg := by
  refine reached.invariant (I := fun a => a.cfg = cfg) rfl ?_
  rintro a b i same - ⟨⟩
  cases i with
  | tick rx pending superseded => exact (tick_cfg lib a rx pending superseded).trans same
  | requestRecover =>
    simp only [apply, requestRecover]
    split <;> exact same
  | beginStreaming _ | requestStop | requestHold | kick | heartbeat => exact same

/-- Behind the dispatch a tick only sends. -/
theorem tick_reel (lib : External R) (s : TickCore R) (rx : Option (RxSample R))
    (pending : Option (Target R)) (consumeSuperseded : Bool) :
    (s.tick lib rx pending consumeSuperseded).2.reel =
      (((s.beforeConsume lib rx).consumePending lib pending consumeSuperseded).dispatchMode
        lib).2.reel := sendCommand_reel _ _

end TickCore

end AiroFanuc.RtCore
