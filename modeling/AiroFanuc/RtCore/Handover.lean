import AiroFanuc.RtCore.Frames
import AiroFanuc.RtCore.Run

/-! What a tick hands over to its dispatch: up to there no stage moves the commanded pose, a ramp
or a brake goes on from where it was, and a new one is planned from that pose. -/

namespace AiroFanuc.RtCore

open TickEngine

/-- The commanded pose and what a stop is played from. -/
structure Wake (R : Type) where
  cfg : RtCoreConfig R
  anchor : Anchor R
  mode : Mode
  epoch : Nat
  follow : Follow
  qdBlend : QdEndBlend R
  brake : Brake R

namespace TickCore

variable {R : Type} [Field R] [LinearOrder R] [FloorRing R]

def wake (s : TickCore R) : Wake R :=
  ⟨s.cfg, s.anchor, s.health.mode, s.health.epoch, s.follow, s.qdBlend, s.brake.brake⟩

/-- At the start of a ramp planned from the commanded pose. -/
def Restarted (s : TickCore R) : Prop :=
  s.follow = ⟨.ramp, itpNs s.itp⟩ ∧
    s.qdBlend = .plan s.anchor.qCmd s.anchor.qdCmd (s.cfg.rxSilenceQdRampMs / 1000) s.itp

/-- At the start of a brake seeded with the commanded pose. -/
def Seeded (s : TickCore R) : Prop :=
  ∃ b : Brake R, s.brake.brake = b.seed s.anchor.qCmd s.anchor.qdCmd s.anchor.qddCmd

structure Handover (s t : TickCore R) : Prop where
  cfg : t.cfg = s.cfg
  anchor : t.anchor = s.anchor
  limits : t.brake.brake.cfg = s.brake.brake.cfg
  epoch : s.health.epoch ≤ t.health.epoch
  follows : t.health.mode = .safeFollow →
    (t.Restarted ∧ s.health.epoch < t.health.epoch) ∨
    (s.health.mode = .safeFollow ∧ t.follow = s.follow ∧ t.qdBlend = s.qdBlend ∧
      t.health.epoch = s.health.epoch)
  brakes : t.health.mode = .brake → t.Seeded ∨
    (s.health.mode = .brake ∧ t.brake.brake = s.brake.brake)

namespace Handover

variable {s t u : TickCore R}

/-- A stage that leaves the mode and the stops alone. -/
theorem of_wake (same : t.wake = s.wake) : Handover s t := by
  have mode : t.health.mode = s.health.mode := congrArg Wake.mode same
  have brake : t.brake.brake = s.brake.brake := congrArg Wake.brake same
  constructor
  · exact congrArg Wake.cfg same
  · exact congrArg Wake.anchor same
  · exact congrArg Brake.cfg brake
  · exact (congrArg Wake.epoch same).ge
  · intro following
    exact .inr ⟨mode.symm.trans following, congrArg Wake.follow same, congrArg Wake.qdBlend same,
      congrArg Wake.epoch same⟩
  · exact fun braking => .inr ⟨mode.symm.trans braking, brake⟩

theorem refl (s : TickCore R) : Handover s s := of_wake rfl

theorem trans (first : Handover s t) (second : Handover t u) : Handover s u := by
  constructor
  · exact second.cfg.trans first.cfg
  · exact second.anchor.trans first.anchor
  · exact second.limits.trans first.limits
  · exact first.epoch.trans second.epoch
  · intro following
    rcases second.follows following with ⟨fresh, later⟩ | ⟨before, follow, blend, epoch⟩
    · exact .inl ⟨fresh, first.epoch.trans_lt later⟩
    · rcases first.follows before with ⟨⟨entered, planned⟩, later⟩ | ⟨early, follow', blend', epoch'⟩
      · refine .inl ⟨⟨?_, ?_⟩, epoch ▸ later⟩
        · rw [follow, entered, itp, itp, second.cfg]
        · rw [blend, planned, itp, itp, second.cfg, second.anchor]
      · exact .inr ⟨early, follow.trans follow', blend.trans blend', epoch.trans epoch'⟩
  · intro braking
    rcases second.brakes braking with fresh | ⟨before, brake⟩
    · exact .inl fresh
    · rcases first.brakes before with ⟨b, seeded⟩ | ⟨early, brake'⟩
      · refine .inl ⟨b, ?_⟩
        rw [brake, seeded, second.anchor]
      · exact .inr ⟨early, brake.trans brake'⟩

end Handover

/-! ### The stages before the mailbox -/

theorem emit_handover (s : TickCore R) (type : EventType) (reason : FaultReason) (value : Int)
    (motionId : Nat) : Handover s (s.emit type reason value motionId) := Handover.of_wake rfl

omit [Field R] [LinearOrder R] [FloorRing R] in
theorem setCondition_wake (s : TickCore R) (bit : Condition) (on : Bool) :
    (s.setCondition bit on).wake = s.wake := rfl

omit [Field R] [LinearOrder R] [FloorRing R] in
theorem resolveActive_wake (s : TickCore R) (st : MotionStatus) :
    (s.resolveActive st).wake = s.wake := by
  rw [resolveActive_shape]
  rfl

theorem beginBrake_handover (s : TickCore R) (st : MotionStatus) (reason : FaultReason) :
    Handover s (s.beginBrake st reason) := by
  have resolved := resolveActive_wake s st
  constructor
  · exact congrArg Wake.cfg resolved
  · exact congrArg Wake.anchor resolved
  · exact congrArg (fun w : Wake R => w.brake.cfg) resolved
  · exact (congrArg Wake.epoch resolved).ge
  · nofun
  · exact fun _ => .inl ⟨(s.resolveActive st).brake.brake, rfl⟩

theorem enterFault_handover (s : TickCore R) (cause : FaultReason) (bump : BumpReason)
    (st : MotionStatus) : Handover s (s.enterFault cause bump st) := by
  have resolved := resolveActive_wake { s.bumpEpoch bump with health.fault := cause } st
  have brake := congrArg Wake.brake resolved
  have bumped : (s.enterFault cause bump st).health.epoch = s.health.epoch + 1 :=
    congrArg Wake.epoch resolved
  have later : s.health.epoch < (s.enterFault cause bump st).health.epoch := by omega
  constructor
  · exact congrArg Wake.cfg resolved
  · exact congrArg Wake.anchor resolved
  · exact congrArg Brake.cfg brake
  · exact later.le
  · exact fun _ => .inl ⟨⟨rfl, rfl⟩, later⟩
  · nofun

theorem enterRxSilent_handover (s : TickCore R) : Handover s s.enterRxSilent := by
  have resolved := resolveActive_wake (TickCore.setCondition
    { s.bumpEpoch .rxSilentEntry with health.fault := .rxSilent } .rxSilent true) .faulted
  have brake := congrArg Wake.brake resolved
  have bumped : s.enterRxSilent.health.epoch = s.health.epoch + 1 := congrArg Wake.epoch resolved
  constructor
  · exact congrArg Wake.cfg resolved
  · exact congrArg Wake.anchor resolved
  · exact congrArg Brake.cfg brake
  · omega
  · nofun
  · nofun

theorem ingestRx_handover (s : TickCore R) (rx : Option (RxSample R)) :
    Handover s (s.ingestRx rx) := by
  cases rx with
  | none => exact .of_wake rfl
  | some r =>
    have leveled : ((s.takeRx r).setGateConditions r.gates).wake = s.wake := by
      simp only [setGateConditions, setCondition_wake]
      rfl
    have observed : ((s.takeRx r).observeGates r.gates).wake = s.wake := by
      simp only [observeGates, gateEvents_shape]
      exact leveled
    simp only [ingestRx, processGates]
    split
    · split
      · exact .of_wake observed
      · exact (Handover.of_wake observed).trans (enterFault_handover _ _ _ _)
    · exact .of_wake observed

theorem answerStop_handover (s : TickCore R) : Handover s s.answerStop := by
  have lowered : Handover s { s with ops.stopRequested := false } := .of_wake rfl
  unfold answerStop
  split
  · cases mode : s.health.mode with
    | hold | capture | trajectory | servo =>
      simp only [mode]
      exact lowered.trans (beginBrake_handover _ .stopped .none)
    | brake =>
      simp only [mode]
      exact lowered.trans
        (.of_wake (resolveActive_wake { s with ops.stopRequested := false } .stopped))
    | streamDown | preroll | safeFollow | rxSilent =>
      simp only [mode]
      exact lowered
  · exact .refl s

theorem answerHold_handover (s : TickCore R) : Handover s s.answerHold := by
  have lowered : Handover s { s with ops.holdRequested := false } := .of_wake rfl
  unfold answerHold
  split
  · cases mode : s.health.mode with
    | capture | trajectory | servo =>
      simp only [mode]
      exact lowered.trans (beginBrake_handover _ .preempted .none)
    | hold | brake | streamDown | preroll | safeFollow | rxSilent =>
      simp only [mode]
      exact lowered
  · exact .refl s

theorem answerKick_handover (s : TickCore R) : Handover s s.answerKick := by
  unfold answerKick
  split
  · exact .of_wake rfl
  · exact .refl s

theorem answerHeartbeat_handover (s : TickCore R) : Handover s s.answerHeartbeat := by
  unfold answerHeartbeat
  split
  · exact .of_wake rfl
  · exact .refl s

theorem handleRxSilence_handover (s : TickCore R) : Handover s s.handleRxSilence := by
  simp only [handleRxSilence]
  split
  · exact .refl s
  · split
    · exact .refl s
    · split
      · exact enterRxSilent_handover s
      · split
        · have degraded : Handover s s.degradeRx := .of_wake rfl
          exact degraded.trans (enterFault_handover _ _ _ _)
        · exact .refl s

theorem handleDeadman_handover (s : TickCore R) : Handover s s.handleDeadman := by
  have counted : Handover s { s with deadman.ticksSinceKick := s.deadman.ticksSinceKick + 1 } :=
    .of_wake rfl
  simp only [handleDeadman]
  split
  · exact .refl s
  · split
    · exact (counted.trans (enterFault_handover _ _ _ _)).trans (emit_handover _ _ _ _ _)
    · exact counted

theorem handleSupervisorLiveness_handover (s : TickCore R) :
    Handover s s.handleSupervisorLiveness := by
  simp only [handleSupervisorLiveness]
  split
  · exact .refl s
  · split
    · exact .refl s
    · split
      · have latched : Handover s { s with
            liveness.ticksSinceHeartbeat := s.liveness.ticksSinceHeartbeat + 1
            liveness.lostLatched := true } := .of_wake rfl
        exact (latched.trans (enterFault_handover _ _ _ _)).trans (emit_handover _ _ _ _ _)
      · exact .of_wake rfl

theorem handleForceGuard_handover (lib : External R) (s : TickCore R) (rx : RxSample R) :
    Handover s (s.handleForceGuard lib rx) := by
  simp only [handleForceGuard]
  split
  · exact .refl s
  · split
    · exact (beginBrake_handover s .stopped .none).trans (emit_handover _ _ _ _ _)
    · exact .refl s

theorem beforeDwell_handover (lib : External R) (s : TickCore R) (rx : Option (RxSample R)) :
    Handover s (s.beforeDwell lib rx) := by
  have counted : Handover s s.countTick := .of_wake rfl
  have ingested := counted.trans (ingestRx_handover s.countTick rx)
  simp only [beforeDwell]
  generalize s.countTick.ingestRx rx = a at *
  have answered := ((answerStop_handover a).trans (answerHold_handover _)).trans
    ((answerKick_handover _).trans (answerHeartbeat_handover _))
  generalize a.answerStop.answerHold.answerKick.answerHeartbeat = b at *
  have watched := ((handleRxSilence_handover b).trans (handleDeadman_handover _)).trans
    (handleSupervisorLiveness_handover _)
  have early := (ingested.trans answered).trans watched
  cases rx with
  | none => exact early
  | some r => exact early.trans (handleForceGuard_handover lib _ r)

theorem recoveryDwell_handover {s : TickCore R} (waits : s.dwellCompletes = false) :
    Handover s s.recoveryDwell := by
  unfold recoveryDwell
  split
  · split
    · split
      · rename_i pending clear beyond
        have completes : s.dwellCompletes = true := by
          rw [dwellCompletes, pending, clear, decide_eq_true beyond]
          rfl
        rw [waits] at completes
        cases completes
      · exact .of_wake rfl
    · exact .of_wake rfl
  · exact .refl s

/-! ### The mailbox -/

theorem consume_handover (lib : External R) (s : TickCore R) (t : Target R) (superseded : Bool) :
    Handover s (s.consume lib t superseded).2 := by
  by_cases absent : t.kind = .none
  · rw [(consume_ignored absent).2]
    exact .refl s
  by_cases refusing : s.refuses lib t superseded = true
  · rcases (consume_refused absent refusing).2 with ⟨reason, refused⟩ | refused | refused <;>
      · rw [refused]
        exact .of_wake rfl
  have resolved : Handover s (s.resolveActive .preempted) := .of_wake (resolveActive_wake s .preempted)
  rw [(consume_admitted absent (Bool.eq_false_of_not_eq_true refusing)).2]
  cases kind : t.kind with
  | none => exact absurd kind absent
  | hold =>
    simp only [consumeHold]
    split
    · exact (resolved.trans (beginBrake_handover _ .preempted .none)).trans (.of_wake rfl)
    · exact resolved.trans (.of_wake rfl)
  | brake =>
    constructor
    · exact resolved.cfg
    · exact resolved.anchor
    · exact resolved.limits
    · exact resolved.epoch
    · rintro ⟨⟩
    · exact fun _ => .inl ⟨(s.resolveActive .preempted).brake.brake, rfl⟩
  | servo =>
    simp only [consumeServo]
    split
    · constructor
      · exact resolved.cfg
      · exact resolved.anchor
      · exact resolved.limits
      · exact resolved.epoch
      · rintro ⟨⟩
      · rintro ⟨⟩
    · exact resolved.trans (.of_wake rfl)
  | trajectory =>
    have accepted := resolveActive_wake { s.planCapture lib t with
      splice.capture := (s.planCapture lib t).splice.capturePending } .preempted
    constructor
    · exact congrArg Wake.cfg accepted
    · exact congrArg Wake.anchor accepted
    · exact congrArg (fun w : Wake R => w.brake.cfg) accepted
    · exact (congrArg Wake.epoch accepted).ge
    · rintro ⟨⟩
    · rintro ⟨⟩

theorem consumePending_handover (lib : External R) (s : TickCore R) (pending : Option (Target R))
    (superseded : Bool) : Handover s (s.consumePending lib pending superseded) := by
  cases pending with
  | none => exact .of_wake rfl
  | some t => exact (consume_handover lib s t superseded).trans (.of_wake rfl)

/-- The state a tick dispatches its mode from. -/
def dispatched (lib : External R) (s : TickCore R) (rx : Option (RxSample R))
    (pending : Option (Target R)) (superseded : Bool) : TickCore R :=
  (s.beforeConsume lib rx).consumePending lib pending superseded

theorem dispatched_handover (lib : External R) {s : TickCore R} {rx : Option (RxSample R)}
    (waits : (s.beforeDwell lib rx).dwellCompletes = false) (pending : Option (Target R))
    (superseded : Bool) : Handover s (s.dispatched lib rx pending superseded) :=
  ((beforeDwell_handover lib s rx).trans (recoveryDwell_handover waits)).trans
    (consumePending_handover lib _ pending superseded)

/-- A recovery that ends on a tick leaves the fault's modes for it. -/
theorem following_waits {lib : External R} {s : TickCore R} {rx : Option (RxSample R)}
    {pending : Option (Target R)} {superseded : Bool}
    (following : (s.dispatched lib rx pending superseded).health.mode = .safeFollow) :
    (s.beforeDwell lib rx).dwellCompletes = false := by
  by_contra completes
  have dwelt := beforeConsume_control lib s rx
  rw [if_pos (by simpa using completes)] at dwelt
  have held : (s.beforeConsume lib rx).control.mode = .hold := congrArg Control.mode dwelt
  have consumed := consumePending_control lib (s.beforeConsume lib rx) pending superseded
  have mode : (s.dispatched lib rx pending superseded).control.mode = .safeFollow := following
  rw [dispatched, consumed] at mode
  cases pending with
  | none =>
    rw [held] at mode
    cases mode
  | some t =>
    simp only [consume_control] at mode
    split at mode
    · rw [held] at mode
      cases mode
    · split at mode
      · have kept : (s.beforeConsume lib rx).control.mode = .safeFollow := mode
        rw [held] at kept
        cases kept
      · cases kind : t.kind with
        | none => contradiction
        | hold =>
          rw [kind] at mode
          simp only [Control.accept, held, reduceCtorEq, or_self, if_false] at mode
        | brake | servo | trajectory =>
          rw [kind] at mode
          cases mode

end TickCore

end AiroFanuc.RtCore
