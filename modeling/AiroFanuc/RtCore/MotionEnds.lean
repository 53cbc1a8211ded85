import AiroFanuc.Library.Ranking
import AiroFanuc.RtCore.Agreement
import AiroFanuc.RtCore.Halting
import AiroFanuc.RtCore.MotionTicks
import AiroFanuc.RtCore.SilencePark

/-! Every motion ends: no packet, no silence and no request but a new target adds to the ticks of a
motion and of the brake behind it. -/

namespace AiroFanuc.RtCore

open TickEngine Library

/-! ### The brake -/

section Brake

variable {R : Type} [Field R] [LinearOrder R] [FloorRing R]

namespace TickCore

variable [IsStrictOrderedRing R] {cfg : RtCoreConfig R} {s : TickCore R}

omit [IsStrictOrderedRing R] in
theorem recoveryDwell_limits (s : TickCore R) :
    s.recoveryDwell.brake.brake.cfg = s.brake.brake.cfg := by
  unfold recoveryDwell
  split
  · split
    · split
      · simp only [completeRecovery]
        split <;> rfl
      · rfl
    · rfl
  · rfl

omit [LinearOrder R] [FloorRing R] [IsStrictOrderedRing R] in
theorem brakeStep_limits (lib : External R) (b : Brake R) : (b.step lib).2.cfg = b.cfg := by
  unfold Brake.step
  split
  · rfl
  · cases result : (lib.ruckig b.cfg.itpS b.history b.inp).1 with
    | error code => simp only [result]
    | working => simp only [result]
    | finished => simp only [result]

omit [LinearOrder R] [FloorRing R] [IsStrictOrderedRing R] in
/-- Only an error leaves the brake's clock where it is. -/
theorem brakeStep_counts (lib : External R) {b : Brake R} (sound : (b.step lib).1.error = false) :
    (b.step lib).2.elapsedTicks = b.elapsedTicks + 1 := by
  unfold Brake.step at sound ⊢
  split
  · rename_i unseeded
    rw [if_pos unseeded] at sound
    cases sound
  · rename_i seeded
    rw [if_neg seeded] at sound
    cases result : (lib.ruckig b.cfg.itpS b.history b.inp).1 with
    | error code =>
      simp only [result] at sound
      cases sound
    | working => simp only [result]
    | finished => simp only [result]

omit [Field R] [LinearOrder R] [FloorRing R] [IsStrictOrderedRing R] in
theorem resolveActive_brake (s : TickCore R) (st : MotionStatus) :
    (s.resolveActive st).brake.brake = s.brake.brake := congrArg Wake.brake (resolveActive_wake s st)

omit [IsStrictOrderedRing R] in
theorem dispatchTrajectory_brake (s : TickCore R) :
    s.dispatchTrajectory.2.brake.brake = s.brake.brake := by
  unfold dispatchTrajectory
  cases s.playback.trajPhase with
  | playing =>
    simp only
    split
    · split <;> rfl
    · rfl
  | endBlend =>
    simp only
    split <;> rfl
  | settling =>
    simp only
    split
    · exact resolveActive_brake _ .done
    · exact resolveActive_brake _ .settleTimeout
    · rfl

omit [IsStrictOrderedRing R] in
theorem dispatchMode_limits (lib : External R) (s : TickCore R) :
    (s.dispatchMode lib).2.brake.brake.cfg = s.brake.brake.cfg := by
  unfold dispatchMode
  cases s.health.mode with
  | streamDown | preroll | rxSilent | hold => rfl
  | capture =>
    simp only
    split
    · rfl
    · exact congrArg Brake.cfg (dispatchTrajectory_brake _)
  | trajectory => exact congrArg Brake.cfg (dispatchTrajectory_brake s)
  | servo =>
    have reissued : s.reissueServo.brake.brake.cfg = s.brake.brake.cfg := by
      simp only [reissueServo]
      split <;> rfl
    simp only [dispatchServo]
    split
    · exact (enterFault_handover _ .internal .faultEntry .faulted).limits.trans reissued
    · exact reissued
  | brake =>
    have stepped := brakeStep_limits lib s.brake.brake
    simp only [dispatchBrake]
    split
    · exact (enterFault_handover _ .internal .faultEntry .faulted).limits.trans stepped
    · split
      · simp only [goHold]
        split
        · exact (congrArg Brake.cfg (resolveActive_brake _ .done)).trans stepped
        · exact stepped
      · exact stepped
  | safeFollow =>
    simp only [dispatchSafeFollow]
    cases s.follow.phase with
    | ramp => rfl
    | reanchor =>
      simp only
      split
      · rfl
      · split <;> rfl

omit [IsStrictOrderedRing R] in
/-- A splice and a playback go on or end in a hold. -/
theorem dispatchMode_rolls (lib : External R) (rolls : s.reel.rolls) :
    (s.dispatchMode lib).2.health.mode = .capture ∨
      (s.dispatchMode lib).2.health.mode = .trajectory ∨
      (s.dispatchMode lib).2.health.mode = .hold := by
  unfold dispatchMode
  rcases rolls with mode | mode
  · have spliced : s.health.mode = .capture := mode
    simp only [spliced]
    split
    · exact .inl spliced
    · exact .inr (dispatchTrajectory_mode _)
  · have rolling : s.health.mode = .trajectory := mode
    simp only [rolling]
    rcases dispatchTrajectory_mode s with still | held
    · exact .inr (.inl (still.trans rolling))
    · exact .inr (.inr held)

omit [IsStrictOrderedRing R] in
/-- A brake that goes on has counted the tick and has not timed out. -/
theorem dispatchMode_brakes (lib : External R)
    (braking : (s.dispatchMode lib).2.health.mode = .brake) :
    s.health.mode = .brake ∧
      (s.dispatchMode lib).2.brake.brake.elapsedTicks = s.brake.brake.elapsedTicks + 1 ∧
      ¬ s.brake.brake.cfg.brakeMaxDurationS ≤
        ((s.brake.brake.elapsedTicks + 1 : Nat) : R) * s.brake.brake.cfg.itpS := by
  have before : s.health.mode = .brake := by
    by_contra other
    by_cases rolls : s.reel.rolls
    · rcases dispatchMode_rolls lib rolls with mode | mode | mode <;>
        exact Mode.noConfusion (mode.symm.trans braking)
    · refine dispatchMode_rests lib ?_ (.inr (.inr braking))
      rintro (mode | mode | mode)
      · exact rolls (.inl mode)
      · exact rolls (.inr mode)
      · exact other mode
  refine ⟨before, ?_⟩
  simp only [dispatchMode, before, dispatchBrake] at braking ⊢
  split at braking
  · cases braking
  · rename_i sound
    rw [if_neg sound]
    split at braking
    · cases braking
    · rename_i goes
      rw [if_neg goes]
      have counted := brakeStep_counts lib (Bool.eq_false_of_not_eq_true sound)
      refine ⟨counted, fun late => goes ?_⟩
      have limits := brakeStep_limits lib s.brake.brake
      rw [Brake.done, Bool.or_eq_true]
      right
      rw [Brake.timedOut, Brake.elapsedS, limits, counted]
      exact decide_eq_true late

end TickCore

end Brake

/-! ### What runs is played -/

namespace Control

variable {c d : Control}

/-- What a refused target leaves of the agreement of the fields: a running motion is played, and a
recovery waits in a safed mode. -/
structure Tracked (c : Control) : Prop where
  guard : c.forceArmed = true → ¬ c.safed
  recovery : c.recoveryPending = true → c.safed
  owned : c.running → c.plays

theorem Move.tracked (move : Move c d) (tracked : c.Tracked) : d.Tracked := by
  refine ⟨?_, fun pending => ?_, (move.carries tracked.owned).played tracked.owned⟩
  · cases move with
    | fault | park | brake | finish | rest => simp [faulted, parked, braking, rested]
    | halt mode => simp [safed, halted, mode]
    | play mode => simp
  · have waiting := tracked.recovery (move.recovery_kept pending)
    cases move with
    | fault cause st real ended => exact .inl rfl
    | park => exact .inr rfl
    | brake st armed ended =>
      rcases armed with free | armed
      · exact absurd waiting free
      · exact absurd waiting (tracked.guard armed)
    | halt mode => simp [safed, mode] at waiting
    | play mode => simp [safed, mode] at waiting
    | finish st playing ended =>
      rcases playing with mode | mode | mode | ⟨mode, -⟩ <;> simp [safed, mode] at waiting
    | rest mode own => simp [safed, mode] at waiting

theorem Moves.tracked (moved : Moves c d) (tracked : c.Tracked) : d.Tracked :=
  Moves.invariant moved tracked fun _ _ kept move => move.tracked kept

theorem Tracked.recovered (tracked : c.Tracked) (pending : c.recoveryPending = true) :
    c.recovered.Tracked := by
  refine ⟨by simp [Control.recovered, rested], by simp [Control.recovered], fun runs => ?_⟩
  rcases tracked.recovery pending with mode | mode <;>
    simpa [plays, mode] using tracked.owned runs

theorem Tracked.accept (tracked : c.Tracked) {kind : TargetKind} (motionId : Nat) (guard : Bool)
    (free : kind ≠ .none → kind ≠ .hold → ¬ c.safed) : (c.accept kind motionId guard).Tracked := by
  cases kind with
  | none => exact tracked
  | hold =>
    have held : ∀ e : Control, e.Tracked →
        ({ e with active := ⟨motionId, .done⟩ } : Control).Tracked :=
      fun e kept => ⟨kept.guard, kept.recovery, by rintro ⟨⟩⟩
    simp only [Control.accept]
    split
    · rename_i moving
      have unsafed : ¬ c.safed := by rcases moving with mode | mode | mode <;> simp [safed, mode]
      exact held _ ((Move.brake c .preempted (.inl unsafed) (by decide)).tracked tracked)
    · exact held _ tracked
  | trajectory | servo | brake =>
    have unsafed := free (by decide) (by decide)
    have settled : c.recoveryPending = false := by
      by_contra pending
      exact unsafed (tracked.recovery (by simpa using pending))
    simp only [Control.accept]
    exact ⟨by simp, by simp [settled], by simp [plays]⟩

end Control

/-! ### Runs -/

section Run

variable {R : Type} [Field R] [LinearOrder R] [FloorRing R]

namespace TickCore

/-- Trajectories keep to the clocks, and streaming begins with nothing running and no recovery
pending. -/
def clocked (cfg : RtCoreConfig R) (s : TickCore R) : Input R → Prop
  | .tick _ (some t) _ => t.kind = .trajectory → t.Clocked cfg.tick
  | .beginStreaming _ => s.active.status ≠ .running ∧ s.recovery.pending = false
  | _ => True

/-- Anything but a target and a new start: packets, silence, requests, kicks and beats. -/
def quiet : Input R → Prop
  | .tick _ pending _ => pending = none
  | .beginStreaming _ => False
  | _ => True

def isTick : Input R → Bool
  | .tick _ _ _ => true
  | _ => false

/-- The ticks a motion has left, its brake counted in. -/
def ticksLeft (cfg : TickEngineConfig R) (s : TickCore R) : Nat :=
  if s.health.mode = .brake then brakeTicks cfg - s.brake.brake.elapsedTicks
  else s.reel.ticksLeft cfg + brakeTicks cfg

structure Paced (cfg : RtCoreConfig R) (s : TickCore R) : Prop where
  settings : s.cfg = cfg
  timed : s.reel.rolls → s.reel.Timed cfg
  limits : s.brake.brake.cfg = cfg.tick
  tracked : s.control.Tracked

variable [IsStrictOrderedRing R] {lib : External R} {cfg : RtCoreConfig R} {s t : TickCore R}

omit [IsStrictOrderedRing R] in
theorem tick_tracked (rx : Option (RxSample R)) (pending : Option (Target R)) (superseded : Bool)
    (tracked : s.control.Tracked) : (s.tick lib rx pending superseded).2.control.Tracked := by
  refine tick_invariant (fun c d kept moved => moved.tracked kept) ?_ ?_ tracked
  · intro completes kept
    simp only [dwellCompletes, Bool.and_eq_true] at completes
    exact kept.recovered completes.1.1
  · intro kept
    rw [consumePending_control]
    cases pending with
    | none => exact kept
    | some t =>
      simp only [consume_control]
      split
      · exact kept
      · split
        · exact ⟨kept.guard, kept.recovery, by rintro ⟨⟩⟩
        · rename_i admitted
          refine kept.accept _ _ fun _ moving safed => admitted ?_
          exact refuses_of_refusesMotion moving (refusesMotion_of_safed safed)

/-- A tick that leaves a motion rolling, and brought no target, has taken one of its ticks. -/
theorem tick_timed (tickable : Tickable cfg.tick) {rx : Option (RxSample R)}
    {pending : Option (Target R)} {superseded : Bool} (paced : s.Paced cfg)
    (clocked : ∀ t ∈ pending, t.kind = .trajectory → t.Clocked cfg.tick)
    (goes : (s.tick lib rx pending superseded).2.reel.rolls) :
    (s.tick lib rx pending superseded).2.reel.Timed cfg ∧
      (pending = none → (s.tick lib rx pending superseded).2.reel.ticksLeft cfg.tick + 1 ≤
        s.reel.ticksLeft cfg.tick) := by
  rw [tick_reel] at goes ⊢
  have settings := (beforeConsume_cfg lib s rx).trans paced.settings
  have taken := consumePending_reel lib s rx pending superseded
  have timed : ((s.beforeConsume lib rx).consumePending lib pending superseded).reel.rolls →
      ((s.beforeConsume lib rx).consumePending lib pending superseded).reel.Timed cfg := by
    intro rolls
    rcases taken rolls with same | ⟨t, arrived, kind, spliced⟩
    · rw [same] at rolls ⊢
      exact paced.timed rolls
    · rw [spliced]
      exact splicedReel_timed lib tickable settings (clocked t arrived kind)
  have rolls : ((s.beforeConsume lib rx).consumePending lib pending superseded).reel.rolls := by
    by_contra idle
    exact dispatchMode_idle lib idle goes
  obtain ⟨next, fewer⟩ := dispatchMode_timed lib tickable timed goes
  refine ⟨next, fun alone => ?_⟩
  rcases taken rolls with same | ⟨t, arrived, -, -⟩
  · rwa [same] at fewer
  · rw [alone] at arrived
    cases arrived

omit [IsStrictOrderedRing R] in
theorem tick_limits (s : TickCore R) (rx : Option (RxSample R)) (pending : Option (Target R))
    (superseded : Bool) :
    (s.tick lib rx pending superseded).2.brake.brake.cfg = s.brake.brake.cfg := by
  have sent (u : TickCore R) (q : Vec6 R) :
      (u.sendCommand q).2.brake.brake.cfg = u.brake.brake.cfg := by
    simp only [sendCommand]
    split
    · rfl
    · split <;> rfl
  calc (s.tick lib rx pending superseded).2.brake.brake.cfg
      = (((s.beforeConsume lib rx).consumePending lib pending superseded).dispatchMode
          lib).2.brake.brake.cfg := sent _ _
    _ = ((s.beforeConsume lib rx).consumePending lib pending superseded).brake.brake.cfg :=
        dispatchMode_limits lib _
    _ = (s.beforeConsume lib rx).brake.brake.cfg := (consumePending_handover lib _ pending
        superseded).limits
    _ = (s.beforeDwell lib rx).brake.brake.cfg := recoveryDwell_limits _
    _ = s.brake.brake.cfg := (beforeDwell_handover lib s rx).limits

theorem apply_paced (tickable : Tickable cfg.tick) {i : Input R} (legal : s.clocked cfg i)
    (paced : s.Paced cfg) : (s.apply lib i).Paced cfg := by
  cases i with
  | tick rx pending superseded =>
    have clocked : ∀ t ∈ pending, t.kind = .trajectory → t.Clocked cfg.tick := by
      rintro t ⟨⟩
      exact legal
    exact ⟨(tick_cfg lib s rx pending superseded).trans paced.settings,
      fun goes => (tick_timed tickable paced clocked goes).1,
      (tick_limits s rx pending superseded).trans paced.limits,
      tick_tracked rx pending superseded paced.tracked⟩
  | beginStreaming qMeas =>
    refine ⟨paced.settings, ?_, paced.limits, ⟨?_, ?_, fun runs => absurd runs legal.1⟩⟩
    · rintro (mode | mode) <;> cases mode
    · simp [TickCore.apply, beginStreaming, control]
    · simp [TickCore.apply, beginStreaming, control, legal.2]
  | requestRecover =>
    simp only [TickCore.apply, requestRecover]
    split
    · rename_i safed
      exact ⟨paced.settings, paced.timed, paced.limits, paced.tracked.guard, fun _ => safed,
        paced.tracked.owned⟩
    · exact paced
  | requestStop | requestHold | kick | heartbeat =>
    exact ⟨paced.settings, paced.timed, paced.limits, paced.tracked⟩

omit [IsStrictOrderedRing R] in
theorem new_paced (cfg : RtCoreConfig R) : (new cfg).Paced cfg where
  settings := rfl
  timed := by rintro (mode | mode) <;> cases mode
  limits := rfl
  tracked := ⟨by simp [new, control], by simp [new, control], by simp [new, control]⟩

theorem paced_of_reachable (tickable : Tickable cfg.tick)
    (reached : (machine lib cfg).Reachable (clocked cfg) s) : s.Paced cfg := by
  refine reached.invariant (I := fun a => a.Paced cfg) (new_paced cfg) ?_
  intro a b i paced legal moved
  cases moved
  exact apply_paced tickable legal paced

omit [IsStrictOrderedRing R] in
theorem quiet_clocked {i : Input R} (quiets : quiet i) : s.clocked cfg i := by
  cases i with
  | tick rx pending superseded =>
    cases pending with
    | none => trivial
    | some t => cases quiets
  | beginStreaming qMeas => cases quiets
  | requestStop | requestHold | requestRecover | kick | heartbeat => trivial

/-- A brake that goes on has taken one of its ticks, or follows a motion. -/
theorem tick_brakes (tickable : Tickable cfg.tick) (paced : s.Paced cfg)
    (disarmed : s.health.mode = .brake → s.forceGuard.armed = false) {rx : Option (RxSample R)}
    {superseded : Bool}
    (braking : (s.tick lib rx none superseded).2.health.mode = .brake) :
    (s.tick lib rx none superseded).2.ticksLeft cfg.tick + 1 ≤ s.ticksLeft cfg.tick := by
  have sent (u : TickCore R) (q : Vec6 R) :
      (u.sendCommand q).2.health.mode = u.health.mode ∧ (u.sendCommand q).2.brake = u.brake := by
    simp only [sendCommand]
    split
    · exact ⟨rfl, rfl⟩
    · split <;> exact ⟨rfl, rfl⟩
  let c := (s.beforeConsume lib rx).consumePending lib none superseded
  have dispatch : (c.dispatchMode lib).2.health.mode = .brake := (sent _ _).1.symm.trans braking
  obtain ⟨before, counted, waits⟩ := dispatchMode_brakes lib dispatch
  have after : (s.tick lib rx none superseded).2.brake.brake.elapsedTicks =
      c.brake.brake.elapsedTicks + 1 :=
    (congrArg (fun b => b.brake.elapsedTicks) (sent _ _).2).trans counted
  have limits : c.brake.brake.cfg = cfg.tick :=
    ((recoveryDwell_limits _).trans (beforeDwell_handover lib s rx).limits).trans paced.limits
  have room : c.brake.brake.elapsedTicks + 1 + 1 < brakeTicks cfg.tick := by
    rw [limits] at waits
    exact timeoutTicks_left (itp_pos tickable.period) waits
  rw [ticksLeft, if_pos braking, after]
  by_cases early : s.health.mode = .brake
  · have same : c.brake.brake = s.brake.brake :=
      (beforeConsume_halts lib ⟨disarmed early, .inl early⟩ before).2
    rw [ticksLeft, if_pos early, ← same]
    omega
  · rw [ticksLeft, if_neg early]
    omega

/-- A tick that leaves the core in motion has taken one of the motion's ticks. -/
theorem tick_left (tickable : Tickable cfg.tick)
    (reached : (machine lib cfg).Reachable (clocked cfg) s) {rx : Option (RxSample R)} {superseded : Bool}
    (goes : (s.tick lib rx none superseded).2.inMotion) :
    (s.tick lib rx none superseded).2.ticksLeft cfg.tick + 1 ≤ s.ticksLeft cfg.tick := by
  have paced := paced_of_reachable tickable reached
  by_cases braking : (s.tick lib rx none superseded).2.health.mode = .brake
  · exact tick_brakes tickable paced (brake_disarmed reached) braking
  · have rolls : (s.tick lib rx none superseded).2.reel.rolls := by
      rcases goes with mode | mode | mode
      · exact .inl mode
      · exact .inr mode
      · exact absurd mode braking
    have fewer := (tick_timed tickable paced (by simp) rolls).2 rfl
    have rolled : s.health.mode ≠ .brake := by
      intro early
      have same : s.reel.rolls := by
        by_contra idle
        rw [tick_reel] at rolls
        refine dispatchMode_idle lib (fun goes => ?_) rolls
        rcases consumePending_reel lib s rx none superseded goes with same | ⟨t, arrived, -⟩
        · exact idle (same ▸ goes)
        · cases arrived
      rcases same with mode | mode
      · exact Mode.noConfusion (mode.symm.trans early)
      · exact Mode.noConfusion (mode.symm.trans early)
    rw [ticksLeft, if_neg braking, ticksLeft, if_neg rolled]
    omega

omit [IsStrictOrderedRing R] in
/-- No input but a target starts a servo stream. -/
theorem apply_unservoed {i : Input R} (quiets : quiet i) (rests : s.health.mode ≠ .servo) :
    (s.apply lib i).health.mode ≠ .servo := by
  cases i with
  | tick rx pending superseded =>
    cases pending with
    | some t => cases quiets
    | none =>
      refine tick_invariant (I := fun c => c.mode ≠ .servo) (fun c d still moved => ?_) ?_ ?_ rests
      · refine moved.invariant (I := fun c => c.mode ≠ .servo) still fun a b kept move => ?_
        cases move with
        | fault | park | brake | play | finish | rest =>
          simp [Control.faulted, Control.parked, Control.braking, Control.rested]
        | halt mode => simpa [Control.halted] using kept
      · intro _ _
        simp [Control.recovered, Control.rested]
      · exact fun kept => kept
  | beginStreaming qMeas => cases quiets
  | requestRecover =>
    simp only [TickCore.apply, requestRecover]
    split <;> exact rests
  | requestStop | requestHold | kick | heartbeat => exact rests

omit [IsStrictOrderedRing R] in
theorem apply_call_left {i : Input R} (quiets : quiet i) (call : isTick i = false) :
    (s.apply lib i).ticksLeft cfg.tick = s.ticksLeft cfg.tick := by
  cases i with
  | tick rx pending superseded => cases call
  | beginStreaming qMeas => cases quiets
  | requestRecover =>
    simp only [TickCore.apply, requestRecover]
    split <;> rfl
  | requestStop | requestHold | kick | heartbeat => rfl

/-- The ticks left rank the cores in motion. -/
def motionRanking (lib : External R) (tickable : Tickable cfg.tick) :
    Ranking (machine lib cfg) quiet isTick where
  inv := fun s => (machine lib cfg).Reachable (clocked cfg) s ∧ s.health.mode ≠ .servo
  busy := inMotion
  rank := ticksLeft cfg.tick
  keeps := by
    rintro s t i ⟨reached, rests⟩ quiets moved
    refine ⟨reached.step (quiet_clocked quiets) moved, ?_⟩
    cases moved
    exact apply_unservoed quiets rests
  raises := by
    rintro s t i ⟨reached, -⟩ - quiets ⟨⟩ goes
    cases ticked : isTick i with
    | false =>
      rw [apply_call_left quiets ticked]
      exact le_rfl
    | true =>
      cases i with
      | tick rx pending superseded =>
        cases quiets
        exact tick_left tickable reached goes
      | beginStreaming qMeas => cases quiets
      | requestStop | requestHold | requestRecover | kick | heartbeat => cases ticked

omit [IsStrictOrderedRing R] in
theorem ticksLeft_le (tickable : Tickable cfg.tick) (paced : s.Paced cfg) (moving : s.inMotion) :
    s.ticksLeft cfg.tick ≤ motionTicks cfg.tick s.splice.capturedTarget := by
  unfold ticksLeft motionTicks
  by_cases braking : s.health.mode = .brake
  · rw [if_pos braking]
    omega
  have rolls : s.reel.rolls := by
    rcases moving with mode | mode | mode
    · exact .inl mode
    · exact .inr mode
    · exact absurd mode braking
  have ticks := tickable.period
  rw [if_neg braking]
  cases (paced.timed rolls).paced with
  | splicing mode _ _ _ fits =>
    have fits : s.splice.capture.count ≤ CapturePath.kMaxKnots := fits
    rw [Reel.ticksLeft_splicing mode]
    simp only [reel]
    omega
  | playing mode phase ends early _ =>
    have whole : ticksUntil (itpNs cfg.tick.itpS) s.splice.capturedTarget.endTauNs
        s.playback.tauNs ≤ s.splice.capturedTarget.playTicks cfg.tick :=
      ticksUntil_mono ticks le_rfl early
    rw [Reel.ticksLeft_playing mode phase]
    simp only [reel]
    omega
  | blending mode phase length early _ =>
    have whole : ticksUntil (itpNs cfg.tick.itpS) s.qdBlend.durNs s.playback.tauBlendNs ≤
        blendTicks cfg.tick := ticksUntil_mono ticks length early
    rw [Reel.ticksLeft_blending mode phase]
    simp only [reel]
    omega
  | settling mode phase _ =>
    rw [Reel.ticksLeft_settling mode phase]
    simp only [reel]
    omega

omit [IsStrictOrderedRing R] in
/-- The tick core takes every input. -/
theorem run_total (lib : External R) (cfg : RtCoreConfig R) (s : TickCore R)
    (inputs : List (Input R)) : ∃ t, (machine lib cfg).run s inputs = some t := by
  induction inputs generalizing s with
  | nil => exact ⟨s, rfl⟩
  | cons i rest ih => exact ih (s.apply lib i)

omit [IsStrictOrderedRing R] in
/-- What rests and plays nothing runs nothing. -/
theorem Paced.resting (paced : s.Paced cfg) (rests : ¬ s.inMotion)
    (unservoed : s.health.mode ≠ .servo) : s.active.status ≠ .running := by
  intro runs
  rcases paced.tracked.owned runs with mode | mode | mode | ⟨mode, -⟩
  · exact rests (.inl mode)
  · exact rests (.inr (.inl mode))
  · exact unservoed mode
  · exact rests (.inr (.inr mode))

omit [IsStrictOrderedRing R] in
/-- Without a target nothing is taken up again. -/
theorem apply_idle {i : Input R} (quiets : quiet i) (idle : s.active.status ≠ .running) :
    (s.apply lib i).active.status ≠ .running := by
  cases i with
  | tick rx pending superseded =>
    cases pending with
    | some t => cases quiets
    | none =>
      refine tick_invariant (I := fun c => ¬ c.running) (fun c d still moved => moved.idle still)
        ?_ ?_ idle
      · exact fun _ kept => kept
      · exact fun kept => kept
  | beginStreaming qMeas => cases quiets
  | requestRecover =>
    simp only [TickCore.apply, requestRecover]
    split <;> exact idle
  | requestStop | requestHold | kick | heartbeat => exact idle

omit [IsStrictOrderedRing R] in
theorem run_idle {inputs : List (Input R)} (quiets : ∀ i ∈ inputs, quiet i)
    (idle : s.active.status ≠ .running) (ran : (machine lib cfg).run s inputs = some t) :
    t.active.status ≠ .running := by
  induction inputs generalizing s with
  | nil =>
    cases ran
    exact idle
  | cons i rest ih =>
    exact ih (fun j member => quiets j (List.mem_cons_of_mem i member))
      (apply_idle (quiets i List.mem_cons_self) idle) ran

instance (cfg : TickEngineConfig R) (t : Target R) : Decidable (t.Clocked cfg) :=
  decidable_of_iff (0 ≤ t.endTauNs ∧ t.endTauNs + itpNs cfg.itpS ≤ kInt64Max)
    ⟨fun both => ⟨both.1, both.2⟩, fun both => ⟨both.forward, both.fits⟩⟩

instance (cfg : RtCoreConfig R) (s : TickCore R) (i : Input R) : Decidable (s.clocked cfg i) :=
  match i with
  | .tick _ (some t) _ => inferInstanceAs (Decidable (t.kind = .trajectory → t.Clocked cfg.tick))
  | .beginStreaming _ =>
    inferInstanceAs (Decidable (s.active.status ≠ .running ∧ s.recovery.pending = false))
  | .tick _ none _ | .requestStop | .requestHold | .requestRecover | .kick | .heartbeat =>
    inferInstanceAs (Decidable True)

theorem default_tickable : Tickable (defaultRtCoreConfig : RtCoreConfig ℚ).tick where
  period := by decide +kernel
  short := by decide +kernel
  blend := by decide +kernel

end TickCore

end Run

end AiroFanuc.RtCore
