import AiroFanuc.RtCore.AntiFlap
import AiroFanuc.RtCore.EpochSafety
import AiroFanuc.RtCore.FaultLatch

/-! The supervisor's heartbeat: a lapse is a fault on the tick that reaches its count, once,
and again behind a recovery; and no motion starts under it. -/

namespace AiroFanuc.RtCore

open TickEngine Library

namespace Liveness

variable {R : Type} [Field R] [LinearOrder R]

/-- The watchdog's own step. -/
def watched (l : Liveness) (cfg : RtCoreConfig R) (streaming : Bool) : Liveness :=
  if streaming && l.armed && !l.lostLatched then
    { l with
      ticksSinceHeartbeat := l.ticksSinceHeartbeat + 1
      lostLatched := l.lapses cfg streaming }
  else l

/-- A whole tick: the watchdog's step, and a recovery that reopens the lapse. -/
def ticked (l : Liveness) (cfg : RtCoreConfig R) (streaming recovers : Bool) : Liveness :=
  if recovers then { l.watched cfg streaming with lostLatched := false }
  else l.watched cfg streaming

theorem watched_beat (l : Liveness) (cfg : RtCoreConfig R) (streaming : Bool) :
    (l.watched cfg streaming).heartbeated = l.heartbeated ∧
      (l.watched cfg streaming).armed = l.armed := by
  unfold watched
  split
  · exact ⟨rfl, rfl⟩
  · exact ⟨rfl, rfl⟩

theorem ticked_beat (l : Liveness) (cfg : RtCoreConfig R) (streaming recovers : Bool) :
    (l.ticked cfg streaming recovers).heartbeated = l.heartbeated ∧
      (l.ticked cfg streaming recovers).armed = l.armed := by
  unfold ticked
  split
  · exact l.watched_beat cfg streaming
  · exact l.watched_beat cfg streaming

/-- Before the stream nothing is counted. -/
theorem ticked_idle {l : Liveness} (cfg : RtCoreConfig R) (recovers : Bool)
    (unlatched : l.lostLatched = false) : l.ticked cfg false recovers = l := by
  have still : l.watched cfg false = l := rfl
  rw [ticked, still]
  split
  · rw [← unlatched]
  · rfl

end Liveness

namespace TickCore

open Register

variable {R : Type} [Field R] [LinearOrder R] [FloorRing R]

/-! ### The heartbeat count over a whole tick -/

theorem handleSupervisorLiveness_liveness (s : TickCore R) :
    s.handleSupervisorLiveness.liveness = s.liveness.watched s.cfg s.anchor.streaming := by
  simp only [handleSupervisorLiveness, Liveness.watched]
  by_cases watched : s.anchor.streaming = false ∨ s.liveness.armed = false
  · rw [if_pos watched, if_neg]
    rcases watched with off | off <;> simp [off]
  · rw [if_neg watched]
    simp only [not_or, Bool.not_eq_false] at watched
    cases latched : s.liveness.lostLatched with
    | true => simp
    | false =>
      simp only [watched, Liveness.lapses, latched, Bool.not_false, Bool.and_self, if_true,
        Bool.true_and, Bool.false_eq_true, if_false, itp]
      by_cases late : s.cfg.supervisorLostS ≤
          ((s.liveness.ticksSinceHeartbeat + 1 : Nat) : R) * s.cfg.tick.itpS
      · rw [if_pos late, decide_eq_true late]
        exact enterFault_liveness _ _ _ _
      · rw [if_neg late, decide_eq_false late]

omit [FloorRing R] in
theorem afterLiveness_liveness (lib : External R) (s : TickCore R) (rx : Option (RxSample R)) :
    (s.afterLiveness lib rx).liveness = s.liveness := by
  cases rx with
  | none => rfl
  | some r =>
    simp only [afterLiveness, handleForceGuard]
    split
    · rfl
    · split
      · simp only [beginBrake, resolveActive_shape, emit]
      · rfl

theorem beforeDwell_liveness (lib : External R) (s : TickCore R) (rx : Option (RxSample R)) :
    (s.beforeDwell lib rx).liveness =
      s.answerHeartbeat.liveness.watched s.cfg s.anchor.streaming := by
  have liveness : (s.beforeLiveness rx).liveness = s.answerHeartbeat.liveness := by
    rw [beforeLiveness, handleDeadman_liveness, handleRxSilence_liveness]
    apply answerHeartbeat_liveness
    rw [answerKick_liveness, answerHold_liveness, answerStop_liveness, ingestRx_liveness]
    rfl
  have frame : (s.beforeLiveness rx).frame =
      { (s.countTick.ingestRx rx).frame with stopRequested := false } := by
    rw [beforeLiveness, handleDeadman_frame, handleRxSilence_frame, answerHeartbeat_frame,
      answerKick_frame, answerHold_frame, answerStop_frame]
  have cfg : (s.beforeLiveness rx).cfg = s.cfg :=
    (congrArg Frame.cfg frame).trans (ingestRx_cfg s.countTick rx)
  have streaming : (s.beforeLiveness rx).anchor.streaming = s.anchor.streaming :=
    (congrArg Frame.streaming frame).trans (ingestRx_streaming s.countTick rx)
  rw [beforeDwell_eq, afterLiveness_liveness, handleSupervisorLiveness_liveness, liveness, cfg,
    streaming]

theorem recoveryDwell_liveness (s : TickCore R) :
    s.recoveryDwell.liveness =
      if s.dwellCompletes then { s.liveness with lostLatched := false } else s.liveness := by
  cases completes : s.dwellCompletes with
  | true =>
    rw [recoveryDwell_completes completes, if_pos rfl]
    simp only [completeRecovery, goHold, emit]
    split <;> rfl
  | false =>
    rw [recoveryDwell_waits completes]
    rfl

theorem consume_liveness (lib : External R) (s : TickCore R) (t : Target R)
    (supersededByStop : Bool) : (s.consume lib t supersededByStop).2.liveness = s.liveness := by
  by_cases absent : t.kind = .none
  · rw [(consume_ignored absent).2]
  by_cases refusing : s.refuses lib t supersededByStop = true
  · rcases (consume_refused absent refusing).2 with ⟨reason, refused⟩ | refused | refused <;>
      rw [refused]
    · rfl
    · rfl
    · rfl
  · rw [(consume_admitted absent (Bool.eq_false_of_not_eq_true refusing)).2]
    cases kind : t.kind with
    | none => exact absurd kind absent
    | hold =>
      simp only [consumeHold, emit]
      split <;> simp only [beginBrake, resolveActive_shape]
    | brake => simp only [consumeBrake, emit, resolveActive_shape]
    | servo =>
      simp only [consumeServo, emit]
      split <;> simp only [resolveActive_shape]
    | trajectory => simp only [acceptTrajectory, planCapture, emit, resolveActive_shape]

theorem dispatchTrajectory_liveness (s : TickCore R) :
    s.dispatchTrajectory.2.liveness = s.liveness := by
  unfold dispatchTrajectory
  cases s.playback.trajPhase with
  | playing =>
    simp only
    split
    · split <;> rfl
    · rfl
  | endBlend =>
    simp only
    split <;> rfl
  | settling =>
    simp only
    split <;> simp only [goHold, resolveActive_shape]

theorem dispatchMode_liveness (lib : External R) (s : TickCore R) :
    (s.dispatchMode lib).2.liveness = s.liveness := by
  unfold dispatchMode
  cases s.health.mode with
  | streamDown | preroll | rxSilent | hold => rfl
  | capture =>
    simp only
    split
    · rfl
    · exact dispatchTrajectory_liveness (s.installTrajectory s.splice.capturedTarget)
  | trajectory => exact dispatchTrajectory_liveness s
  | servo =>
    have reissued : s.reissueServo.liveness = s.liveness := by
      simp only [reissueServo]
      split <;> rfl
    simp only [dispatchServo]
    split
    · exact (enterFault_liveness _ _ _ _).trans reissued
    · exact reissued
  | brake =>
    simp only [dispatchBrake]
    split
    · exact enterFault_liveness _ _ _ _
    · split
      · split <;> simp only [goHold, resolveActive_shape]
      · rfl
  | safeFollow =>
    unfold dispatchSafeFollow
    cases s.follow.phase with
    | ramp => rfl
    | reanchor =>
      simp only
      split
      · rfl
      · split <;> rfl

omit [FloorRing R] in
theorem sendCommand_liveness (s : TickCore R) (qDesired : Vec6 R) :
    (s.sendCommand qDesired).2.liveness = s.liveness := by
  simp only [sendCommand]
  split
  · rfl
  · split <;> rfl

/-- A tick takes the beat, counts itself, and a recovery reopens the lapse. -/
theorem tick_liveness (lib : External R) (s : TickCore R) (rx : Option (RxSample R))
    (pending : Option (Target R)) (consumeSuperseded : Bool) :
    (s.tick lib rx pending consumeSuperseded).2.liveness =
      s.answerHeartbeat.liveness.ticked s.cfg s.anchor.streaming
        (s.recovers lib rx pending consumeSuperseded) := by
  have consumed : ((s.beforeConsume lib rx).consumePending lib pending consumeSuperseded).liveness =
      (s.beforeConsume lib rx).liveness := by
    cases pending with
    | none => rfl
    | some t => exact consume_liveness lib _ t consumeSuperseded
  rw [recovers_iff]
  simp only [tick]
  rw [sendCommand_liveness, dispatchMode_liveness, consumed, beforeConsume, recoveryDwell_liveness,
    beforeDwell_liveness, Liveness.ticked]

/-! ### The lapse -/

theorem routine_bump {cause : FaultReason} (routine : TickCore.routine cause) :
    cause.bump ≠ .supervisorLost := by
  cases cause with
  | supervisorLost => exact absurd rfl routine
  | _ => decide

theorem handleSupervisorLiveness_losses (s : TickCore R) :
    s.handleSupervisorLiveness.health.bumpCounts .supervisorLost =
      s.health.bumpCounts .supervisorLost +
        if s.liveness.lapses s.cfg s.anchor.streaming then 1 else 0 := by
  cases lapses : s.liveness.lapses s.cfg s.anchor.streaming with
  | true =>
    simp only [Liveness.lapses, Bool.and_eq_true, Bool.not_eq_true', decide_eq_true_eq] at lapses
    obtain ⟨⟨⟨streams, armed⟩, unlatched⟩, late⟩ := lapses
    simp only [handleSupervisorLiveness, streams, armed, unlatched, itp, Bool.true_eq_false,
      Bool.false_eq_true, or_self, if_false]
    rw [if_pos late]
    simp only [emit, enterFault, resolveActive_shape, bumpEpoch, Function.update_self, if_true]
  | false =>
    simp only [handleSupervisorLiveness]
    split
    · rfl
    · rename_i watched
      split
      · rfl
      · rename_i unlatched
        simp only [not_or, Bool.not_eq_false, Bool.not_eq_true] at watched unlatched
        simp only [Liveness.lapses, watched, unlatched, Bool.not_false, Bool.and_self,
          Bool.true_and, decide_eq_false_iff_not] at lapses
        rw [if_neg Bool.false_ne_true, if_neg (by exact lapses)]
        rfl

/-- Whether the supervisor is reported lost on this tick. -/
def losesSupervisor (lib : External R) (s : TickCore R) (rx : Option (RxSample R))
    (pending : Option (Target R)) (consumeSuperseded : Bool) : Bool :=
  decide ((s.tick lib rx pending consumeSuperseded).2.health.bumpCounts .supervisorLost ≠
    s.health.bumpCounts .supervisorLost)

theorem recoveryDwell_losses (s : TickCore R) :
    s.recoveryDwell.health.bumpCounts .supervisorLost = s.health.bumpCounts .supervisorLost := by
  cases completes : s.dwellCompletes with
  | true =>
    have counts := congrArg Register.bumpCounts (completeRecovery_register s.countDwell)
    rw [recoveryDwell_completes completes]
    exact (congrFun counts .supervisorLost).trans (bumped_apply _ .recoveryComplete .supervisorLost)
  | false => rw [recoveryDwell_waits completes]

/-- The loss is counted exactly where the watchdog lapses. -/
theorem tick_losses (lib : External R) (s : TickCore R) (rx : Option (RxSample R))
    (pending : Option (Target R)) (consumeSuperseded : Bool) :
    (s.tick lib rx pending consumeSuperseded).2.health.bumpCounts .supervisorLost =
      s.health.bumpCounts .supervisorLost + if s.supervisorLapses then 1 else 0 := by
  have other (c : FaultReason) (allowed : routine c) : c.bump ≠ .supervisorLost :=
    routine_bump allowed
  have before := (beforeLiveness_entries s rx).counts_kept other (by decide)
  have guarded : Entries routine (s.beforeLiveness rx).handleSupervisorLiveness.register _ :=
    afterLiveness_entries lib (s.beforeLiveness rx).handleSupervisorLiveness rx
  have behind := guarded.counts_kept other (by decide)
  have after := (afterDwell_entries lib s rx pending consumeSuperseded).counts_kept other (by decide)
  have dwelt := recoveryDwell_losses (s.beforeDwell lib rx)
  have lapse := supervisorLapses_kept s rx rfl (b := s.beforeLiveness rx) rfl
  have watched := handleSupervisorLiveness_losses (s.beforeLiveness rx)
  rw [lapse] at watched
  simp only [register] at before behind after
  calc
    _ = (s.beforeConsume lib rx).health.bumpCounts .supervisorLost := after
    _ = (s.beforeDwell lib rx).health.bumpCounts .supervisorLost := dwelt
    _ = (s.beforeLiveness rx).handleSupervisorLiveness.health.bumpCounts .supervisorLost := behind
    _ = (s.beforeLiveness rx).health.bumpCounts .supervisorLost +
        if s.supervisorLapses then 1 else 0 := watched
    _ = s.health.bumpCounts .supervisorLost + if s.supervisorLapses then 1 else 0 := by rw [before]

theorem losesSupervisor_iff (lib : External R) (s : TickCore R) (rx : Option (RxSample R))
    (pending : Option (Target R)) (consumeSuperseded : Bool) :
    s.losesSupervisor lib rx pending consumeSuperseded = s.supervisorLapses := by
  rw [losesSupervisor, tick_losses]
  cases s.supervisorLapses with
  | true => exact decide_eq_true (Nat.succ_ne_self _)
  | false => exact decide_eq_false fun changed => changed rfl

/-- A fault that no dwell ends on a tick is still there after it. -/
theorem tick_keeps_fault (lib : External R) {s : TickCore R} {rx : Option (RxSample R)}
    (latched : s.health.fault ≠ .none) (waits : (s.beforeDwell lib rx).dwellCompletes = false)
    (pending : Option (Target R)) (consumeSuperseded : Bool) :
    (s.tick lib rx pending consumeSuperseded).2.health.fault ≠ .none := by
  have early := (beforeDwell_moves lib s rx).fault_latched latched
  apply (tick_moves lib s rx pending consumeSuperseded).fault_latched
  rw [consumePending_fault, beforeConsume_control, waits]
  exact early

/-- A lapse faults the core in front of the dwell, and no dwell ends that tick. -/
theorem lapse_faults (lib : External R) {s : TickCore R} (rx : Option (RxSample R))
    (lapses : s.supervisorLapses = true) :
    (s.beforeDwell lib rx).control.fault = .supervisorLost ∧
      (s.beforeDwell lib rx).dwellCompletes = false := by
  constructor
  · have lapse := supervisorLapses_kept s rx rfl (b := s.beforeLiveness rx) rfl
    rw [lapses] at lapse
    have lost := congrArg Control.fault (handleSupervisorLiveness_lapsed lapse)
    rw [beforeDwell_eq]
    cases rx with
    | none => exact lost
    | some r => exact (handleForceGuard_fault lib _ r).trans lost
  · by_contra completes
    have alive := (dwellCompletes_quiet (Bool.eq_true_of_not_eq_false completes)).2.1
    rw [lapses] at alive
    cases alive

theorem lapse_keeps_fault {lib : External R} {s : TickCore R} {rx : Option (RxSample R)}
    (lapses : s.supervisorLapses = true) (pending : Option (Target R)) (consumeSuperseded : Bool) :
    (s.tick lib rx pending consumeSuperseded).2.health.fault ≠ .none := by
  obtain ⟨lost, waits⟩ := lapse_faults lib rx lapses
  apply (tick_moves lib s rx pending consumeSuperseded).fault_latched
  rw [consumePending_fault, beforeConsume_control, waits]
  exact fun clear => FaultReason.noConfusion (lost.symm.trans clear)

/-- Under a fault that no dwell ends, or behind the one that does, no motion of an epoch
published before the tick starts. -/
theorem consume_fenced {lib : External R} {s : TickCore R} {rx : Option (RxSample R)} {t : Target R}
    (fenced : (s.beforeDwell lib rx).dwellCompletes = true ∨
      (s.beforeDwell lib rx).control.fault ≠ .none)
    (moving : t.kind ≠ .hold) (published : t.epoch ≤ s.health.epoch) (supersededByStop : Bool) :
    ((s.beforeConsume lib rx).consume lib t supersededByStop).1.accepted = false := by
  have control := beforeConsume_control lib s rx
  by_contra accepted
  rw [Bool.not_eq_false] at accepted
  by_cases completes : (s.beforeDwell lib rx).dwellCompletes = true
  · have fresh := accepted_epoch accepted
    have later := (beforeDwell_entries lib s rx).epoch_mono
    have counted :=
      congrArg Register.epoch (completeRecovery_register (s.beforeDwell lib rx).countDwell)
    rw [← recoveryDwell_completes completes] at counted
    have bumped : (s.beforeConsume lib rx).health.epoch =
      (s.beforeDwell lib rx).health.epoch + 1 := counted
    simp only [register] at later
    omega
  · rw [if_neg completes] at control
    have faulted : (s.beforeConsume lib rx).health.fault ≠ .none := fun clear =>
      (fenced.resolve_left completes) ((congrArg Control.fault control).symm.trans clear)
    rw [consume_accepted, refuses_of_fault faulted moving] at accepted
    simp at accepted

end TickCore

/-! ### Runs -/

/-- The beat the next tick takes, the ticks since the last one it took, that tick counted,
and whether the last tick completed a recovery. -/
structure BeatWatch (R : Type) where
  core : TickCore R
  owed : Bool
  quiet : Option Nat
  recovered : Bool

namespace BeatWatch

variable {R : Type} [Field R] [LinearOrder R] [FloorRing R]

/-- The count this tick starts from: none until the first beat. -/
def taken (w : BeatWatch R) : Option Nat := if w.owed then some 0 else w.quiet

/-- The count this tick makes. -/
def counted (w : BeatWatch R) : Option Nat := w.taken.map (· + 1)

def step (lib : External R) (w : BeatWatch R) (i : Input R) : BeatWatch R :=
  match i with
  | .tick rx pending consumeSuperseded =>
    { core := (w.core.tick lib rx pending consumeSuperseded).2
      owed := false
      quiet := if w.core.anchor.streaming then w.counted else w.taken
      recovered := w.core.recovers lib rx pending consumeSuperseded }
  | .heartbeat => { w with core := w.core.heartbeat, owed := true }
  | .beginStreaming qMeas =>
    { w with core := w.core.beginStreaming qMeas, quiet := w.quiet.map fun _ => 0, recovered := false }
  | i => { w with core := w.core.apply lib i }

def machine (lib : External R) (cfg : RtCoreConfig R) : Machine (BeatWatch R) (Input R) where
  start := ⟨.new cfg, false, none, false⟩
  step := fun w i => some (w.step lib i)

/-- Any input at any moment. -/
def anyInput (_ : BeatWatch R) (_ : Input R) : Prop := True

/-- `n` ticks without a beat are worth `supervisorLostS`. -/
def Expired (cfg : RtCoreConfig R) (n : Nat) : Prop := cfg.supervisorLostS ≤ n * cfg.tick.itpS

/-- The `n`-th tick is the first one worth it. -/
def Reaches (cfg : RtCoreConfig R) (n : Nat) : Prop :=
  Expired cfg n ∧ ∀ m, 0 < m → m < n → ¬ Expired cfg m

/-- How the core's own count and latch follow the lapse. -/
inductive Tracks (cfg : RtCoreConfig R) (fault : FaultReason) (recovered : Bool) (l : Liveness)
    (n : Nat) : Prop
  | counting : l.lostLatched = false → l.ticksSinceHeartbeat = n →
      (∀ m, 0 < m → m ≤ n → ¬ Expired cfg m) → Tracks cfg fault recovered l n
  /-- The count stands still at a value that is worth the lapse. -/
  | latched : l.lostLatched = true → recovered = false → fault ≠ .none →
      0 < l.ticksSinceHeartbeat → l.ticksSinceHeartbeat ≤ n → Expired cfg l.ticksSinceHeartbeat →
      Tracks cfg fault recovered l n
  | reopened : l.lostLatched = false → recovered = true → 0 < l.ticksSinceHeartbeat →
      l.ticksSinceHeartbeat ≤ n → Expired cfg l.ticksSinceHeartbeat → Tracks cfg fault recovered l n

section Tracks

variable [IsStrictOrderedRing R] {cfg : RtCoreConfig R} {fault : FaultReason} {recovered : Bool}
  {l : Liveness} {n : Nat}

theorem Expired.mono (nonneg : 0 ≤ cfg.tick.itpS) {m : Nat} (expired : Expired cfg m) (le : m ≤ n) :
    Expired cfg n := by
  have more : (m : R) * cfg.tick.itpS ≤ n * cfg.tick.itpS :=
    mul_le_mul_of_nonneg_right (Nat.cast_le.mpr le) nonneg
  exact le_trans expired more

omit [FloorRing R] [IsStrictOrderedRing R] in
theorem lapses_iff (armed : l.armed = true) :
    l.lapses cfg true = true ↔ l.lostLatched = false ∧ Expired cfg (l.ticksSinceHeartbeat + 1) := by
  simp only [Liveness.lapses, armed, Bool.true_and, Bool.and_eq_true, Bool.not_eq_true',
    decide_eq_true_eq, Expired]

/-- When the watchdog lapses, in terms of the ticks without a beat. -/
theorem Tracks.lapses (tracks : Tracks cfg fault recovered l n) (nonneg : 0 ≤ cfg.tick.itpS)
    (armed : l.armed = true) : l.lapses cfg true = true ↔
      Expired cfg (n + 1) ∧ (Reaches cfg (n + 1) ∨ recovered = true) := by
  rw [lapses_iff armed]
  cases tracks with
  | counting unlatched same early =>
    rw [same]
    constructor
    · rintro ⟨-, expired⟩
      exact ⟨expired, .inl ⟨expired, fun m real less => early m real (Nat.le_of_lt_succ less)⟩⟩
    · exact fun expired => ⟨unlatched, expired.1⟩
  | latched latched waits faulted real le expired =>
    apply iff_of_false
    · rintro ⟨unlatched, -⟩
      rw [latched] at unlatched
      cases unlatched
    · rintro ⟨-, ⟨-, first⟩ | again⟩
      · exact first _ real (Nat.lt_succ_of_le le) expired
      · rw [waits] at again
        cases again
  | reopened unlatched again real le expired =>
    apply iff_of_true
    · exact ⟨unlatched, expired.mono nonneg (Nat.le_succ _)⟩
    · exact ⟨expired.mono nonneg (Nat.le_succ_of_le le), .inr again⟩

omit [FloorRing R] [IsStrictOrderedRing R] in
theorem Tracks.ticks_le (tracks : Tracks cfg fault recovered l n) : l.ticksSinceHeartbeat ≤ n := by
  cases tracks with
  | counting _ same _ => exact same.le
  | latched _ _ _ _ le _ => exact le
  | reopened _ _ _ le _ => exact le

/-- The count over a tick, once the beat owed to it is taken. -/
theorem Tracks.tick {fault' : FaultReason} {recovers : Bool}
    (tracks : Tracks cfg fault recovered l n) (nonneg : 0 ≤ cfg.tick.itpS) (armed : l.armed = true)
    (faults : l.lapses cfg true = true → fault' ≠ .none ∧ recovers = false)
    (kept : fault ≠ .none → recovers = false → fault' ≠ .none) :
    Tracks cfg fault' recovers (l.ticked cfg true recovers) (n + 1) := by
  unfold Liveness.ticked
  by_cases lapses : l.lapses cfg true = true
  · obtain ⟨faulted, rfl⟩ := faults lapses
    obtain ⟨unlatched, expired⟩ := (lapses_iff armed).mp lapses
    have watched : l.watched cfg true =
        { l with ticksSinceHeartbeat := l.ticksSinceHeartbeat + 1, lostLatched := true } := by
      simp only [Liveness.watched, armed, unlatched, lapses, Bool.not_false, Bool.and_self, if_true]
    rw [if_neg Bool.false_ne_true, watched]
    exact .latched rfl rfl faulted (Nat.succ_pos _) (Nat.succ_le_succ tracks.ticks_le) expired
  · have early : l.lostLatched = false → ¬ Expired cfg (l.ticksSinceHeartbeat + 1) :=
      fun unlatched expired => lapses ((lapses_iff armed).mpr ⟨unlatched, expired⟩)
    have watched (unlatched : l.lostLatched = false) : l.watched cfg true =
        { l with ticksSinceHeartbeat := l.ticksSinceHeartbeat + 1, lostLatched := false } := by
      simp only [Liveness.watched, armed, unlatched, Bool.eq_false_of_not_eq_true lapses,
        Bool.not_false, Bool.and_self, if_true]
    cases tracks with
    | counting unlatched same before =>
      rw [watched unlatched, ite_self]
      apply Tracks.counting rfl (congrArg Nat.succ same)
      intro m real le
      rcases Nat.le_succ_iff.mp le with older | rfl
      · exact before m real older
      · rw [← same]
        exact early unlatched
    | latched latched waits faulted real le expired =>
      have frozen : l.watched cfg true = l := by
        simp only [Liveness.watched, latched, Bool.not_true, Bool.and_false, Bool.false_eq_true,
          if_false]
      rw [frozen]
      cases recovers with
      | true => exact .reopened rfl rfl real (Nat.le_succ_of_le le) expired
      | false => exact .latched latched rfl (kept faulted rfl) real (Nat.le_succ_of_le le) expired
    | reopened unlatched again real le expired =>
      exact absurd (expired.mono nonneg (Nat.le_succ _)) (early unlatched)

end Tracks

structure Sound (cfg : RtCoreConfig R) (w : BeatWatch R) : Prop where
  settings : w.core.cfg = cfg
  beat : w.core.liveness.heartbeated = w.owed
  armed : w.core.liveness.armed = w.quiet.isSome
  tracks : ∀ n ∈ w.quiet, Tracks cfg w.core.health.fault w.recovered w.core.liveness n
  /-- Nothing is counted before the stream begins. -/
  idle : w.core.anchor.streaming = false →
    w.core.liveness.lostLatched = false ∧ w.core.liveness.ticksSinceHeartbeat = 0 ∧
      ∀ n ∈ w.quiet, n = 0

omit [FloorRing R] in
/-- A core that has counted nothing yet. -/
theorem tracks_zero {cfg : RtCoreConfig R} {fault : FaultReason} {recovered : Bool} {l : Liveness}
    (unlatched : l.lostLatched = false) (zero : l.ticksSinceHeartbeat = 0) :
    Tracks cfg fault recovered l 0 := by
  apply Tracks.counting unlatched zero
  intro m real le
  omega

omit [FloorRing R] in
/-- The invariant behind the answer to a beat. -/
theorem Sound.answered {cfg : RtCoreConfig R} {w : BeatWatch R} (sound : w.Sound cfg) :
    w.core.answerHeartbeat.liveness.heartbeated = false ∧
      w.core.answerHeartbeat.liveness.armed = w.taken.isSome ∧
      (∀ n ∈ w.taken,
        Tracks cfg w.core.health.fault w.recovered w.core.answerHeartbeat.liveness n) ∧
      (w.core.anchor.streaming = false →
        w.core.answerHeartbeat.liveness.lostLatched = false ∧
          w.core.answerHeartbeat.liveness.ticksSinceHeartbeat = 0 ∧ ∀ n ∈ w.taken, n = 0) := by
  have answer : w.core.answerHeartbeat.liveness =
      if w.owed then ⟨false, true, 0, false⟩ else w.core.liveness := by
    simp only [TickCore.answerHeartbeat, sound.beat]
    split <;> rfl
  have beat := sound.beat
  rw [answer]
  simp only [taken]
  cases owed : w.owed with
  | true =>
    refine ⟨rfl, rfl, ?_, fun _ => ⟨rfl, rfl, ?_⟩⟩
    · rintro n ⟨⟩
      exact tracks_zero rfl rfl
    · rintro n ⟨⟩
      rfl
  | false => exact ⟨beat.trans owed, sound.armed, sound.tracks, sound.idle⟩

theorem tick_sound [IsStrictOrderedRing R] {lib : External R} {cfg : RtCoreConfig R}
    {w : BeatWatch R} (sound : w.Sound cfg) (nonneg : 0 ≤ cfg.tick.itpS)
    (rx : Option (RxSample R)) (pending : Option (Target R)) (consumeSuperseded : Bool) :
    (w.step lib (.tick rx pending consumeSuperseded)).Sound cfg := by
  obtain ⟨beat, armed, tracks, idle⟩ := sound.answered
  have liveness := TickCore.tick_liveness lib w.core rx pending consumeSuperseded
  have frame := TickCore.tick_frame lib w.core rx pending consumeSuperseded
  have settings : (w.core.tick lib rx pending consumeSuperseded).2.cfg = cfg :=
    ((congrArg Frame.cfg frame).trans (TickCore.ingestRx_cfg w.core rx)).trans sound.settings
  have streaming : (w.core.tick lib rx pending consumeSuperseded).2.anchor.streaming =
      w.core.anchor.streaming :=
    (congrArg Frame.streaming frame).trans (TickCore.ingestRx_streaming w.core rx)
  have faults (lapses : w.core.supervisorLapses = true) :
      (w.core.tick lib rx pending consumeSuperseded).2.health.fault ≠ .none ∧
        w.core.recovers lib rx pending consumeSuperseded = false :=
    ⟨TickCore.lapse_keeps_fault lapses pending consumeSuperseded,
      (TickCore.recovers_iff lib w.core rx pending consumeSuperseded).trans
        (TickCore.lapse_faults lib rx lapses).2⟩
  have kept (latched : w.core.health.fault ≠ .none)
      (waits : w.core.recovers lib rx pending consumeSuperseded = false) :
      (w.core.tick lib rx pending consumeSuperseded).2.health.fault ≠ .none :=
    TickCore.tick_keeps_fault lib latched
      ((TickCore.recovers_iff lib w.core rx pending consumeSuperseded).symm.trans waits) pending
      consumeSuperseded
  simp only [TickCore.supervisorLapses, sound.settings] at faults
  rw [sound.settings] at liveness
  simp only [step]
  generalize (w.core.tick lib rx pending consumeSuperseded).2 = after at *
  generalize w.core.recovers lib rx pending consumeSuperseded = recovers at *
  generalize w.core.answerHeartbeat.liveness = l at *
  cases streams : w.core.anchor.streaming with
  | true =>
    rw [streams] at liveness faults streaming
    constructor
    · exact settings
    · rw [liveness, ← beat]
      exact (l.ticked_beat cfg true recovers).1
    · refine (congrArg Liveness.armed liveness).trans ?_
      exact (l.ticked_beat cfg true recovers).2.trans (armed.trans (Option.isSome_map ..).symm)
    · intro n member
      obtain ⟨older, since, rfl⟩ := Option.mem_map.mp member
      have alive : l.armed = true := armed.trans (Option.isSome_of_mem since)
      rw [liveness]
      exact (tracks older since).tick nonneg alive faults kept
    · intro off
      rw [streaming] at off
      cases off
  | false =>
    obtain ⟨unlatched, zero, fresh⟩ := idle streams
    have still : after.liveness = l := by
      rw [liveness, streams]
      exact Liveness.ticked_idle cfg recovers unlatched
    constructor
    · exact settings
    · rw [still, beat]
    · rw [still, armed]
      rfl
    · intro n member
      rw [fresh n member, still]
      exact tracks_zero unlatched zero
    · intro _
      rw [still]
      exact ⟨unlatched, zero, fresh⟩

theorem step_sound [IsStrictOrderedRing R] {lib : External R} {cfg : RtCoreConfig R}
    {w : BeatWatch R} {i : Input R} (sound : w.Sound cfg) (nonneg : 0 ≤ cfg.tick.itpS) :
    (w.step lib i).Sound cfg := by
  cases i with
  | tick rx pending consumeSuperseded => exact tick_sound sound nonneg rx pending consumeSuperseded
  | beginStreaming qMeas =>
    constructor
    · exact sound.settings
    · exact sound.beat
    · exact sound.armed.trans (Option.isSome_map ..).symm
    · intro n member
      obtain ⟨older, -, rfl⟩ := Option.mem_map.mp member
      exact tracks_zero rfl rfl
    · nofun
  | requestRecover =>
    simp only [step, TickCore.apply, TickCore.requestRecover]
    split
    · exact ⟨sound.settings, sound.beat, sound.armed, sound.tracks, sound.idle⟩
    · exact sound
  | heartbeat =>
    refine ⟨sound.settings, rfl, sound.armed, ?_, sound.idle⟩
    intro n member
    cases sound.tracks n member with
    | counting unlatched same early => exact .counting unlatched same early
    | latched latched waits faulted real le expired =>
      exact .latched latched waits faulted real le expired
    | reopened unlatched again real le expired => exact .reopened unlatched again real le expired
  | requestStop | requestHold | kick =>
    exact ⟨sound.settings, sound.beat, sound.armed, sound.tracks, sound.idle⟩

theorem start_sound (lib : External R) (cfg : RtCoreConfig R) :
    (machine lib cfg).start.Sound cfg where
  settings := rfl
  beat := rfl
  armed := rfl
  tracks := nofun
  idle := fun _ => ⟨rfl, rfl, nofun⟩

/-- What a reachable state that streams promises of the tick that comes next. -/
structure Watchdog (lib : External R) (cfg : RtCoreConfig R) (w : BeatWatch R)
    (rx : Option (RxSample R)) (pending : Option (Target R)) (consumeSuperseded : Bool) : Prop where
  /-- Lost on the tick that reaches the count, and past it only right behind a recovery. -/
  trips : w.core.losesSupervisor lib rx pending consumeSuperseded = true ↔
    ∃ n ∈ w.counted, Expired cfg n ∧ (Reaches cfg n ∨ w.recovered = true)
  reports : w.core.losesSupervisor lib rx pending consumeSuperseded = true →
    (w.core.beforeDwell lib rx).health.fault = .supervisorLost
  /-- An epoch published so far is no later than the core's own. -/
  fences : ∀ n ∈ w.counted, Expired cfg n → ∀ t ∈ pending,
    t.kind = .trajectory ∨ t.kind = .servo ∨ t.kind = .brake → t.epoch ≤ w.core.health.epoch →
      ((w.core.beforeConsume lib rx).consume lib t consumeSuperseded).1.accepted = false

/-- Whatever the beats, the modes and the faults: the supervisor is lost on exactly the tick
that reaches the count, again only behind a recovery, and no motion starts meanwhile. -/
theorem supervisor_lost_on_exact_tick [IsStrictOrderedRing R] (lib : External R)
    (cfg : RtCoreConfig R) (nonneg : 0 ≤ cfg.tick.itpS) (w : BeatWatch R)
    (reached : (machine lib cfg).Reachable anyInput w) (streams : w.core.anchor.streaming = true)
    (rx : Option (RxSample R)) (pending : Option (Target R)) (consumeSuperseded : Bool) :
    w.Watchdog lib cfg rx pending consumeSuperseded := by
  have sound : w.Sound cfg := by
    apply reached.invariant (start_sound lib cfg)
    intro a b i sound _ moved
    cases moved
    exact step_sound sound nonneg
  obtain ⟨-, armed, tracks, -⟩ := sound.answered
  have lapse : w.core.supervisorLapses = w.core.answerHeartbeat.liveness.lapses cfg true := by
    rw [TickCore.supervisorLapses, sound.settings, streams]
  have trips : w.core.supervisorLapses = true ↔
      ∃ n ∈ w.counted, Expired cfg n ∧ (Reaches cfg n ∨ w.recovered = true) := by
    rw [lapse]
    cases taken : w.taken with
    | none =>
      rw [taken] at armed
      have unarmed : w.core.answerHeartbeat.liveness.armed = false := armed
      simp only [Liveness.lapses, unarmed, counted, taken, Bool.and_false, Bool.false_and,
        Bool.false_eq_true, Option.map_none, Option.not_mem_none, false_and, exists_false]
    | some n =>
      have alive : w.core.answerHeartbeat.liveness.armed = true := by
        rw [armed, taken]
        rfl
      rw [(tracks n taken).lapses nonneg alive, counted, taken]
      simp only [Option.map_some, Option.mem_some_iff, exists_eq_left']
  constructor
  · rw [TickCore.losesSupervisor_iff]
    exact trips
  · intro lost
    rw [TickCore.losesSupervisor_iff] at lost
    exact (TickCore.lapse_faults lib rx lost).1
  · intro n member expired t present kind published
    have moving : t.kind ≠ .hold := by
      rcases kind with kind | kind | kind <;>
        · rw [kind]
          decide
    refine TickCore.consume_fenced ?_ moving published consumeSuperseded
    by_cases lapses : w.core.supervisorLapses = true
    · rw [(TickCore.lapse_faults lib rx lapses).1]
      exact .inr FaultReason.noConfusion
    · -- The count is over and no fault is raised now: the one raised earlier still stands.
      obtain ⟨older, since, rfl⟩ := Option.mem_map.mp member
      have latched : w.core.health.fault ≠ .none := by
        cases tracks older since with
        | counting unlatched same early =>
          refine absurd (trips.mpr ⟨older + 1, member, expired, .inl ⟨expired, ?_⟩⟩) lapses
          intro m real less
          exact early m real (Nat.le_of_lt_succ less)
        | latched _ _ faulted _ _ _ => exact faulted
        | reopened _ again _ _ _ =>
          exact absurd (trips.mpr ⟨older + 1, member, expired, .inr again⟩) lapses
      exact .inr ((TickCore.beforeDwell_moves lib w.core rx).fault_latched latched)

instance (w : BeatWatch R) (i : Input R) : Decidable (anyInput w i) :=
  inferInstanceAs (Decidable True)

/-- Two ticks without a beat are a lapse, one clear tick a dwell. -/
def lapseConfig : RtCoreConfig ℚ :=
  { (defaultRtCoreConfig : RtCoreConfig ℚ) with supervisorLostS := 16 / 1000, antiflapDwellMs := 8 }

/-- Recovered with the supervisor still silent: lost again on the next tick, which refuses the
servo target tagged right behind the recovery. -/
theorem supervisor_lost_on_exact_tick_reopened : ∃ w : BeatWatch ℚ,
    w.Watchdog benchExternal lapseConfig (some (benchRx benchGates 0)) (some (benchServo 1 2)) false ∧
      w.recovered = true ∧ w.counted = some 4 ∧
      w.core.losesSupervisor benchExternal (some (benchRx benchGates 0)) (some (benchServo 1 2))
        false = true := by
  obtain ⟨w, reached, tested⟩ := Machine.reachable_of_test (machine benchExternal lapseConfig)
    anyInput
    [.beginStreaming 0, .heartbeat, benchTick none, benchTick none, .requestRecover, benchTick none]
    (fun w : BeatWatch ℚ => w.core.anchor.streaming && w.recovered &&
      decide (w.counted = some 4) && w.core.losesSupervisor benchExternal
        (some (benchRx benchGates 0)) (some (benchServo 1 2)) false)
    (by decide +kernel) (by decide +kernel)
  simp only [Bool.and_eq_true, decide_eq_true_eq] at tested
  obtain ⟨⟨⟨streams, recovered⟩, counted⟩, lost⟩ := tested
  have watchdog := supervisor_lost_on_exact_tick benchExternal lapseConfig (by decide +kernel) w
    reached streams (some (benchRx benchGates 0)) (some (benchServo 1 2)) false
  exact ⟨w, watchdog, recovered, counted, lost⟩

end BeatWatch

end AiroFanuc.RtCore
