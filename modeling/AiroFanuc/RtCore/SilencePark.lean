import AiroFanuc.RtCore.StandingGates

/-! The RX-silence park: who may un-park it, and where the arm resumes. -/

namespace AiroFanuc.RtCore

open TickEngine Library
open TickCore (gateEdges)

namespace Control

variable {c d : Control}

/-- No stage of a tick asks for a recovery. -/
theorem Move.recovery_kept (move : Move c d) (pending : d.recoveryPending = true) :
    c.recoveryPending = true := by
  cases move with
  | fault cause st real ended => simp [faulted] at pending
  | park => simpa [parked] using pending
  | brake st armed ended => simpa [braking] using pending
  | halt mode => simpa [halted] using pending
  | play mode => exact pending
  | finish st playing ended => simpa [rested] using pending
  | rest mode own => exact pending

theorem Moves.recovery_kept (moved : Moves c d) (pending : d.recoveryPending = true) :
    c.recoveryPending = true := by
  induction moved with
  | refl => exact pending
  | tail _ last ih => exact ih (last.recovery_kept pending)

end Control

section Resume

variable {R : Type} [Field R] [LinearOrder R]

/-- One slew step at most from the measured pose towards its place within the limits. -/
def resumePose (cfg : TickEngineConfig R) (qMeas : Vec6 R) : Vec6 R := fun j =>
  let goal := clampPos (cfg.limits.posLo j) (cfg.limits.posHi j) (qMeas j)
  let step := cfg.slewFactor * cfg.limits.v j * cfg.itpS
  if step < goal - qMeas j then qMeas j + step
  else if goal - qMeas j < -step then qMeas j - step
  else goal

end Resume

/-- One more tick without a beat makes the lapse. -/
def Liveness.lapses {R : Type} [Field R] [LinearOrder R] (l : Liveness) (cfg : RtCoreConfig R)
    (streaming : Bool) : Bool :=
  streaming && l.armed && !l.lostLatched &&
    decide (cfg.supervisorLostS ≤ ((l.ticksSinceHeartbeat + 1 : Nat) : R) * cfg.tick.itpS)

namespace TickCore

variable {R : Type} [Field R] [LinearOrder R] [FloorRing R]

/-- The supervisor's beat has been missing for `supervisorLostS` by the end of this tick. -/
def supervisorLapses (s : TickCore R) : Bool :=
  s.answerHeartbeat.liveness.lapses s.cfg s.anchor.streaming

/-- Status silence reaches the park threshold on this tick. -/
def silenceParks (s : TickCore R) (rx : Option (RxSample R)) : Bool :=
  s.anchor.streaming && rx.isNone &&
    decide (s.cfg.rxSilentParkMs ≤ ((s.rxWatch.ticksSinceRx + 1 : Nat) : R) * s.itp * 1000)

/-! ### The heartbeat count on its way to the watchdog -/

theorem enterFault_liveness (s : TickCore R) (cause : FaultReason) (bump : BumpReason)
    (st : MotionStatus) : (s.enterFault cause bump st).liveness = s.liveness := by
  simp only [enterFault, resolveActive_shape, bumpEpoch, emit]

theorem ingestRx_liveness (s : TickCore R) (rx : Option (RxSample R)) :
    (s.ingestRx rx).liveness = s.liveness := by
  cases rx with
  | none => rfl
  | some rx =>
    have observed : ((s.takeRx rx).observeGates rx.gates).liveness = s.liveness := by
      simp only [observeGates, gateEvents_shape]
      rfl
    simp only [ingestRx, processGates]
    split
    · split
      · exact observed
      · rw [enterFault_liveness, observed]
    · exact observed

omit [FloorRing R] in
theorem answerStop_liveness (s : TickCore R) : s.answerStop.liveness = s.liveness := by
  unfold answerStop
  split
  · cases mode : s.health.mode <;> simp only [mode, beginBrake, resolveActive_shape]
  · rfl

omit [FloorRing R] in
theorem answerHold_liveness (s : TickCore R) : s.answerHold.liveness = s.liveness := by
  unfold answerHold
  split
  · cases mode : s.health.mode <;> simp only [mode, beginBrake, resolveActive_shape]
  · rfl

omit [Field R] [LinearOrder R] [FloorRing R] in
theorem answerKick_liveness (s : TickCore R) : s.answerKick.liveness = s.liveness := by
  unfold answerKick
  split <;> rfl

omit [Field R] [LinearOrder R] [FloorRing R] in
theorem answerHeartbeat_liveness {s t : TickCore R} (same : s.liveness = t.liveness) :
    s.answerHeartbeat.liveness = t.answerHeartbeat.liveness := by
  unfold answerHeartbeat
  rw [same]
  split
  · rfl
  · exact same

theorem handleRxSilence_liveness (s : TickCore R) :
    s.handleRxSilence.liveness = s.liveness := by
  simp only [handleRxSilence]
  split
  · rfl
  · split
    · rfl
    · split
      · simp only [enterRxSilent, resolveActive_shape, bumpEpoch, emit, setCondition]
      · split
        · rw [enterFault_liveness]
          rfl
        · rfl

theorem handleDeadman_liveness (s : TickCore R) : s.handleDeadman.liveness = s.liveness := by
  simp only [handleDeadman]
  split
  · rfl
  · split
    · have faulted := enterFault_liveness { s with
        deadman.ticksSinceKick := s.deadman.ticksSinceKick + 1 } .watchdogExpired .deadmanTrip
        .stopped
      exact faulted
    · rfl

/-- Nothing in the mailbox asks for a recovery or answers one. -/
theorem consumePending_recovery (lib : External R) (s : TickCore R) (pending : Option (Target R))
    (consumeSuperseded : Bool) :
    (s.consumePending lib pending consumeSuperseded).control.recoveryPending =
      s.control.recoveryPending := by
  rw [consumePending_control]
  cases pending with
  | none => rfl
  | some t =>
    simp only [consume_control]
    split
    · rfl
    · split
      · rfl
      · cases t.kind with
        | hold =>
          simp only [Control.accept]
          split
          · simp [Control.braking]
          · rfl
        | none | trajectory | servo | brake => rfl

/-! ### A parked tick -/

theorem processGates_quiet {s : TickCore R} {g : Gates} (quiet : gateEdges s.lastGates g = []) :
    (s.processGates g).control = s.control := by
  simp only [processGates, quiet, ite_self, observeGates_control]

omit [FloorRing R] in
theorem answerStop_parked {s : TickCore R} (mode : s.health.mode = .rxSilent) :
    s.answerStop.control = s.control := by
  unfold answerStop
  split
  · simp only [mode, control]
  · rfl

omit [FloorRing R] in
theorem answerHold_parked {s : TickCore R} (mode : s.health.mode = .rxSilent) :
    s.answerHold.control = s.control := by
  unfold answerHold
  split
  · simp only [mode, control]
  · rfl

theorem handleSupervisorLiveness_alive {s : TickCore R}
    (alive : s.liveness.lapses s.cfg s.anchor.streaming = false) :
    s.handleSupervisorLiveness.control = s.control := by
  simp only [handleSupervisorLiveness]
  split
  · rfl
  · rename_i watched
    split
    · rfl
    · rename_i unlatched
      split
      · rename_i lapsed
        have late : s.cfg.supervisorLostS ≤
            ((s.liveness.ticksSinceHeartbeat + 1 : Nat) : R) * s.cfg.tick.itpS := lapsed
        simp only [not_or, Bool.not_eq_false, Bool.not_eq_true] at watched unlatched
        rw [Liveness.lapses, watched.1, watched.2, unlatched, decide_eq_true late] at alive
        cases alive
      · rfl

/-- On the way to the watchdog, nothing but a beat moves its count. -/
theorem supervisorLapses_kept (s : TickCore R) (rx : Option (RxSample R)) {a b : TickCore R}
    (answered : a = (s.countTick.ingestRx rx).answerStop.answerHold.answerKick.answerHeartbeat)
    (watched : b = a.handleRxSilence.handleDeadman) :
    b.liveness.lapses b.cfg b.anchor.streaming = s.supervisorLapses := by
  have liveness : b.liveness = s.answerHeartbeat.liveness := by
    rw [watched, handleDeadman_liveness, handleRxSilence_liveness, answered]
    refine answerHeartbeat_liveness ?_
    rw [answerKick_liveness, answerHold_liveness, answerStop_liveness, ingestRx_liveness]
    rfl
  have frame : b.frame = { (s.countTick.ingestRx rx).frame with stopRequested := false } := by
    rw [watched, handleDeadman_frame, handleRxSilence_frame, answered, answerHeartbeat_frame,
      answerKick_frame, answerHold_frame, answerStop_frame]
  have cfg : b.cfg = s.cfg := (congrArg Frame.cfg frame).trans (ingestRx_cfg s.countTick rx)
  have streaming : b.anchor.streaming = s.anchor.streaming :=
    (congrArg Frame.streaming frame).trans (ingestRx_streaming s.countTick rx)
  rw [liveness, cfg, streaming, supervisorLapses]

theorem handleRxSilence_parked {s : TickCore R} (mode : s.health.mode = .rxSilent) :
    s.handleRxSilence = s := by
  simp only [handleRxSilence, mode, if_true, ite_self]

/-- Silence past the threshold ends in the park, from whatever mode it met. -/
theorem handleRxSilence_parks {s : TickCore R} (silent : s.rxWatch.ticksSinceRx ≠ 0)
    (long : s.cfg.rxSilentParkMs ≤ (s.rxWatch.ticksSinceRx : R) * s.itp * 1000) :
    s.handleRxSilence.control.mode = .rxSilent := by
  by_cases mode : s.health.mode = .rxSilent
  · rw [handleRxSilence_parked mode]
    exact mode
  · simp only [handleRxSilence]
    rw [if_neg silent, if_neg mode, if_pos long, enterRxSilent_control]
    rfl

theorem silence_parks {s a : TickCore R} {rx : Option (RxSample R)}
    (answered : a = (s.countTick.ingestRx rx).answerStop.answerHold.answerKick.answerHeartbeat)
    (parks : (s.health.mode = .rxSilent ∧ s.forceGuard.armed = false ∧
      ∀ r ∈ rx, gateEdges s.lastGates r.gates = []) ∨ s.silenceParks rx = true) :
    a.handleRxSilence.control.mode = .rxSilent ∧
      ∀ r ∈ rx, a.handleRxSilence.control.forceArmed = false := by
  have frame : a.frame = { (s.countTick.ingestRx rx).frame with stopRequested := false } := by
    rw [answered, answerHeartbeat_frame, answerKick_frame, answerHold_frame, answerStop_frame]
  rcases parks with ⟨mode, unarmed, quiet⟩ | silent
  · have ingested : (s.countTick.ingestRx rx).control = s.control := by
      cases rx with
      | none => rfl
      | some r => exact processGates_quiet (quiet r rfl)
    have parked : (s.countTick.ingestRx rx).health.mode = .rxSilent :=
      (congrArg Control.mode ingested).trans mode
    have stopped := answerStop_parked parked
    have held := answerHold_parked ((congrArg Control.mode stopped).trans parked)
    have same : a.control = s.control := by
      rw [answered, answerHeartbeat_control, answerKick_control, held, stopped, ingested]
    rw [handleRxSilence_parked ((congrArg Control.mode same).trans mode), same]
    exact ⟨mode, fun _ _ => unarmed⟩
  · simp only [silenceParks, Bool.and_eq_true, decide_eq_true_eq] at silent
    obtain ⟨⟨-, none⟩, long⟩ := silent
    have absent : rx = Option.none := Option.isNone_iff_eq_none.mp none
    subst absent
    have age : a.rxWatch.ticksSinceRx = s.rxWatch.ticksSinceRx + 1 :=
      congrArg Frame.ticksSinceRx frame
    have cfg : a.cfg = s.cfg := congrArg Frame.cfg frame
    refine ⟨handleRxSilence_parks (by omega) ?_, fun r present => by cases present⟩
    rw [itp, cfg, age]
    exact long

/-- A core that is parked, or that the silence parks now, comes to its dwell parked. -/
theorem beforeDwell_parked {lib : External R} {s : TickCore R} {rx : Option (RxSample R)}
    (alive : s.supervisorLapses = false)
    (parks : (s.health.mode = .rxSilent ∧ s.forceGuard.armed = false ∧
      ∀ r ∈ rx, gateEdges s.lastGates r.gates = []) ∨ s.silenceParks rx = true) :
    (s.beforeDwell lib rx).control.mode = .rxSilent := by
  have silenced := silence_parks rfl parks
  have lapse (b : TickCore R) (watched : b = _) := supervisorLapses_kept s rx rfl watched
  simp only [beforeDwell]
  generalize (s.countTick.ingestRx rx).answerStop.answerHold.answerKick.answerHeartbeat = a at *
  have alive' := lapse _ rfl
  rw [alive] at alive'
  generalize a.handleRxSilence = b at silenced alive' ⊢
  obtain ⟨mode, unarmed⟩ := silenced
  have undriven : b.handleDeadman = b := by
    unfold handleDeadman
    have idle : b.health.mode ≠ .trajectory := by
      have parked : b.health.mode = .rxSilent := mode
      simp [parked]
    rw [if_pos (.inr idle)]
  rw [undriven] at alive' ⊢
  have watched := handleSupervisorLiveness_alive alive'
  cases rx with
  | none => exact (congrArg Control.mode watched).trans mode
  | some r =>
    have off : b.handleSupervisorLiveness.forceGuard.armed = false :=
      (congrArg Control.forceArmed watched).trans (unarmed r rfl)
    simp only [handleForceGuard, off, true_or, if_true]
    exact (congrArg Control.mode watched).trans mode

/-! ### The mailbox and the dispatch of a parked core -/

theorem consumePending_parked (lib : External R) {s : TickCore R} (pending : Option (Target R))
    (consumeSuperseded : Bool) (mode : s.control.mode = .rxSilent) :
    (s.consumePending lib pending consumeSuperseded).control.mode = .rxSilent := by
  rw [consumePending_control]
  cases pending with
  | none => exact mode
  | some t =>
    simp only [consume_control]
    split
    · exact mode
    · split
      · exact mode
      · rename_i admitted
        by_cases hold : t.kind = .hold
        · simp [hold, Control.accept, mode]
        · refine absurd (refuses_of_refusesMotion hold ?_) admitted
          have parked : s.health.mode = .rxSilent := mode
          simp [refusesMotion, parked]

theorem dispatchMode_parked (lib : External R) {s : TickCore R} (mode : s.control.mode = .rxSilent) :
    (s.dispatchMode lib).2.control = s.control := by
  have parked : s.health.mode = .rxSilent := mode
  simp only [dispatchMode, parked, control]

omit [FloorRing R] in
theorem sendCommand_tx (s : TickCore R) (qDesired : Vec6 R) :
    (s.sendCommand qDesired).1.tx = ((s.sendCommand qDesired).2.anchor.streaming &&
      decide ((s.sendCommand qDesired).2.control.mode ≠ .rxSilent)) := by
  simp only [sendCommand]
  split
  · rfl
  · split <;> rfl

/-- A tick sends exactly when it leaves the core streaming and not parked. -/
theorem tick_tx (lib : External R) (s : TickCore R) (rx : Option (RxSample R))
    (pending : Option (Target R)) (consumeSuperseded : Bool) :
    (s.tick lib rx pending consumeSuperseded).1.tx =
      ((s.tick lib rx pending consumeSuperseded).2.anchor.streaming &&
        decide ((s.tick lib rx pending consumeSuperseded).2.control.mode ≠ .rxSilent)) :=
  sendCommand_tx _ _

/-- Nothing sends out of a dwell that did not end in a parked core. -/
theorem tick_parked {lib : External R} {s : TickCore R} {rx : Option (RxSample R)}
    (pending : Option (Target R)) (consumeSuperseded : Bool)
    (mode : (s.beforeDwell lib rx).control.mode = .rxSilent)
    (waits : (s.beforeDwell lib rx).dwellCompletes = false) :
    (s.tick lib rx pending consumeSuperseded).2.control.mode = .rxSilent := by
  have taken : (s.beforeConsume lib rx).control.mode = .rxSilent := by
    rw [beforeConsume_control, waits]
    exact mode
  have consumed := consumePending_parked lib pending consumeSuperseded taken
  simp only [tick, sendCommand_control]
  rw [dispatchMode_parked lib consumed]
  exact consumed

/-! ### Leaving the park -/

/-- A dwell completes in the park only on a tick with a packet. -/
theorem dwell_fresh {lib : External R} {s : TickCore R} {rx : Option (RxSample R)}
    (mode : (s.beforeDwell lib rx).control.mode = .rxSilent)
    (completes : (s.beforeDwell lib rx).dwellCompletes = true) : rx.isSome = true := by
  have frame := beforeDwell_frame lib s rx
  rw [ingestRx_frame] at frame
  have parked : (s.beforeDwell lib rx).health.mode = .rxSilent := mode
  simp only [dwellCompletes, dwellClear, parked, Bool.and_eq_true] at completes
  cases rx with
  | some r => rfl
  | none =>
    have age : (s.beforeDwell lib none).rxWatch.ticksSinceRx = s.rxWatch.ticksSinceRx + 1 :=
      congrArg Frame.ticksSinceRx frame
    simp [age] at completes

/-- The dwell that leaves the park seeds the anchor and the slew limiter from the pose
measured on this very tick. -/
theorem resumed_state {lib : External R} {s : TickCore R} {r : RxSample R}
    (mode : (s.beforeDwell lib (some r)).control.mode = .rxSilent)
    (completes : (s.beforeDwell lib (some r)).dwellCompletes = true) :
    (s.beforeConsume lib (some r)).health.mode = .hold ∧
      (s.beforeConsume lib (some r)).anchor.qCmd = r.qMeas ∧
      (s.beforeConsume lib (some r)).slew.prevQ = r.qMeas ∧
      (s.beforeConsume lib (some r)).slew.hasPrev = true := by
  have frame := beforeDwell_frame lib s (some r)
  rw [ingestRx_frame] at frame
  have measured : (s.beforeDwell lib (some r)).measured = ⟨r.qMeas, r.qdEst, true⟩ :=
    congrArg Frame.measured frame
  simp only [beforeConsume]
  generalize s.beforeDwell lib (some r) = a at *
  have parked : a.health.mode = .rxSilent := mode
  simp only [dwellCompletes, Bool.and_eq_true, decide_eq_true_eq] at completes
  obtain ⟨⟨pending, clear⟩, long⟩ := completes
  unfold recoveryDwell
  rw [if_pos pending, if_pos clear, if_pos long]
  have seeds : a.countDwell.health.mode = .rxSilent ∧ a.countDwell.measured.haveMeas = true :=
    ⟨parked, congrArg Measured.haveMeas measured⟩
  have pose : a.countDwell.measured.qMeas = r.qMeas := congrArg Measured.qMeas measured
  rw [← pose]
  simp only [completeRecovery]
  split
  · exact ⟨rfl, rfl, rfl, rfl⟩
  · rename_i unseeded
    exact absurd seeds unseeded

/-- A target that is not accepted leaves the resumed core as it is. -/
theorem unaccepted_holds {lib : External R} {s : TickCore R} {pending : Option (Target R)}
    {consumeSuperseded : Bool}
    (unaccepted : (s.consumePending lib pending consumeSuperseded).lastConsume.accepted = false) :
    (s.consumePending lib pending consumeSuperseded).health = s.health ∧
      (s.consumePending lib pending consumeSuperseded).anchor = s.anchor ∧
      (s.consumePending lib pending consumeSuperseded).slew = s.slew := by
  cases pending with
  | none => exact ⟨rfl, rfl, rfl⟩
  | some t =>
    have verdict : (s.consume lib t consumeSuperseded).1.accepted = false := unaccepted
    have kept (u : TickCore R) (same : (s.consume lib t consumeSuperseded).2 = u)
        (health : u.health = s.health) (anchor : u.anchor = s.anchor) (slew : u.slew = s.slew) :
        (s.consumePending lib (some t) consumeSuperseded).health = s.health ∧
          (s.consumePending lib (some t) consumeSuperseded).anchor = s.anchor ∧
          (s.consumePending lib (some t) consumeSuperseded).slew = s.slew := by
      rw [← health, ← anchor, ← slew, ← same]
      exact ⟨rfl, rfl, rfl⟩
    by_cases absent : t.kind = .none
    · exact kept s (consume_ignored absent).2 rfl rfl rfl
    by_cases refusing : s.refuses lib t consumeSuperseded = true
    · rcases (consume_refused absent refusing).2 with ⟨reason, refused⟩ | refused | refused
      · exact kept _ refused rfl rfl rfl
      · exact kept _ refused rfl rfl rfl
      · exact kept _ refused rfl rfl rfl
    · have admitted := consume_admitted absent (Bool.eq_false_of_not_eq_true refusing)
      rw [admitted.1] at verdict
      cases verdict

omit [FloorRing R] in
/-- What is sent from a held anchor that the slew limiter was just reset to. -/
theorem sendCommand_resumes {s : TickCore R} {cfg : RtCoreConfig R} {qMeas : Vec6 R}
    (limits : s.cfg = cfg) (slewed : s.slew.cfg = cfg.tick) (seeded : s.slew.prevQ = qMeas)
    (primed : s.slew.hasPrev = true) :
    (s.sendCommand qMeas).1.qRad = resumePose cfg.tick qMeas := by
  have sent : (s.slew.apply (s.clampPositions qMeas)).1.q = resumePose cfg.tick qMeas := by
    funext j
    simp only [SlewLimiter.apply, primed, SlewLimiter.clip, SlewLimiter.maxStep, clampPositions,
      slewed, seeded, limits, resumePose, Bool.true_eq_false, if_false]
    split
    · rfl
    · split <;> rfl
  rw [← sent]
  simp only [sendCommand]

/-- The tick that leaves the park sends the pose it measured. -/
theorem tick_resumes {lib : External R} {s : TickCore R} {r : RxSample R}
    {pending : Option (Target R)} {consumeSuperseded : Bool}
    (slewed : s.slew.cfg = s.cfg.tick)
    (mode : (s.beforeDwell lib (some r)).control.mode = .rxSilent)
    (completes : (s.beforeDwell lib (some r)).dwellCompletes = true)
    (unaccepted :
      (s.tick lib (some r) pending consumeSuperseded).2.lastConsume.accepted = false) :
    (s.tick lib (some r) pending consumeSuperseded).1.qRad = resumePose s.cfg.tick r.qMeas := by
  obtain ⟨hold, anchored, seeded, primed⟩ := resumed_state mode completes
  have early := beforeConsume_frame lib s (some r)
  have cfg : (s.beforeConsume lib (some r)).cfg = s.cfg :=
    (congrArg Frame.cfg early).trans (ingestRx_cfg s (some r))
  have limits : (s.beforeConsume lib (some r)).slew.cfg = s.cfg.tick := by
    rw [ingestRx_frame] at early
    exact (congrArg Frame.slewCfg early).trans slewed
  have verdict : ((s.beforeConsume lib (some r)).consumePending lib pending
      consumeSuperseded).lastConsume.accepted = false := by
    have sent := congrArg (fun f => f.lastConsume.accepted) (sendCommand_frame
      (((s.beforeConsume lib (some r)).consumePending lib pending consumeSuperseded).dispatchMode
        lib).2
      (((s.beforeConsume lib (some r)).consumePending lib pending consumeSuperseded).dispatchMode
        lib).1)
    rw [dispatchMode_frame] at sent
    exact sent.symm.trans unaccepted
  have consumed : ((s.beforeConsume lib (some r)).consumePending lib pending
      consumeSuperseded).cfg = (s.beforeConsume lib (some r)).cfg := by
    cases pending with
    | none => rfl
    | some t => exact congrArg Frame.cfg (consume_frame lib _ t consumeSuperseded)
  obtain ⟨health, anchor, slew⟩ := unaccepted_holds verdict
  simp only [tick]
  generalize (s.beforeConsume lib (some r)).consumePending lib pending consumeSuperseded = c at *
  have holding : c.health.mode = .hold := health ▸ hold
  have dispatched : c.dispatchMode lib =
      (c.anchor.qCmd, { c with anchor.qdCmd := 0, anchor.qddCmd := 0 }) := by
    simp only [dispatchMode, holding]
  rw [dispatched, anchor, anchored]
  refine sendCommand_resumes (consumed.trans cfg ▸ rfl) ?_ ?_ ?_
  · exact (congrArg SlewLimiter.cfg slew).trans limits
  · exact (congrArg SlewLimiter.prevQ slew).trans seeded
  · exact (congrArg SlewLimiter.hasPrev slew).trans primed

end TickCore

/-! ### Runs -/

/-- `parked` is up from the tick whose silence reaches the threshold to the one on
which a recovery asked for since then (`asked`) completes its dwell on a packet. -/
structure ParkWatch (R : Type) where
  core : TickCore R
  parked : Bool
  asked : Bool

namespace ParkWatch

variable {R : Type} [Field R] [LinearOrder R] [FloorRing R]

def released (lib : External R) (w : ParkWatch R) (rx : Option (RxSample R)) : Bool :=
  w.parked && w.asked && rx.isSome && (w.core.beforeDwell lib rx).dwellCompletes

def step (lib : External R) (w : ParkWatch R) (i : Input R) : ParkWatch R :=
  let core := w.core.apply lib i
  match i with
  | .tick rx _ _ =>
    let parked := !w.released lib rx && (w.parked || w.core.silenceParks rx)
    ⟨core, parked, parked && w.parked && w.asked⟩
  | .requestRecover => ⟨core, w.parked, w.parked⟩
  | _ => ⟨core, w.parked, w.asked⟩

def machine (lib : External R) (cfg : RtCoreConfig R) : Machine (ParkWatch R) (Input R) where
  start := ⟨.new cfg, false, false⟩
  step := fun w i => some (w.step lib i)

/-- The owner begins streaming once. -/
def oneHandshake (w : ParkWatch R) : Input R → Prop
  | .beginStreaming _ => w.core.anchor.streaming = false
  | _ => True

/-- No fault is entered out of the park (by a gate edge or by the supervisor's lapse),
and no recovery asked for earlier is pending when it is entered. -/
def keepsPark (w : ParkWatch R) : Input R → Prop
  | .tick rx _ _ =>
    (w.parked = true ∨ w.core.silenceParks rx = true → w.core.supervisorLapses = false) ∧
    (w.parked = true → ∀ r ∈ rx, gateEdges w.core.lastGates r.gates = []) ∧
    (w.parked = false → w.core.silenceParks rx = true → w.core.recovery.pending = false)
  | _ => True

/-- Nothing is sent while parked, and the first command sent again is the pose measured
on its tick. -/
def HoldsPark (lib : External R) (cfg : RtCoreConfig R) (w : ParkWatch R)
    (rx : Option (RxSample R)) (pending : Option (Target R)) (consumeSuperseded : Bool) : Prop :=
  let after := w.core.tick lib rx pending consumeSuperseded
  ((w.step lib (.tick rx pending consumeSuperseded)).parked = true → after.1.tx = false) ∧
  (w.parked = true → after.1.tx = true → after.2.lastConsume.accepted = false →
    ∃ r, rx = some r ∧ after.1.qRad = resumePose cfg.tick r.qMeas)

structure Sound (cfg : RtCoreConfig R) (w : ParkWatch R) : Prop where
  guarded : w.core.control.Guarded
  limits : w.core.cfg = cfg
  slewed : w.core.slew.cfg = cfg.tick
  streaming : w.parked = true → w.core.anchor.streaming = true
  mode : w.parked = true → w.core.health.mode = .rxSilent
  asked : w.parked = true → w.core.recovery.pending = true → w.asked = true

/-- A core parked before the tick, or by it, is parked when its dwell is counted. -/
theorem Sound.dwells_parked (lib : External R) {cfg : RtCoreConfig R} {w : ParkWatch R}
    {rx : Option (RxSample R)} {pending : Option (Target R)} {consumeSuperseded : Bool}
    (sound : w.Sound cfg) (legal : w.keepsPark (.tick rx pending consumeSuperseded))
    (parks : w.parked = true ∨ w.core.silenceParks rx = true) :
    (w.core.beforeDwell lib rx).control.mode = .rxSilent := by
  refine TickCore.beforeDwell_parked (legal.1 parks) ?_
  rcases parks with parked | silent
  · refine .inl ⟨sound.mode parked, ?_, legal.2.1 parked⟩
    by_contra armed
    exact sound.guarded.guard (by simpa [TickCore.control] using armed) (.inr (sound.mode parked))
  · exact .inr silent

/-- Only a recovery asked for since the park can be the one that ends it. -/
theorem Sound.completes_released (lib : External R) {cfg : RtCoreConfig R} {w : ParkWatch R}
    {rx : Option (RxSample R)} {pending : Option (Target R)} {consumeSuperseded : Bool}
    (sound : w.Sound cfg) (legal : w.keepsPark (.tick rx pending consumeSuperseded))
    (parks : w.parked = true ∨ w.core.silenceParks rx = true)
    (completes : (w.core.beforeDwell lib rx).dwellCompletes = true) :
    w.released lib rx = true := by
  have mode := sound.dwells_parked lib legal parks
  have fresh := TickCore.dwell_fresh mode completes
  have waiting : w.core.recovery.pending = true := by
    refine (TickCore.beforeDwell_moves lib w.core rx).recovery_kept ?_
    simp only [TickCore.dwellCompletes, Bool.and_eq_true] at completes
    exact completes.1.1
  have parked : w.parked = true := by
    by_contra free
    have silent := parks.resolve_left free
    have unasked := legal.2.2 (Bool.eq_false_of_not_eq_true free) silent
    rw [waiting] at unasked
    cases unasked
  simp [released, parked, sound.asked parked waiting, fresh, completes]

theorem tick_holdsPark {lib : External R} {cfg : RtCoreConfig R} {w : ParkWatch R}
    {rx : Option (RxSample R)} {pending : Option (Target R)} {consumeSuperseded : Bool}
    (sound : w.Sound cfg) (legal : w.keepsPark (.tick rx pending consumeSuperseded)) :
    HoldsPark lib cfg w rx pending consumeSuperseded := by
  have mode (parks) := sound.dwells_parked lib legal parks
  have completes (parks) := sound.completes_released lib legal parks
  refine ⟨fun still => ?_, fun parked sends unaccepted => ?_⟩
  · simp only [step, Bool.and_eq_true, Bool.or_eq_true, Bool.not_eq_true'] at still
    have waits : (w.core.beforeDwell lib rx).dwellCompletes = false := by
      by_contra ends
      have out := completes still.2 (by simpa using ends)
      rw [still.1] at out
      cases out
    rw [TickCore.tick_tx, TickCore.tick_parked pending consumeSuperseded (mode still.2) waits]
    simp
  · by_cases ends : (w.core.beforeDwell lib rx).dwellCompletes = true
    · have fresh := TickCore.dwell_fresh (mode (.inl parked)) ends
      obtain ⟨r, rfl⟩ := Option.isSome_iff_exists.mp fresh
      refine ⟨r, rfl, ?_⟩
      rw [← sound.limits]
      refine TickCore.tick_resumes ?_ (mode (.inl parked)) ends unaccepted
      rw [sound.slewed, sound.limits]
    · have waits := Bool.eq_false_of_not_eq_true ends
      rw [TickCore.tick_tx,
        TickCore.tick_parked pending consumeSuperseded (mode (.inl parked)) waits] at sends
      simp at sends

theorem tick_sound {lib : External R} {cfg : RtCoreConfig R} {w : ParkWatch R}
    {rx : Option (RxSample R)} {pending : Option (Target R)} {consumeSuperseded : Bool}
    (sound : w.Sound cfg) (legal : w.keepsPark (.tick rx pending consumeSuperseded)) :
    (w.step lib (.tick rx pending consumeSuperseded)).Sound cfg := by
  have frame := TickCore.tick_frame lib w.core rx pending consumeSuperseded
  have limits := (congrArg Frame.cfg frame).trans (TickCore.ingestRx_cfg w.core rx)
  have streaming := (congrArg Frame.streaming frame).trans (TickCore.ingestRx_streaming w.core rx)
  have slewed : (w.core.tick lib rx pending consumeSuperseded).2.slew.cfg = w.core.slew.cfg := by
    rw [TickCore.ingestRx_frame] at frame
    have kept := congrArg Frame.slewCfg frame
    cases rx <;> exact kept
  have still (parked : (w.step lib (.tick rx pending consumeSuperseded)).parked = true) :
      w.released lib rx = false ∧ (w.parked = true ∨ w.core.silenceParks rx = true) := by
    simpa [step] using parked
  have streams (parks : w.parked = true ∨ w.core.silenceParks rx = true) :
      w.core.anchor.streaming = true := by
    rcases parks with parked | silent
    · exact sound.streaming parked
    · simp only [TickCore.silenceParks, Bool.and_eq_true] at silent
      exact silent.1.1
  have waits (parks : w.parked = true ∨ w.core.silenceParks rx = true)
      (kept : w.released lib rx = false) : (w.core.beforeDwell lib rx).dwellCompletes = false := by
    by_contra ends
    rw [sound.completes_released lib legal parks (by simpa using ends)] at kept
    cases kept
  refine ⟨TickCore.apply_guarded lib _ sound.guarded, limits.trans sound.limits,
    slewed.trans sound.slewed, fun parked => ?_, fun parked => ?_, fun parked pends => ?_⟩
  · exact streaming.trans (streams (still parked).2)
  · obtain ⟨kept, parks⟩ := still parked
    exact TickCore.tick_parked pending consumeSuperseded
      (sound.dwells_parked lib legal parks) (waits parks kept)
  · obtain ⟨kept, parks⟩ := still parked
    have waiting : w.core.recovery.pending = true := by
      refine (TickCore.beforeDwell_moves lib w.core rx).recovery_kept ?_
      have taken := (TickCore.tick_moves lib w.core rx pending consumeSuperseded).recovery_kept pends
      rw [TickCore.consumePending_recovery, TickCore.beforeConsume_control, waits parks kept] at taken
      exact taken
    have before : w.parked = true := by
      by_contra free
      have unasked := legal.2.2 (Bool.eq_false_of_not_eq_true free) (parks.resolve_left free)
      rw [waiting] at unasked
      cases unasked
    have asked := sound.asked before waiting
    simp [step, before, asked, kept]

theorem step_sound {lib : External R} {cfg : RtCoreConfig R} {w : ParkWatch R} {i : Input R}
    (sound : w.Sound cfg) (once : w.oneHandshake i) (legal : w.keepsPark i) :
    (w.step lib i).Sound cfg := by
  cases i with
  | tick rx pending consumeSuperseded => exact tick_sound sound legal
  | requestStop | requestHold | kick | heartbeat =>
    exact ⟨sound.guarded, sound.limits, sound.slewed, sound.streaming, sound.mode, sound.asked⟩
  | requestRecover =>
    have same : w.core.requestRecover.frame = w.core.frame ∧
        w.core.requestRecover.health = w.core.health := by
      unfold TickCore.requestRecover
      split
      · exact ⟨rfl, rfl⟩
      · exact ⟨rfl, rfl⟩
    exact ⟨TickCore.apply_guarded lib .requestRecover sound.guarded,
      (congrArg Frame.cfg same.1).trans sound.limits,
      (congrArg Frame.slewCfg same.1).trans sound.slewed,
      fun parked => (congrArg Frame.streaming same.1).trans (sound.streaming parked),
      fun parked => (congrArg Health.mode same.2).trans (sound.mode parked),
      fun parked _ => parked⟩
  | beginStreaming qMeas =>
    have free (parked : w.parked = true) : False := by
      have streams := sound.streaming parked
      rw [show w.core.anchor.streaming = false from once] at streams
      cases streams
    exact ⟨TickCore.apply_guarded lib (.beginStreaming qMeas) sound.guarded, sound.limits,
      sound.slewed, fun parked => (free parked).elim, fun parked => (free parked).elim,
      fun parked => (free parked).elim⟩

theorem start_sound (lib : External R) (cfg : RtCoreConfig R) :
    (machine lib cfg).start.Sound cfg where
  guarded := ⟨by simp [machine, TickCore.control, TickCore.new],
    by simp [machine, TickCore.control, TickCore.new]⟩
  limits := rfl
  slewed := rfl
  streaming := by simp [machine]
  mode := by simp [machine]
  asked := by simp [machine]

/-- In every run that enters no fault out of the park and parks with no recovery
pending, the park holds until it is recovered, and resumes at the measured pose. -/
theorem park_holds_until_recovery (lib : External R) (cfg : RtCoreConfig R) (w : ParkWatch R)
    (reached : (machine lib cfg).Reachable (fun w i => w.oneHandshake i ∧ w.keepsPark i) w)
    (rx : Option (RxSample R)) (pending : Option (Target R)) (consumeSuperseded : Bool)
    (legal : w.keepsPark (.tick rx pending consumeSuperseded)) :
    HoldsPark lib cfg w rx pending consumeSuperseded := by
  have sound : w.Sound cfg := by
    refine Machine.Reaches.invariant reached (start_sound lib cfg) ?_
    intro a b i sound legal moved
    cases moved
    exact step_sound sound legal.1 legal.2
  exact tick_holdsPark sound legal

omit [FloorRing R] in
/-- Within the limits the resumed pose is the measured one. -/
theorem resumePose_within [IsStrictOrderedRing R] {cfg : TickEngineConfig R} {qMeas : Vec6 R}
    (within : ∀ j, clampPos (cfg.limits.posLo j) (cfg.limits.posHi j) (qMeas j) = qMeas j)
    (forward : ∀ j, 0 ≤ cfg.slewFactor * cfg.limits.v j * cfg.itpS) :
    resumePose cfg qMeas = qMeas := by
  funext j
  have step := forward j
  have below : ¬ cfg.slewFactor * cfg.limits.v j * cfg.itpS < 0 := not_lt.mpr step
  have above : ¬ 0 < -(cfg.slewFactor * cfg.limits.v j * cfg.itpS) := by linarith
  simp only [resumePose, within, sub_self, if_neg below, if_neg above]

instance (w : ParkWatch R) (i : Input R) : Decidable (w.oneHandshake i) :=
  match i with
  | .beginStreaming _ => inferInstanceAs (Decidable (w.core.anchor.streaming = false))
  | .tick _ _ _ | .requestStop | .requestHold | .requestRecover | .kick | .heartbeat =>
    inferInstanceAs (Decidable True)

instance (w : ParkWatch R) (i : Input R) : Decidable (w.keepsPark i) :=
  match i with
  | .tick rx _ _ => inferInstanceAs (Decidable
    ((w.parked = true ∨ w.core.silenceParks rx = true → w.core.supervisorLapses = false) ∧
    (w.parked = true → ∀ r ∈ rx, gateEdges w.core.lastGates r.gates = []) ∧
    (w.parked = false → w.core.silenceParks rx = true → w.core.recovery.pending = false)))
  | .requestStop | .requestHold | .requestRecover | .kick | .heartbeat | .beginStreaming _ =>
    inferInstanceAs (Decidable True)

/-- A core that parks after one silent tick and recovers after two clear ones. -/
def hastyConfig : RtCoreConfig ℚ :=
  { (defaultRtCoreConfig : RtCoreConfig ℚ) with rxSilentParkMs := 8, antiflapDwellMs := 16 }

/-- The arm is moved by hand while the stream is silent, and recovered where it stands. -/
theorem park_holds_until_recovery_moved :
    ∃ command : Command ℚ, command.tx = true ∧
      command.qRad = resumePose hastyConfig.tick (fun _ => 1 / 2) := by
  obtain ⟨w, reached, test⟩ := Machine.reachable_of_test (machine benchExternal hastyConfig)
    (fun w i => w.oneHandshake i ∧ w.keepsPark i)
    [.beginStreaming 0, benchTick none, .tick none none false, .requestRecover,
      .tick (some (benchRx benchGates (fun _ => 1 / 2))) none false]
    (fun w =>
      let input : Input ℚ := .tick (some (benchRx benchGates (fun _ => 1 / 2))) none false
      let after := w.core.tick benchExternal (some (benchRx benchGates (fun _ => 1 / 2))) none false
      decide (w.keepsPark input ∧ w.parked = true ∧ after.1.tx = true ∧
        after.2.lastConsume.accepted = false))
    (by decide +kernel) (by decide +kernel)
  obtain ⟨legal, parked, sends, unaccepted⟩ := of_decide_eq_true test
  have holds := park_holds_until_recovery benchExternal hastyConfig w reached _ none false legal
  obtain ⟨r, present, pose⟩ := holds.2 parked sends unaccepted
  cases present
  exact ⟨_, sends, pose⟩

/-- Whatever the run, the park holds until it is recovered. -/
def ParkHolds (lib : External R) (cfg : RtCoreConfig R) : Prop :=
  ∀ w, (machine lib cfg).Reachable oneHandshake w → ∀ rx pending consumeSuperseded,
    HoldsPark lib cfg w rx pending consumeSuperseded

/-- The pendant is enabled on the first packet after the park: the fault it enters
sends the anchor from before the silence. -/
theorem gate_edge_ends_park : ¬ ParkHolds benchExternal defaultRtCoreConfig := by
  intro holds
  obtain ⟨w, reached, sends⟩ := Machine.reachable_of_test
    (machine benchExternal defaultRtCoreConfig) oneHandshake
    (.beginStreaming 0 :: List.replicate 63 (.tick none none false))
    (fun w =>
      let rx := some (benchRx pendantGates (fun _ => 1))
      (w.step benchExternal (.tick rx none false)).parked &&
        (w.core.tick benchExternal rx none false).1.tx)
    (by decide +kernel) (by decide +kernel)
  simp only [Bool.and_eq_true] at sends
  have silent := (holds w reached _ none false).1 sends.1
  rw [sends.2] at silent
  cases silent

end ParkWatch

end AiroFanuc.RtCore
