import AiroFanuc.RtCore.SilencePark

/-! The fault reason under later causes: what may write over a latched e-stop or
controller error before a recovery takes it down. -/

namespace AiroFanuc.RtCore

open TickEngine Library
open TickCore (gateEdges)

/-- The worse of two reasons, as far as arming tells them apart. -/
def FaultReason.worse (worst cause : FaultReason) : FaultReason :=
  match cause with
  | .eStop => .eStop
  | .inError => if worst = .eStop then .eStop else .inError
  | _ => worst

/-- The reasons that call for an operator. -/
abbrev FaultReason.arms (reason : FaultReason) : Prop := reason = .eStop ∨ reason = .inError

theorem FaultReason.worse_arms {worst : FaultReason} (cause : FaultReason)
    (armed : worst = .none ∨ worst.arms) : worst.worse cause = .none ∨ (worst.worse cause).arms := by
  cases cause with
  | eStop => exact .inr (.inl rfl)
  | inError =>
    simp only [worse]
    split
    · exact .inr (.inl rfl)
    · exact .inr (.inr rfl)
  | none | rxSilent | rxDegraded | motionNotPossible | contactStop | teachMode | safetyClamp
  | watchdogExpired | supervisorLost | forceGuard | rejectedStartMismatch | internal =>
    exact armed

namespace Control

variable {c d : Control}

/-- Parked on silence, the fault is the silence. -/
def ParksOnSilence (c : Control) : Prop := c.mode = .rxSilent → c.fault = .rxSilent

theorem Move.parksOnSilence (move : Move c d) : d.ParksOnSilence := by
  cases move with
  | fault | brake | finish | rest | play => simp [ParksOnSilence, faulted, braking, rested]
  | park => exact fun _ => rfl
  | halt mode => simp [ParksOnSilence, halted, mode]

theorem Moves.parksOnSilence (moved : Moves c d) (parks : c.ParksOnSilence) : d.ParksOnSilence :=
  Moves.invariant moved parks fun _ _ _ move => move.parksOnSilence

theorem ParksOnSilence.accept (parks : c.ParksOnSilence) (kind : TargetKind) (motionId : Nat)
    (guard : Bool) : (c.accept kind motionId guard).ParksOnSilence := by
  cases kind with
  | none => exact parks
  | hold =>
    simp only [Control.accept]
    split
    · simp [ParksOnSilence, braking]
    · exact parks
  | brake | servo | trajectory => simp [ParksOnSilence, Control.accept]

end Control

namespace TickCore

variable {R : Type} [Field R] [LinearOrder R] [FloorRing R]

/-- The reason of the fault a packet raises: its most severe edge, while streaming. -/
def edgeCause (s : TickCore R) (rx : Option (RxSample R)) : FaultReason :=
  match rx with
  | none => .none
  | some r =>
    if s.anchor.streaming then
      match gateEdges s.lastGates r.gates with
      | [] => .none
      | (_, cause, _) :: _ => cause
    else .none

theorem ingestRx_cause (s : TickCore R) (rx : Option (RxSample R)) :
    (s.edgeCause rx = .none ∧ (s.ingestRx rx).control = s.control) ∨
    (s.edgeCause rx ≠ .none ∧ (s.ingestRx rx).control =
      s.control.faulted (s.edgeCause rx) .faulted) := by
  cases rx with
  | none => exact .inl ⟨rfl, rfl⟩
  | some r =>
    have observed : ((s.takeRx r).observeGates r.gates).control = s.control := by
      rw [observeGates_control, takeRx_control]
    have streaming : ((s.takeRx r).observeGates r.gates).anchor.streaming = s.anchor.streaming := by
      rw [observeGates_anchor]
      rfl
    have gates : (s.takeRx r).lastGates = s.lastGates := rfl
    simp only [ingestRx, processGates, edgeCause, streaming, gates]
    by_cases streams : s.anchor.streaming = true
    · simp only [if_pos streams]
      cases edges : gateEdges s.lastGates r.gates with
      | nil => exact .inl ⟨rfl, observed⟩
      | cons e rest =>
        right
        obtain ⟨bit, cause, bump⟩ := e
        refine ⟨?_, ?_⟩
        · exact gateEdges_real (e := (bit, cause, bump)) (edges ▸ List.mem_cons_self)
        · simp only [enterFault_control, observed]
    · simp only [if_neg streams]
      exact .inl ⟨trivial, observed⟩

omit [FloorRing R] in
theorem answerStop_fault (s : TickCore R) : s.answerStop.control.fault = s.control.fault := by
  unfold answerStop
  split
  · cases mode : s.health.mode with
    | hold | capture | trajectory | servo =>
      simp only [mode, beginBrake_control, Control.braking, Control.resolve_fault]
      rfl
    | brake =>
      simp only [mode, halt_control, Control.halted, Control.resolve_fault]
      rfl
    | streamDown | preroll | safeFollow | rxSilent => simp only [mode, control]
  · rfl

omit [FloorRing R] in
theorem answerHold_fault (s : TickCore R) : s.answerHold.control.fault = s.control.fault := by
  unfold answerHold
  split
  · cases mode : s.health.mode with
    | capture | trajectory | servo =>
      simp only [mode, beginBrake_control, Control.braking, Control.resolve_fault]
      rfl
    | hold | brake | streamDown | preroll | safeFollow | rxSilent => simp only [mode, control]
  · rfl

omit [FloorRing R] in
theorem handleForceGuard_fault (lib : External R) (s : TickCore R) (rx : RxSample R) :
    (s.handleForceGuard lib rx).control.fault = s.control.fault := by
  simp only [handleForceGuard]
  split
  · rfl
  · split
    · rw [emit_control, beginBrake_control]
      simp [Control.braking]
    · rfl

/-- In a safed mode the silence does nothing short of the park. -/
theorem handleRxSilence_fault {s : TickCore R} (safed : s.control.safed)
    (parks : s.control.ParksOnSilence) :
    s.handleRxSilence.control.fault =
      if s.rxWatch.ticksSinceRx ≠ 0 ∧
        s.cfg.rxSilentParkMs ≤ (s.rxWatch.ticksSinceRx : R) * s.itp * 1000 then .rxSilent
      else s.control.fault := by
  rcases safed with mode | mode
  · have following : s.health.mode = .safeFollow := mode
    simp only [handleRxSilence, following, reduceCtorEq, if_false, or_self, false_and]
    by_cases fresh : s.rxWatch.ticksSinceRx = 0
    · rw [if_pos fresh, if_neg (by simp [fresh])]
    · rw [if_neg fresh]
      by_cases long : s.cfg.rxSilentParkMs ≤ (s.rxWatch.ticksSinceRx : R) * s.itp * 1000
      · rw [if_pos long, if_pos ⟨fresh, long⟩, enterRxSilent_control]
        rfl
      · rw [if_neg long, if_neg fun both => long both.2]
  · rw [handleRxSilence_parked mode, parks mode, ite_self]

/-- A lapse is a fault of its own, whatever fault it meets. -/
theorem handleSupervisorLiveness_lapsed {s : TickCore R}
    (lapses : s.liveness.lapses s.cfg s.anchor.streaming = true) :
    s.handleSupervisorLiveness.control = s.control.faulted .supervisorLost .faulted := by
  simp only [Liveness.lapses, Bool.and_eq_true, Bool.not_eq_true', decide_eq_true_eq] at lapses
  obtain ⟨⟨⟨streams, armed⟩, unlatched⟩, late⟩ := lapses
  simp only [handleSupervisorLiveness]
  rw [if_neg (by simp [streams, armed]), if_neg (by simp [unlatched])]
  rw [if_pos (by exact late), emit_control, enterFault_control]
  rfl

/-- The fault at the dwell of a tick that began it, or took its packet, under a fault: the
last of the causes that came up on the way. -/
theorem beforeDwell_fault (lib : External R) {s : TickCore R} {rx : Option (RxSample R)}
    (streams : s.anchor.streaming = true) (guarded : s.control.Guarded)
    (parks : s.control.ParksOnSilence) (faulted : (s.countTick.ingestRx rx).control.fault ≠ .none) :
    (s.beforeDwell lib rx).control.fault =
      if s.supervisorLapses then .supervisorLost
      else if s.silenceParks rx then .rxSilent
      else (s.countTick.ingestRx rx).control.fault := by
  have lapse (b : TickCore R) (watched : b = _) := supervisorLapses_kept s rx rfl watched
  have frame : (s.countTick.ingestRx rx).answerStop.answerHold.answerKick.answerHeartbeat.frame =
      { (s.countTick.ingestRx rx).frame with stopRequested := false } := by
    rw [answerHeartbeat_frame, answerKick_frame, answerHold_frame, answerStop_frame]
  have answered : Control.Moves s.control
      (s.countTick.ingestRx rx).answerStop.answerHold.answerKick.answerHeartbeat.control := by
    have ingested : Control.Moves s.control (s.countTick.ingestRx rx).control :=
      ingestRx_moves s.countTick rx
    rw [answerHeartbeat_control, answerKick_control]
    exact (ingested.trans (answerStop_moves _)).trans (answerHold_moves _)
  have fault :
      (s.countTick.ingestRx rx).answerStop.answerHold.answerKick.answerHeartbeat.control.fault =
        (s.countTick.ingestRx rx).control.fault := by
    rw [answerHeartbeat_control, answerKick_control, answerHold_fault, answerStop_fault]
  have cfg := ingestRx_cfg s.countTick rx
  have age := congrArg Frame.ticksSinceRx frame
  rw [ingestRx_frame] at age
  simp only [beforeDwell]
  generalize (s.countTick.ingestRx rx).answerStop.answerHold.answerKick.answerHeartbeat = a at *
  have settings : a.cfg = s.cfg := (congrArg Frame.cfg frame).trans cfg
  have guarded' := answered.guarded guarded
  have safed : a.control.safed := by
    by_contra free
    exact faulted (fault.symm.trans (guarded'.fault.mpr free))
  have silenced := handleRxSilence_fault safed (answered.parksOnSilence parks)
  have threshold : (a.rxWatch.ticksSinceRx ≠ 0 ∧
      a.cfg.rxSilentParkMs ≤ (a.rxWatch.ticksSinceRx : R) * a.itp * 1000) ↔
      s.silenceParks rx = true := by
    cases rx with
    | none =>
      have count : a.rxWatch.ticksSinceRx = s.rxWatch.ticksSinceRx + 1 := age
      simp only [silenceParks, streams, Option.isNone_none, Bool.true_and, count, settings, itp]
      exact ⟨fun long => decide_eq_true long.2, fun long => ⟨by omega, of_decide_eq_true long⟩⟩
    | some r =>
      have count : a.rxWatch.ticksSinceRx = 0 := age
      simp [silenceParks, count]
  have undriven : a.handleRxSilence.handleDeadman = a.handleRxSilence := by
    have still : a.handleRxSilence.control.safed := by
      have guarded'' := (handleRxSilence_moves a).guarded guarded'
      by_contra free
      have clear := guarded''.fault.mpr free
      have latched : a.control.fault ≠ .none := by rw [fault]; exact faulted
      exact (handleRxSilence_moves a).fault_latched latched clear
    have idle : a.handleRxSilence.health.mode ≠ .trajectory := by
      rcases still with mode | mode
      · have following : a.handleRxSilence.health.mode = .safeFollow := mode
        simp [following]
      · have parked : a.handleRxSilence.health.mode = .rxSilent := mode
        simp [parked]
    unfold handleDeadman
    rw [if_pos (.inr idle)]
  have lapse' := lapse _ rfl
  rw [undriven] at lapse' ⊢
  have watched : a.handleRxSilence.handleSupervisorLiveness.control.fault =
      if s.supervisorLapses then .supervisorLost
      else if s.silenceParks rx then .rxSilent
      else (s.countTick.ingestRx rx).control.fault := by
    rw [← fault]
    cases lapses : s.supervisorLapses with
    | true =>
      rw [lapses] at lapse'
      rw [handleSupervisorLiveness_lapsed lapse']
      rfl
    | false =>
      rw [lapses] at lapse'
      rw [handleSupervisorLiveness_alive lapse', silenced]
      simp only [Bool.false_eq_true, if_false]
      by_cases silent : s.silenceParks rx = true
      · rw [if_pos silent, if_pos (threshold.mpr silent)]
      · rw [if_neg silent, if_neg fun long => silent (threshold.mp long)]
  cases rx with
  | none => exact watched
  | some r => exact (handleForceGuard_fault lib _ r).trans watched

/-- A dwell completes only on a tick that brought no further fault. -/
theorem dwellCompletes_quiet {lib : External R} {s : TickCore R} {rx : Option (RxSample R)}
    (completes : (s.beforeDwell lib rx).dwellCompletes = true) :
    s.edgeCause rx = .none ∧ s.supervisorLapses = false ∧ s.silenceParks rx = false := by
  have pending : (s.beforeDwell lib rx).control.recoveryPending = true := by
    simp only [dwellCompletes, Bool.and_eq_true] at completes
    exact completes.1.1
  have alive : s.supervisorLapses = false := by
    by_contra lapses
    rw [Bool.not_eq_false] at lapses
    have lapse (b : TickCore R) (watched : b = _) := supervisorLapses_kept s rx rfl watched
    simp only [beforeDwell] at pending
    generalize (s.countTick.ingestRx rx).answerStop.answerHold.answerKick.answerHeartbeat = a at *
    have lapse' := lapse _ rfl
    rw [lapses] at lapse'
    have lost := handleSupervisorLiveness_lapsed lapse'
    generalize a.handleRxSilence.handleDeadman.handleSupervisorLiveness = b at *
    have cancelled : b.control.recoveryPending = false := by
      rw [lost]
      rfl
    cases rx with
    | none =>
      have kept : b.control.recoveryPending = true := pending
      rw [cancelled] at kept
      cases kept
    | some r =>
      have kept := (handleForceGuard_moves lib b r).recovery_kept pending
      rw [cancelled] at kept
      cases kept
  refine ⟨?_, alive, ?_⟩
  · have before := (watches_move lib s rx).recovery_kept pending
    rcases ingestRx_cause s.countTick rx with ⟨quiet, -⟩ | ⟨-, faulted⟩
    · exact quiet
    · rw [faulted] at before
      cases before
  · by_contra parks
    rw [Bool.not_eq_false] at parks
    have fresh := dwell_fresh (beforeDwell_parked alive (.inr parks)) completes
    simp only [silenceParks, Bool.and_eq_true] at parks
    cases rx with
    | none => cases fresh
    | some r => simp at parks

theorem dispatchMode_safed (lib : External R) {s : TickCore R} (safed : s.control.safed) :
    (s.dispatchMode lib).2.control = s.control := by
  rcases safed with mode | mode
  · have following : s.health.mode = .safeFollow := mode
    simp only [dispatchMode, following]
    exact dispatchSafeFollow_control s
  · exact dispatchMode_parked lib mode

/-- A fault that no dwell ends is what the tick leaves. -/
theorem tick_fault_kept (lib : External R) {s : TickCore R} {rx : Option (RxSample R)}
    (guarded : s.control.Guarded) (waits : (s.beforeDwell lib rx).dwellCompletes = false)
    (faulted : (s.beforeDwell lib rx).control.fault ≠ .none) (pending : Option (Target R))
    (consumeSuperseded : Bool) :
    (s.tick lib rx pending consumeSuperseded).2.control.fault =
      (s.beforeDwell lib rx).control.fault := by
  have early : (s.beforeConsume lib rx).control = (s.beforeDwell lib rx).control := by
    rw [beforeConsume_control, waits]
    rfl
  have guarded' := consumePending_guarded lib pending consumeSuperseded
    (early ▸ (beforeDwell_moves lib s rx).guarded guarded)
  have kept := consumePending_fault lib (s.beforeConsume lib rx) pending consumeSuperseded
  rw [early] at kept
  have safed :
      ((s.beforeConsume lib rx).consumePending lib pending consumeSuperseded).control.safed := by
    by_contra free
    exact faulted (kept.symm.trans (guarded'.fault.mpr free))
  simp only [tick, sendCommand_control]
  rw [dispatchMode_safed lib safed]
  exact kept

end TickCore

/-! ### Runs, with the worst reason since the last recovery -/

structure FaultWatch (R : Type) where
  core : TickCore R
  worst : FaultReason

namespace FaultWatch

variable {R : Type} [Field R] [LinearOrder R] [FloorRing R]

/-- The worst reason once this tick's packet is in. -/
def reached (w : FaultWatch R) (rx : Option (RxSample R)) : FaultReason :=
  w.worst.worse (w.core.edgeCause rx)

def step (lib : External R) (w : FaultWatch R) (i : Input R) : FaultWatch R where
  core := w.core.apply lib i
  worst :=
    match i with
    | .tick rx _ _ =>
      if (w.core.beforeDwell lib rx).dwellCompletes then .none else w.reached rx
    | .beginStreaming _ => .none
    | _ => w.worst

def machine (lib : External R) (cfg : RtCoreConfig R) : Machine (FaultWatch R) (Input R) where
  start := ⟨.new cfg, .none⟩
  step := fun w i => some (w.step lib i)

/-- Under an e-stop or a controller error, a tick brings no lesser cause: no lesser gate
edge comes first, the silence does not reach the park, the heartbeat does not lapse. -/
def bringsNoLesser (w : FaultWatch R) : Input R → Prop
  | .tick rx _ _ =>
    (w.reached rx).arms →
      (w.core.edgeCause rx = .none ∨ w.core.edgeCause rx = w.reached rx) ∧
      w.core.silenceParks rx = false ∧ w.core.supervisorLapses = false
  | _ => True

/-- The fault that stands is the worst there was since the last recovery. -/
def Unmasked (w : FaultWatch R) : Prop := w.worst.arms → w.core.health.fault = w.worst

structure Sound (w : FaultWatch R) : Prop where
  guarded : w.core.control.Guarded
  parks : w.core.control.ParksOnSilence
  armed : w.worst = .none ∨ w.worst.arms
  streams : w.worst.arms → w.core.anchor.streaming = true
  unmasked : w.Unmasked

omit [Field R] [LinearOrder R] [FloorRing R] in
theorem Sound.streaming {w : FaultWatch R} (sound : w.Sound) {rx : Option (RxSample R)}
    (arms : (w.reached rx).arms) : w.core.anchor.streaming = true := by
  by_contra idle
  have quiet : w.core.edgeCause rx = .none := by
    cases rx with
    | none => rfl
    | some r => simp only [TickCore.edgeCause, if_neg idle]
  rw [reached, quiet] at arms
  exact idle (sound.streams arms)

/-- The fault once the packet is in, under an e-stop or a controller error. -/
theorem Sound.ingested {w : FaultWatch R} (sound : w.Sound) {rx : Option (RxSample R)}
    (arms : (w.reached rx).arms) :
    (w.core.countTick.ingestRx rx).control.fault =
      if w.core.edgeCause rx = .none then w.reached rx else w.core.edgeCause rx := by
  have causes : w.core.countTick.edgeCause rx = w.core.edgeCause rx := rfl
  rcases TickCore.ingestRx_cause w.core.countTick rx with ⟨quiet, same⟩ | ⟨raised, faulted⟩
  · rw [causes] at quiet
    rw [if_pos quiet, same]
    rw [reached, quiet] at arms ⊢
    exact sound.unmasked arms
  · rw [causes] at raised faulted
    rw [if_neg raised, faulted]
    rfl

theorem tick_unmasked_iff (lib : External R) {w : FaultWatch R} (sound : w.Sound)
    (rx : Option (RxSample R)) (pending : Option (Target R)) (consumeSuperseded : Bool) :
    (w.step lib (.tick rx pending consumeSuperseded)).Unmasked ↔
      w.bringsNoLesser (.tick rx pending consumeSuperseded) := by
  by_cases completes : (w.core.beforeDwell lib rx).dwellCompletes = true
  · obtain ⟨quiet, alive, fresh⟩ := TickCore.dwellCompletes_quiet completes
    constructor
    · exact fun _ _ => ⟨.inl quiet, fresh, alive⟩
    · intro _ arms
      simp only [step, if_pos completes] at arms
      rcases arms with same | same <;> cases same
  have waits := Bool.eq_false_of_not_eq_true completes
  by_cases arms : (w.reached rx).arms
  swap
  · constructor
    · exact fun _ reaches => absurd reaches arms
    · intro _ arms'
      simp only [step, if_neg completes] at arms'
      exact absurd arms' arms
  have ingested := sound.ingested arms
  have faulted : (w.core.countTick.ingestRx rx).control.fault ≠ .none := by
    rw [ingested]
    split
    · intro same
      rw [same] at arms
      rcases arms with same | same <;> cases same
    · assumption
  have dwell := TickCore.beforeDwell_fault lib (sound.streaming arms) sound.guarded sound.parks
    faulted
  have real : (w.core.beforeDwell lib rx).control.fault ≠ .none := by
    rw [dwell]
    split
    · exact FaultReason.noConfusion
    · split
      · exact FaultReason.noConfusion
      · exact faulted
  have left := TickCore.tick_fault_kept lib sound.guarded waits real pending consumeSuperseded
  have after : (w.step lib (.tick rx pending consumeSuperseded)).Unmasked ↔
      (w.core.beforeDwell lib rx).control.fault = w.reached rx := by
    rw [← left]
    simp only [Unmasked, step, if_neg completes]
    exact ⟨fun kept => kept arms, fun kept _ => kept⟩
  have unlike (reason : FaultReason) (other : ¬ reason.arms) : reason ≠ w.reached rx :=
    fun same => other (same ▸ arms)
  rw [after, dwell, ingested]
  cases lapses : w.core.supervisorLapses with
  | true =>
    constructor
    · intro same
      exact absurd same (unlike .supervisorLost (by decide))
    · intro legal
      have alive := (legal arms).2.2
      rw [lapses] at alive
      cases alive
  | false =>
    cases silent : w.core.silenceParks rx with
    | true =>
      constructor
      · intro same
        exact absurd same (unlike .rxSilent (by decide))
      · intro legal
        have fresh := (legal arms).2.1
        rw [silent] at fresh
        cases fresh
    | false =>
      simp only [Bool.false_eq_true, if_false]
      constructor
      · intro same _
        refine ⟨?_, silent, lapses⟩
        by_cases quiet : w.core.edgeCause rx = .none
        · exact .inl quiet
        · rw [if_neg quiet] at same
          exact .inr same
      · intro legal
        rcases (legal arms).1 with quiet | same
        · exact if_pos quiet
        · rw [same, ite_self]

theorem step_sound {lib : External R} {w : FaultWatch R} {i : Input R} (sound : w.Sound)
    (legal : w.bringsNoLesser i) : (w.step lib i).Sound := by
  have guarded := TickCore.apply_guarded lib i sound.guarded
  cases i with
  | tick rx pending consumeSuperseded =>
    refine ⟨guarded, ?_, ?_, ?_, (tick_unmasked_iff lib sound rx pending consumeSuperseded).mpr legal⟩
    · refine TickCore.tick_invariant (fun c d kept moved => moved.parksOnSilence kept) ?_ ?_
        sound.parks
      · intro _ _
        simp [Control.ParksOnSilence, Control.recovered, Control.rested]
      · intro parks
        rw [TickCore.consumePending_control]
        cases pending with
        | none => exact parks
        | some t =>
          simp only [TickCore.consume_control]
          split
          · exact parks
          · split
            · exact parks
            · exact parks.accept _ _ _
    · simp only [step]
      split
      · exact .inl rfl
      · exact FaultReason.worse_arms _ sound.armed
    · intro arms
      have before : w.core.anchor.streaming = true := by
        simp only [step] at arms
        split at arms
        · rcases arms with same | same <;> cases same
        · exact sound.streaming arms
      have frame := congrArg Frame.streaming
        (TickCore.tick_frame lib w.core rx pending consumeSuperseded)
      exact (frame.trans (TickCore.ingestRx_streaming w.core rx)).trans before
  | requestStop | requestHold | kick | heartbeat =>
    exact ⟨guarded, sound.parks, sound.armed, sound.streams, sound.unmasked⟩
  | requestRecover =>
    have kept : w.core.requestRecover.control.ParksOnSilence ∧
        w.core.requestRecover.anchor = w.core.anchor ∧
        w.core.requestRecover.health = w.core.health := by
      unfold TickCore.requestRecover
      split
      · exact ⟨sound.parks, rfl, rfl⟩
      · exact ⟨sound.parks, rfl, rfl⟩
    refine ⟨guarded, kept.1, sound.armed, fun arms => ?_, fun arms => ?_⟩
    · simp only [step, TickCore.apply, kept.2.1]
      exact sound.streams arms
    · simp only [step, TickCore.apply, kept.2.2]
      exact sound.unmasked arms
  | beginStreaming qMeas =>
    refine ⟨guarded, ?_, .inl rfl, fun _ => rfl, ?_⟩
    · simp [Control.ParksOnSilence, step, TickCore.apply, TickCore.beginStreaming, TickCore.control]
    · intro arms
      rcases arms with same | same <;> cases same

theorem start_sound (lib : External R) (cfg : RtCoreConfig R) : (machine lib cfg).start.Sound where
  guarded := ⟨by simp [machine, TickCore.control, TickCore.new],
    by simp [machine, TickCore.control, TickCore.new]⟩
  parks := by simp [Control.ParksOnSilence, machine, TickCore.control, TickCore.new]
  armed := .inl rfl
  streams := fun arms => by rcases arms with same | same <;> cases same
  unmasked := fun arms => by rcases arms with same | same <;> cases same

/-- In every run that brings no lesser cause under an e-stop or a controller error, the
worst reason since the last recovery stands; and the step that brings one masks it. -/
theorem latched_fault_stands (lib : External R) (cfg : RtCoreConfig R) (w : FaultWatch R)
    (reachable : (machine lib cfg).Reachable bringsNoLesser w) :
    w.Unmasked ∧ ∀ i, (w.step lib i).Unmasked ↔ w.bringsNoLesser i := by
  have sound : w.Sound := by
    refine Machine.Reaches.invariant reachable (start_sound lib cfg) ?_
    intro a b i sound legal moved
    cases moved
    exact step_sound sound legal
  refine ⟨sound.unmasked, fun i => ?_⟩
  cases i with
  | tick rx pending consumeSuperseded => exact tick_unmasked_iff lib sound rx pending consumeSuperseded
  | requestStop | requestHold | requestRecover | kick | heartbeat | beginStreaming =>
    exact ⟨fun _ => trivial, fun legal => (step_sound sound legal).unmasked⟩

instance (w : FaultWatch R) (i : Input R) : Decidable (w.bringsNoLesser i) :=
  match i with
  | .tick rx _ _ => inferInstanceAs (Decidable ((w.reached rx).arms →
      (w.core.edgeCause rx = .none ∨ w.core.edgeCause rx = w.reached rx) ∧
      w.core.silenceParks rx = false ∧ w.core.supervisorLapses = false))
  | .requestStop | .requestHold | .requestRecover | .kick | .heartbeat | .beginStreaming _ =>
    inferInstanceAs (Decidable True)

/-- The e-stop is pressed. -/
def eStopGates : Gates := { benchGates with eStopped := true }

/-- The arm has also run into something. -/
def eStopContactGates : Gates := { eStopGates with contactStopActive := true }

/-- An e-stop is raised while the arm streams, and held for a second packet. -/
theorem latched_fault_stands_eStop :
    ∃ w : FaultWatch ℚ, w.worst = .eStop ∧ w.core.health.fault = .eStop ∧ w.Unmasked := by
  obtain ⟨w, reachable, ended⟩ := Machine.reachable_of_test
    (machine benchExternal defaultRtCoreConfig) bringsNoLesser
    [.beginStreaming 0, benchTick none, .tick (some (benchRx eStopGates 0)) none false,
      .tick (some (benchRx eStopGates 0)) none false]
    (fun w : FaultWatch ℚ => decide (w.worst = .eStop) && decide (w.core.health.fault = .eStop))
    (by decide +kernel) (by decide +kernel)
  simp only [Bool.and_eq_true, decide_eq_true_eq] at ended
  exact ⟨w, ended.1, ended.2,
    (latched_fault_stands benchExternal defaultRtCoreConfig w reachable).1⟩

/-- Whatever the run, the worst reason since the last recovery stands. -/
def NeverMasked (lib : External R) (cfg : RtCoreConfig R) : Prop :=
  ∀ w, (machine lib cfg).Reachable (fun _ _ => True) w → w.Unmasked

/-- A contact stop that follows an e-stop takes over the reason. -/
theorem contact_stop_masks_eStop : ¬ NeverMasked benchExternal defaultRtCoreConfig := by
  intro unmasked
  obtain ⟨w, reachable, masked⟩ := Machine.reachable_of_run (machine benchExternal defaultRtCoreConfig)
    [.beginStreaming 0, benchTick none, .tick (some (benchRx eStopGates 0)) none false,
      .tick (some (benchRx eStopContactGates 0)) none false]
    (fun w : FaultWatch ℚ =>
      decide (w.worst = .eStop) && decide (w.core.health.fault = .contactStop))
    (by decide +kernel)
  simp only [Bool.and_eq_true, decide_eq_true_eq] at masked
  have stands := unmasked w reachable (.inl masked.1)
  rw [masked.1, masked.2] at stands
  cases stands

end FaultWatch

end AiroFanuc.RtCore
