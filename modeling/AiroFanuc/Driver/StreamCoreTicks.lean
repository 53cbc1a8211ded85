import AiroFanuc.Driver.StreamCore
import AiroFanuc.RtCore.Run

/-! A core to which no motion is submitted ticks as a bring-up's view of it does. -/

namespace AiroFanuc.Driver

open RtCore TickEngine

/-- What a bring-up sees of the tick core. -/
structure Vitals where
  streaming : Bool
  mode : Mode
  fault : FaultReason
  killed : Bool
  lastGates : Gates
  rxWatch : RxWatch
  recovery : Recovery

def StreamCore.vitals (c : StreamCore) : Vitals :=
  ⟨c.streamingReady, c.mode, c.fault, c.killed, c.lastGates, c.rxWatch, c.recovery⟩

variable {R : Type} [Field R] [LinearOrder R] [FloorRing R]

/-- The windows that the configured times come to. -/
structure CoreLimits.Times (limits : CoreLimits) (s : TickCore R) : Prop where
  park : ∀ ticks : Nat,
    s.cfg.rxSilentParkMs ≤ (ticks : R) * s.itp * 1000 ↔ limits.parkTicks ≤ ticks
  blind : ∀ ticks : Nat,
    s.cfg.rxSilenceBlindHoldMs ≤ (ticks : R) * s.itp * 1000 ↔ limits.blindTicks ≤ ticks
  dwell : s.msToTicks s.cfg.antiflapDwellMs = limits.dwellTicks

/-- No motion is in play, none is guarded, and no stop or hold is asked for. -/
structure Quiet (s : TickCore R) : Prop where
  mode : s.health.mode ≠ .trajectory ∧ s.health.mode ≠ .capture ∧ s.health.mode ≠ .servo ∧
    s.health.mode ≠ .brake
  deadman : s.deadman.armed = false
  forceGuard : s.forceGuard.armed = false
  stop : s.ops.stopRequested = false
  hold : s.ops.holdRequested = false

namespace StreamCore

def vitalsOf (s : TickCore R) : Vitals :=
  ⟨s.anchor.streaming, s.health.mode, s.health.fault, s.health.conditions.killed, s.lastGates,
    s.rxWatch, s.recovery⟩

variable {c : StreamCore} {s : TickCore R}

omit [LinearOrder R] [FloorRing R] in
theorem vitalsOf_new (limits : CoreLimits) (cfg : RtCoreConfig R) :
    vitalsOf (TickCore.new cfg) = (new limits).vitals := rfl

omit [LinearOrder R] [FloorRing R] in
theorem vitalsOf_beginStreaming (same : vitalsOf s = c.vitals) (qMeas : Vec6 R) :
    vitalsOf (s.beginStreaming qMeas) = c.beginStreaming.vitals := by
  simp only [vitalsOf, vitals, Vitals.mk.injEq] at same
  obtain ⟨-, -, -, -, lastGates, rxWatch, recovery⟩ := same
  simp only [vitalsOf, vitals, TickCore.beginStreaming, beginStreaming, lastGates, rxWatch,
    recovery]
  rfl

omit [Field R] [LinearOrder R] [FloorRing R] in
theorem vitalsOf_requestRecover (same : vitalsOf s = c.vitals) :
    vitalsOf s.requestRecover = c.requestRecover.vitals := by
  have mode : s.health.mode = c.mode := congrArg Vitals.mode same
  unfold TickCore.requestRecover requestRecover
  rw [mode]
  split
  · exact congrArg (fun v : Vitals => { v with recovery := ⟨true, 0⟩ }) same
  · exact same

omit [Field R] [LinearOrder R] [FloorRing R] in
theorem vitalsOf_setCondition (s : TickCore R) {bit : Condition} (benign : bit ∉ kKillMask)
    (on : Bool) : vitalsOf (s.setCondition bit on) = vitalsOf s := by
  simp only [vitalsOf, TickCore.setCondition, killed_update benign]

omit [Field R] [LinearOrder R] [FloorRing R] in
theorem vitalsOf_emit (s : TickCore R) (type : EventType) (reason : FaultReason) (value : Int)
    (motionId : Nat) : vitalsOf (s.emit type reason value motionId) = vitalsOf s := rfl

theorem vitalsOf_enterFault (s : TickCore R) (cause : FaultReason) (bump : BumpReason)
    (st : MotionStatus) :
    vitalsOf (s.enterFault cause bump st) =
      { vitalsOf s with fault := cause, mode := .safeFollow, recovery := ⟨false, 0⟩ } := by
  simp only [vitalsOf, TickCore.enterFault, TickCore.resolveActive_shape, TickCore.bumpEpoch,
    TickCore.emit]

omit [Field R] [LinearOrder R] [FloorRing R] in
theorem vitalsOf_enterRxSilent (s : TickCore R) :
    vitalsOf s.enterRxSilent = { vitalsOf s with fault := .rxSilent, mode := .rxSilent } := by
  simp only [vitalsOf, TickCore.enterRxSilent, TickCore.resolveActive_shape, TickCore.bumpEpoch,
    TickCore.emit, TickCore.setCondition]
  rw [killed_update (by decide)]

/-! ### The stages of a tick -/

omit [Field R] [LinearOrder R] [FloorRing R] in
theorem vitalsOf_observeGates (s : TickCore R) (g : Gates) :
    vitalsOf (s.observeGates g) =
      { vitalsOf s with lastGates := g, killed := TickCore.killLevel s.anchor.streaming g } := by
  simp only [TickCore.observeGates, TickCore.gateEvents_shape]
  rw [← TickCore.setGateConditions_killed]
  rfl

theorem vitalsOf_processGates (same : vitalsOf s = c.vitals) (g : Gates) :
    vitalsOf (s.processGates g) = (c.processGates g).vitals := by
  have lastGates : s.lastGates = c.lastGates := congrArg Vitals.lastGates same
  have streaming : s.anchor.streaming = c.streamingReady := congrArg Vitals.streaming same
  have observed : vitalsOf (s.observeGates g) =
      { c.vitals with lastGates := g, killed := TickCore.killLevel c.streamingReady g } := by
    rw [vitalsOf_observeGates, same, streaming]
  unfold TickCore.processGates processGates
  dsimp only
  rw [TickCore.observeGates_anchor, lastGates, streaming]
  split
  · cases TickCore.gateEdges c.lastGates g with
    | nil => exact observed
    | cons edge rest =>
      show vitalsOf (TickCore.enterFault _ _ _ _) = _
      rw [vitalsOf_enterFault, observed]
      rfl
  · exact observed

theorem vitalsOf_ingestRx (same : vitalsOf s = c.vitals) (rx : Option (RxSample R)) :
    vitalsOf (s.ingestRx rx) = (c.ingestRx (rx.map RxSample.gates)).vitals := by
  cases rx with
  | none =>
    exact congrArg (fun v : Vitals =>
      { v with rxWatch.ticksSinceRx := v.rxWatch.ticksSinceRx + 1 }) same
  | some rx =>
    apply vitalsOf_processGates
    rw [TickCore.takeRx, vitalsOf_setCondition _ (by decide)]
    exact congrArg (fun v : Vitals => { v with rxWatch := ⟨0, false⟩ }) same

theorem vitalsOf_handleRxSilence (same : vitalsOf s = c.vitals) (times : c.limits.Times s) :
    vitalsOf s.handleRxSilence = c.handleRxSilence.vitals := by
  have mode : s.health.mode = c.mode := congrArg Vitals.mode same
  have watch : s.rxWatch = c.rxWatch := congrArg Vitals.rxWatch same
  unfold TickCore.handleRxSilence handleRxSilence
  dsimp only
  simp only [times.park, times.blind, watch, mode, playing, decide_eq_true_eq]
  split
  · exact same
  · split
    · exact same
    · split
      · rw [vitalsOf_enterRxSilent, same]
        rfl
      · split
        · have degraded : vitalsOf s.degradeRx =
              { c.vitals with rxWatch.degradedEntered := true } := by
            have flagged := congrArg (fun v : Vitals =>
              { v with rxWatch.degradedEntered := true }) same
            exact (vitalsOf_setCondition { s with rxWatch.degradedEntered := true }
              (by decide) true).trans flagged
          rw [vitalsOf_enterFault, degraded]
          rfl
        · exact same

theorem vitalsOf_handleSupervisorLiveness (same : vitalsOf s = c.vitals) :
    ∃ trip, vitalsOf s.handleSupervisorLiveness = (c.handleWatches trip).vitals := by
  have streaming : s.anchor.streaming = c.streamingReady := congrArg Vitals.streaming same
  unfold TickCore.handleSupervisorLiveness
  dsimp only
  split
  · exact ⟨none, same⟩
  · rename_i streams
    split
    · exact ⟨none, same⟩
    · split
      · refine ⟨some .supervisorLost, ?_⟩
        have ready : c.streamingReady = true := by
          rw [← streaming]
          exact Bool.of_not_eq_false fun stopped => streams (.inl stopped)
        rw [handleWatches, if_pos ready]
        rw [vitalsOf_emit, vitalsOf_enterFault]
        exact congrArg (fun v : Vitals =>
          { v with fault := .supervisorLost, mode := .safeFollow, recovery := ⟨false, 0⟩ }) same
      · exact ⟨none, same⟩

omit [Field R] [LinearOrder R] [FloorRing R] in
theorem vitalsOf_completeRecovery (s : TickCore R) :
    vitalsOf s.completeRecovery =
      { vitalsOf s with
        fault := .none
        mode := .hold
        rxWatch.degradedEntered := false
        recovery := ⟨false, 0⟩ } := by
  have cleared (a : TickCore R) :
      vitalsOf ((a.setCondition .rxSilent false).setCondition .rxDegraded false) = vitalsOf a := by
    rw [vitalsOf_setCondition _ (by decide), vitalsOf_setCondition _ (by decide)]
  have resumed := congrArg (fun v : Vitals =>
    { v with mode := .hold, rxWatch.degradedEntered := false, recovery := ⟨false, 0⟩ })
    (cleared { s.bumpEpoch .recoveryComplete with health.fault := .none })
  simp only [TickCore.completeRecovery]
  split <;> exact resumed

theorem vitalsOf_recoveryDwell (same : vitalsOf s = c.vitals) (times : c.limits.Times s) :
    vitalsOf s.recoveryDwell = c.recoveryDwell.vitals := by
  have recovery : s.recovery = c.recovery := congrArg Vitals.recovery same
  have clear : s.dwellClear = c.dwellClear := by
    have mode : s.health.mode = c.mode := congrArg Vitals.mode same
    have killed : s.health.conditions.killed = c.killed := congrArg Vitals.killed same
    have watch : s.rxWatch = c.rxWatch := congrArg Vitals.rxWatch same
    rw [TickCore.dwellClear, dwellClear, mode, killed, watch]
  unfold TickCore.recoveryDwell recoveryDwell
  simp only [recovery, clear, times.dwell]
  split
  · split
    · split
      · rw [vitalsOf_completeRecovery]
        exact congrArg (fun v : Vitals =>
          { v with
            fault := .none
            mode := .hold
            rxWatch.degradedEntered := false
            recovery := ⟨false, 0⟩ }) same
      · exact congrArg (fun v : Vitals =>
          { v with recovery.allClearTicks := v.recovery.allClearTicks + 1 }) same
    · exact congrArg (fun v : Vitals => { v with recovery := ⟨c.recovery.pending, 0⟩ }) same
  · exact same

end StreamCore

/-! ### A quiet tick -/

open StreamCore

section Quiet

variable {c : StreamCore} {s : TickCore R}

theorem Quiet.enterFault (quiet : Quiet s) (cause : FaultReason) (bump : BumpReason)
    (st : MotionStatus) : Quiet (s.enterFault cause bump st) := by
  refine ⟨⟨nofun, nofun, nofun, nofun⟩, rfl, rfl, ?_, ?_⟩
  · simp only [TickCore.enterFault, TickCore.resolveActive_shape, TickCore.bumpEpoch,
      TickCore.emit, quiet.stop]
  · simp only [TickCore.enterFault, TickCore.resolveActive_shape, TickCore.bumpEpoch,
      TickCore.emit, quiet.hold]

omit [Field R] [LinearOrder R] [FloorRing R] in
theorem Quiet.emit (quiet : Quiet s) (type : EventType) (reason : FaultReason) (value : Int)
    (motionId : Nat) : Quiet (s.emit type reason value motionId) := { quiet with }

omit [Field R] [LinearOrder R] [FloorRing R] in
theorem Quiet.setCondition (quiet : Quiet s) (condition : Condition) (on : Bool) :
    Quiet (s.setCondition condition on) := { quiet with }

theorem Quiet.ingestRx (quiet : Quiet s) (rx : Option (RxSample R)) : Quiet (s.ingestRx rx) := by
  cases rx with
  | none => exact { quiet with }
  | some rx =>
    have taken : Quiet (s.takeRx rx) := { quiet with }
    have leveled : Quiet ((s.takeRx rx).setGateConditions rx.gates) := by
      unfold TickCore.setGateConditions
      iterate 6 apply Quiet.setCondition
      exact taken
    have observed : Quiet ((s.takeRx rx).observeGates rx.gates) := by
      simp only [TickCore.observeGates, TickCore.gateEvents_shape]
      exact { leveled with }
    unfold TickCore.ingestRx TickCore.processGates
    dsimp only
    split
    · split
      · exact observed
      · exact observed.enterFault _ _ _
    · exact observed

theorem Quiet.handleRxSilence (quiet : Quiet s) : Quiet s.handleRxSilence := by
  have degraded : Quiet s.degradeRx := { quiet with }
  have parked : Quiet s.enterRxSilent := by
    refine ⟨⟨nofun, nofun, nofun, nofun⟩, rfl, rfl, ?_, ?_⟩
    · simp only [TickCore.enterRxSilent, TickCore.resolveActive_shape, TickCore.bumpEpoch,
        TickCore.emit, TickCore.setCondition, quiet.stop]
    · simp only [TickCore.enterRxSilent, TickCore.resolveActive_shape, TickCore.bumpEpoch,
        TickCore.emit, TickCore.setCondition, quiet.hold]
  unfold TickCore.handleRxSilence
  dsimp only
  split
  · exact quiet
  · split
    · exact quiet
    · split
      · exact parked
      · split
        · exact degraded.enterFault _ _ _
        · exact quiet

theorem Quiet.handleSupervisorLiveness (quiet : Quiet s) : Quiet s.handleSupervisorLiveness := by
  unfold TickCore.handleSupervisorLiveness
  dsimp only
  split
  · exact quiet
  · split
    · exact quiet
    · split
      · have lost : Quiet { s with
            liveness.ticksSinceHeartbeat := s.liveness.ticksSinceHeartbeat + 1
            liveness.lostLatched := true } := { quiet with }
        exact (lost.enterFault .supervisorLost .supervisorLost .faulted).emit _ _ _ _
      · exact { quiet with }

theorem Quiet.handleDeadman (quiet : Quiet s) : s.handleDeadman = s :=
  if_pos (.inl quiet.deadman)

omit [FloorRing R] in
theorem Quiet.handleForceGuard (quiet : Quiet s) (lib : External R) (rx : RxSample R) :
    s.handleForceGuard lib rx = s :=
  if_pos (.inl quiet.forceGuard)

/-- With nothing asked for and nothing in play, the middle of a tick is its watches alone. -/
theorem Quiet.beforeDwell (quiet : Quiet s) (same : vitalsOf s = c.vitals) (lib : External R)
    (rx : Option (RxSample R)) :
    ∃ a : TickCore R, Quiet a ∧ a.cfg = s.cfg ∧
      vitalsOf a = (c.ingestRx (rx.map RxSample.gates)).vitals ∧
      s.beforeDwell lib rx = a.handleRxSilence.handleSupervisorLiveness := by
  have counted : Quiet s.countTick := { quiet with }
  have taken := counted.ingestRx rx
  have vitals := vitalsOf_ingestRx (s := s.countTick) same rx
  have cfg : (s.countTick.ingestRx rx).cfg = s.cfg := TickCore.ingestRx_cfg s.countTick rx
  unfold TickCore.beforeDwell
  dsimp only
  generalize s.countTick.ingestRx rx = a at taken vitals cfg
  have stopped : a.answerStop = a := if_neg (by rw [taken.stop]; decide)
  have held : a.answerHold = a := if_neg (by rw [taken.hold]; decide)
  have answered : Quiet a.answerKick.answerHeartbeat := by
    have kicked : Quiet a.answerKick := by
      unfold TickCore.answerKick
      split
      · exact { taken with }
      · exact taken
    unfold TickCore.answerHeartbeat
    split
    · exact { kicked with }
    · exact kicked
  have unchanged : vitalsOf a.answerKick.answerHeartbeat = vitalsOf a ∧
      a.answerKick.answerHeartbeat.cfg = a.cfg := by
    unfold TickCore.answerHeartbeat TickCore.answerKick
    split <;> split <;> exact ⟨rfl, rfl⟩
  refine ⟨_, answered, unchanged.2.trans cfg, unchanged.1.trans vitals, ?_⟩
  have watched := answered.handleRxSilence
  rw [stopped, held, watched.handleDeadman]
  cases rx with
  | none => rfl
  | some rx => exact watched.handleSupervisorLiveness.handleForceGuard lib rx

omit [Field R] [LinearOrder R] [FloorRing R] in
theorem Quiet.held (holds : s.health.mode = .hold) (deadman : s.deadman.armed = false)
    (forceGuard : s.forceGuard.armed = false) (stop : s.ops.stopRequested = false)
    (hold : s.ops.holdRequested = false) : Quiet s :=
  ⟨by simp [holds], deadman, forceGuard, stop, hold⟩

theorem Quiet.recoveryDwell (quiet : Quiet s) : Quiet s.recoveryDwell := by
  have resumed : Quiet s.countDwell.completeRecovery := by
    simp only [TickCore.completeRecovery]
    split <;> exact .held rfl quiet.deadman quiet.forceGuard quiet.stop quiet.hold
  unfold TickCore.recoveryDwell
  split
  · split
    · split
      · exact resumed
      · exact { quiet with }
    · exact { quiet with }
  · exact quiet

/-- A mode that plays nothing stays as it is. -/
theorem Quiet.dispatchMode (quiet : Quiet s) (lib : External R) :
    Quiet (s.dispatchMode lib).2 ∧ vitalsOf (s.dispatchMode lib).2 = vitalsOf s := by
  have following : Quiet s.dispatchSafeFollow.2 ∧ vitalsOf s.dispatchSafeFollow.2 = vitalsOf s := by
    unfold TickCore.dispatchSafeFollow
    split
    · exact ⟨{ quiet with }, rfl⟩
    · dsimp only
      split
      · exact ⟨{ quiet with }, rfl⟩
      · split <;> exact ⟨{ quiet with }, rfl⟩
  obtain ⟨trajectory, capture, servo, brake⟩ := quiet.mode
  unfold TickCore.dispatchMode
  cases mode : s.health.mode with
  | streamDown | preroll | rxSilent | hold => exact ⟨{ quiet with }, rfl⟩
  | safeFollow => exact following
  | trajectory => exact absurd mode trajectory
  | capture => exact absurd mode capture
  | servo => exact absurd mode servo
  | brake => exact absurd mode brake

omit [FloorRing R] in
theorem Quiet.sendCommand (quiet : Quiet s) (qDesired : Vec6 R) :
    Quiet (s.sendCommand qDesired).2 ∧ vitalsOf (s.sendCommand qDesired).2 = vitalsOf s := by
  have benign : Condition.sustainedSlew ∉ kKillMask := by decide
  have slewed (slew : SlewLimiter R) (on : Bool) :=
    vitalsOf_setCondition { s with slew := slew } benign on
  unfold TickCore.sendCommand
  dsimp only
  split
  · exact ⟨{ quiet with }, slewed _ _⟩
  · split <;> exact ⟨{ quiet with }, slewed _ _⟩

theorem CoreLimits.Times.of_cfg {limits : CoreLimits} {a : TickCore R} (times : limits.Times s)
    (same : a.cfg = s.cfg) : limits.Times a := by
  have itp : a.itp = s.itp := by rw [TickCore.itp, TickCore.itp, same]
  constructor
  · rw [same, itp]
    exact times.park
  · rw [same, itp]
    exact times.blind
  · rw [same, TickCore.msToTicks, itp]
    exact times.dwell

/-- A core to which no motion is submitted ticks as a bring-up sees it tick, and stays so. -/
theorem Quiet.tick (quiet : Quiet s) (same : vitalsOf s = c.vitals) (times : c.limits.Times s)
    (lib : External R) (rx : Option (RxSample R)) :
    Quiet (s.tick lib rx none false).2 ∧ c.limits.Times (s.tick lib rx none false).2 ∧
      ∃ trip, vitalsOf (s.tick lib rx none false).2 =
        (c.tick (rx.map RxSample.gates) trip none).vitals := by
  obtain ⟨a, quietA, cfgA, vitalsA, early⟩ := quiet.beforeDwell same lib rx
  have ingested := ingestRx_intake c (rx.map RxSample.gates)
  have timesA : (c.ingestRx (rx.map RxSample.gates)).limits.Times a := by
    rw [show (c.ingestRx _).limits = c.limits from congrArg Intake.limits ingested]
    exact times.of_cfg cfgA
  have silence := vitalsOf_handleRxSilence vitalsA timesA
  obtain ⟨trip, watched⟩ := vitalsOf_handleSupervisorLiveness silence
  have quietB := quietA.handleRxSilence.handleSupervisorLiveness
  have cfgB : (s.beforeDwell lib rx).cfg = s.cfg := by
    have kept := congrArg Frame.cfg (TickCore.beforeDwell_frame lib s rx)
    exact kept.trans (TickCore.ingestRx_cfg s.countTick rx)
  rw [← early] at watched quietB
  have timesB : (((c.ingestRx (rx.map RxSample.gates)).handleRxSilence).handleWatches
      trip).limits.Times (s.beforeDwell lib rx) := by
    have kept := (handleWatches_intake (c.ingestRx (rx.map RxSample.gates)).handleRxSilence
      trip).trans (handleRxSilence_intake _)
    rw [show StreamCore.limits _ = c.limits from
      (congrArg Intake.limits kept).trans (congrArg Intake.limits ingested)]
    exact times.of_cfg cfgB
  have dwelt := vitalsOf_recoveryDwell watched timesB
  have quietC : Quiet ((s.beforeConsume lib rx).consumePending lib none false) :=
    { quietB.recoveryDwell with }
  have dispatched := quietC.dispatchMode lib
  have sent := dispatched.1.sendCommand
    (((s.beforeConsume lib rx).consumePending lib none false).dispatchMode lib).1
  have cfg : (s.tick lib rx none false).2.cfg = s.cfg := by
    have kept := congrArg Frame.cfg (TickCore.tick_frame lib s rx none false)
    exact kept.trans (TickCore.ingestRx_cfg s rx)
  exact ⟨sent.1, times.of_cfg cfg, trip, (sent.2.trans dispatched.2).trans dwelt⟩

/-- A bring-up sees the tick core go from one state to another. -/
inductive Step : StreamCore → Input R → StreamCore → Prop
  | tick (c : StreamCore) (rx : Option (RxSample R)) (trip : Option FaultReason) :
      Step c (.tick rx none false) (c.tick (rx.map RxSample.gates) trip none)
  | requestRecover (c : StreamCore) : Step c .requestRecover c.requestRecover
  | kick (c : StreamCore) : Step c .kick c
  | heartbeat (c : StreamCore) : Step c .heartbeat c
  | beginStreaming (c : StreamCore) (qMeas : Vec6 R) :
      Step c (.beginStreaming qMeas) c.beginStreaming

inductive Steps : StreamCore → List (Input R) → StreamCore → Prop
  | done (c : StreamCore) : Steps c [] c
  | more {c d e : StreamCore} {i : Input R} {rest : List (Input R)} :
      Step c i d → Steps d rest e → Steps c (i :: rest) e

/-- No motion is submitted, and none is stopped or held. -/
def Still : Input R → Prop
  | .tick _ pending consumeSuperseded => pending = none ∧ consumeSuperseded = false
  | .requestStop | .requestHold => False
  | .requestRecover | .kick | .heartbeat | .beginStreaming _ => True

/-- The tick core goes as a bring-up sees it go. -/
structure Mirrors (c : StreamCore) (s : TickCore R) : Prop where
  vitals : vitalsOf s = c.vitals
  quiet : Quiet s
  times : c.limits.Times s

theorem Mirrors.step (follows : Mirrors c s) (lib : External R) {i : Input R} (still : Still i) :
    ∃ d, Step c i d ∧ Mirrors d (s.apply lib i) := by
  obtain ⟨vitals, quiet, times⟩ := follows
  cases i with
  | tick rx pending consumeSuperseded =>
    obtain ⟨rfl, rfl⟩ := still
    obtain ⟨quiet', times', trip, vitals'⟩ := quiet.tick vitals times lib rx
    refine ⟨_, .tick c rx trip, vitals', quiet', ?_⟩
    rw [show (c.tick _ trip none).limits = c.limits from
      congrArg Intake.limits (tick_intake c _ trip none)]
    exact times'
  | requestStop => exact still.elim
  | requestHold => exact still.elim
  | requestRecover =>
    have limits : c.requestRecover.limits = c.limits := by
      unfold StreamCore.requestRecover
      split <;> rfl
    refine ⟨_, .requestRecover c, vitalsOf_requestRecover vitals, ?_, ?_⟩
    · show Quiet s.requestRecover
      unfold TickCore.requestRecover
      split
      · exact { quiet with }
      · exact quiet
    · rw [limits]
      refine times.of_cfg ?_
      show s.requestRecover.cfg = s.cfg
      unfold TickCore.requestRecover
      split <;> rfl
  | kick => exact ⟨_, .kick c, vitals, { quiet with }, times.of_cfg rfl⟩
  | heartbeat => exact ⟨_, .heartbeat c, vitals, { quiet with }, times.of_cfg rfl⟩
  | beginStreaming qMeas =>
    exact ⟨_, .beginStreaming c qMeas, vitalsOf_beginStreaming vitals qMeas,
      { quiet with mode := ⟨nofun, nofun, nofun, nofun⟩ }, times.of_cfg rfl⟩

theorem Mirrors.run (follows : Mirrors c s) (lib : External R) {inputs : List (Input R)}
    (still : ∀ i ∈ inputs, Still i) :
    ∃ d, Steps c inputs d ∧ Mirrors d (inputs.foldl (TickCore.apply lib) s) := by
  induction inputs generalizing c s with
  | nil => exact ⟨c, .done c, follows⟩
  | cons i rest ih =>
    obtain ⟨d, stepped, onward⟩ := follows.step lib (still i List.mem_cons_self)
    obtain ⟨e, steps, ends⟩ := ih onward fun j member => still j (List.mem_cons_of_mem _ member)
    exact ⟨e, .more stepped steps, ends⟩

/-- Every run of a core to which no motion is submitted is one that a bring-up sees. -/
theorem still_run (lib : External R) (cfg : RtCoreConfig R) {limits : CoreLimits}
    (times : limits.Times (TickCore.new cfg)) (inputs : List (Input R))
    (still : ∀ i ∈ inputs, Still i) :
    ∃ c, Steps (.new limits) inputs c ∧
      vitalsOf (inputs.foldl (TickCore.apply lib) (.new cfg)) = c.vitals := by
  have starts : Mirrors (.new limits) (TickCore.new cfg) :=
    { vitals := vitalsOf_new limits cfg
      quiet := ⟨⟨nofun, nofun, nofun, nofun⟩, rfl, rfl, rfl, rfl⟩
      times := times }
  obtain ⟨c, steps, follows⟩ := starts.run lib still
  exact ⟨c, steps, follows.vitals⟩

/-- A core with a tick length has such times. -/
theorem times_of_pos [IsStrictOrderedRing R] {cfg : RtCoreConfig R} (itp : 0 < cfg.tick.itpS) :
    CoreLimits.Times
      ⟨⌈cfg.rxSilentParkMs / (cfg.tick.itpS * 1000)⌉.toNat,
        ⌈cfg.rxSilenceBlindHoldMs / (cfg.tick.itpS * 1000)⌉.toNat,
        (TickCore.new cfg).msToTicks cfg.antiflapDwellMs⟩
      (TickCore.new cfg) := by
  have windows (ms : R) (ticks : Nat) :
      ms ≤ (ticks : R) * cfg.tick.itpS * 1000 ↔ ⌈ms / (cfg.tick.itpS * 1000)⌉.toNat ≤ ticks := by
    rw [Int.toNat_le, Int.ceil_le, div_le_iff₀ (by positivity), ← mul_assoc, Int.cast_natCast]
  exact ⟨windows _, windows _, rfl⟩

end Quiet

end AiroFanuc.Driver
