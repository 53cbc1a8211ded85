import AiroFanuc.RtCore.Frames

/-! What of the core a bring-up depends on, window by window. None of it is reset by `stop()` or
by the next `start()`. -/

namespace AiroFanuc.Driver

open RtCore

/-- The times of the core's configuration that count here, in windows. -/
structure CoreLimits where
  parkTicks : Nat
  blindTicks : Nat
  dwellTicks : Nat
  deriving DecidableEq

structure StreamCore where
  limits : CoreLimits
  /-- `streaming_ready_`, and the tick core's `streaming_` with it. -/
  streamingReady : Bool
  mode : Mode
  fault : FaultReason
  /-- `(conditions_ & kKillMask) != 0`. -/
  killed : Bool
  lastGates : Gates
  rxWatch : RxWatch
  recovery : Recovery
  recoverReq : Bool
  /-- The gates of the packet ingested last in the window under way. -/
  rx : Option Gates
  shownMode : Mode
  shownPossible : Bool
  /-- Every packet ingested so far. -/
  received : List Gates

/-- What a running core meets. A window ends with a tick and its publication; in the tick a watch
may trip, and a motion still in play or its force guard may change the mode. -/
inductive CoreEvent
  | packet (gates : Gates)
  | window (trip : Option FaultReason) (play : Option Mode)

namespace StreamCore

def new (limits : CoreLimits) : StreamCore where
  limits := limits
  streamingReady := false
  mode := .streamDown
  fault := .none
  killed := false
  lastGates := .initial
  rxWatch := ⟨0, false⟩
  recovery := ⟨false, 0⟩
  recoverReq := false
  rx := none
  shownMode := .streamDown
  shownPossible := false
  received := []

variable (c : StreamCore)

/-- The modes of a motion in play. -/
def playing : Bool :=
  decide (c.mode = .trajectory ∨ c.mode = .capture ∨ c.mode = .servo ∨ c.mode = .brake)

def beginStreaming : StreamCore :=
  { c with
    streamingReady := true
    mode := .hold
    fault := .none
    killed := false
    rxWatch.ticksSinceRx := 0 }

def requestRecover : StreamCore :=
  if c.mode = .safeFollow ∨ c.mode = .rxSilent then { c with recovery := ⟨true, 0⟩ } else c

def enterFault (cause : FaultReason) : StreamCore :=
  { c with fault := cause, mode := .safeFollow, recovery := ⟨false, 0⟩ }

def enterRxSilent : StreamCore := { c with fault := .rxSilent, mode := .rxSilent }

def processGates (g : Gates) : StreamCore :=
  let edges := TickCore.gateEdges c.lastGates g
  let c := { c with lastGates := g, killed := TickCore.killLevel c.streamingReady g }
  if c.streamingReady then
    match edges with
    | [] => c
    | (_, cause, _) :: _ => c.enterFault cause
  else c

def ingestRx (rx : Option Gates) : StreamCore :=
  match rx with
  | some g => { c with rxWatch := ⟨0, false⟩ }.processGates g
  | none => { c with rxWatch.ticksSinceRx := c.rxWatch.ticksSinceRx + 1 }

def handleRxSilence : StreamCore :=
  if c.rxWatch.ticksSinceRx = 0 then c
  else if c.mode = .rxSilent then c
  else if c.limits.parkTicks ≤ c.rxWatch.ticksSinceRx then c.enterRxSilent
  else if c.playing = true ∧ c.limits.blindTicks ≤ c.rxWatch.ticksSinceRx ∧
      c.rxWatch.degradedEntered = false then
    { c with rxWatch.degradedEntered := true }.enterFault .rxDegraded
  else c

/-- The deadman and the supervisor's heartbeat. -/
def handleWatches (trip : Option FaultReason) : StreamCore :=
  match trip with
  | some cause => if c.streamingReady then c.enterFault cause else c
  | none => c

def dwellClear : Bool :=
  !c.killed && (decide (c.mode ≠ .rxSilent) || decide (c.rxWatch.ticksSinceRx = 0))

def recoveryDwell : StreamCore :=
  if c.recovery.pending then
    if c.dwellClear then
      if c.limits.dwellTicks ≤ c.recovery.allClearTicks + 1 then
        { c with
          fault := .none
          mode := .hold
          rxWatch.degradedEntered := false
          recovery := ⟨false, 0⟩ }
      else { c with recovery.allClearTicks := c.recovery.allClearTicks + 1 }
    else { c with recovery.allClearTicks := 0 }
  else c

/-- What a motion or its force guard makes of the mode; one that cannot go on is a fault. -/
def playOn (play : Option Mode) : StreamCore :=
  match play with
  | some mode =>
    if c.streamingReady ∧ c.mode ≠ .safeFollow ∧ c.mode ≠ .rxSilent then
      if mode = .safeFollow then c.enterFault .internal else { c with mode := mode }
    else c
  | none => c

def tick (rx : Option Gates) (trip : Option FaultReason) (play : Option Mode) : StreamCore :=
  ((((c.ingestRx rx).handleRxSilence).handleWatches trip).recoveryDwell).playOn play

def exchangeRecover : StreamCore :=
  if c.recoverReq then { c with recoverReq := false }.requestRecover else c

def publish : StreamCore :=
  { c with
    shownMode := c.mode
    shownPossible := c.rx.elim c.shownPossible Gates.motionPossible
    rx := none }

/-- The ingest of a packet, PREROLL → HOLD with it. -/
def ingest (g : Gates) : StreamCore :=
  let c := { c with rx := some g, received := c.received ++ [g] }
  if !c.streamingReady && g.motionPossible then c.beginStreaming else c

def step : CoreEvent → StreamCore
  | .packet g => c.ingest g
  | .window trip play => (c.exchangeRecover.tick c.rx trip play).publish

def run (events : List CoreEvent) : StreamCore := events.foldl step c

end StreamCore

/-- No kill gate is up. Whether motion is possible is another matter. -/
def CoreEvent.Clear : CoreEvent → Prop
  | .packet g => g.eStopped = false ∧ g.inError = false ∧ g.tpEnabled = false ∧
      g.contactStopActive = false ∧ g.safetyClamp = false
  | .window _ _ => True

namespace StreamCore

/-- A core before its first packet with motion possible. -/
structure Preroll (c : StreamCore) : Prop where
  mode : c.mode = .streamDown ∨ c.mode = .rxSilent
  gates : c.lastGates.motionPossible = false
  recovery : c.recovery = ⟨false, 0⟩
  recoverReq : c.recoverReq = false
  degraded : c.rxWatch.degradedEntered = false
  rx : ∀ g ∈ c.rx, g.motionPossible = false
  shownMode : c.shownMode ≠ .hold
  shownPossible : c.shownPossible = false

/-- Streaming has begun with the first packet with motion possible, and never ends. -/
structure Sound (c : StreamCore) : Prop where
  ready : c.streamingReady = true ↔ ∃ g ∈ c.received, g.motionPossible = true
  preroll : c.streamingReady = false → c.Preroll

theorem new_preroll (limits : CoreLimits) : (new limits).Preroll :=
  ⟨.inl rfl, rfl, rfl, rfl, rfl, nofun, nofun, rfl⟩

theorem new_sound (limits : CoreLimits) : (new limits).Sound :=
  ⟨⟨nofun, fun received => absurd received.choose_spec.1 List.not_mem_nil⟩,
    fun _ => new_preroll limits⟩

variable {c d : StreamCore}

/-! ### What a tick leaves alone -/

/-- What only the packets change. -/
structure Intake where
  limits : CoreLimits
  streamingReady : Bool
  received : List Gates
  rx : Option Gates
  lastGates : Gates

def intake (c : StreamCore) : Intake :=
  ⟨c.limits, c.streamingReady, c.received, c.rx, c.lastGates⟩

theorem ingestRx_intake (c : StreamCore) (rx : Option Gates) :
    (c.ingestRx rx).intake = { c.intake with lastGates := rx.getD c.lastGates } := by
  cases rx with
  | none => rfl
  | some g =>
    unfold ingestRx processGates
    dsimp only
    split
    · split <;> rfl
    · rfl

theorem handleRxSilence_intake (c : StreamCore) : c.handleRxSilence.intake = c.intake := by
  unfold handleRxSilence
  repeat' split
  all_goals rfl

theorem handleWatches_intake (c : StreamCore) (trip : Option FaultReason) :
    (c.handleWatches trip).intake = c.intake := by
  unfold handleWatches
  repeat' split
  all_goals rfl

theorem recoveryDwell_intake (c : StreamCore) : c.recoveryDwell.intake = c.intake := by
  unfold recoveryDwell
  repeat' split
  all_goals rfl

theorem playOn_intake (c : StreamCore) (play : Option Mode) :
    (c.playOn play).intake = c.intake := by
  unfold playOn
  repeat' split
  all_goals rfl

theorem tick_intake (c : StreamCore) (rx : Option Gates) (trip : Option FaultReason)
    (play : Option Mode) :
    (c.tick rx trip play).intake = { c.intake with lastGates := rx.getD c.lastGates } := by
  unfold tick
  rw [playOn_intake, recoveryDwell_intake, handleWatches_intake, handleRxSilence_intake,
    ingestRx_intake]

theorem exchangeRecover_intake (c : StreamCore) : c.exchangeRecover.intake = c.intake := by
  unfold exchangeRecover requestRecover
  repeat' split
  all_goals rfl

/-- Streaming begins with a packet and never ends. -/
theorem step_streamingReady (c : StreamCore) (e : CoreEvent) :
    (c.step e).streamingReady =
      match e with
      | .packet g => c.streamingReady || g.motionPossible
      | .window _ _ => c.streamingReady := by
  cases e with
  | packet g =>
    show (c.ingest g).streamingReady = (c.streamingReady || g.motionPossible)
    unfold ingest
    cases ready : c.streamingReady <;> cases possible : g.motionPossible <;> simp [beginStreaming]
  | window trip play =>
    have ticked := tick_intake c.exchangeRecover c.rx trip play
    rw [exchangeRecover_intake] at ticked
    exact congrArg Intake.streamingReady ticked

theorem step_received (c : StreamCore) (e : CoreEvent) :
    (c.step e).received =
      match e with
      | .packet g => c.received ++ [g]
      | .window _ _ => c.received := by
  cases e with
  | packet g =>
    show (c.ingest g).received = c.received ++ [g]
    unfold ingest
    dsimp only
    split <;> rfl
  | window trip play =>
    have ticked := tick_intake c.exchangeRecover c.rx trip play
    rw [exchangeRecover_intake] at ticked
    exact congrArg Intake.received ticked

/-! ### Before streaming -/

theorem Preroll.still (pre : c.Preroll) : c.playing = false := by
  rw [playing, decide_eq_false_iff_not]
  rcases pre.mode with mode | mode <;> rw [mode] <;> decide

theorem Preroll.ingestRx (pre : c.Preroll) (unready : c.streamingReady = false) :
    (c.ingestRx c.rx).Preroll := by
  cases arrived : c.rx with
  | none => exact { pre with }
  | some g =>
    have same : c.ingestRx (some g) =
        { c with
          rxWatch := ⟨0, false⟩
          lastGates := g
          killed := TickCore.killLevel c.streamingReady g } := by
      simp only [StreamCore.ingestRx, processGates, unready, Bool.false_eq_true, if_false]
    rw [same]
    exact { pre with gates := pre.rx g arrived, degraded := rfl }

theorem Preroll.handleRxSilence (pre : c.Preroll) : c.handleRxSilence.Preroll := by
  unfold StreamCore.handleRxSilence
  split
  · exact pre
  · split
    · exact pre
    · split
      · exact { pre with mode := .inr rfl }
      · rw [if_neg (by rw [pre.still]; exact fun plays => nomatch plays.1)]
        exact pre

/-- Before streaming a tick at most takes the gates in and parks. -/
theorem Preroll.tick (pre : c.Preroll) (unready : c.streamingReady = false)
    (trip : Option FaultReason) (play : Option Mode) : (c.tick c.rx trip play).Preroll := by
  have taken := (pre.ingestRx unready).handleRxSilence
  have still : (c.ingestRx c.rx).handleRxSilence.streamingReady = false := by
    have kept := (handleRxSilence_intake (c.ingestRx c.rx)).trans (ingestRx_intake c c.rx)
    exact (congrArg Intake.streamingReady kept).trans unready
  unfold StreamCore.tick
  generalize (c.ingestRx c.rx).handleRxSilence = a at taken still
  have watched : a.handleWatches trip = a := by
    cases trip with
    | none => rfl
    | some cause => exact if_neg (by rw [still]; decide)
  have dwelt : a.recoveryDwell = a := if_neg (by rw [taken.recovery]; decide)
  have played : a.playOn play = a := by
    cases play with
    | none => rfl
    | some mode => exact if_neg (by rw [still]; exact fun streams => nomatch streams.1)
  rw [watched, dwelt, played]
  exact taken

theorem Preroll.step (pre : c.Preroll) (unready : c.streamingReady = false) {e : CoreEvent}
    (still : (c.step e).streamingReady = false) : (c.step e).Preroll := by
  rw [step_streamingReady] at still
  cases e with
  | packet g =>
    have impossible : g.motionPossible = false := (Bool.or_eq_false_iff.mp still).2
    have same : c.step (.packet g) = { c with rx := some g, received := c.received ++ [g] } :=
      if_neg (by rw [impossible, Bool.and_false]; decide)
    rw [same]
    refine { pre with rx := ?_ }
    rintro _ ⟨⟩
    exact impossible
  | window trip play =>
    have quiet : c.exchangeRecover = c := if_neg (by rw [pre.recoverReq]; decide)
    show ((c.exchangeRecover.tick c.rx trip play).publish).Preroll
    rw [quiet]
    have ticked := pre.tick unready trip play
    have kept : (c.tick c.rx trip play).rx = c.rx :=
      congrArg Intake.rx (tick_intake c c.rx trip play)
    refine { ticked with rx := nofun, shownMode := ?_, shownPossible := ?_ }
    · show (c.tick c.rx trip play).mode ≠ .hold
      rcases ticked.mode with mode | mode <;> rw [mode] <;> decide
    · have impossible (rx : Option Gates) (shown : Bool) (dark : shown = false)
          (pre : ∀ g ∈ rx, g.motionPossible = false) :
          rx.elim shown Gates.motionPossible = false := by
        cases rx with
        | none => exact dark
        | some g => exact pre g rfl
      show (c.tick c.rx trip play).rx.elim _ Gates.motionPossible = false
      rw [kept]
      exact impossible _ _ ticked.shownPossible pre.rx

theorem Sound.step (sound : c.Sound) (e : CoreEvent) : (c.step e).Sound where
  ready := by
    rw [step_streamingReady, step_received]
    cases e with
    | packet g =>
      simp only [Bool.or_eq_true, sound.ready, List.mem_append, List.mem_singleton]
      constructor
      · rintro (⟨h, member, possible⟩ | possible)
        · exact ⟨h, .inl member, possible⟩
        · exact ⟨g, .inr rfl, possible⟩
      · rintro ⟨h, member | rfl, possible⟩
        · exact .inl ⟨h, member, possible⟩
        · exact .inr possible
    | window trip play => exact sound.ready
  preroll still := by
    have unready : c.streamingReady = false := by
      rw [step_streamingReady] at still
      cases e with
      | packet g => exact (Bool.or_eq_false_iff.mp still).1
      | window trip play => exact still
    exact (sound.preroll unready).step unready still

theorem Sound.run (sound : c.Sound) (events : List CoreEvent) : (c.run events).Sound := by
  induction events generalizing c with
  | nil => exact sound
  | cons e rest ih => exact ih (sound.step e)

/-! ### Cores that go on alike -/

/-- The same core but for its last gates, its last publication and its packets. -/
def dressed (c : StreamCore) (lastGates : Gates) (shownMode : Mode) (received : List Gates) :
    StreamCore :=
  { c with lastGates := lastGates, shownMode := shownMode, received := received }

/-- Both before streaming, or both in it and no different for packets with no kill gate up. -/
inductive Alike : StreamCore → StreamCore → Prop
  | preroll {c d : StreamCore} : c.limits = d.limits → c.streamingReady = false →
      d.streamingReady = false → c.Preroll → d.Preroll → Alike c d
  | streaming (d : StreamCore) (lastGates : Gates) (shownMode : Mode) (received : List Gates) :
      d.streamingReady = true → lastGates.motionPossible = d.lastGates.motionPossible →
      (shownMode = .hold ↔ d.shownMode = .hold) → Alike (d.dressed lastGates shownMode received) d

section Dressed

variable (c : StreamCore) (lastGates : Gates) (shownMode : Mode) (received : List Gates)

theorem handleRxSilence_dressed :
    (c.dressed lastGates shownMode received).handleRxSilence =
      c.handleRxSilence.dressed lastGates shownMode received := by
  unfold handleRxSilence
  repeat' split
  all_goals first | rfl | contradiction

theorem handleWatches_dressed (trip : Option FaultReason) :
    (c.dressed lastGates shownMode received).handleWatches trip =
      (c.handleWatches trip).dressed lastGates shownMode received := by
  unfold handleWatches
  repeat' split
  all_goals first | rfl | contradiction

theorem recoveryDwell_dressed :
    (c.dressed lastGates shownMode received).recoveryDwell =
      c.recoveryDwell.dressed lastGates shownMode received := by
  unfold recoveryDwell
  repeat' split
  all_goals first | rfl | contradiction

theorem playOn_dressed (play : Option Mode) :
    (c.dressed lastGates shownMode received).playOn play =
      (c.playOn play).dressed lastGates shownMode received := by
  unfold playOn
  repeat' split
  all_goals first | rfl | contradiction

theorem exchangeRecover_dressed :
    (c.dressed lastGates shownMode received).exchangeRecover =
      c.exchangeRecover.dressed lastGates shownMode received := by
  unfold exchangeRecover requestRecover
  repeat' split
  all_goals first | rfl | contradiction

end Dressed

/-- A packet with no kill gate up has at most the loss of motion for its edge. -/
theorem gateEdges_clear {g : Gates} (clear : (CoreEvent.packet g).Clear) {last last' : Gates}
    (possible : last.motionPossible = last'.motionPossible) :
    TickCore.gateEdges last g = TickCore.gateEdges last' g := by
  obtain ⟨eStopped, inError, tpEnabled, contactStop, safetyClamp⟩ := clear
  simp only [TickCore.gateEdges, eStopped, inError, tpEnabled, contactStop, safetyClamp, possible,
    Bool.false_and, Bool.false_eq_true, if_false, List.nil_append]

theorem ingestRx_dressed (c : StreamCore) (shownMode : Mode) (received : List Gates)
    {lastGates : Gates} (possible : lastGates.motionPossible = c.lastGates.motionPossible)
    {rx : Option Gates} (clear : ∀ g ∈ rx, (CoreEvent.packet g).Clear) :
    ∃ lastGates' : Gates,
      lastGates'.motionPossible = (c.ingestRx rx).lastGates.motionPossible ∧
      (c.dressed lastGates shownMode received).ingestRx rx =
        (c.ingestRx rx).dressed lastGates' shownMode received := by
  cases rx with
  | none => exact ⟨lastGates, possible, rfl⟩
  | some g =>
    refine ⟨g, ?_, ?_⟩
    · unfold ingestRx processGates
      dsimp only
      repeat' split
      all_goals rfl
    · have edges := gateEdges_clear (clear g rfl) possible
      unfold ingestRx processGates
      dsimp only [dressed]
      rw [edges]
      repeat' split
      all_goals rfl

theorem step_limits (c : StreamCore) (e : CoreEvent) : (c.step e).limits = c.limits := by
  cases e with
  | packet g =>
    show (c.ingest g).limits = c.limits
    unfold ingest
    dsimp only
    split <;> rfl
  | window trip play =>
    have ticked := tick_intake c.exchangeRecover c.rx trip play
    rw [exchangeRecover_intake] at ticked
    exact congrArg Intake.limits ticked

theorem step_rx (c : StreamCore) (e : CoreEvent) :
    (c.step e).rx =
      match e with
      | .packet g => some g
      | .window _ _ => none := by
  cases e with
  | packet g =>
    show (c.ingest g).rx = some g
    unfold ingest
    dsimp only
    split <;> rfl
  | window trip play => rfl

/-- Streaming begins alike, wherever the two cores were parked and whatever they had seen. -/
theorem Preroll.begins (limits : c.limits = d.limits) (unready : c.streamingReady = false)
    (unready' : d.streamingReady = false) (pre : c.Preroll) (pre' : d.Preroll) {g : Gates}
    (possible : g.motionPossible = true) : Alike (c.step (.packet g)) (d.step (.packet g)) := by
  have begun (a : StreamCore) (unready : a.streamingReady = false) :
      a.step (.packet g) =
        beginStreaming { a with rx := some g, received := a.received ++ [g] } := by
    refine if_pos ?_
    rw [unready, possible]
    rfl
  have same : c.step (.packet g) =
      (d.step (.packet g)).dressed c.lastGates c.shownMode (c.received ++ [g]) := by
    rw [begun c unready, begun d unready']
    simp only [beginStreaming, dressed, limits, pre.recovery, pre'.recovery, pre.recoverReq,
      pre'.recoverReq, pre.degraded, pre'.degraded, pre.shownPossible, pre'.shownPossible]
  rw [same, begun d unready']
  exact .streaming _ _ _ _ rfl (pre.gates.trans pre'.gates.symm)
    (iff_of_false pre.shownMode pre'.shownMode)

theorem tick_dressed (c : StreamCore) (shownMode : Mode) (received : List Gates)
    {lastGates : Gates} (possible : lastGates.motionPossible = c.lastGates.motionPossible)
    {rx : Option Gates} (clear : ∀ g ∈ rx, (CoreEvent.packet g).Clear)
    (trip : Option FaultReason) (play : Option Mode) :
    ∃ lastGates' : Gates,
      lastGates'.motionPossible = (c.tick rx trip play).lastGates.motionPossible ∧
      (c.dressed lastGates shownMode received).tick rx trip play =
        (c.tick rx trip play).dressed lastGates' shownMode received := by
  obtain ⟨lastGates', kept, same⟩ := ingestRx_dressed c shownMode received possible clear
  refine ⟨lastGates', kept.trans ?_, ?_⟩
  · have ticked := (tick_intake c rx trip play).trans (ingestRx_intake c rx).symm
    exact congrArg (fun i : Intake => i.lastGates.motionPossible) ticked.symm
  · unfold tick
    rw [same, handleRxSilence_dressed, handleWatches_dressed, recoveryDwell_dressed,
      playOn_dressed]

/-- Cores that go on alike do so through every event, and so does the packet of the window under
way. -/
theorem Alike.step (alike : Alike c d) (rx : c.rx = d.rx) {e : CoreEvent} (clear : e.Clear)
    (clearRx : ∀ g ∈ d.rx, (CoreEvent.packet g).Clear) :
    Alike (c.step e) (d.step e) ∧ (c.step e).rx = (d.step e).rx := by
  cases alike with
  | preroll limits unready unready' pre pre' =>
    have stays (still : (c.step e).streamingReady = false)
        (still' : (d.step e).streamingReady = false) : Alike (c.step e) (d.step e) := by
      refine .preroll ?_ still still' (pre.step unready still) (pre'.step unready' still')
      rw [step_limits, step_limits, limits]
    cases e with
    | packet g =>
      refine ⟨?_, ?_⟩
      · cases possible : g.motionPossible with
        | true => exact pre.begins limits unready unready' pre' possible
        | false =>
          apply stays <;> rw [step_streamingReady]
          · simp only [unready, possible, Bool.or_false]
          · simp only [unready', possible, Bool.or_false]
      · rw [step_rx, step_rx]
    | window trip play =>
      refine ⟨stays ?_ ?_, rfl⟩
      · rw [step_streamingReady]; exact unready
      · rw [step_streamingReady]; exact unready'
  | streaming _ lastGates shownMode received ready possible shown =>
    cases e with
    | packet g =>
      have same (a : StreamCore) (ready : a.streamingReady = true) :
          a.step (.packet g) = { a with rx := some g, received := a.received ++ [g] } := by
        refine if_neg ?_
        rw [ready]
        exact Bool.false_ne_true
      rw [same d ready, same (d.dressed lastGates shownMode received) ready]
      exact ⟨.streaming { d with rx := some g, received := d.received ++ [g] } lastGates shownMode
        (received ++ [g]) ready possible shown, rfl⟩
    | window trip play =>
      have exchanged := exchangeRecover_dressed d lastGates shownMode received
      have kept := exchangeRecover_intake d
      obtain ⟨lastGates', possible', ticked⟩ := tick_dressed d.exchangeRecover shownMode received
        (possible.trans (congrArg (fun i : Intake => i.lastGates.motionPossible) kept).symm)
        clearRx trip play
      have same : (d.dressed lastGates shownMode received).step (.window trip play) =
          (d.step (.window trip play)).dressed lastGates' (d.step (.window trip play)).shownMode
            received := by
        show ((d.dressed lastGates shownMode received).exchangeRecover.tick d.rx trip play).publish
          = _
        rw [exchanged, ticked]
        rfl
      refine ⟨?_, rfl⟩
      rw [same]
      refine .streaming _ _ _ _ ?_ possible' Iff.rfl
      rw [step_streamingReady]
      exact ready

end StreamCore

end AiroFanuc.Driver
