import AiroFanuc.RtCore.Stages
import AiroFanuc.Library.Ledger

/-! Terminal events as payments: what each stage of a tick pays and still owes. A
motion that runs is owed one; every other taken motion has been paid. -/

namespace AiroFanuc.RtCore

open TickEngine Library

def terminals (log : List Event) (motionId : Nat) : Nat :=
  log.countP fun e => isResolutionEvent e.type && e.motionId == motionId

def owed (a : ActiveMotion) (motionId : Nat) : Nat :=
  if a.status = .running ∧ a.motionId = motionId then 1 else 0

/-- The charge of taking one motion. -/
def fare (taken motionId : Nat) : Nat := if taken = motionId then 1 else 0

def motionLedger : Ledger (List Event × ActiveMotion) Event Nat where
  room := kEventRoom
  log := fun books => books.1
  balance := fun books motionId => terminals books.1 motionId + owed books.2 motionId

theorem terminals_append (log more : List Event) (motionId : Nat) :
    terminals (log ++ more) motionId = terminals log motionId + terminals more motionId :=
  List.countP_append

theorem terminals_silent {e : Event} (silent : isResolutionEvent e.type = false) (motionId : Nat) :
    terminals [e] motionId = 0 := by
  simp [terminals, silent]

theorem terminals_final {e : Event} (final : isResolutionEvent e.type = true) (motionId : Nat) :
    terminals [e] motionId = fare e.motionId motionId := by
  by_cases same : e.motionId = motionId
  · simp [terminals, final, same, fare]
  · simp [terminals, final, same, fare]

theorem owed_idle {a : ActiveMotion} (idle : a.status ≠ .running) (motionId : Nat) :
    owed a motionId = 0 := if_neg fun running => idle running.1

theorem owed_running {a : ActiveMotion} (running : a.status = .running) (motionId : Nat) :
    owed a motionId = fare a.motionId motionId := by
  simp [owed, fare, running]

theorem pushEvent_grows (ring : List Event) (e : Event) : ring <+: pushEvent ring e := by
  unfold pushEvent
  split
  · exact List.prefix_append ring [e]
  · exact List.prefix_rfl

theorem pushEvent_length (ring : List Event) (e : Event) :
    (pushEvent ring e).length ≤ ring.length + 1 := by
  unfold pushEvent
  split
  · simp
  · omega

theorem pushEvent_fits {ring : List Event} (fits : ring.length + 1 ≤ kEventRoom) (e : Event) :
    pushEvent ring e = ring ++ [e] := if_pos (by omega)

/-- One event, and at most one motion leaving or taking the slot with it. -/
theorem pushEvent_books {ring : List Event} {e : Event} {before after : ActiveMotion}
    {charge : Nat → Nat}
    (paid : ∀ motionId, terminals [e] motionId + owed after motionId =
      owed before motionId + charge motionId) :
    motionLedger.Books 1 charge (ring, before) (pushEvent ring e, after) := by
  refine ⟨pushEvent_grows ring e, pushEvent_length ring e, fun fits motionId => ?_⟩
  have step := paid motionId
  have room : ring.length + 1 ≤ kEventRoom := fits
  simp only [motionLedger, pushEvent_fits room, terminals_append]
  omega

/-- A motion's end: neither waiting nor running. -/
abbrev MotionStatus.Ended (st : MotionStatus) : Prop := st ≠ .running ∧ st ≠ .pending

/-- A ledger over the ring and the slot that charges for neither of the two things a stage of
the tick reports: what ends no motion, and the end of the one in the slot. -/
class PostsEvents {κ : Type} (L : Ledger (List Event × ActiveMotion) Event κ) : Prop where
  silent (ring : List Event) (a : ActiveMotion) (e : Event) :
    isResolutionEvent e.type = false → L.Conserves 1 (ring, a) (pushEvent ring e, a)
  ending (ring : List Event) (a : ActiveMotion) (st : MotionStatus) (reason : FaultReason)
      (epoch : Nat) (value : Int) :
    a.status = .running → st.Ended →
      L.Conserves 1 (ring, a)
        (pushEvent ring ⟨motionEventFor st, reason, a.motionId, epoch, value⟩,
          { a with status := st })

instance : PostsEvents motionLedger where
  silent ring a e silent := pushEvent_books fun id => by
    rw [terminals_silent silent, Nat.zero_add, Nat.add_zero]
  ending ring a st reason epoch value runs ended := pushEvent_books fun id => by
    rw [terminals_final (motionEventFor_resolution st), owed_idle ended.1, owed_running runs]

namespace TickCore

variable {R : Type} [Field R] [LinearOrder R] [FloorRing R] {κ : Type}
  {L : Ledger (List Event × ActiveMotion) Event κ} [PostsEvents L]

def books (s : TickCore R) : List Event × ActiveMotion := (s.events, s.active)

omit [Field R] [LinearOrder R] [FloorRing R] in
theorem emit_conserves (s : TickCore R) {type : EventType} (silent : isResolutionEvent type = false)
    (reason : FaultReason) (value : Int) (motionId : Nat) :
    L.Conserves 1 s.books (s.emit type reason value motionId).books :=
  PostsEvents.silent s.events s.active _ silent

omit [Field R] [LinearOrder R] [FloorRing R] in
theorem resolveActive_conserves (s : TickCore R) (st : MotionStatus) (ended : st.Ended) :
    L.Conserves 1 s.books (s.resolveActive st).books := by
  unfold resolveActive
  split
  · rename_i runs
    exact PostsEvents.ending s.events s.active st _ _ _ runs ended
  · exact (Ledger.Conserves.refl _).mono (by omega)

omit [Field R] [LinearOrder R] [FloorRing R] in
theorem resolveActive_idle (s : TickCore R) (st : MotionStatus) (ended : st ≠ .running) :
    (s.resolveActive st).active.status ≠ .running := by
  have resolved := congrArg Control.active (resolveActive_control s st)
  have idle := Control.resolve_not_running (c := s.control) ended
  rw [Control.running, ← resolved] at idle
  exact idle

omit [Field R] [LinearOrder R] [FloorRing R] in
theorem bumpEpoch_conserves (s : TickCore R) (r : BumpReason) :
    L.Conserves 1 s.books (s.bumpEpoch r).books :=
  emit_conserves { s with
    health.epoch := s.health.epoch + 1
    health.bumpCounts := Function.update s.health.bumpCounts r (s.health.bumpCounts r + 1) }
    rfl .none r.ordinal 0

omit [FloorRing R] in
theorem beginBrake_conserves (s : TickCore R) (st : MotionStatus) (reason : FaultReason)
    (ended : st.Ended) :
    L.Conserves 1 s.books (s.beginBrake st reason).books :=
  resolveActive_conserves s st ended

theorem enterFault_conserves (s : TickCore R) (cause : FaultReason) (bump : BumpReason)
    (st : MotionStatus) (ended : st.Ended) :
    L.Conserves 4 s.books (s.enterFault cause bump st).books := by
  have bumped := bumpEpoch_conserves (L := L) s bump
  have resolved := resolveActive_conserves (L := L)
    { s.bumpEpoch bump with health.fault := cause } st ended
  have entered := bumped.trans resolved
  exact (entered.trans (emit_conserves _ rfl _ _ _)).trans (emit_conserves _ rfl _ _ _)

omit [Field R] [LinearOrder R] [FloorRing R] in
theorem enterRxSilent_conserves (s : TickCore R) :
    L.Conserves 3 s.books s.enterRxSilent.books := by
  have bumped := bumpEpoch_conserves (L := L) s .rxSilentEntry
  have resolved := bumped.trans (resolveActive_conserves (TickCore.setCondition
    { s.bumpEpoch .rxSilentEntry with health.fault := .rxSilent } .rxSilent true)
    .faulted (by decide))
  exact resolved.trans (emit_conserves _ rfl _ _ _)

/-! ### The stages before the mailbox -/

theorem gateEdges_length (last g : Gates) : (gateEdges last g).length ≤ 6 := by
  have one (p : Prop) [Decidable p] (e : Condition × FaultReason × BumpReason) :
      (if p then [e] else []).length ≤ 1 := by
    split <;> simp
  simp only [gateEdges, List.length_append]
  have bounds := And.intro (one (g.eStopped && !last.eStopped) (.eStop, .eStop, .eStopEdge))
    (one (g.inError && !last.inError) (.inError, .inError, .faultEntry))
  have bounds' := And.intro (one (g.tpEnabled && !last.tpEnabled)
    (.teach, .teachMode, .killDegradedEntry)) (one (g.contactStopActive && !last.contactStopActive)
    (.contactStop, .contactStop, .killDegradedEntry))
  have bounds'' := And.intro (one (g.safetyClamp && !last.safetyClamp)
    (.safetyClamp, .safetyClamp, .killDegradedEntry)) (one (!g.motionPossible && last.motionPossible)
    (.motionNotPossible, .motionNotPossible, .killDegradedEntry))
  omega

omit [Field R] [LinearOrder R] [FloorRing R] in
theorem gateEvents_conserves (edges : List (Condition × FaultReason × BumpReason))
    (s : TickCore R) : L.Conserves edges.length s.books
      (edges.foldl (fun s e => s.emit .gateEdge e.2.1 e.1.mask 0) s).books := by
  induction edges generalizing s with
  | nil => exact .refl _
  | cons e rest ih =>
    have first : L.Conserves 1 s.books (s.emit .gateEdge e.2.1 e.1.mask 0).books :=
      emit_conserves s rfl _ _ _
    exact (first.trans (ih _)).mono (by simp only [List.length_cons]; omega)

omit [Field R] [LinearOrder R] [FloorRing R] in
theorem observeGates_conserves (s : TickCore R) (g : Gates) :
    L.Conserves 6 s.books (s.observeGates g).books := by
  have leveled : (s.setGateConditions g).books = s.books := rfl
  have reported := gateEvents_conserves (L := L) (gateEdges s.lastGates g) (s.setGateConditions g)
  rw [leveled] at reported
  simp only [observeGates]
  generalize List.foldl _ (s.setGateConditions g) _ = a at reported
  exact reported.mono (gateEdges_length _ _)

theorem processGates_conserves (s : TickCore R) (g : Gates) :
    L.Conserves 10 s.books (s.processGates g).books := by
  have observed := observeGates_conserves (L := L) s g
  simp only [processGates]
  split
  · split
    · exact observed.mono (by omega)
    · exact observed.trans (enterFault_conserves _ _ _ .faulted (by decide))
  · exact observed.mono (by omega)

theorem ingestRx_conserves (s : TickCore R) (rx : Option (RxSample R)) :
    L.Conserves 10 s.books (s.ingestRx rx).books := by
  cases rx with
  | none => exact (Ledger.Conserves.refl _).mono (by omega)
  | some rx => exact processGates_conserves (s.takeRx rx) rx.gates

omit [FloorRing R] in
theorem answerStop_conserves (s : TickCore R) :
    L.Conserves 1 s.books s.answerStop.books := by
  unfold answerStop
  split
  · cases mode : s.health.mode with
    | hold | capture | trajectory | servo =>
      simp only [mode]
      exact beginBrake_conserves { s with ops.stopRequested := false } .stopped .none (by decide)
    | brake =>
      simp only [mode]
      exact resolveActive_conserves { s with ops.stopRequested := false } .stopped (by decide)
    | streamDown | preroll | safeFollow | rxSilent =>
      simp only [mode]
      exact (Ledger.Conserves.refl s.books).mono (by omega)
  · exact (Ledger.Conserves.refl _).mono (by omega)

omit [FloorRing R] in
theorem answerHold_conserves (s : TickCore R) :
    L.Conserves 1 s.books s.answerHold.books := by
  unfold answerHold
  split
  · cases mode : s.health.mode with
    | capture | trajectory | servo =>
      simp only [mode]
      exact beginBrake_conserves { s with ops.holdRequested := false } .preempted .none (by decide)
    | hold | brake | streamDown | preroll | safeFollow | rxSilent =>
      simp only [mode]
      exact (Ledger.Conserves.refl s.books).mono (by omega)
  · exact (Ledger.Conserves.refl _).mono (by omega)

omit [Field R] [LinearOrder R] [FloorRing R] in
theorem answerKick_books (s : TickCore R) : s.answerKick.books = s.books := by
  unfold answerKick
  split <;> rfl

omit [Field R] [LinearOrder R] [FloorRing R] in
theorem answerHeartbeat_books (s : TickCore R) : s.answerHeartbeat.books = s.books := by
  unfold answerHeartbeat
  split <;> rfl

omit [Field R] [LinearOrder R] [FloorRing R] in
theorem degradeRx_conserves (s : TickCore R) :
    L.Conserves 1 s.books s.degradeRx.books :=
  emit_conserves (TickCore.setCondition { s with rxWatch.degradedEntered := true } .rxDegraded true)
    rfl .rxDegraded 0 0

theorem handleRxSilence_conserves (s : TickCore R) :
    L.Conserves 5 s.books s.handleRxSilence.books := by
  have still := Ledger.Conserves.refl (L := L) s.books
  simp only [handleRxSilence]
  split
  · exact still.mono (by omega)
  · split
    · exact still.mono (by omega)
    · split
      · exact (enterRxSilent_conserves s).mono (by omega)
      · split
        · exact (degradeRx_conserves s).trans
            (enterFault_conserves _ _ _ .faulted (by decide))
        · exact still.mono (by omega)

theorem handleDeadman_conserves (s : TickCore R) :
    L.Conserves 5 s.books s.handleDeadman.books := by
  have still := Ledger.Conserves.refl (L := L) s.books
  simp only [handleDeadman]
  split
  · exact still.mono (by omega)
  · split
    · have faulted := enterFault_conserves (L := L) { s with
        deadman.ticksSinceKick := s.deadman.ticksSinceKick + 1 } .watchdogExpired .deadmanTrip
        .stopped (by decide)
      exact faulted.trans (emit_conserves _ rfl _ _ _)
    · exact still.mono (by omega)

theorem handleSupervisorLiveness_conserves (s : TickCore R) :
    L.Conserves 5 s.books s.handleSupervisorLiveness.books := by
  have still := Ledger.Conserves.refl (L := L) s.books
  simp only [handleSupervisorLiveness]
  split
  · exact still.mono (by omega)
  · split
    · exact still.mono (by omega)
    · split
      · have faulted := enterFault_conserves (L := L) { s with
          liveness.ticksSinceHeartbeat := s.liveness.ticksSinceHeartbeat + 1
          liveness.lostLatched := true } .supervisorLost .supervisorLost .faulted (by decide)
        exact faulted.trans (emit_conserves _ rfl _ _ _)
      · exact still.mono (by omega)

omit [FloorRing R] in
theorem handleForceGuard_conserves (lib : External R) (s : TickCore R) (rx : RxSample R) :
    L.Conserves 2 s.books (s.handleForceGuard lib rx).books := by
  have still := Ledger.Conserves.refl (L := L) s.books
  simp only [handleForceGuard]
  split
  · exact still.mono (by omega)
  · split
    · exact (beginBrake_conserves s .stopped .none (by decide)).trans
        (emit_conserves _ rfl _ _ _)
    · exact still.mono (by omega)

/-- The requests and the watches, from the packet's ingestion on. -/
theorem watches_conserves (lib : External R) (s : TickCore R) (rx : Option (RxSample R)) :
    L.Conserves 19 (s.countTick.ingestRx rx).books (s.beforeDwell lib rx).books := by
  simp only [beforeDwell]
  generalize ingestRx _ rx = a
  have answered : L.Conserves 2 a.books
      a.answerStop.answerHold.answerKick.answerHeartbeat.books := by
    rw [answerHeartbeat_books, answerKick_books]
    exact (answerStop_conserves a).trans (answerHold_conserves _)
  revert answered
  generalize a.answerStop.answerHold.answerKick.answerHeartbeat = b
  intro answered
  have watched : L.Conserves 15 b.books
      b.handleRxSilence.handleDeadman.handleSupervisorLiveness.books :=
    ((handleRxSilence_conserves b).trans (handleDeadman_conserves _)).trans
      (handleSupervisorLiveness_conserves _)
  have upto := Ledger.Conserves.trans answered watched
  cases rx with
  | none => exact upto.mono (by omega)
  | some rx => exact upto.trans (handleForceGuard_conserves lib _ rx)

theorem beforeDwell_conserves (lib : External R) (s : TickCore R) (rx : Option (RxSample R)) :
    L.Conserves 29 s.books (s.beforeDwell lib rx).books := by
  have ingested : L.Conserves 10 s.books (s.countTick.ingestRx rx).books :=
    ingestRx_conserves s.countTick rx
  exact ingested.trans (watches_conserves lib s rx)

theorem recoveryDwell_conserves (s : TickCore R) :
    L.Conserves 2 s.books s.recoveryDwell.books := by
  have still := Ledger.Conserves.refl (L := L) s.books
  unfold recoveryDwell
  split
  · split
    · split
      · have bumped := bumpEpoch_conserves (L := L) s.countDwell .recoveryComplete
        simp only [completeRecovery]
        split
        · exact bumped.trans (emit_conserves _ rfl _ _ _)
        · exact bumped.trans (emit_conserves _ rfl _ _ _)
      · exact still.mono (by omega)
    · exact still.mono (by omega)
  · exact still.mono (by omega)

/-! ### The mailbox -/

/-- A motion that takes a resolved slot is owed its terminal event. -/
theorem startMotion_books {ring : List Event} {before : ActiveMotion} {e : Event}
    (silent : isResolutionEvent e.type = false) (idle : before.status ≠ .running) (motionId : Nat) :
    motionLedger.Books 1 (fare motionId) (ring, before)
      (pushEvent ring e, ⟨motionId, .running⟩) :=
  pushEvent_books fun id => by
    rw [terminals_silent silent, owed_idle idle, owed_running rfl, Nat.zero_add]

/-- A motion that ends as it takes a resolved slot is paid at once. -/
theorem endMotion_books {ring : List Event} {before : ActiveMotion} {type : EventType}
    {reason : FaultReason} {motionId epoch : Nat} {value : Int} (st : MotionStatus)
    (final : isResolutionEvent type = true) (idle : before.status ≠ .running)
    (ended : st ≠ .running) :
    motionLedger.Books 1 (fare motionId) (ring, before)
      (pushEvent ring ⟨type, reason, motionId, epoch, value⟩, ⟨motionId, st⟩) :=
  pushEvent_books fun id => by
    rw [terminals_final final, owed_idle ended, owed_idle idle, Nat.add_comm]

omit [Field R] [LinearOrder R] [FloorRing R] in
theorem rejectTarget_books (s : TickCore R) (t : Target R) (reason : FaultReason)
    (idle : s.active.status ≠ .running) :
    motionLedger.Books 1 (fare t.motionId) s.books (s.rejectTarget t reason).books :=
  endMotion_books .rejected rfl idle (by decide)

omit [Field R] [LinearOrder R] [FloorRing R] in
theorem rejectStart_books (s : TickCore R) (t : Target R) (idle : s.active.status ≠ .running) :
    motionLedger.Books 2 (fare t.motionId) s.books (s.rejectStart t).books := by
  have mismatch : motionLedger.Conserves 1 s.books
      (s.emit .captureRejected .rejectedStartMismatch 0 t.motionId).books :=
    emit_conserves s rfl _ _ _
  exact mismatch.books (endMotion_books .rejected rfl idle (by decide))

omit [FloorRing R] in
theorem consumeHold_books (s : TickCore R) (t : Target R) :
    motionLedger.Books 3 (fare t.motionId) s.books (s.consumeHold t).books := by
  have resolved := resolveActive_conserves (L := motionLedger) s .preempted (by decide)
  have idle := resolveActive_idle s .preempted (by decide)
  simp only [consumeHold]
  generalize s.resolveActive .preempted = a at resolved idle
  split
  · have braked := resolved.trans (beginBrake_conserves a .preempted .none (by decide))
    have free := resolveActive_idle a .preempted (by decide)
    exact braked.books (endMotion_books .done rfl free (by decide))
  · have room := resolved.mono (show 1 ≤ 2 by omega)
    exact Ledger.Conserves.books room (endMotion_books .done rfl idle (by decide))

omit [FloorRing R] in
theorem consumeBrake_books (s : TickCore R) (t : Target R) :
    motionLedger.Books 2 (fare t.motionId) s.books (s.consumeBrake t).books := by
  have resolved := resolveActive_conserves (L := motionLedger) s .preempted (by decide)
  have idle := resolveActive_idle s .preempted (by decide)
  exact resolved.books (startMotion_books rfl idle t.motionId)

omit [FloorRing R] in
theorem consumeServo_books (s : TickCore R) (t : Target R) :
    motionLedger.Books 2 (fare t.motionId) s.books (s.consumeServo t).books := by
  have resolved := resolveActive_conserves (L := motionLedger) s .preempted (by decide)
  have idle := resolveActive_idle s .preempted (by decide)
  simp only [consumeServo]
  generalize s.resolveActive .preempted = a at resolved idle
  split
  · exact resolved.books (startMotion_books rfl idle t.motionId)
  · exact resolved.books (startMotion_books rfl idle t.motionId)

omit [FloorRing R] in
theorem acceptTrajectory_books (s : TickCore R) (t : Target R) :
    motionLedger.Books 2 (fare t.motionId) s.books (s.acceptTrajectory t).books := by
  have resolved := resolveActive_conserves (L := motionLedger)
    { s with splice.capture := s.splice.capturePending } .preempted (by decide)
  have idle := resolveActive_idle { s with splice.capture := s.splice.capturePending } .preempted
    (by decide)
  exact resolved.books (startMotion_books rfl idle t.motionId)

/-- Every taken motion is charged once, if none is refused over a running one. -/
theorem consume_books {lib : External R} {s : TickCore R} {t : Target R} {supersededByStop : Bool}
    (real : t.kind ≠ .none)
    (refused : s.refuses lib t supersededByStop = true → s.active.status ≠ .running) :
    motionLedger.Books 3 (fare t.motionId) s.books (s.consume lib t supersededByStop).2.books := by
  by_cases refusing : s.refuses lib t supersededByStop = true
  · have idle := refused refusing
    rcases (consume_refused real refusing).2 with ⟨reason, rejected⟩ | rejected | rejected
    · rw [rejected]
      exact (rejectTarget_books s t reason idle).mono (by omega)
    · rw [rejected]
      exact (rejectStart_books s t idle).mono (by omega)
    · rw [rejected]
      exact (rejectTarget_books (s.planCapture lib t) t .internal idle).mono (by omega)
  · rw [(consume_admitted real (Bool.eq_false_of_not_eq_true refusing)).2]
    cases kind : t.kind with
    | none => exact absurd kind real
    | hold => exact consumeHold_books s t
    | brake => exact (consumeBrake_books s t).mono (by omega)
    | servo => exact (consumeServo_books s t).mono (by omega)
    | trajectory => exact (acceptTrajectory_books (s.planCapture lib t) t).mono (by omega)

/-! ### Dispatching the mode -/

omit [Field R] [LinearOrder R] [FloorRing R] in
theorem finish_conserves (s : TickCore R) (st : MotionStatus) (ended : st.Ended) :
    L.Conserves 1 s.books (s.resolveActive st).goHold.books :=
  resolveActive_conserves s st ended

theorem dispatchTrajectory_conserves (s : TickCore R) :
    L.Conserves 1 s.books s.dispatchTrajectory.2.books := by
  have still := (Ledger.Conserves.refl (L := L) s.books).mono (Nat.zero_le 1)
  unfold dispatchTrajectory
  cases s.playback.trajPhase with
  | playing =>
    simp only
    split
    · split
      · exact still
      · exact still
    · exact still
  | endBlend =>
    simp only
    split
    · exact still
    · exact still
  | settling =>
    simp only
    split
    · exact finish_conserves { s with
        anchor.qdCmd := 0, anchor.qddCmd := 0,
        playback.settle := _ } .done (by decide)
    · exact finish_conserves { s with
        anchor.qdCmd := 0, anchor.qddCmd := 0,
        playback.settle := _ } .settleTimeout (by decide)
    · exact still

theorem reissueServo_books (s : TickCore R) : s.reissueServo.books = s.books := by
  simp only [reissueServo]
  split <;> rfl

theorem dispatchServo_conserves (lib : External R) (s : TickCore R) :
    L.Conserves 4 s.books (s.dispatchServo lib).2.books := by
  simp only [dispatchServo]
  rw [← reissueServo_books s]
  split
  · exact enterFault_conserves { s.reissueServo with
      servo.servo := (s.reissueServo.servo.servo.step lib).2 } .internal .faultEntry .faulted
      (by decide)
  · exact (Ledger.Conserves.refl (L := L) s.reissueServo.books).mono (by omega)

theorem dispatchBrake_conserves (lib : External R) (s : TickCore R) :
    L.Conserves 4 s.books (s.dispatchBrake lib).2.books := by
  have still := (Ledger.Conserves.refl (L := L) s.books).mono (Nat.zero_le 4)
  simp only [dispatchBrake]
  split
  · exact enterFault_conserves { s with brake.brake := (s.brake.brake.step lib).2 } .internal
      .faultEntry .faulted (by decide)
  · split
    · split
      · exact (finish_conserves { s with
          brake.brake := (s.brake.brake.step lib).2
          anchor.qdCmd := (s.brake.brake.step lib).1.qd
          anchor.qddCmd := (s.brake.brake.step lib).1.qdd } .done (by decide)).mono (by omega)
      · exact still
    · exact still

theorem dispatchSafeFollow_books (s : TickCore R) : s.dispatchSafeFollow.2.books = s.books := by
  unfold dispatchSafeFollow
  cases s.follow.phase with
  | ramp => rfl
  | reanchor =>
    simp only
    split
    · rfl
    · split <;> rfl

theorem dispatchMode_conserves (lib : External R) (s : TickCore R) :
    L.Conserves 4 s.books (s.dispatchMode lib).2.books := by
  have still := (Ledger.Conserves.refl (L := L) s.books).mono (Nat.zero_le 4)
  unfold dispatchMode
  cases s.health.mode with
  | streamDown | preroll | rxSilent | hold => exact still
  | capture =>
    simp only
    split
    · exact still
    · exact (dispatchTrajectory_conserves (s.installTrajectory s.splice.capturedTarget)).mono
        (by omega)
  | trajectory => exact (dispatchTrajectory_conserves s).mono (by omega)
  | servo => exact dispatchServo_conserves lib s
  | brake => exact dispatchBrake_conserves lib s
  | safeFollow =>
    simp only [dispatchSafeFollow_books]
    exact still

omit [FloorRing R] in
theorem sendCommand_conserves (s : TickCore R) (qDesired : Vec6 R) :
    L.Conserves 1 s.books (s.sendCommand qDesired).2.books := by
  have still := (Ledger.Conserves.refl (L := L) s.books).mono (Nat.zero_le 1)
  simp only [sendCommand]
  split
  · exact emit_conserves s rfl _ _ _
  · split
    · exact still
    · exact still

/-! ### The whole tick -/

/-- What a tick charges: the target it takes out of the mailbox, if there is one. -/
def tickFare (pending : Option (Target R)) (motionId : Nat) : Nat :=
  match pending with
  | some t => if t.kind = .none then 0 else fare t.motionId motionId
  | none => 0

theorem consumePending_books {lib : External R} {s : TickCore R} {pending : Option (Target R)}
    {consumeSuperseded : Bool}
    (refused : ∀ t, pending = some t → t.kind ≠ .none →
      s.refuses lib t consumeSuperseded = true → s.active.status ≠ .running) :
    motionLedger.Books 3 (tickFare pending) s.books
      (s.consumePending lib pending consumeSuperseded).books := by
  have still := (Ledger.Conserves.refl (L := motionLedger) s.books).mono (Nat.zero_le 3)
  cases pending with
  | none => exact still
  | some t =>
    have kept : (s.consumePending lib (some t) consumeSuperseded).books =
      (s.consume lib t consumeSuperseded).2.books := rfl
    rw [kept]
    by_cases absent : t.kind = .none
    · have free : tickFare (some t) = fun _ => 0 := funext fun id => if_pos absent
      rw [(consume_ignored absent).2, free]
      exact still
    · have charged : tickFare (some t) = fare t.motionId := funext fun id => if_neg absent
      rw [charged]
      exact consume_books absent (refused t rfl absent)

/-- From the packet's ingestion on, a tick books at most 29 entries. -/
theorem afterIngest_books {lib : External R} {s : TickCore R} {rx : Option (RxSample R)}
    {pending : Option (Target R)} {consumeSuperseded : Bool}
    (refused : ∀ t, pending = some t → t.kind ≠ .none →
      (s.beforeConsume lib rx).refuses lib t consumeSuperseded = true →
      (s.beforeConsume lib rx).active.status ≠ .running) :
    motionLedger.Books 29 (tickFare pending) (s.countTick.ingestRx rx).books
      (s.tick lib rx pending consumeSuperseded).2.books := by
  have early := (watches_conserves lib s rx).trans (recoveryDwell_conserves (L := motionLedger) _)
  have taken := early.books (consumePending_books refused)
  have dispatched := taken.conserves (dispatchMode_conserves lib _)
  exact dispatched.conserves (sendCommand_conserves _ _)

/-- A tick pays and charges as long as the ring was drained to a tenth of its room. -/
theorem tick_books {lib : External R} {s : TickCore R} {rx : Option (RxSample R)}
    {pending : Option (Target R)} {consumeSuperseded : Bool}
    (refused : ∀ t, pending = some t → t.kind ≠ .none →
      (s.beforeConsume lib rx).refuses lib t consumeSuperseded = true →
      (s.beforeConsume lib rx).active.status ≠ .running) :
    motionLedger.Books 39 (tickFare pending) s.books
      (s.tick lib rx pending consumeSuperseded).2.books := by
  have ingested : motionLedger.Conserves 10 s.books (s.countTick.ingestRx rx).books :=
    ingestRx_conserves s.countTick rx
  exact ingested.books (afterIngest_books refused)

theorem consume_load (lib : External R) (s : TickCore R) (t : Target R) (supersededByStop : Bool) :
    (s.consume lib t supersededByStop).2.events.length ≤ s.events.length + 3 := by
  by_cases absent : t.kind = .none
  · rw [(consume_ignored absent).2]
    omega
  by_cases refusing : s.refuses lib t supersededByStop = true
  · rcases (consume_refused absent refusing).2 with ⟨reason, refused⟩ | refused | refused
    · rw [refused]
      have one := pushEvent_length s.events
        ⟨.motionRejected, reason, t.motionId, s.health.epoch, 0⟩
      exact one.trans (by omega)
    · rw [refused]
      have one := pushEvent_length s.events
        ⟨.captureRejected, .rejectedStartMismatch, t.motionId, s.health.epoch, 0⟩
      have two := pushEvent_length
        (pushEvent s.events ⟨.captureRejected, .rejectedStartMismatch, t.motionId, s.health.epoch, 0⟩)
        ⟨.motionRejected, .rejectedStartMismatch, t.motionId, s.health.epoch, 0⟩
      exact two.trans (by omega)
    · rw [refused]
      have one := pushEvent_length s.events
        ⟨.motionRejected, .internal, t.motionId, s.health.epoch, 0⟩
      exact one.trans (by omega)
  · exact (consume_books absent fun refused => absurd refused refusing).load

/-- A tick takes up at most 34 entries before it dispatches its mode. -/
theorem consumePending_load (lib : External R) (s : TickCore R) (rx : Option (RxSample R))
    (pending : Option (Target R)) (consumeSuperseded : Bool) :
    ((s.beforeConsume lib rx).consumePending lib pending consumeSuperseded).events.length ≤
      s.events.length + 34 := by
  have early : (s.beforeConsume lib rx).events.length ≤ s.events.length + 31 :=
    ((beforeDwell_conserves (L := motionLedger) lib s rx).trans (recoveryDwell_conserves _)).load
  cases pending with
  | none => exact early.trans (by omega)
  | some t => exact (consume_load lib _ t consumeSuperseded).trans (by omega)

/-- A tick that finds the ring drained does not fill it. -/
theorem tick_fits (lib : External R) {s : TickCore R} (drained : s.events = [])
    (rx : Option (RxSample R)) (pending : Option (Target R)) (consumeSuperseded : Bool) :
    (s.tick lib rx pending consumeSuperseded).2.events.length < kEventRoom := by
  have taken := consumePending_load lib s rx pending consumeSuperseded
  have late : (s.tick lib rx pending consumeSuperseded).2.events.length ≤
      ((s.beforeConsume lib rx).consumePending lib pending consumeSuperseded).events.length + 5 :=
    ((dispatchMode_conserves (L := motionLedger) lib _).trans (sendCommand_conserves _ _)).load
  have empty : s.events.length = 0 := by rw [drained]; rfl
  simp only [kEventRoom]
  omega

end TickCore

end AiroFanuc.RtCore
