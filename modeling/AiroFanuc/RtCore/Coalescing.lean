import AiroFanuc.RtCore.Entries
import AiroFanuc.RtCore.FaultLatch
import AiroFanuc.RtCore.LoopSteps

/-! Packets that share a receive window: the tick core sees the last one's gates only. -/

namespace AiroFanuc.RtCore

open TickEngine Library

theorem Control.accept_recoveryPending (c : Control) (kind : TargetKind) (motionId : Nat)
    (guard : Bool) : (c.accept kind motionId guard).recoveryPending = c.recoveryPending := by
  cases kind with
  | hold =>
    simp only [Control.accept]
    split
    · exact Control.resolve_recoveryPending c .preempted
    · rfl
  | none | brake | servo | trajectory => rfl

namespace TickCore

/-- The reason a packet kills for: the most severe gate it raises over the packet before it. -/
def killCause (last g : Gates) : Option FaultReason := (gateEdges last g).head?.map (·.2.1)

theorem killCause_real {last g : Gates} {cause : FaultReason}
    (kills : killCause last g = some cause) : cause ≠ .none := by
  obtain ⟨e, first, rfl⟩ := Option.map_eq_some_iff.mp kills
  exact gateEdges_real (List.mem_of_mem_head? first)

variable {R : Type} [Field R] [LinearOrder R] [FloorRing R]

/-- The log holds the faulted ending of a motion. -/
def Faulted (log : List Event) (motionId : Nat) : Prop :=
  ∃ e ∈ log, e.type = .motionFaulted ∧ e.motionId = motionId

/-- Events that fit the ring are all in it, in their order. -/
theorem foldl_pushEvent {notes ring : List Event} (room : ring.length + notes.length ≤ kEventRoom) :
    notes.foldl pushEvent ring = ring ++ notes := by
  induction notes generalizing ring with
  | nil => exact (List.append_nil ring).symm
  | cons e rest ih =>
    rw [List.length_cons] at room
    rw [List.foldl_cons, pushEvent_fits (by omega), ih (by
      rw [List.length_append, List.length_singleton]
      omega), List.append_assoc]
    rfl

/-- A fault entry reports itself, behind the ending of the motion that ran. -/
theorem enterFault_records {s : TickCore R} (room : s.events.length + 4 ≤ kEventRoom)
    (cause : FaultReason) (bump : BumpReason) :
    (∃ e ∈ (s.enterFault cause bump .faulted).events, e.type = .faultEntry ∧ e.reason = cause) ∧
      (s.active.status = .running →
        Faulted (s.enterFault cause bump .faulted).events s.active.motionId) := by
  let epoch := s.health.epoch + 1
  let notes : List Event := ⟨.epochBump, .none, 0, epoch, bump.ordinal⟩ ::
    s.resolution .faulted cause epoch ++
      [⟨.safeFollowEntry, cause, 0, epoch, 0⟩, ⟨.faultEntry, cause, 0, epoch, 0⟩]
  have short : notes.length ≤ 4 := by
    simp only [notes, resolution]
    split <;> simp
  have noted : (s.enterFault cause bump .faulted).events = s.events ++ notes := by
    have fits : s.events.length + notes.length ≤ kEventRoom := by omega
    rw [← foldl_pushEvent fits]
    by_cases runs : s.active.status = .running
    · simp only [enterFault, resolveActive, bumpEpoch, emit, runs, resolution, notes, if_true]
      rfl
    · simp only [enterFault, resolveActive, bumpEpoch, emit, runs, resolution, notes, if_false]
      rfl
  rw [noted]
  constructor
  · exact ⟨⟨.faultEntry, cause, 0, epoch, 0⟩, by simp [notes], rfl, rfl⟩
  · intro runs
    exact ⟨⟨.motionFaulted, cause, s.active.motionId, epoch, 0⟩,
      by simp [notes, resolution, runs, motionEventFor], rfl, rfl⟩

/-- The packet of a streaming core enters the fault of its most severe edge. -/
theorem ingestRx_enters {s : TickCore R} {rx : RxSample R} {cause : FaultReason}
    (streams : s.anchor.streaming = true) (kills : killCause s.lastGates rx.gates = some cause)
    (drained : s.events = []) :
    (s.ingestRx (some rx)).control = s.control.faulted cause .faulted ∧
      (∃ e ∈ (s.ingestRx (some rx)).events, e.type = .faultEntry ∧ e.reason = cause) ∧
      (s.active.status = .running →
        Faulted (s.ingestRx (some rx)).events s.active.motionId) := by
  obtain ⟨⟨bit, cause, bump⟩, first, rfl⟩ := Option.map_eq_some_iff.mp kills
  obtain ⟨rest, edges⟩ := List.head?_eq_some_iff.mp first
  have observed := (observeGates_conserves (L := motionLedger) (s.takeRx rx) rx.gates).load
  have control : ((s.takeRx rx).observeGates rx.gates).control = s.control := by
    rw [observeGates_control, takeRx_control]
  have streaming : ((s.takeRx rx).observeGates rx.gates).anchor.streaming = true := by
    rw [observeGates_anchor]
    exact streams
  have gates : (s.takeRx rx).lastGates = s.lastGates := rfl
  simp only [ingestRx, processGates, streaming, if_true, gates, edges]
  have load : ((s.takeRx rx).observeGates rx.gates).events.length ≤ s.events.length + 6 := observed
  rw [drained, List.length_nil] at load
  generalize (s.takeRx rx).observeGates rx.gates = a at load control
  have active : a.active = s.active := congrArg Control.active control
  have recorded := enterFault_records (s := a) (by simp only [kEventRoom]; omega) cause bump
  rw [active] at recorded
  exact ⟨by rw [enterFault_control, control], recorded⟩

omit [FloorRing R] in
theorem answerStop_following {s : TickCore R} (following : s.control.mode = .safeFollow) :
    s.answerStop.control = s.control := by
  have mode : s.health.mode = .safeFollow := following
  unfold answerStop
  split
  · simp only [mode, control]
  · rfl

omit [FloorRing R] in
theorem answerHold_following {s : TickCore R} (following : s.control.mode = .safeFollow) :
    s.answerHold.control = s.control := by
  have mode : s.health.mode = .safeFollow := following
  unfold answerHold
  split
  · simp only [mode, control]
  · rfl

/-- Between the packet that kills and the dwell nothing but a lapse of the supervisor does more. -/
theorem beforeDwell_killed (lib : External R) {s : TickCore R} {rx : RxSample R} {c : Control}
    (killed : (s.countTick.ingestRx (some rx)).control = c) (following : c.mode = .safeFollow)
    (disarmed : c.forceArmed = false) :
    (s.beforeDwell lib (some rx)).control =
      if s.supervisorLapses then c.faulted .supervisorLost .faulted else c := by
  have lapse (b : TickCore R) (watched : b = _) := supervisorLapses_kept s (some rx) rfl watched
  have age :
      (s.countTick.ingestRx (some rx)).answerStop.answerHold.answerKick.answerHeartbeat.frame =
      { (s.countTick.ingestRx (some rx)).frame with stopRequested := false } := by
    rw [answerHeartbeat_frame, answerKick_frame, answerHold_frame, answerStop_frame]
  have answered :
      (s.countTick.ingestRx (some rx)).answerStop.answerHold.answerKick.answerHeartbeat.control =
        c := by
    have stopped : (s.countTick.ingestRx (some rx)).answerStop.control = c := by
      rw [answerStop_following (by rw [killed, following]), killed]
    rw [answerHeartbeat_control, answerKick_control,
      answerHold_following (by rw [stopped, following]), stopped]
  have fresh := congrArg Frame.ticksSinceRx age
  rw [ingestRx_frame] at fresh
  simp only [beforeDwell]
  generalize (s.countTick.ingestRx (some rx)).answerStop.answerHold.answerKick.answerHeartbeat = a
    at *
  have heard : a.handleRxSilence = a := by
    have none : a.rxWatch.ticksSinceRx = 0 := fresh
    rw [handleRxSilence, if_pos none]
  have undriven : a.handleDeadman = a := by
    have mode : a.health.mode = .safeFollow := (congrArg Control.mode answered).trans following
    rw [handleDeadman, if_pos (.inr (by rw [mode]; decide))]
  have lapse := lapse _ rfl
  rw [heard, undriven] at lapse ⊢
  have watched : a.handleSupervisorLiveness.control =
      if s.supervisorLapses then c.faulted .supervisorLost .faulted else c := by
    rw [← answered]
    cases lapses : s.supervisorLapses with
    | true => exact handleSupervisorLiveness_lapsed (lapse.trans lapses)
    | false => exact handleSupervisorLiveness_alive (lapse.trans lapses)
  have unguarded : a.handleSupervisorLiveness.forceGuard.armed = false := by
    refine (congrArg Control.forceArmed watched).trans ?_
    split
    · rfl
    · exact disarmed
  rw [handleForceGuard, if_pos (.inl unguarded), watched]

/-! ### A tick that enters a fault -/

/-- The tick enters a fault of this cause: the epoch moves on, a pending recovery is cancelled, and
the motion that ran is over. A supervisor that lapses on the same tick comes on top of it. -/
structure Enters (cause : FaultReason) (s t : TickCore R) : Prop where
  fault : t.health.fault = if s.supervisorLapses then .supervisorLost else cause
  entered : ∃ e ∈ t.events, e.type = .faultEntry ∧ e.reason = cause
  epoch : s.health.epoch < t.health.epoch
  cancelled : t.recovery.pending = false
  faulted : s.active.status = .running → Faulted t.events s.active.motionId

/-- Behind a fault without a pending recovery, a tick keeps the fault and begins no recovery. -/
theorem tick_latched (lib : External R) {s : TickCore R} {rx : Option (RxSample R)}
    (safed : (s.beforeDwell lib rx).control.safed)
    (cancelled : (s.beforeDwell lib rx).control.recoveryPending = false)
    (faulted : (s.beforeDwell lib rx).control.fault ≠ .none) (pending : Option (Target R))
    (consumeSuperseded : Bool) :
    (s.tick lib rx pending consumeSuperseded).2.control.fault =
        (s.beforeDwell lib rx).control.fault ∧
      (s.tick lib rx pending consumeSuperseded).2.control.recoveryPending = false := by
  have early : (s.beforeConsume lib rx).control = (s.beforeDwell lib rx).control := by
    have still : (s.beforeDwell lib rx).recovery.pending = false := cancelled
    rw [beforeConsume, recoveryDwell, if_neg (by rw [still]; decide)]
  have refusing : (s.beforeConsume lib rx).refusesMotion = true := by
    have latched : (s.beforeConsume lib rx).health.fault ≠ .none := fun clear =>
      faulted ((congrArg Control.fault early).symm.trans clear)
    simp only [refusesMotion, decide_eq_true_eq]
    exact .inl latched
  have taken : ((s.beforeConsume lib rx).consumePending lib pending consumeSuperseded).control.fault
        = (s.beforeDwell lib rx).control.fault ∧
      ((s.beforeConsume lib rx).consumePending lib pending
        consumeSuperseded).control.recoveryPending = false ∧
      ((s.beforeConsume lib rx).consumePending lib pending consumeSuperseded).control.safed := by
    refine ⟨by rw [consumePending_fault, early], ?_, ?_⟩
    · rw [consumePending_control]
      cases pending with
      | none => rw [early, cancelled]
      | some t =>
        simp only [consume_control]
        split
        · rw [early, cancelled]
        · split
          · exact (congrArg Control.recoveryPending early).trans cancelled
          · rw [Control.accept_recoveryPending, early, cancelled]
    · rw [consumePending_control]
      cases pending with
      | none => exact early ▸ safed
      | some t =>
        simp only [consume_control]
        split
        · exact early ▸ safed
        · rename_i real
          split
          · exact early ▸ safed
          · rename_i admitted
            have hold : t.kind = .hold := by
              by_contra moving
              exact admitted (refuses_of_refusesMotion moving refusing)
            have resting : ¬ ((s.beforeConsume lib rx).control.mode = .capture ∨
                (s.beforeConsume lib rx).control.mode = .trajectory ∨
                (s.beforeConsume lib rx).control.mode = .servo) := by
              rw [early]
              rcases safed with mode | mode <;> simp [mode]
            simp only [hold, Control.accept, resting, if_false]
            exact early ▸ safed
  simp only [tick, sendCommand_control]
  rw [dispatchMode_safed lib taken.2.2]
  exact ⟨taken.1, taken.2.1⟩

/-- What a packet's entries leave in the log, the rest of the tick keeps there. -/
theorem tick_keeps_log (lib : External R) {s : TickCore R} {rx : Option (RxSample R)}
    (ended : (s.countTick.ingestRx rx).active.status ≠ .running) (pending : Option (Target R))
    (consumeSuperseded : Bool) {e : Event} (member : e ∈ (s.countTick.ingestRx rx).events) :
    e ∈ (s.tick lib rx pending consumeSuperseded).2.events := by
  have early : ¬ (s.beforeDwell lib rx).control.running := (watches_move lib s rx).idle ended
  have idle : (s.beforeConsume lib rx).active.status ≠ .running := by
    have control := congrArg (fun c => c.active.status) (beforeConsume_control lib s rx)
    intro runs
    apply early
    rw [Control.running, ← runs]
    refine Eq.trans ?_ control.symm
    split <;> rfl
  have booked : motionLedger.Books 29 (tickFare pending) (s.countTick.ingestRx rx).books
      (s.tick lib rx pending consumeSuperseded).2.books :=
    afterIngest_books fun _ _ _ _ => idle
  exact booked.kept member

/-- A packet with an edge over the gates a streaming core remembers enters its fault. -/
theorem tick_enters (lib : External R) {s : TickCore R} {rx : RxSample R} {cause : FaultReason}
    (streams : s.anchor.streaming = true) (kills : killCause s.lastGates rx.gates = some cause)
    (drained : s.events = []) (pending : Option (Target R)) (consumeSuperseded : Bool) :
    Enters cause s (s.tick lib (some rx) pending consumeSuperseded).2 := by
  obtain ⟨killed, ⟨e, reported, entry, reason⟩, ended⟩ :=
    ingestRx_enters (s := s.countTick) streams kills drained
  have killed :
      (s.countTick.ingestRx (some rx)).control = s.control.faulted cause .faulted := killed
  have dwells := beforeDwell_killed lib killed rfl rfl
  have idle : (s.countTick.ingestRx (some rx)).active.status ≠ .running := by
    have unresolved : ¬ (s.control.resolve .faulted).running :=
      Control.resolve_not_running (by decide)
    exact fun runs => unresolved ((congrArg (fun c => c.active.status) killed).symm.trans runs)
  have kept := fun {e} => tick_keeps_log lib idle pending consumeSuperseded (e := e)
  have real := killCause_real kills
  have safed : (s.beforeDwell lib (some rx)).control.safed := by
    rw [dwells]
    split <;> exact .inl rfl
  have unasked : (s.beforeDwell lib (some rx)).control.recoveryPending = false := by
    rw [dwells]
    split <;> rfl
  have faulted : (s.beforeDwell lib (some rx)).control.fault ≠ .none := by
    rw [dwells]
    split
    · exact fun clear => FaultReason.noConfusion clear
    · exact real
  obtain ⟨fault, cancelled⟩ := tick_latched lib safed unasked faulted pending consumeSuperseded
  refine ⟨?_, ⟨e, kept reported, entry, reason⟩, ?_, cancelled, fun runs => ?_⟩
  · refine fault.trans ?_
    rw [dwells]
    split <;> rfl
  · -- Every entry in the log of the tick has moved the epoch on.
    have counted := (tick_tallies lib s (some rx) pending consumeSuperseded).epoch
      (tick_fits lib drained (some rx) pending consumeSuperseded)
    have one : 0 < entryCount (s.tick lib (some rx) pending consumeSuperseded).2.events :=
      List.countP_pos_iff.mpr ⟨e, kept reported, by simp [Event.bump, entry]⟩
    have none : entryCount s.register.events = 0 := by
      show entryCount s.events = 0
      rw [drained]
      rfl
    simp only [register] at counted
    rw [show entryCount s.events = 0 from none] at counted
    omega
  · obtain ⟨f, recorded, ending⟩ := ended runs
    exact ⟨f, kept recorded, ending⟩

end TickCore

/-! ### Runs, packet by packet -/

/-- A packet that raised a kill gate while streaming, and the gates of the packet before it. -/
structure Raise (R : Type) where
  before : Gates
  sample : RxSample R

def Raise.cause {R : Type} (p : Raise R) : Option FaultReason :=
  TickCore.killCause p.before p.sample.gates

/-- `seen` is the last packet's gates, `raised` the packets of the open window that raised a kill
gate over the packet before them while streaming. -/
structure WindowWatch (R : Type) where
  rt : RealtimeCore R
  seen : Gates
  raised : List (Raise R)

/-- The loop, had its window held this packet only, behind the packet before it. -/
def RealtimeCore.alone {R : Type} (s : RealtimeCore R) (p : Raise R) : RealtimeCore R :=
  { s with core.lastGates := p.before, rx := some p.sample }

variable {R : Type} [Field R] [LinearOrder R] [FloorRing R]

omit [FloorRing R] in
theorem RealtimeCore.alone_lapses (s : RealtimeCore R) (p : Raise R) :
    (s.alone p).core.supervisorLapses = s.core.supervisorLapses := by
  have beat : (s.alone p).core.answerHeartbeat.liveness = s.core.answerHeartbeat.liveness :=
    TickCore.answerHeartbeat_liveness rfl
  rw [TickCore.supervisorLapses, beat]
  rfl

namespace WindowWatch

def nextSeen (w : WindowWatch R) : Label R → Gates
  | .packet _ view => view.gates w.rt.core.cfg
  | _ => w.seen

def nextRaised (w : WindowWatch R) (rt : RealtimeCore R) : Label R → List (Raise R)
  | .packet _ _ =>
    w.raised ++ (rt.rx.toList.map (Raise.mk w.seen)).filter fun p =>
      w.rt.streamingReady && p.cause.isSome
  | .settle | .start => []
  | _ => w.raised

def step (lib : External R) (w : WindowWatch R) (l : Label R) : Option (WindowWatch R) :=
  (w.rt.step lib l).map fun rt => ⟨rt, w.nextSeen l, w.nextRaised rt l⟩

def machine (lib : External R) (cfg : RtCoreConfig R) : Machine (WindowWatch R) (Label R) where
  start := ⟨.new cfg, .initial, []⟩
  step := step lib

/-- The most severe gate that a window's last packet raises over the last packet of the window
before is the most severe one of every packet that raised a gate in the window. -/
def lastPacketShows (w : WindowWatch R) : Label R → Prop
  | .tick => ∀ p ∈ w.raised, ∀ rx ∈ w.rt.rx,
      TickCore.killCause w.rt.core.lastGates rx.gates = p.cause
  | _ => True

/-- What the tick of a window owes the packets that raised a gate in it: it enters their faults, as
it does where such a packet is alone in the window. -/
def EntersFault (lib : External R) (w v : WindowWatch R) : Prop :=
  ∀ p ∈ w.raised, ∃ cause ∈ p.cause, TickCore.Enters cause w.rt.core v.rt.core ∧
    ∃ u, (w.rt.alone p).step lib .tick = some u ∧ TickCore.Enters cause w.rt.core u.core

structure Sound (w : WindowWatch R) : Prop where
  tidy : w.rt.Tidy
  window : ∀ p ∈ w.raised, p.cause.isSome ∧ w.rt.streamingReady = true ∧ w.rt.rx.isSome

theorem step_sound {lib : External R} {w v : WindowWatch R} {l : Label R} (sound : w.Sound)
    (moved : w.step lib l = some v) : v.Sound := by
  obtain ⟨rt, stepped, rfl⟩ := Option.map_eq_some_iff.mp moved
  have taken := RealtimeCore.step_takes stepped
  refine ⟨taken.tidy sound.tidy, ?_⟩
  cases taken with
  | start | settle => exact fun p raised => absurd raised List.not_mem_nil
  | packet rxMono view phase =>
    intro p raised
    have owed : p.cause.isSome ∧ w.rt.streamingReady = true := by
      rcases List.mem_append.mp raised with early | late
      · exact ⟨(sound.window p early).1, (sound.window p early).2.1⟩
      · have kept := (List.mem_filter.mp late).2
        rw [Bool.and_eq_true] at kept
        exact ⟨kept.2, kept.1⟩
    refine ⟨owed.1, ?_⟩
    simp only [RealtimeCore.ingestPacket]
    split
    · exact ⟨rfl, rfl⟩
    · exact ⟨owed.2, rfl⟩
  | exit phase flagged =>
    simp only [RealtimeCore.exit]
    split
    · exact sound.window
    · exact sound.window
  | exchange op rest phase =>
    rcases RealtimeCore.exchange_shape w.rt op with ⟨-, same⟩ | ⟨-, forwarded⟩
    · rw [same]
      exact sound.window
    · rw [forwarded]
      exact sound.window
  | pop last phase =>
    rcases RealtimeCore.pop_shape w.rt last with ⟨-, same⟩ | ⟨_, _, _, _, -, popped⟩
    · rw [same]
      exact sound.window
    · rw [popped]
      exact sound.window
  | push t stage =>
    rcases RealtimeCore.pushMailbox_shape w.rt t with ⟨-, pushed⟩ | ⟨-, dropped⟩
    · rw [pushed]
      exact sound.window
    · rw [dropped]
      exact sound.window
  | stop | join | clear | timer | check | tick | submitTrajectory | submit | name | date | stamp
  | stopBump | stopStore | request | reap | drainEvents => exact sound.window

theorem tick_entersFault {lib : External R} {w v : WindowWatch R} (sound : w.Sound)
    (legal : w.lastPacketShows .tick) (moved : w.step lib .tick = some v) :
    w.EntersFault lib v := by
  obtain ⟨rt, stepped, rfl⟩ := Option.map_eq_some_iff.mp moved
  cases RealtimeCore.step_takes stepped with
  | tick last consumeSuperseded phase =>
    intro p raised
    obtain ⟨owed, ready, arrived⟩ := sound.window p raised
    obtain ⟨cause, kills⟩ := Option.isSome_iff_exists.mp owed
    obtain ⟨rx, present⟩ := Option.isSome_iff_exists.mp arrived
    have streams := sound.tidy.streams ready
    have drained := sound.tidy.drained (by simp [phase])
    refine ⟨cause, kills, ?_, (w.rt.alone p).runTick lib last consumeSuperseded, ?_, ?_⟩
    · simp only [RealtimeCore.runTick, present]
      exact TickCore.tick_enters lib streams ((legal p raised rx present).trans kills) drained _ _
    · simp only [RealtimeCore.step, RealtimeCore.alone, phase]
    · have entered := TickCore.tick_enters lib (s := (w.rt.alone p).core) streams kills drained last
        consumeSuperseded
      have fault := entered.fault
      rw [RealtimeCore.alone_lapses] at fault
      exact ⟨fault, entered.entered, entered.epoch, entered.cancelled, entered.faulted⟩

/-- In every run whose windows show what was raised in them, whatever the grouping of the packets,
a gate raised while streaming is a fault by the end of its tick, the one that it would have been
alone. -/
theorem raised_gate_is_fault (lib : External R) (cfg : RtCoreConfig R) (w v : WindowWatch R)
    (reached : (machine lib cfg).Reachable lastPacketShows w) (legal : w.lastPacketShows .tick)
    (moved : w.step lib .tick = some v) : w.EntersFault lib v := by
  have sound : w.Sound := by
    refine Machine.Reaches.invariant reached
      ⟨RealtimeCore.new_tidy cfg, fun p raised => absurd raised List.not_mem_nil⟩ ?_
    intro a b l sound _ moved
    exact step_sound sound moved
  exact tick_entersFault sound legal moved

instance (w : WindowWatch R) (l : Label R) : Decidable (w.lastPacketShows l) :=
  match l with
  | .tick => inferInstanceAs (Decidable (∀ p ∈ w.raised, ∀ rx ∈ w.rt.rx,
      TickCore.killCause w.rt.core.lastGates rx.gates = p.cause))
  | .start | .stop | .exit | .join | .clear | .packet _ _ | .timer | .exchange | .pop | .check
  | .settle | .submit _ _ | .enqueue | .stopBump | .stopStore _ | .request _ | .reap
  | .drainEvents _ => inferInstanceAs (Decidable True)

/-- The pendant is enabled in the second packet of a window, under a servo motion. -/
theorem raised_gate_is_fault_servoing :
    ∃ w v : WindowWatch ℚ, w.step benchExternal .tick = some v ∧
      w.raised.map (·.cause) = [some .teachMode] ∧ w.rt.core.active = ⟨1, .running⟩ ∧
      v.rt.core.health.fault = .teachMode ∧ TickCore.Faulted v.rt.core.events 1 := by
  obtain ⟨w, reached, ready⟩ := Machine.reachable_of_test
    (machine benchExternal defaultRtCoreConfig) lastPacketShows
    ([.start, benchClear] ++ benchWindow 0 ++ benchSubmit benchServoRequest 0 ++ [benchClear] ++
      benchWindow 1 ++ [benchClear, benchPendant] ++ benchUpToTick 0)
    (fun w => decide (w.lastPacketShows .tick) && decide (w.raised.map (·.cause) =
        [some .teachMode]) && decide (w.rt.core.active = ⟨1, .running⟩) &&
      decide (w.rt.core.supervisorLapses = false) && (w.step benchExternal .tick).isSome)
    (by decide +kernel) (by decide +kernel)
  simp only [Bool.and_eq_true, decide_eq_true_eq] at ready
  obtain ⟨⟨⟨⟨legal, raised⟩, active⟩, alive⟩, enabled⟩ := ready
  obtain ⟨v, moved⟩ := Option.isSome_iff_exists.mp enabled
  obtain ⟨p, member, pendant⟩ := List.mem_map.mp (raised ▸ List.mem_singleton_self _)
  obtain ⟨cause, kills, entered, -⟩ :=
    raised_gate_is_fault benchExternal defaultRtCoreConfig w v reached legal moved p member
  rw [pendant] at kills
  cases kills
  have fault := entered.fault
  have faulted := entered.faulted
  rw [active] at faulted
  rw [alive] at fault
  exact ⟨w, v, moved, raised, active, fault, faulted rfl⟩

/-- Whatever the run and the grouping, a gate raised while streaming is the fault that it would
have been alone. -/
def LosesNoGate (lib : External R) (cfg : RtCoreConfig R) : Prop :=
  ∀ w v, (machine lib cfg).Reachable (fun _ _ => True) w → w.step lib .tick = some v →
    w.EntersFault lib v

/-- The pendant is enabled and disabled within one window: no fault, the motion plays on. -/
theorem pulse_in_one_window_is_lost : ¬ LosesNoGate benchExternal defaultRtCoreConfig := by
  intro kept
  obtain ⟨w, reached, lost⟩ := Machine.reachable_of_run (machine benchExternal defaultRtCoreConfig)
    ([.start, benchClear] ++ benchWindow 0 ++ benchSubmit benchServoRequest 0 ++ [benchClear] ++
      benchWindow 1 ++ [benchPendant, benchClear] ++ benchUpToTick 0)
    (fun w => !w.raised.isEmpty && (w.step benchExternal .tick).any fun v : WindowWatch ℚ =>
      decide (v.rt.core.health.epoch = w.rt.core.health.epoch))
    (by decide +kernel)
  simp only [Bool.and_eq_true, Bool.not_eq_true', List.isEmpty_eq_false_iff_exists_mem,
    Option.any_eq_true, decide_eq_true_eq] at lost
  obtain ⟨⟨p, member⟩, v, moved, still⟩ := lost
  obtain ⟨cause, -, entered, -⟩ := kept w v reached moved p member
  have moved := entered.epoch
  rw [still] at moved
  exact absurd moved (lt_irrefl _)

end WindowWatch

end AiroFanuc.RtCore
