import AiroFanuc.Library.Seqlock
import AiroFanuc.RtCore.LoopSteps

/-! What the RT loop publishes of an arm: every snapshot tells one tick, and shows one packet. -/

namespace AiroFanuc.RtCore

open TickEngine Library

/-! ### The tick number -/

namespace TickCore

variable {R : Type} [Field R] [LinearOrder R] [FloorRing R]

omit [Field R] [LinearOrder R] [FloorRing R] in
theorem resolveActive_tickNo (s : TickCore R) (st : MotionStatus) :
    (s.resolveActive st).tickNo = s.tickNo := by
  rw [resolveActive_shape]

omit [FloorRing R] in
theorem beginBrake_tickNo (s : TickCore R) (st : MotionStatus) (reason : FaultReason) :
    (s.beginBrake st reason).tickNo = s.tickNo := resolveActive_tickNo s st

theorem enterFault_tickNo (s : TickCore R) (cause : FaultReason) (bump : BumpReason)
    (st : MotionStatus) : (s.enterFault cause bump st).tickNo = s.tickNo :=
  resolveActive_tickNo { s.bumpEpoch bump with health.fault := cause } st

omit [Field R] [LinearOrder R] [FloorRing R] in
theorem enterRxSilent_tickNo (s : TickCore R) : s.enterRxSilent.tickNo = s.tickNo :=
  resolveActive_tickNo (TickCore.setCondition
    { s.bumpEpoch .rxSilentEntry with health.fault := .rxSilent } .rxSilent true) .faulted

theorem ingestRx_tickNo (s : TickCore R) (rx : Option (RxSample R)) :
    (s.ingestRx rx).tickNo = s.tickNo := by
  cases rx with
  | none => rfl
  | some r =>
    have observed : ((s.takeRx r).observeGates r.gates).tickNo = s.tickNo := by
      simp only [observeGates, gateEvents_shape]
      rfl
    simp only [ingestRx, processGates]
    split
    · split
      · exact observed
      · exact (enterFault_tickNo _ _ _ .faulted).trans observed
    · exact observed

omit [FloorRing R] in
theorem answerStop_tickNo (s : TickCore R) : s.answerStop.tickNo = s.tickNo := by
  unfold answerStop
  split
  · cases mode : s.health.mode with
    | hold | capture | trajectory | servo =>
      simp only [mode]
      exact beginBrake_tickNo _ .stopped .none
    | brake =>
      simp only [mode]
      exact resolveActive_tickNo { s with ops.stopRequested := false } .stopped
    | streamDown | preroll | safeFollow | rxSilent => simp only [mode]
  · rfl

omit [FloorRing R] in
theorem answerHold_tickNo (s : TickCore R) : s.answerHold.tickNo = s.tickNo := by
  unfold answerHold
  split
  · cases mode : s.health.mode with
    | capture | trajectory | servo =>
      simp only [mode]
      exact beginBrake_tickNo _ .preempted .none
    | hold | brake | streamDown | preroll | safeFollow | rxSilent => simp only [mode]
  · rfl

omit [FloorRing R] in
theorem answerCalls_tickNo (s : TickCore R) :
    s.answerStop.answerHold.answerKick.answerHeartbeat.tickNo = s.tickNo := by
  have kick (u : TickCore R) : u.answerKick.tickNo = u.tickNo := by
    unfold answerKick
    split <;> rfl
  have heartbeat (u : TickCore R) : u.answerHeartbeat.tickNo = u.tickNo := by
    unfold answerHeartbeat
    split <;> rfl
  rw [heartbeat, kick, answerHold_tickNo, answerStop_tickNo]

theorem handleRxSilence_tickNo (s : TickCore R) : s.handleRxSilence.tickNo = s.tickNo := by
  simp only [handleRxSilence]
  split
  · rfl
  · split
    · rfl
    · split
      · exact enterRxSilent_tickNo s
      · split
        · exact enterFault_tickNo s.degradeRx .rxDegraded .safeFollowEntry .faulted
        · rfl

theorem handleDeadman_tickNo (s : TickCore R) : s.handleDeadman.tickNo = s.tickNo := by
  simp only [handleDeadman]
  split
  · rfl
  · split
    · exact enterFault_tickNo _ .watchdogExpired .deadmanTrip .stopped
    · rfl

theorem handleSupervisorLiveness_tickNo (s : TickCore R) :
    s.handleSupervisorLiveness.tickNo = s.tickNo := by
  simp only [handleSupervisorLiveness]
  split
  · rfl
  · split
    · rfl
    · split
      · exact enterFault_tickNo _ .supervisorLost .supervisorLost .faulted
      · rfl

omit [FloorRing R] in
theorem handleForceGuard_tickNo (lib : External R) (s : TickCore R) (rx : RxSample R) :
    (s.handleForceGuard lib rx).tickNo = s.tickNo := by
  simp only [handleForceGuard]
  split
  · rfl
  · split
    · exact beginBrake_tickNo s .stopped .none
    · rfl

theorem recoveryDwell_tickNo (s : TickCore R) : s.recoveryDwell.tickNo = s.tickNo := by
  unfold recoveryDwell
  split
  · split
    · split
      · simp only [completeRecovery]
        split <;> rfl
      · rfl
    · rfl
  · rfl

theorem beforeConsume_tickNo (lib : External R) (s : TickCore R) (rx : Option (RxSample R)) :
    (s.beforeConsume lib rx).tickNo = s.tickNo + 1 := by
  have ingested : (s.countTick.ingestRx rx).tickNo = s.tickNo + 1 := ingestRx_tickNo s.countTick rx
  have watched (b : TickCore R) :
      b.handleRxSilence.handleDeadman.handleSupervisorLiveness.tickNo = b.tickNo := by
    rw [handleSupervisorLiveness_tickNo, handleDeadman_tickNo, handleRxSilence_tickNo]
  simp only [beforeConsume, beforeDwell, recoveryDwell_tickNo]
  have early := (watched _).trans ((answerCalls_tickNo (s.countTick.ingestRx rx)).trans ingested)
  cases rx with
  | none => exact early
  | some r => exact (handleForceGuard_tickNo lib _ r).trans early

theorem consumePending_tickNo (lib : External R) (s : TickCore R) (pending : Option (Target R))
    (superseded : Bool) : (s.consumePending lib pending superseded).tickNo = s.tickNo := by
  cases pending with
  | none => rfl
  | some t =>
    show (s.consume lib t superseded).2.tickNo = s.tickNo
    by_cases absent : t.kind = .none
    · rw [(consume_ignored absent).2]
    by_cases refusing : s.refuses lib t superseded = true
    · rcases (consume_refused absent refusing).2 with ⟨reason, refused⟩ | refused | refused <;>
        · rw [refused]
          rfl
    have resolved := resolveActive_tickNo s .preempted
    rw [(consume_admitted absent (Bool.eq_false_of_not_eq_true refusing)).2]
    cases kind : t.kind with
    | none => exact absurd kind absent
    | hold =>
      simp only [consumeHold]
      split
      · exact (beginBrake_tickNo _ .preempted .none).trans resolved
      · exact resolved
    | brake => exact resolved
    | servo =>
      simp only [consumeServo]
      split <;> exact resolved
    | trajectory => exact resolveActive_tickNo { s.planCapture lib t with
        splice.capture := (s.planCapture lib t).splice.capturePending } .preempted

theorem dispatchTrajectory_tickNo (s : TickCore R) : s.dispatchTrajectory.2.tickNo = s.tickNo := by
  unfold dispatchTrajectory
  cases s.playback.trajPhase with
  | playing =>
    simp only
    split
    · split <;> rfl
    · rfl
  | endBlend =>
    simp only
    split <;> rfl
  | settling =>
    simp only
    split
    · exact resolveActive_tickNo _ .done
    · exact resolveActive_tickNo _ .settleTimeout
    · rfl

theorem dispatchMode_tickNo (lib : External R) (s : TickCore R) :
    (s.dispatchMode lib).2.tickNo = s.tickNo := by
  unfold dispatchMode
  cases s.health.mode with
  | streamDown | preroll | rxSilent | hold => rfl
  | capture =>
    simp only
    split
    · rfl
    · exact dispatchTrajectory_tickNo _
  | trajectory => exact dispatchTrajectory_tickNo s
  | servo =>
    have reissued : s.reissueServo.tickNo = s.tickNo := by
      simp only [reissueServo]
      split <;> rfl
    simp only [dispatchServo]
    split
    · exact (enterFault_tickNo _ .internal .faultEntry .faulted).trans reissued
    · exact reissued
  | brake =>
    simp only [dispatchBrake]
    split
    · exact enterFault_tickNo _ .internal .faultEntry .faulted
    · split
      · simp only [goHold]
        split
        · exact resolveActive_tickNo _ .done
        · rfl
      · rfl
  | safeFollow =>
    simp only [dispatchSafeFollow]
    cases s.follow.phase with
    | ramp => rfl
    | reanchor =>
      simp only
      split
      · rfl
      · split <;> rfl

/-- Every tick counts, whatever it does. -/
theorem tick_tickNo (lib : External R) (s : TickCore R) (rx : Option (RxSample R))
    (pending : Option (Target R)) (superseded : Bool) :
    (s.tick lib rx pending superseded).2.tickNo = s.tickNo + 1 := by
  have sent (u : TickCore R) (q : Vec6 R) : (u.sendCommand q).2.tickNo = u.tickNo := by
    simp only [sendCommand]
    split
    · rfl
    · split <;> rfl
  simp only [tick, sent]
  rw [dispatchMode_tickNo, consumePending_tickNo, beforeConsume_tickNo]

end TickCore

/-! ### What a snapshot shows -/

/-- What a status packet says of the arm. -/
structure Measurement (R : Type) where
  qMeas : Vec6 R
  qdEst : Vec6 R
  cart : Fin 9 → R
  rxSeq : Nat
  ctrlTimeStampMs : Nat
  rxMonoNs : Int
  eStopped : Bool
  inError : Bool
  tpEnabled : Bool
  motionPossible : Bool
  motionInProgress : Bool
  contactStopStatus : UInt8
  safetyScale : R

structure Wrench (R : Type) where
  fx : R
  fy : R
  fz : R
  mx : R
  my : R
  mz : R
  fsType : Nat
  valid : Bool

section Shows

variable {R : Type}

def RxSample.measurement (x : RxSample R) : Measurement R :=
  ⟨x.qMeas, x.qdEst, x.cart, x.rxSeq, x.ctrlTimeStampMs, x.rxMonoNs, x.gates.eStopped,
    x.gates.inError, x.gates.tpEnabled, x.gates.motionPossible, x.gates.motionInProgress,
    x.contactStopStatus, x.safetyScale⟩

def RxSample.wrench (x : RxSample R) : Wrench R :=
  ⟨x.fx, x.fy, x.fz, x.mx, x.my, x.mz, x.fsType, x.wrenchValid⟩

def StateSnapshot.measurement (x : StateSnapshot R) : Measurement R :=
  ⟨x.qMeas, x.qdEst, x.cart, x.rxSeq, x.ctrlTimeStampMs, x.rxMonoNs, x.eStopped, x.inError,
    x.tpEnabled, x.motionPossible, x.motionInProgress, x.contactStopStatus, x.safetyScale⟩

def StateSnapshot.wrench (x : StateSnapshot R) : Wrench R :=
  ⟨x.fx, x.fy, x.fz, x.mx, x.my, x.mz, x.fsType, x.wrenchValid⟩

def Wrench.absent [Zero R] : Wrench R := ⟨0, 0, 0, 0, 0, 0, 0, false⟩

end Shows

/-! ### The gallery of an RT loop -/

/-- A snapshot, how many packets had been ingested when it was published, and how many of them in
the window it closes. -/
structure Publication (R : Type) where
  snap : StateSnapshot R
  packets : Nat
  window : Nat

/-- The RT loop with every packet it has ingested, the number of them in the window it is in, and
every snapshot it has published. -/
structure Gallery (R : Type) where
  loop : RealtimeCore R
  packets : List (RxSample R)
  window : Nat
  published : List (Publication R)

namespace Gallery

variable {R : Type} [Field R] [LinearOrder R] [FloorRing R]

def note (g : Gallery R) (l : Label R) (loop : RealtimeCore R) : Gallery R where
  loop := loop
  packets :=
    match l with
    | .packet _ _ => g.packets ++ loop.rx.toList
    | _ => g.packets
  window :=
    match l with
    | .packet _ _ => g.window + 1
    | .start | .settle => 0
    | _ => g.window
  published :=
    match l with
    | .settle => g.published ++ [⟨loop.snap, g.packets.length, g.window⟩]
    | _ => g.published

def step (lib : External R) (g : Gallery R) (l : Label R) : Option (Gallery R) :=
  (g.loop.step lib l).map (g.note l)

def new (cfg : RtCoreConfig R) : Gallery R := ⟨.new cfg, [], 0, []⟩

def machine (lib : External R) (cfg : RtCoreConfig R) : Machine (Gallery R) (Label R) where
  start := .new cfg
  step := step lib

/-- The snapshots a reader may have seen, the blank one first. -/
def snapshots (g : Gallery R) : List (StateSnapshot R) := .initial :: g.published.map (·.snap)

/-- The publication after `i` others tells the tick `i + 1`. It is fresh exactly if its window
ingested a packet. A fresh one shows the packet ingested last, wrench and all; a stale one shows
again what the one before it showed, and no wrench. -/
structure Tells (g : Gallery R) (i : Nat) (p : Publication R) : Prop where
  tick : p.snap.cmdTick = i + 1
  ingested : p.snap.rxFresh = true ↔ 0 < p.window
  fresh : p.snap.rxFresh = true → ∃ x, 0 < p.packets ∧ g.packets[p.packets - 1]? = some x ∧
    p.snap.measurement = x.measurement ∧ p.snap.wrench = x.wrench
  stale : p.snap.rxFresh = false → p.snap.wrench = .absent ∧
    ∃ before, g.snapshots[i]? = some before ∧ p.snap.measurement = before.measurement

/-- One while a tick is under way. -/
def ticked (s : RealtimeCore R) : Nat :=
  match s.phase with
  | .ticked _ _ => 1
  | _ => 0

structure Kept (g : Gallery R) : Prop where
  tidy : g.loop.Tidy
  counted : g.loop.core.tickNo = g.published.length + ticked g.loop
  snap : g.snapshots[g.published.length]? = some g.loop.snap
  unseen : ∀ x ∈ g.loop.rx, g.packets.getLast? = some x ∧
    ∀ p ∈ g.published, p.packets < g.packets.length
  arrived : g.loop.rx.isSome = true ↔ 0 < g.window
  seen : ∀ p ∈ g.published, p.packets ≤ g.packets.length
  tells : ∀ i p, g.published[i]? = some p → g.Tells i p
  newer : g.published.Pairwise fun p q => q.snap.rxFresh = true → p.packets < q.packets

/-! ### One step -/

omit [LinearOrder R] [FloorRing R] in
/-- What a window publishes, from the loop it settles. -/
theorem settle_snap (s : RealtimeCore R) (last : Option (Target R)) (cmd : Command R) :
    ∃ u : RealtimeCore R, (s.settle last cmd).snap = (u.publishSnapshot cmd).snap ∧
      u.rx = s.rx ∧ u.core = s.core ∧ u.snap = s.snap := by
  let p := { s with publishedEpoch := s.core.health.epoch }
  have window : s.settle last cmd =
      { ((if cmd.tx then (p.retireConsumed last).send cmd.qRad cmd.isLast
          else p.retireConsumed last).publishSnapshot cmd).drainTickEvents with
        rx := none, phase := .waiting } := rfl
  rw [window, RealtimeCore.retireConsumed_shape]
  split
  · obtain ⟨_, _, drained⟩ := RealtimeCore.drainTickEvents_shape
      (RealtimeCore.publishSnapshot (RealtimeCore.send _ _ _) cmd)
    rw [drained]
    exact ⟨_, rfl, rfl, rfl, rfl⟩
  · obtain ⟨_, _, drained⟩ := RealtimeCore.drainTickEvents_shape
      (RealtimeCore.publishSnapshot _ cmd)
    rw [drained]
    exact ⟨_, rfl, rfl, rfl, rfl⟩

omit [LinearOrder R] [FloorRing R] in
theorem publishSnapshot_fresh {s : RealtimeCore R} {x : RxSample R} (packet : s.rx = some x)
    (cmd : Command R) :
    (s.publishSnapshot cmd).snap.measurement = x.measurement ∧
      (s.publishSnapshot cmd).snap.wrench = x.wrench := by
  simp only [RealtimeCore.publishSnapshot, packet]
  exact ⟨rfl, rfl⟩

omit [LinearOrder R] [FloorRing R] in
theorem publishSnapshot_stale {s : RealtimeCore R} (silent : s.rx = none) (cmd : Command R) :
    (s.publishSnapshot cmd).snap.measurement = s.snap.measurement ∧
      (s.publishSnapshot cmd).snap.wrench = .absent := by
  simp only [RealtimeCore.publishSnapshot, silent]
  exact ⟨rfl, rfl⟩

/-- What a step other than a packet, a tick and its window's end leaves alone; a session starts
without a sample. -/
structure Still (s t : RealtimeCore R) (l : Label R) : Prop where
  tickNo : t.core.tickNo = s.core.tickNo
  snap : t.snap = s.snap
  rx : l = .start ∧ t.rx = none ∨ l ≠ .start ∧ t.rx = s.rx
  ticked : ticked t = ticked s

theorem takes_still {lib : External R} {s t : RealtimeCore R} {l : Label R} (tidy : s.Tidy)
    (taken : RealtimeCore.Takes lib s l t)
    (other : l ≠ .tick ∧ l ≠ .settle ∧ ∀ rxMono view, l ≠ .packet rxMono view) : Still s t l := by
  cases taken with
  | start idle cleared =>
    have down := tidy.idle idle
    exact ⟨rfl, rfl, .inl ⟨rfl, rfl⟩, by simp [Gallery.ticked, down]⟩
  | exit phase flagged =>
    simp only [RealtimeCore.exit]
    split <;> exact ⟨rfl, rfl, .inr ⟨by simp, rfl⟩, by simp [Gallery.ticked, phase]⟩
  | join phase unlocked =>
    exact ⟨rfl, rfl, .inr ⟨by simp, rfl⟩, by simp [Gallery.ticked, RealtimeCore.join, phase]⟩
  | packet rxMono view phase => exact absurd rfl (other.2.2 rxMono view)
  | timer phase => exact ⟨rfl, rfl, .inr ⟨by simp, rfl⟩, by simp [Gallery.ticked, phase]⟩
  | exchange op rest phase =>
    have rests : ticked { s.exchange op with
        phase := if rest = [] then .draining none else .exchanging rest } = ticked s := by
      by_cases ends : rest = [] <;> simp [Gallery.ticked, phase, ends]
    rcases RealtimeCore.exchange_shape s op with ⟨-, same⟩ | ⟨-, forwarded⟩
    · rw [same] at rests ⊢
      exact ⟨rfl, rfl, .inr ⟨by simp, rfl⟩, rests⟩
    · obtain ⟨_, _, _, shape⟩ := RealtimeCore.forward_shape s.core op
      rw [forwarded, shape] at rests ⊢
      exact ⟨rfl, rfl, .inr ⟨by simp, rfl⟩, rests⟩
  | pop last phase =>
    rcases RealtimeCore.pop_shape s last with ⟨-, same⟩ | ⟨_, _, _, _, -, popped⟩
    · rw [same]
      exact ⟨rfl, rfl, .inr ⟨by simp, rfl⟩, by simp [Gallery.ticked, phase]⟩
    · rw [popped]
      exact ⟨rfl, rfl, .inr ⟨by simp, rfl⟩, by simp [Gallery.ticked, phase]⟩
  | check last phase => exact ⟨rfl, rfl, .inr ⟨by simp, rfl⟩, by simp [Gallery.ticked, phase]⟩
  | tick last consumeSuperseded phase => exact absurd rfl other.1
  | settle last cmd phase => exact absurd rfl other.2.1
  | push t stage =>
    rcases RealtimeCore.pushMailbox_shape s t with ⟨-, pushed⟩ | ⟨-, dropped⟩
    · rw [pushed]
      exact ⟨rfl, rfl, .inr ⟨by simp, rfl⟩, rfl⟩
    · rw [dropped]
      exact ⟨rfl, rfl, .inr ⟨by simp, rfl⟩, rfl⟩
  | stop | clear | submitTrajectory | submit | name | date | stamp | stopBump | stopStore
  | request | reap | drainEvents => exact ⟨rfl, rfl, .inr ⟨by simp, rfl⟩, rfl⟩

omit [LinearOrder R] [FloorRing R] in
theorem Tells.mono {g h : Gallery R} {i : Nat} {p : Publication R} (tells : g.Tells i p)
    (packets : g.packets <+: h.packets) (published : g.published <+: h.published) :
    h.Tells i p := by
  have snapshots : g.snapshots <+: h.snapshots := List.cons_prefix_cons.mpr
    ⟨rfl, published.map _⟩
  refine ⟨tells.tick, tells.ingested, fun fresh => ?_, fun stale => ?_⟩
  · obtain ⟨x, some, shown, same⟩ := tells.fresh fresh
    exact ⟨x, some, prefix_getElem? packets shown, same⟩
  · obtain ⟨wrench, before, shown, same⟩ := tells.stale stale
    exact ⟨wrench, before, prefix_getElem? snapshots shown, same⟩

omit [LinearOrder R] [FloorRing R] in
/-- A step that publishes nothing. -/
theorem Kept.quiet {g h : Gallery R} (kept : g.Kept) (tidy : h.loop.Tidy)
    (published : h.published = g.published) (packets : g.packets <+: h.packets)
    (counted : h.loop.core.tickNo = g.published.length + ticked h.loop)
    (snap : h.loop.snap = g.loop.snap)
    (unseen : ∀ x ∈ h.loop.rx, h.packets.getLast? = some x ∧
      ∀ p ∈ g.published, p.packets < h.packets.length)
    (arrived : h.loop.rx.isSome = true ↔ 0 < h.window) : h.Kept := by
  have same : h.snapshots = g.snapshots := by rw [snapshots, snapshots, published]
  refine ⟨tidy, ?_, ?_, ?_, arrived, ?_, ?_, ?_⟩
  · rw [published]
    exact counted
  · rw [same, published, snap]
    exact kept.snap
  · rw [published]
    exact unseen
  · rw [published]
    exact fun p member => (kept.seen p member).trans packets.length_le
  · intro i p found
    rw [published] at found
    exact (kept.tells i p found).mono packets (published ▸ List.prefix_rfl)
  · rw [published]
    exact kept.newer

omit [LinearOrder R] [FloorRing R] in
theorem Kept.still {g : Gallery R} (kept : g.Kept) {t : RealtimeCore R} {l : Label R}
    (tidy : t.Tidy) (still : Still g.loop t l)
    (other : l ≠ .tick ∧ l ≠ .settle ∧ ∀ rxMono view, l ≠ .packet rxMono view) :
    (g.note l t).Kept := by
  have noted : (g.note l t).packets = g.packets ∧ (g.note l t).published = g.published ∧
      (l = .start ∧ (g.note l t).window = 0 ∨ l ≠ .start ∧ (g.note l t).window = g.window) := by
    cases l with
    | tick => exact absurd rfl other.1
    | settle => exact absurd rfl other.2.1
    | packet rxMono view => exact absurd rfl (other.2.2 rxMono view)
    | start => exact ⟨rfl, rfl, .inl ⟨rfl, rfl⟩⟩
    | _ => exact ⟨rfl, rfl, .inr ⟨nofun, rfl⟩⟩
  obtain ⟨packets, published, window⟩ := noted
  refine kept.quiet tidy published (packets ▸ List.prefix_rfl) ?_ still.snap ?_ ?_
  · show t.core.tickNo = g.published.length + ticked t
    rw [still.tickNo, still.ticked]
    exact kept.counted
  · rintro x (arrived : t.rx = some x)
    rw [packets]
    rcases still.rx with ⟨-, none⟩ | ⟨-, same⟩
    · rw [none] at arrived
      cases arrived
    · exact kept.unseen x (same ▸ arrived)
  · show t.rx.isSome = true ↔ 0 < (g.note l t).window
    rcases still.rx with ⟨start, none⟩ | ⟨other, same⟩
    · rcases window with ⟨-, zero⟩ | ⟨other, -⟩
      · rw [none, zero]
        exact ⟨nofun, nofun⟩
      · exact absurd start other
    · rcases window with ⟨start, -⟩ | ⟨-, window⟩
      · exact absurd start other
      · rw [same, window]
        exact kept.arrived

omit [FloorRing R] in
theorem Kept.packet {g : Gallery R} (kept : g.Kept) {rxMono : Int} {view : RobotStatusView R}
    (tidy : (g.loop.ingestPacket rxMono view).Tidy) (phase : g.loop.phase = .waiting) :
    (g.note (.packet rxMono view) (g.loop.ingestPacket rxMono view)).Kept := by
  have ingested : ∃ x, (g.loop.ingestPacket rxMono view).rx = some x ∧
      (g.loop.ingestPacket rxMono view).core.tickNo = g.loop.core.tickNo ∧
      (g.loop.ingestPacket rxMono view).snap = g.loop.snap ∧
      (g.loop.ingestPacket rxMono view).phase = .waiting := by
    simp only [RealtimeCore.ingestPacket]
    split
    · exact ⟨_, rfl, rfl, rfl, phase⟩
    · exact ⟨_, rfl, rfl, rfl, phase⟩
  obtain ⟨x, rx, tickNo, snap, waiting⟩ := ingested
  have noted : (g.note (.packet rxMono view) (g.loop.ingestPacket rxMono view)).packets =
      g.packets ++ [x] := by
    show g.packets ++ (g.loop.ingestPacket rxMono view).rx.toList = _
    rw [rx]
    rfl
  refine kept.quiet tidy rfl ?_ ?_ snap ?_ ?_
  · rw [noted]
    exact List.prefix_append _ _
  · show (g.loop.ingestPacket rxMono view).core.tickNo =
      g.published.length + ticked (g.loop.ingestPacket rxMono view)
    have counted := kept.counted
    simp only [ticked, phase, waiting] at counted ⊢
    exact tickNo.trans counted
  · intro y arrived
    have arrived : (g.loop.ingestPacket rxMono view).rx = some y := arrived
    rw [rx, Option.some.injEq] at arrived
    rw [noted, List.getLast?_concat, arrived]
    refine ⟨rfl, fun p member => ?_⟩
    have sized := kept.seen p member
    rw [List.length_append, List.length_singleton]
    omega
  · show (g.loop.ingestPacket rxMono view).rx.isSome = true ↔ 0 < g.window + 1
    rw [rx]
    exact ⟨fun _ => Nat.succ_pos _, fun _ => rfl⟩

theorem Kept.tick {lib : External R} {g : Gallery R} (kept : g.Kept) {last : Option (Target R)}
    {superseded : Bool} (tidy : (g.loop.runTick lib last superseded).Tidy)
    (phase : g.loop.phase = .checked last superseded) :
    (g.note .tick (g.loop.runTick lib last superseded)).Kept := by
  refine kept.quiet tidy rfl List.prefix_rfl ?_ rfl kept.unseen kept.arrived
  have counted := kept.counted
  have tickNo := TickCore.tick_tickNo lib g.loop.core g.loop.rx last superseded
  simp only [ticked, phase, Nat.add_zero] at counted
  show (g.loop.core.tick lib g.loop.rx last superseded).2.tickNo = g.published.length + 1
  rw [tickNo, counted]

omit [LinearOrder R] [FloorRing R] in
/-- The window's snapshot tells of the packet taken in it, or shows the measurement before. -/
theorem Kept.settle_tells {g : Gallery R} (kept : g.Kept) {last : Option (Target R)}
    {cmd : Command R} (phase : g.loop.phase = .ticked last cmd) :
    g.Tells g.published.length
      ⟨(g.loop.settle last cmd).snap, g.packets.length, g.window⟩ := by
  obtain ⟨u, snap, rx, core, before⟩ := settle_snap g.loop last cmd
  have counted := kept.counted
  simp only [ticked, phase] at counted
  rw [snap]
  refine ⟨?_, ?_, fun fresh => ?_, fun stale => ?_⟩
  · show u.core.tickNo = g.published.length + 1
    rw [core, counted]
  · show u.rx.isSome = true ↔ 0 < g.window
    rw [rx]
    exact kept.arrived
  · have fresh : u.rx.isSome = true := fresh
    obtain ⟨x, packet⟩ := Option.isSome_iff_exists.mp fresh
    have newest := (kept.unseen x (rx ▸ packet)).1
    have positive : 0 < g.packets.length := by
      rw [List.length_pos_iff]
      intro empty
      rw [empty] at newest
      cases newest
    rw [List.getLast?_eq_getElem?] at newest
    exact ⟨x, positive, newest, publishSnapshot_fresh packet cmd⟩
  · have silent : u.rx = none := Option.isNone_iff_eq_none.mp (by
      have stale : u.rx.isSome = false := stale
      simpa using stale)
    obtain ⟨same, wrench⟩ := publishSnapshot_stale silent cmd
    exact ⟨wrench, g.loop.snap, kept.snap, before ▸ same⟩

omit [LinearOrder R] [FloorRing R] in
theorem Kept.settle {g : Gallery R} (kept : g.Kept) {last : Option (Target R)} {cmd : Command R}
    (tidy : (g.loop.settle last cmd).Tidy) (phase : g.loop.phase = .ticked last cmd) :
    (g.note .settle (g.loop.settle last cmd)).Kept := by
  obtain ⟨_, _, _, _, settled⟩ := RealtimeCore.settle_shape g.loop last cmd
  obtain ⟨u, snap, rx, -, -⟩ := settle_snap g.loop last cmd
  have rests : (g.loop.settle last cmd).core.tickNo = g.loop.core.tickNo ∧
      (g.loop.settle last cmd).rx = none ∧ (g.loop.settle last cmd).phase = .waiting := by
    rw [settled]
    exact ⟨rfl, rfl, rfl⟩
  have counted := kept.counted
  simp only [ticked, phase] at counted
  have grown : g.published <+:
      g.published ++ [⟨(g.loop.settle last cmd).snap, g.packets.length, g.window⟩] :=
    List.prefix_append _ _
  have tells := kept.settle_tells phase
  refine ⟨tidy, ?_, ?_, ?_, ?_, ?_, ?_, ?_⟩
  · show (g.loop.settle last cmd).core.tickNo = (g.published ++ [_]).length +
      ticked (g.loop.settle last cmd)
    rw [rests.1, counted, List.length_append, List.length_singleton]
    simp only [ticked, rests.2.2]
  · show (StateSnapshot.initial :: (g.published ++ [_]).map _)[(g.published ++ [_]).length]? = _
    rw [List.length_append, List.length_singleton, List.getElem?_cons_succ, List.map_append]
    exact List.getElem?_append_right (by simp) |>.trans (by simp [note])
  · intro x arrived
    have arrived : (g.loop.settle last cmd).rx = some x := arrived
    rw [rests.2.1] at arrived
    cases arrived
  · show (g.loop.settle last cmd).rx.isSome = true ↔ 0 < 0
    rw [rests.2.1]
    exact ⟨nofun, nofun⟩
  · intro p member
    rcases List.mem_append.mp member with early | late
    · exact kept.seen p early
    · rw [List.mem_singleton.mp late]
      exact Nat.le_refl _
  · intro i p found
    have found : (g.published ++ [_])[i]? = some p := found
    rcases Nat.lt_or_ge i g.published.length with early | late
    · rw [List.getElem?_append_left early] at found
      exact (kept.tells i p found).mono List.prefix_rfl grown
    · have here : i = g.published.length := by
        have bound := (List.getElem?_eq_some_iff.mp found).1
        rw [List.length_append, List.length_singleton] at bound
        omega
      rw [here, List.getElem?_concat_length, Option.some.injEq] at found
      rw [here, ← found]
      exact tells.mono List.prefix_rfl grown
  · refine List.pairwise_append.mpr ⟨kept.newer, List.pairwise_singleton _ _, ?_⟩
    intro p early q late fresh
    rw [List.mem_singleton.mp late] at fresh ⊢
    rw [snap] at fresh
    have fresh : u.rx.isSome = true := fresh
    obtain ⟨x, packet⟩ := Option.isSome_iff_exists.mp fresh
    exact (kept.unseen x (rx ▸ packet)).2 p early

omit [LinearOrder R] [FloorRing R] in
theorem new_kept (cfg : RtCoreConfig R) : (new cfg).Kept where
  tidy := RealtimeCore.new_tidy cfg
  counted := rfl
  snap := rfl
  unseen := by
    intro x arrived
    cases arrived
  arrived := ⟨nofun, nofun⟩
  seen := by
    intro p member
    cases member
  tells := by
    intro i p found
    cases found
  newer := List.Pairwise.nil

theorem step_kept {lib : External R} {g h : Gallery R} {l : Label R} (kept : g.Kept)
    (moved : g.step lib l = some h) : h.Kept := by
  obtain ⟨t, stepped, rfl⟩ := Option.map_eq_some_iff.mp moved
  have taken := RealtimeCore.step_takes stepped
  have tidy := taken.tidy kept.tidy
  cases taken with
  | packet rxMono view phase => exact kept.packet tidy phase
  | tick last superseded phase => exact kept.tick tidy phase
  | settle last cmd phase => exact kept.settle tidy phase
  | start | stop | exit | join | clear | timer | exchange | pop | check | submitTrajectory | submit
  | name | date | stamp | push | stopBump | stopStore | request | reap | drainEvents =>
    exact kept.still tidy (takes_still kept.tidy (RealtimeCore.step_takes stepped)
      ⟨by simp, by simp, by simp⟩) ⟨by simp, by simp, by simp⟩

theorem kept_of_reachable {lib : External R} {cfg : RtCoreConfig R} {g : Gallery R}
    {legal : Gallery R → Label R → Prop} (reached : (machine lib cfg).Reachable legal g) :
    g.Kept := by
  refine reached.invariant (new_kept cfg) ?_
  intro a b l kept _ moved
  exact step_kept kept moved

omit [LinearOrder R] [FloorRing R] in
/-- A publication shows one packet whole, or none was there to show. -/
theorem Kept.whole {g : Gallery R} (kept : g.Kept) {i : Nat} {snap : StateSnapshot R}
    (found : g.snapshots[i]? = some snap) :
    snap.measurement = (StateSnapshot.initial : StateSnapshot R).measurement ∨
      ∃ x ∈ g.packets, snap.measurement = x.measurement := by
  induction i generalizing snap with
  | zero =>
    cases found
    exact .inl rfl
  | succ i ih =>
    rw [snapshots, List.getElem?_cons_succ, List.getElem?_map] at found
    obtain ⟨p, published, rfl⟩ := Option.map_eq_some_iff.mp found
    have tells := kept.tells i p published
    cases fresh : p.snap.rxFresh with
    | true =>
      obtain ⟨x, -, shown, same, -⟩ := tells.fresh fresh
      exact .inr ⟨x, List.mem_of_getElem? shown, same⟩
    | false =>
      obtain ⟨-, before, shown, same⟩ := tells.stale fresh
      rw [same]
      exact ih shown

end Gallery

end AiroFanuc.RtCore
