import AiroFanuc.RtCore.RealtimeCore
import AiroFanuc.RtCore.Frames

/-! Every step of the RT loop and its callers, once: when it may be taken and what it
leaves. -/

namespace AiroFanuc.RtCore

open TickEngine Library

variable {R : Type} [Field R] [LinearOrder R] [FloorRing R]

namespace RealtimeCore

inductive Takes (lib : External R) (s : RealtimeCore R) : Label R → RealtimeCore R → Prop
  | start (idle : s.running = false) (cleared : s.clearing = false) :
      Takes lib s .start
        { s with running := true, stopFlag := false, phase := .waiting, rx := none, txSeq := 0 }
  | stop (running : s.running = true) : Takes lib s .stop { s with stopFlag := true }
  | exit (phase : s.phase = .waiting) (flagged : s.stopFlag = true) : Takes lib s .exit s.exit
  | join (phase : s.phase = .exited) (unlocked : s.submission = none) : Takes lib s .join s.join
  | clear (clearing : s.clearing = true) (unlocked : s.submission = none) :
      Takes lib s .clear s.clear
  | packet (rxMono : Int) (view : RobotStatusView R) (phase : s.phase = .waiting) :
      Takes lib s (.packet rxMono view) (s.ingestPacket rxMono view)
  | timer (phase : s.phase = .waiting) :
      Takes lib s .timer { s with phase := .exchanging ControlOp.exchangeOrder }
  | exchange (op : ControlOp) (rest : List ControlOp) (phase : s.phase = .exchanging (op :: rest)) :
      Takes lib s .exchange
        { s.exchange op with phase := if rest = [] then .draining none else .exchanging rest }
  | pop (last : Option (Target R)) (phase : s.phase = .draining last) :
      Takes lib s .pop (s.pop last)
  | check (last : Option (Target R)) (phase : s.phase = .drained last) :
      Takes lib s .check { s with phase := .checked last (s.isSuperseded last) }
  | tick (last : Option (Target R)) (consumeSuperseded : Bool)
      (phase : s.phase = .checked last consumeSuperseded) :
      Takes lib s .tick (s.runTick lib last consumeSuperseded)
  | settle (last : Option (Target R)) (cmd : Command R) (phase : s.phase = .ticked last cmd) :
      Takes lib s .settle (s.settle last cmd)
  | submitTrajectory (request : Request R) (addr : Nat) (unlocked : s.submission = none)
      (planned : request.isTrajectory = true)
      (free : ∀ o ∈ s.reapRetired.liveBuffers, o.addr ≠ addr) :
      Takes lib s (.submit request addr)
        { s.reapRetired.allocBuffer addr with
          submission :=
            some ⟨{ request.target with bufferOwner := some ⟨addr, s.nextSerial⟩ }, .locked⟩ }
  | submit (request : Request R) (addr : Nat) (unlocked : s.submission = none)
      (plain : request.isTrajectory = false) :
      Takes lib s (.submit request addr)
        { s.reapRetired with submission := some ⟨request.target, .locked⟩ }
  | name (t : Target R) (stage : s.submission = some ⟨t, .locked⟩) :
      Takes lib s .enqueue
        { s with
          submission := some ⟨{ t with motionId := s.nextMotionId }, .named⟩
          nextMotionId := s.nextMotionId + 1 }
  | date (t : Target R) (stage : s.submission = some ⟨t, .named⟩) :
      Takes lib s .enqueue
        { s with submission := some ⟨{ t with epoch := s.publishedEpoch }, .dated⟩ }
  | stamp (t : Target R) (stage : s.submission = some ⟨t, .dated⟩) :
      Takes lib s .enqueue
        { s with submission := some ⟨{ t with stopGen := s.stopGen }, .stamped⟩ }
  | push (t : Target R) (stage : s.submission = some ⟨t, .stamped⟩) :
      Takes lib s .enqueue { s.pushMailbox t with submission := none }
  | stopBump : Takes lib s .stopBump s.stopBump
  | stopStore (gen : Nat) (opened : gen ∈ s.openStops) :
      Takes lib s (.stopStore gen)
        { s with
          requested := Function.update s.requested .stop true
          openStops := s.openStops.erase gen }
  | request (op : ControlOp) (other : op ≠ .stop) :
      Takes lib s (.request op) { s with requested := Function.update s.requested op true }
  | reap (unlocked : s.submission = none) : Takes lib s .reap s.reapRetired
  | drainEvents (max : Nat) :
      Takes lib s (.drainEvents max) { s with pyEvents := s.pyEvents.drop max }

theorem beginSubmit_takes {lib : External R} {s t : RealtimeCore R} {request : Request R}
    {addr : Nat} (moved : s.beginSubmit request addr = some t) :
    Takes lib s (.submit request addr) t := by
  simp only [beginSubmit, Option.isSome_iff_ne_none] at moved
  split at moved
  · cases moved
  · rename_i free
    have unlocked : s.submission = none := by simpa using free
    split at moved
    · rename_i planned
      split at moved
      · cases moved
      · rename_i addrs
        cases moved
        exact .submitTrajectory request addr unlocked planned (by simpa using addrs)
    · rename_i plain
      cases moved
      exact .submit request addr unlocked (by simpa using plain)

theorem enqueue_takes {lib : External R} {s t : RealtimeCore R} (moved : s.enqueue = some t) :
    Takes lib s .enqueue t := by
  simp only [enqueue] at moved
  split at moved
  · cases moved
  · rename_i t' stage
    cases moved
    exact .name t' stage
  · rename_i t' stage
    cases moved
    exact .date t' stage
  · rename_i t' stage
    cases moved
    exact .stamp t' stage
  · rename_i t' stage
    cases moved
    exact .push t' stage

/-- A step the machine makes is one of the steps above. -/
theorem step_takes {lib : External R} {s t : RealtimeCore R} {l : Label R}
    (moved : s.step lib l = some t) : Takes lib s l t := by
  cases l with
  | start =>
    simp only [step, start] at moved
    split at moved
    · cases moved
    · rename_i free
      cases moved
      simp only [not_or, Bool.not_eq_true] at free
      exact .start free.1 free.2
  | stop =>
    simp only [step] at moved
    split at moved
    · rename_i running
      cases moved
      exact .stop running
    · cases moved
  | exit =>
    simp only [step] at moved
    split at moved
    · rename_i phase
      split at moved
      · rename_i flagged
        cases moved
        exact .exit phase flagged
      · cases moved
    · cases moved
  | join =>
    simp only [step] at moved
    split at moved
    · rename_i phase
      split at moved
      · rename_i unlocked
        cases moved
        exact .join phase (by simpa using unlocked)
      · cases moved
    · cases moved
  | clear =>
    simp only [step] at moved
    split at moved
    · rename_i ready
      cases moved
      exact .clear ready.1 (by simpa using ready.2)
    · cases moved
  | packet rxMono view =>
    simp only [step] at moved
    split at moved
    · rename_i phase
      cases moved
      exact .packet rxMono view phase
    · cases moved
  | timer =>
    simp only [step] at moved
    split at moved
    · rename_i phase
      cases moved
      exact .timer phase
    · cases moved
  | exchange =>
    simp only [step] at moved
    split at moved
    · rename_i op rest phase
      cases moved
      exact .exchange op rest phase
    · cases moved
  | pop =>
    simp only [step] at moved
    split at moved
    · rename_i last phase
      cases moved
      exact .pop last phase
    · cases moved
  | check =>
    simp only [step] at moved
    split at moved
    · rename_i last phase
      cases moved
      exact .check last phase
    · cases moved
  | tick =>
    simp only [step] at moved
    split at moved
    · rename_i last consumeSuperseded phase
      cases moved
      exact .tick last consumeSuperseded phase
    · cases moved
  | settle =>
    simp only [step] at moved
    split at moved
    · rename_i last cmd phase
      cases moved
      exact .settle last cmd phase
    · cases moved
  | submit request addr => exact beginSubmit_takes moved
  | enqueue => exact enqueue_takes moved
  | stopBump =>
    cases moved
    exact .stopBump
  | stopStore gen =>
    simp only [step, stopStore] at moved
    split at moved
    · rename_i opened
      cases moved
      exact .stopStore gen opened
    · cases moved
  | request op =>
    simp only [step] at moved
    split at moved
    · cases moved
    · rename_i other
      cases moved
      exact .request op other
  | reap =>
    simp only [step] at moved
    split at moved
    · rename_i unlocked
      cases moved
      exact .reap (by simpa using unlocked)
    · cases moved
  | drainEvents max =>
    cases moved
    exact .drainEvents max

/-! ### What the longer steps leave alone -/

omit [Field R] [LinearOrder R] [FloorRing R] in
theorem drainEvents_shape (events : List Event) (s : RealtimeCore R) :
    ∃ resolutions pyEvents, events.foldl drainEvent s =
      { s with resolutions := resolutions, pyEvents := pyEvents } := by
  induction events generalizing s with
  | nil => exact ⟨s.resolutions, s.pyEvents, rfl⟩
  | cons e rest ih =>
    have one : ∃ resolutions pyEvents, s.drainEvent e =
        { s with resolutions := resolutions, pyEvents := pyEvents } := by
      simp only [drainEvent, pushPyEvent]
      split
      · split
        · exact ⟨_, _, rfl⟩
        · exact ⟨_, s.pyEvents, rfl⟩
      · split
        · exact ⟨s.resolutions, _, rfl⟩
        · exact ⟨s.resolutions, s.pyEvents, rfl⟩
    obtain ⟨resolutions, pyEvents, drained⟩ := one
    rw [List.foldl_cons, drained]
    exact ih _

omit [Field R] [LinearOrder R] [FloorRing R] in
theorem drainTickEvents_shape (s : RealtimeCore R) :
    ∃ resolutions pyEvents, s.drainTickEvents =
      { s with
        core := { s.core with events := [] }
        resolutions := resolutions
        pyEvents := pyEvents } := by
  obtain ⟨resolutions, pyEvents, drained⟩ := drainEvents_shape s.core.events s
  refine ⟨resolutions, pyEvents, ?_⟩
  rw [drainTickEvents, drained]

/-- The retire ring after a push of a buffer that may be null. -/
def pushRetired (ring : List Owner) (owner : Option Owner) : List Owner :=
  match owner with
  | some owner => if ring.length < kRetireRoom then ring ++ [owner] else ring
  | none => ring

omit [Field R] [LinearOrder R] [FloorRing R] in
theorem retireOwner_shape (s : RealtimeCore R) (owner : Option Owner) :
    s.retireOwner owner = { s with retireRing := pushRetired s.retireRing owner } := by
  unfold retireOwner retire pushRetired
  cases owner with
  | none => rfl
  | some owner =>
    simp only
    split <;> rfl

/-- The buffer a displaced target gives up. -/
def displacedOwner (t : Target R) : Option Owner :=
  if t.kind = .trajectory then t.bufferOwner else none

omit [Field R] [LinearOrder R] [FloorRing R] in
theorem displace_shape (s : RealtimeCore R) (t : Target R) :
    ∃ resolutions pyEvents, s.displace t =
      { s with
        retireRing := pushRetired s.retireRing (displacedOwner t)
        resolutions := resolutions
        pyEvents := pyEvents } := by
  have given : (if t.kind = .trajectory then s.retireOwner t.bufferOwner else s) =
      { s with retireRing := pushRetired s.retireRing (displacedOwner t) } := by
    simp only [displacedOwner, retireOwner_shape]
    split <;> rfl
  simp only [displace, given, recordResolution, pushPyEvent]
  split
  · exact ⟨_, _, rfl⟩
  · split
    · exact ⟨_, _, rfl⟩
    · exact ⟨_, _, rfl⟩

/-- The buffer a consumed target makes redundant, and the owner pointer after it. -/
def consumedOwners (accepted : Bool) (active : Option Owner) (last : Option (Target R)) :
    Option Owner × Option Owner :=
  match last with
  | none => (none, active)
  | some t =>
    if t.kind = .trajectory then
      if accepted then (active, t.bufferOwner) else (t.bufferOwner, active)
    else if accepted = true ∧ (t.kind = .servo ∨ t.kind = .brake ∨ t.kind = .hold) then
      (active, none)
    else (none, active)

omit [Field R] [LinearOrder R] [FloorRing R] in
theorem retireConsumed_shape (s : RealtimeCore R) (last : Option (Target R)) :
    s.retireConsumed last =
      { s with
        retireRing := pushRetired s.retireRing
          (consumedOwners s.core.lastConsume.accepted s.activeTrajOwner last).1
        activeTrajOwner :=
          (consumedOwners s.core.lastConsume.accepted s.activeTrajOwner last).2 } := by
  unfold retireConsumed consumedOwners
  cases last with
  | none => rfl
  | some t =>
    simp only [retireOwner_shape]
    by_cases planned : t.kind = .trajectory
    · simp only [planned, if_true]
      split <;> rfl
    · simp only [planned, if_false]
      by_cases taken : s.core.lastConsume.accepted = true ∧
          (t.kind = .servo ∨ t.kind = .brake ∨ t.kind = .hold)
      · rw [if_pos taken]
        by_cases null : s.activeTrajOwner = none
        · have kept : ¬ (s.core.lastConsume.accepted = true ∧ s.activeTrajOwner ≠ none ∧
              (t.kind = .servo ∨ t.kind = .brake ∨ t.kind = .hold)) := fun h => h.2.1 null
          rw [if_neg kept]
          simp only [null, pushRetired]
          rw [← null]
        · rw [if_pos ⟨taken.1, null, taken.2⟩]
      · have kept : ¬ (s.core.lastConsume.accepted = true ∧ s.activeTrajOwner ≠ none ∧
            (t.kind = .servo ∨ t.kind = .brake ∨ t.kind = .hold)) :=
          fun h => taken ⟨h.1, h.2.2⟩
        rw [if_neg taken, if_neg kept]
        rfl

/-- The datagrams sent once a window's command is out. -/
def sentAfter (s : RealtimeCore R) (cmd : Command R) : List (Datagram R) :=
  if cmd.tx then s.sent ++ [⟨s.txSeq + 1, cmd.isLast, fun j => rad2deg (cmd.qRad j)⟩] else s.sent

omit [LinearOrder R] [FloorRing R] in
theorem settle_shape (s : RealtimeCore R) (last : Option (Target R)) (cmd : Command R) :
    ∃ txSeq snap resolutions pyEvents, s.settle last cmd =
      { s with
        core := { s.core with events := [] }
        publishedEpoch := s.core.health.epoch
        rx := none
        phase := .waiting
        retireRing := pushRetired s.retireRing
          (consumedOwners s.core.lastConsume.accepted s.activeTrajOwner last).1
        activeTrajOwner :=
          (consumedOwners s.core.lastConsume.accepted s.activeTrajOwner last).2
        txSeq := txSeq
        sent := s.sentAfter cmd
        snap := snap
        resolutions := resolutions
        pyEvents := pyEvents } := by
  let p := { s with publishedEpoch := s.core.health.epoch }
  have window : s.settle last cmd =
      { (publishSnapshot (if cmd.tx then (p.retireConsumed last).send cmd.qRad cmd.isLast
          else p.retireConsumed last) cmd).drainTickEvents with rx := none, phase := .waiting } := rfl
  rw [window, retireConsumed_shape, sentAfter]
  split
  · obtain ⟨resolutions, pyEvents, drained⟩ := drainTickEvents_shape (publishSnapshot (send _ _ _) cmd)
    rw [drained]
    exact ⟨_, _, resolutions, pyEvents, rfl⟩
  · obtain ⟨resolutions, pyEvents, drained⟩ := drainTickEvents_shape (publishSnapshot _ cmd)
    rw [drained]
    exact ⟨_, _, resolutions, pyEvents, rfl⟩

omit [Field R] [LinearOrder R] [FloorRing R] in
theorem pop_shape (s : RealtimeCore R) (last : Option (Target R)) :
    (s.mailbox = [] ∧ s.pop last = { s with phase := .drained last }) ∨
    ∃ t rest resolutions pyEvents, s.mailbox = t :: rest ∧ s.pop last =
      { s with
        mailbox := rest
        phase := .draining (some t)
        retireRing := pushRetired s.retireRing (last.bind displacedOwner)
        resolutions := resolutions
        pyEvents := pyEvents } := by
  unfold pop
  cases waiting : s.mailbox with
  | nil => exact .inl ⟨rfl, rfl⟩
  | cons t rest =>
    right
    simp only
    cases last with
    | none => exact ⟨t, rest, s.resolutions, s.pyEvents, rfl, rfl⟩
    | some displaced =>
      obtain ⟨resolutions, pyEvents, shape⟩ :=
        displace_shape { s with mailbox := rest, phase := .draining (some t) } displaced
      exact ⟨t, rest, resolutions, pyEvents, rfl, shape⟩

omit [Field R] [LinearOrder R] [FloorRing R] in
theorem pushMailbox_shape (s : RealtimeCore R) (t : Target R) :
    (s.mailbox.length < kMailboxRoom ∧ s.pushMailbox t = { s with mailbox := s.mailbox ++ [t] }) ∨
    (kMailboxRoom ≤ s.mailbox.length ∧ s.pushMailbox t =
      { s with liveBuffers := t.bufferOwner.toList.foldl freeAt s.liveBuffers }) := by
  unfold pushMailbox
  by_cases room : s.mailbox.length < kMailboxRoom
  · exact .inl ⟨room, if_pos room⟩
  · refine .inr ⟨by omega, ?_⟩
    rw [if_neg room]
    cases t.bufferOwner <;> rfl

/-! ### The core's ring and its stream -/

/-- Without a session there is no thread; between ticks the event ring is drained; a
ready loop's core streams. -/
structure Tidy (s : RealtimeCore R) : Prop where
  idle : s.running = false → s.phase = .down
  drained : (∀ last cmd, s.phase ≠ .ticked last cmd) → s.core.events = []
  streams : s.streamingReady = true → s.core.anchor.streaming = true

omit [Field R] [LinearOrder R] [FloorRing R] in
/-- A forwarded request is left where the tick looks for it, and the rest of the core alone. -/
theorem forward_shape (core : TickCore R) (op : ControlOp) :
    ∃ liveness recovery ops, forward core op =
      { core with liveness := liveness, recovery := recovery, ops := ops } := by
  cases op with
  | stop | hold | kick => exact ⟨core.liveness, core.recovery, _, rfl⟩
  | heartbeat => exact ⟨_, core.recovery, core.ops, rfl⟩
  | recover =>
    simp only [forward, TickCore.requestRecover]
    split
    · exact ⟨core.liveness, _, core.ops, rfl⟩
    · exact ⟨core.liveness, core.recovery, core.ops, rfl⟩

omit [Field R] [LinearOrder R] [FloorRing R] in
/-- A forwarded request moves no motion and no mode; only the stop raises the stop flag. -/
theorem forward_kept (core : TickCore R) (op : ControlOp) :
    (forward core op).events = core.events ∧
      (forward core op).active = core.active ∧
      (forward core op).frame =
        { core.frame with stopRequested := core.ops.stopRequested || decide (op = .stop) } := by
  cases op with
  | stop =>
    refine ⟨rfl, rfl, ?_⟩
    rw [decide_eq_true rfl, Bool.or_true]
    rfl
  | hold | kick | heartbeat =>
    refine ⟨rfl, rfl, ?_⟩
    rw [decide_eq_false (by decide), Bool.or_false]
    rfl
  | recover =>
    rw [decide_eq_false (by decide), Bool.or_false]
    simp only [forward, TickCore.requestRecover]
    split
    · exact ⟨rfl, rfl, rfl⟩
    · exact ⟨rfl, rfl, rfl⟩

theorem tick_streaming (lib : External R) (s : TickCore R) (rx : Option (RxSample R))
    (pending : Option (Target R)) (consumeSuperseded : Bool) :
    (s.tick lib rx pending consumeSuperseded).2.anchor.streaming = s.anchor.streaming := by
  have frame := congrArg Frame.streaming (TickCore.tick_frame lib s rx pending consumeSuperseded)
  exact frame.trans (TickCore.ingestRx_streaming s rx)

omit [Field R] [LinearOrder R] [FloorRing R] in
theorem exchange_shape (s : RealtimeCore R) (op : ControlOp) :
    (s.requested op = false ∧ s.exchange op = s) ∨
    (s.requested op = true ∧ s.exchange op =
      { s with requested := Function.update s.requested op false, core := forward s.core op }) := by
  unfold exchange
  cases raised : s.requested op with
  | false => exact .inl ⟨rfl, if_neg (by simp)⟩
  | true => exact .inr ⟨rfl, if_pos rfl⟩

theorem Takes.tidy {lib : External R} {s t : RealtimeCore R} {l : Label R}
    (taken : Takes lib s l t) (tidy : s.Tidy) : t.Tidy := by
  have drained (working : s.phase = .down ∨ ∀ last cmd, s.phase ≠ .ticked last cmd) :
      s.core.events = [] := by
    apply tidy.drained
    rcases working with down | quiet
    · simp [down]
    · exact quiet
  -- A step of the RT thread is taken in a session.
  have live (working : s.phase ≠ .down) : s.running ≠ false := fun idle => working (tidy.idle idle)
  cases taken with
  | start idle cleared =>
    exact ⟨nofun, fun _ => drained (.inl (tidy.idle idle)), tidy.streams⟩
  | stop running => exact ⟨tidy.idle, tidy.drained, tidy.streams⟩
  | exit phase flagged =>
    have empty := drained (.inr (by simp [phase]))
    have up := live (by simp [phase])
    simp only [RealtimeCore.exit]
    split
    · exact ⟨fun h => absurd h up, fun _ => empty, tidy.streams⟩
    · exact ⟨fun h => absurd h up, fun _ => empty, tidy.streams⟩
  | join phase unlocked =>
    exact ⟨fun _ => rfl, fun _ => drained (.inr (by simp [phase])), tidy.streams⟩
  | packet rxMono view phase =>
    have empty := drained (.inr (by simp [phase]))
    have up := live (by simp [phase])
    simp only [ingestPacket]
    split
    · exact ⟨fun h => absurd h up, fun _ => empty, fun _ => rfl⟩
    · exact ⟨fun h => absurd h up, fun _ => empty, tidy.streams⟩
  | timer phase =>
    have up := live (by simp [phase])
    exact ⟨fun h => absurd h up, fun _ => drained (.inr (by simp [phase])), tidy.streams⟩
  | exchange op rest phase =>
    have empty := drained (.inr (by simp [phase]))
    have up := live (by simp [phase])
    obtain ⟨events, -, frame⟩ := forward_kept s.core op
    rcases exchange_shape s op with ⟨-, same⟩ | ⟨-, forwarded⟩
    · rw [same]
      exact ⟨fun h => absurd h up, fun _ => empty, tidy.streams⟩
    · rw [forwarded]
      exact ⟨fun h => absurd h up, fun _ => events.trans empty,
        fun ready => (congrArg Frame.streaming frame).trans (tidy.streams ready)⟩
  | pop last phase =>
    have empty := drained (.inr (by simp [phase]))
    have up := live (by simp [phase])
    rcases pop_shape s last with ⟨-, same⟩ | ⟨_, _, _, _, -, popped⟩
    · rw [same]
      exact ⟨fun h => absurd h up, fun _ => empty, tidy.streams⟩
    · rw [popped]
      exact ⟨fun h => absurd h up, fun _ => empty, tidy.streams⟩
  | check last phase =>
    have up := live (by simp [phase])
    exact ⟨fun h => absurd h up, fun _ => drained (.inr (by simp [phase])), tidy.streams⟩
  | tick last consumeSuperseded phase =>
    have up := live (by simp [phase])
    refine ⟨fun h => absurd h up, fun quiet => absurd rfl (quiet last _), fun ready => ?_⟩
    exact (tick_streaming lib s.core s.rx last consumeSuperseded).trans (tidy.streams ready)
  | settle last cmd phase =>
    have up := live (by simp [phase])
    obtain ⟨_, _, _, _, settled⟩ := settle_shape s last cmd
    rw [settled]
    exact ⟨fun h => absurd h up, fun _ => rfl, tidy.streams⟩
  | push t stage =>
    rcases pushMailbox_shape s t with ⟨-, pushed⟩ | ⟨-, dropped⟩
    · rw [pushed]
      exact ⟨tidy.idle, tidy.drained, tidy.streams⟩
    · rw [dropped]
      exact ⟨tidy.idle, tidy.drained, tidy.streams⟩
  | clear | submitTrajectory | submit | name | date | stamp | stopBump | stopStore | request
  | reap | drainEvents => exact ⟨tidy.idle, tidy.drained, tidy.streams⟩

omit [LinearOrder R] [FloorRing R] in
theorem new_tidy (cfg : RtCoreConfig R) : (new cfg).Tidy :=
  ⟨fun _ => rfl, fun _ => rfl, nofun⟩

end RealtimeCore

end AiroFanuc.RtCore
