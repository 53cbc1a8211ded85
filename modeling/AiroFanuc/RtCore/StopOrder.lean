import AiroFanuc.RtCore.LoopJournal

/-! `stop_j` against the submissions around it: the generation and the flag are two
atomics, read at two points of a window with the mailbox drained in between. -/

namespace AiroFanuc.RtCore

open TickEngine Library

/-- The kinds a later `stop_j` supersedes. -/
abbrev Target.stoppable {R : Type} (t : Target R) : Prop := t.kind = .trajectory ∨ t.kind = .servo

/-- Past the stop exchange, before the mailbox is found empty. -/
def RtPhase.collects {R : Type} : RtPhase R → Bool
  | .exchanging rest => decide (ControlOp.stop ∉ rest)
  | .draining _ => true
  | .down | .waiting | .drained _ | .checked _ _ | .ticked _ _ | .exited => false

/-- Past the stop exchange, before the tick that answers it. -/
def RtPhase.owesTick {R : Type} : RtPhase R → Bool
  | .exchanging rest => decide (ControlOp.stop ∉ rest)
  | .draining _ | .drained _ | .checked _ _ => true
  | .down | .waiting | .ticked _ _ | .exited => false

/-- The exchanges come in their order, the stop first. -/
def RtPhase.inOrder {R : Type} (phase : RtPhase R) : Prop :=
  ∀ rest, phase = .exchanging rest → rest = ControlOp.exchangeOrder ∨ ControlOp.stop ∉ rest

variable {R : Type} [Field R] [LinearOrder R] [FloorRing R]

def RtPhase.waits : RtPhase R → Bool
  | .waiting => true
  | _ => false

/-- The tick is about to run without a target. -/
def RtPhase.targetless : RtPhase R → Bool
  | .checked none false => true
  | _ => false

omit [Field R] [LinearOrder R] [FloorRing R] in
theorem RtPhase.eq_of_waits {phase : RtPhase R} (waits : phase.waits = true) : phase = .waiting := by
  cases phase with
  | waiting => rfl
  | _ => cases waits

omit [Field R] [LinearOrder R] [FloorRing R] in
theorem RtPhase.eq_of_targetless {phase : RtPhase R} (checked : phase.targetless = true) :
    phase = .checked none false := by
  cases phase with
  | checked last superseded =>
    cases last with
    | none =>
      cases superseded with
      | false => rfl
      | true => cases checked
    | some t => cases checked
  | _ => cases checked

namespace TickCore

def runningIds (s : TickCore R) : List Nat :=
  if s.active.status = .running then [s.active.motionId] else []

omit [Field R] [LinearOrder R] [FloorRing R] in
theorem mem_runningIds {s : TickCore R} {id : Nat} :
    id ∈ s.runningIds ↔ s.active.status = .running ∧ s.active.motionId = id := by
  unfold runningIds
  by_cases runs : s.active.status = .running
  · simp [runs, eq_comm]
  · simp [runs]

/-- The motion that the answer to a stop request resolves on this tick. -/
def stopped (s : TickCore R) (rx : Option (RxSample R)) : Option Nat :=
  let s := s.countTick.ingestRx rx
  if s.active.status = .running ∧ s.answerStop.active.status ≠ .running then
    some s.active.motionId
  else none

/-- What a tick resolves for its stop request was running, with the request up. -/
theorem stopped_requested {s : TickCore R} {rx : Option (RxSample R)} {id : Nat}
    (ended : s.stopped rx = some id) : s.ops.stopRequested = true ∧ id ∈ s.runningIds := by
  have ingested := ingestRx_moves s.countTick rx
  have frame := congrArg Frame.stopRequested (ingestRx_frame s.countTick rx)
  simp only [stopped] at ended
  split at ended
  · rename_i ends
    cases ended
    constructor
    · by_contra quiet
      have unasked : (s.countTick.ingestRx rx).ops.stopRequested = false := by
        cases rx <;> exact frame.trans (Bool.eq_false_of_not_eq_true quiet)
      apply ends.2
      rw [answerStop, if_neg (by simp [unasked])]
      exact ends.1
    · apply mem_runningIds.mpr
      refine ⟨?_, ingested.motionId.symm⟩
      by_contra idle
      exact ingested.idle idle ends.1
  · cases ended

/-- A motion running before the mailbox ran before the tick, with no stop requested. -/
theorem beforeConsume_runs {lib : External R} {s : TickCore R} {rx : Option (RxSample R)}
    (owned : s.control.running → s.control.plays) {id : Nat}
    (runs : id ∈ (s.beforeConsume lib rx).runningIds) :
    id ∈ s.runningIds ∧ s.ops.stopRequested = false := by
  obtain ⟨running, same⟩ := mem_runningIds.mp runs
  have active : (s.beforeConsume lib rx).active = (s.beforeDwell lib rx).active := by
    have control := congrArg Control.active (beforeConsume_control lib s rx)
    refine control.trans ?_
    split <;> rfl
  rw [active] at running same
  have moved := beforeDwell_moves lib s rx
  constructor
  · apply mem_runningIds.mpr
    refine ⟨?_, moved.motionId.symm.trans same⟩
    by_contra idle
    exact moved.idle idle running
  · by_contra asked
    have ingested : Control.Moves s.control (s.countTick.ingestRx rx).control :=
      ingestRx_moves s.countTick rx
    have frame := congrArg Frame.stopRequested (ingestRx_frame s.countTick rx)
    have requested : (s.countTick.ingestRx rx).ops.stopRequested = true := by
      cases rx <;> exact frame.trans (Bool.eq_true_of_not_eq_false asked)
    have idle := answerStop_idle requested ((ingested.carries owned).played owned)
    exact (afterStop_moves lib s rx).idle idle running

/-- A motion running after a tick has just been accepted, or ran before it with no stop
requested. -/
theorem tick_runs {lib : External R} {s : TickCore R} {rx : Option (RxSample R)}
    {pending : Option (Target R)} {consumeSuperseded : Bool}
    (owned : s.control.running → s.control.plays) {id : Nat}
    (runs : id ∈ (s.tick lib rx pending consumeSuperseded).2.runningIds) :
    (∃ t ∈ pending, t.motionId = id ∧ (consumeSuperseded = true → ¬ t.stoppable)) ∨
    (id ∈ s.runningIds ∧ s.ops.stopRequested = false) := by
  obtain ⟨running, same⟩ := mem_runningIds.mp runs
  have moved := tick_moves lib s rx pending consumeSuperseded
  have consumed : id ∈ ((s.beforeConsume lib rx).consumePending lib pending
      consumeSuperseded).runningIds := by
    apply mem_runningIds.mpr
    refine ⟨?_, moved.motionId.symm.trans same⟩
    by_contra idle
    exact moved.idle idle running
  cases pending with
  | none => exact .inr (beforeConsume_runs owned consumed)
  | some t =>
    obtain ⟨running, same⟩ := mem_runningIds.mp consumed
    have active := congrArg Control.active
      (consume_control lib (s.beforeConsume lib rx) t consumeSuperseded)
    have taken : ((s.beforeConsume lib rx).consumePending lib (some t) consumeSuperseded).active =
        ((s.beforeConsume lib rx).consume lib t consumeSuperseded).2.control.active := rfl
    rw [taken, active] at running same
    by_cases absent : t.kind = .none
    · rw [if_pos absent] at running same
      exact .inr (beforeConsume_runs owned (mem_runningIds.mpr ⟨running, same⟩))
    rw [if_neg absent] at running same
    by_cases refusing : (s.beforeConsume lib rx).refuses lib t consumeSuperseded = true
    · rw [if_pos refusing] at running
      cases running
    rw [if_neg refusing] at same
    refine .inl ⟨t, rfl, ?_, fun superseded stoppable => refusing ?_⟩
    · rw [← same]
      cases kind : t.kind with
      | none => exact absurd kind absent
      | hold | brake | servo | trajectory => rfl
    · simp [refuses, superseded, show t.kind = .trajectory ∨ t.kind = .servo from stoppable]

end TickCore

namespace RealtimeCore

/-- The targets not yet given to the core. -/
def waiting (s : RealtimeCore R) : List (Target R) := s.mailbox ++ s.phase.pending.toList

/-- The submission that carries its tag and is about to be pushed. -/
def stamped (s : RealtimeCore R) : Option (Target R) :=
  match s.submission with
  | some ⟨t, .stamped⟩ => some t
  | some ⟨_, .locked⟩ | some ⟨_, .named⟩ | some ⟨_, .dated⟩ | none => none

/-- Whether this step is the exchange that takes a stop request. -/
def takesStop (s : RealtimeCore R) : Label R → Bool
  | .exchange =>
    match s.phase with
    | .exchanging (.stop :: _) => s.requested .stop
    | _ => false
  | _ => false

omit [Field R] [LinearOrder R] [FloorRing R] in
theorem takesStop_exchange {s : RealtimeCore R} {op : ControlOp} {rest : List ControlOp}
    (phase : s.phase = .exchanging (op :: rest)) :
    s.takesStop .exchange = (decide (op = .stop) && s.requested .stop) := by
  simp only [takesStop, phase]
  cases op <;> simp

omit [Field R] [LinearOrder R] [FloorRing R] in
theorem takesStop_requested {s : RealtimeCore R} {l : Label R} (takes : s.takesStop l = true) :
    l = .exchange ∧ s.requested .stop = true ∧ ∃ rest, s.phase = .exchanging rest := by
  cases l with
  | exchange =>
    simp only [takesStop] at takes
    split at takes
    · rename_i rest phase
      exact ⟨rfl, takes, _, phase⟩
    · cases takes
  | start | stop | exit | join | clear | packet | timer | pop | check | tick | settle | submit
  | enqueue | stopBump | stopStore | request | reap | drainEvents => cases takes

/-- The waiting target that this step displaces or gives to the core. -/
def leaves (s : RealtimeCore R) : Label R → Option (Target R)
  | .pop =>
    match s.phase, s.mailbox with
    | .draining last, _ :: _ => last
    | _, _ => none
  | .tick =>
    match s.phase with
    | .checked last _ => last
    | _ => none
  | _ => none

/-- A step keeps the targets that wait, pushes one more, or lets one go. -/
theorem Takes.flow {lib : External R} {s t : RealtimeCore R} {l : Label R}
    (taken : Takes lib s l t) (tidy : s.Tidy) :
    (s.leaves l = none ∧ ∀ u, u ∈ t.waiting ↔ u ∈ s.waiting) ∨
    (l = .enqueue ∧ ∃ v, s.stamped = some v ∧
      ((s.mailbox.length < kMailboxRoom ∧ ∀ u, u ∈ t.waiting ↔ u ∈ s.waiting ∨ u = v) ∨
        ∀ u, u ∈ t.waiting ↔ u ∈ s.waiting)) ∨
    (∃ v, s.leaves l = some v ∧ ∀ u, u ∈ s.waiting ↔ u ∈ t.waiting ∨ u = v) := by
  cases taken with
  | start idle cleared =>
    refine .inl ⟨rfl, fun u => ?_⟩
    simp only [waiting, tidy.idle idle, RtPhase.pending]
  | exit phase flagged =>
    refine .inl ⟨rfl, fun u => ?_⟩
    simp only [RealtimeCore.exit, waiting, phase, RtPhase.pending]
    split <;> rfl
  | join phase unlocked =>
    refine .inl ⟨rfl, fun u => ?_⟩
    simp only [waiting, phase, RtPhase.pending]
    rfl
  | packet rxMono view phase =>
    refine .inl ⟨rfl, fun u => ?_⟩
    simp only [ingestPacket]
    split <;> rfl
  | timer phase =>
    refine .inl ⟨rfl, fun u => ?_⟩
    simp only [waiting, phase, RtPhase.pending]
  | exchange op rest phase =>
    refine .inl ⟨rfl, fun u => ?_⟩
    have idle : RtPhase.pending (if rest = [] then .draining none else .exchanging rest) =
        (none : Option (Target R)) := by
      split <;> rfl
    rcases exchange_shape s op with ⟨-, same⟩ | ⟨-, forwarded⟩
    · simp only [same, waiting]
      rw [idle, phase]
      rfl
    · simp only [forwarded, waiting]
      rw [idle, phase]
      rfl
  | pop last phase =>
    rcases pop_shape s last with ⟨empty, same⟩ | ⟨v, rest, _, _, full, popped⟩
    · refine .inl ⟨by simp only [leaves, phase, empty], fun u => ?_⟩
      simp only [same, waiting, phase, RtPhase.pending]
    · rw [popped]
      cases last with
      | none =>
        refine .inl ⟨by simp only [leaves, phase, full], fun u => ?_⟩
        simp only [waiting, full, phase, RtPhase.pending, Option.toList_some, Option.toList_none,
          List.append_nil, List.mem_append, List.mem_cons, List.not_mem_nil, or_false]
        exact or_comm
      | some displaced =>
        refine .inr (.inr ⟨displaced, by simp only [leaves, phase, full], fun u => ?_⟩)
        simp only [waiting, full, phase, RtPhase.pending, Option.toList_some, List.mem_append,
          List.mem_cons, List.not_mem_nil, or_false]
        rw [or_comm (a := u = v)]
  | check last phase =>
    refine .inl ⟨rfl, fun u => ?_⟩
    simp only [waiting, phase, RtPhase.pending]
  | tick last consumeSuperseded phase =>
    cases last with
    | none =>
      refine .inl ⟨by simp only [leaves, phase], fun u => ?_⟩
      simp only [runTick, waiting, phase, RtPhase.pending]
    | some v =>
      refine .inr (.inr ⟨v, by simp only [leaves, phase], fun u => ?_⟩)
      simp only [runTick, waiting, phase, RtPhase.pending, Option.toList_some, Option.toList_none,
        List.append_nil, List.mem_append, List.mem_singleton]
  | settle last cmd phase =>
    refine .inl ⟨rfl, fun u => ?_⟩
    obtain ⟨_, _, _, _, settled⟩ := settle_shape s last cmd
    simp only [settled, waiting, phase, RtPhase.pending]
  | push v stage =>
    refine .inr (.inl ⟨rfl, v, by simp only [stamped, stage], ?_⟩)
    rcases pushMailbox_shape s v with ⟨room, pushed⟩ | ⟨-, dropped⟩
    · refine .inl ⟨room, fun u => ?_⟩
      simp only [pushed, waiting, List.mem_append, List.mem_singleton]
      exact or_right_comm
    · refine .inr fun u => ?_
      rw [dropped]
      rfl
  | stop | clear | submitTrajectory | submit | name | date | stamp | stopBump | stopStore | request
  | reap | drainEvents => exact .inl ⟨rfl, fun u => Iff.rfl⟩

/-- Every waiting target waited before, or has just been pushed. -/
theorem Takes.waiting {lib : External R} {s t : RealtimeCore R} {l : Label R}
    (taken : Takes lib s l t) (tidy : s.Tidy) {u : Target R} (member : u ∈ t.waiting) :
    u ∈ s.waiting ∨ (l = .enqueue ∧ s.stamped = some u ∧ s.mailbox.length < kMailboxRoom) := by
  rcases taken.flow tidy with ⟨-, same⟩ | ⟨push, v, stamp, moved⟩ | ⟨v, -, left⟩
  · exact .inl ((same u).mp member)
  · rcases moved with ⟨room, pushed⟩ | dropped
    · rcases (pushed u).mp member with old | rfl
      · exact .inl old
      · exact .inr ⟨push, stamp, room⟩
    · exact .inl ((dropped u).mp member)
  · exact .inl ((left u).mpr (.inl member))

theorem Takes.mailbox {lib : External R} {s t : RealtimeCore R} {l : Label R}
    (taken : Takes lib s l t) {u : Target R} (member : u ∈ t.mailbox) :
    u ∈ s.mailbox ∨ s.stamped = some u := by
  cases taken with
  | exit phase flagged =>
    left
    simp only [RealtimeCore.exit] at member
    split at member <;> exact member
  | packet rxMono view phase =>
    left
    simp only [ingestPacket] at member
    split at member <;> exact member
  | exchange op rest phase =>
    left
    rcases exchange_shape s op with ⟨-, same⟩ | ⟨-, forwarded⟩
    · rwa [same] at member
    · rwa [forwarded] at member
  | pop last phase =>
    left
    rcases pop_shape s last with ⟨-, same⟩ | ⟨_, _, _, _, full, popped⟩
    · rwa [same] at member
    · rw [popped] at member
      rw [full]
      exact List.mem_cons_of_mem _ member
  | settle last cmd phase =>
    left
    obtain ⟨_, _, _, _, settled⟩ := settle_shape s last cmd
    rwa [settled] at member
  | push v stage =>
    rcases pushMailbox_shape s v with ⟨-, pushed⟩ | ⟨-, dropped⟩
    · rw [pushed] at member
      rcases List.mem_append.mp member with old | new
      · exact .inl old
      · rw [List.mem_singleton.mp new]
        exact .inr (by simp only [stamped, stage])
    · rw [dropped] at member
      exact .inl member
  | start | stop | join | clear | timer | check | tick | submitTrajectory | submit | name | date
  | stamp | stopBump | stopStore | request | reap | drainEvents => exact .inl member

theorem Takes.pending {lib : External R} {s t : RealtimeCore R} {l : Label R}
    (taken : Takes lib s l t) {u : Target R} (held : u ∈ t.phase.pending) :
    u ∈ s.phase.pending ∨ (l = .pop ∧ u ∈ s.mailbox.head?) := by
  cases taken with
  | start | exit | join | timer | tick => cases held
  | packet rxMono view phase =>
    left
    simp only [ingestPacket] at held
    split at held <;> exact held
  | exchange op rest phase =>
    split at held <;> cases held
  | pop last phase =>
    rcases pop_shape s last with ⟨-, same⟩ | ⟨_, _, _, _, full, popped⟩
    · rw [same] at held
      rw [phase]
      exact .inl held
    · rw [popped] at held
      rw [full]
      exact .inr ⟨rfl, held⟩
  | check last phase =>
    rw [phase]
    exact .inl held
  | settle last cmd phase =>
    obtain ⟨_, _, _, _, settled⟩ := settle_shape s last cmd
    rw [settled] at held
    cases held
  | push v stage =>
    left
    rcases pushMailbox_shape s v with ⟨-, pushed⟩ | ⟨-, dropped⟩
    · rwa [pushed] at held
    · rwa [dropped] at held
  | stop | clear | submitTrajectory | submit | name | date | stamp | stopBump | stopStore | request
  | reap | drainEvents => exact .inl held

/-- How a step moves the stop requests. -/
theorem Takes.stops {lib : External R} {s t : RealtimeCore R} {l : Label R}
    (taken : Takes lib s l t) :
    (t.stopGen = s.stopGen ∧ t.openStops = s.openStops ∧
      (t.requested .stop = true → s.requested .stop = true ∧ s.takesStop l = false)) ∨
    (l = .stopBump ∧ t = s.stopBump) ∨
    (∃ gen ∈ s.openStops, l = .stopStore gen ∧ t.stopGen = s.stopGen ∧
      t.openStops = s.openStops.erase gen) := by
  cases taken with
  | exit phase flagged =>
    left
    simp only [RealtimeCore.exit]
    split
    · exact ⟨rfl, rfl, fun raised => ⟨raised, rfl⟩⟩
    · exact ⟨rfl, rfl, fun raised => ⟨raised, rfl⟩⟩
  | packet rxMono view phase =>
    left
    simp only [ingestPacket]
    split
    · exact ⟨rfl, rfl, fun raised => ⟨raised, rfl⟩⟩
    · exact ⟨rfl, rfl, fun raised => ⟨raised, rfl⟩⟩
  | exchange op rest phase =>
    left
    rw [takesStop_exchange phase]
    rcases exchange_shape s op with ⟨quiet, same⟩ | ⟨raised, forwarded⟩
    · rw [same]
      refine ⟨rfl, rfl, fun raised => ⟨raised, ?_⟩⟩
      by_contra takes
      simp only [Bool.not_eq_false, Bool.and_eq_true, decide_eq_true_eq] at takes
      rw [takes.1] at quiet
      simp [takes.2] at quiet
    · rw [forwarded]
      refine ⟨rfl, rfl, fun kept => ?_⟩
      by_cases same : op = .stop
      · simp [same] at kept
      · simp only [Function.update_apply, Ne.symm same, if_false] at kept
        exact ⟨kept, by simp [same]⟩
  | pop last phase =>
    left
    rcases pop_shape s last with ⟨-, same⟩ | ⟨_, _, _, _, -, popped⟩
    · rw [same]
      exact ⟨rfl, rfl, fun raised => ⟨raised, rfl⟩⟩
    · rw [popped]
      exact ⟨rfl, rfl, fun raised => ⟨raised, rfl⟩⟩
  | settle last cmd phase =>
    left
    obtain ⟨_, _, _, _, settled⟩ := settle_shape s last cmd
    rw [settled]
    exact ⟨rfl, rfl, fun raised => ⟨raised, rfl⟩⟩
  | push v stage =>
    left
    rcases pushMailbox_shape s v with ⟨-, pushed⟩ | ⟨-, dropped⟩
    · rw [pushed]
      exact ⟨rfl, rfl, fun raised => ⟨raised, rfl⟩⟩
    · rw [dropped]
      exact ⟨rfl, rfl, fun raised => ⟨raised, rfl⟩⟩
  | request op other =>
    refine .inl ⟨rfl, rfl, fun raised => ⟨?_, rfl⟩⟩
    simpa only [Function.update_apply, Ne.symm other, if_false] using raised
  | stopBump => exact .inr (.inl ⟨rfl, rfl⟩)
  | stopStore gen opened => exact .inr (.inr ⟨gen, opened, rfl, rfl, rfl⟩)
  | start | stop | join | clear | timer | check | tick | submitTrajectory | submit | name | date
  | stamp | reap | drainEvents => exact .inl ⟨rfl, rfl, fun raised => ⟨raised, rfl⟩⟩

omit [Field R] [LinearOrder R] [FloorRing R] in
theorem stamped_id {s : RealtimeCore R} {u : Target R} (stamp : s.stamped = some u) :
    s.submittedId = some u.motionId := by
  simp only [stamped] at stamp
  simp only [submittedId]
  split at stamp
  · rename_i stage
    cases stamp
    rw [stage]
  all_goals cases stamp

/-- A target that carries its tag carried it before, or has just read the generation. -/
theorem Takes.stamped {lib : External R} {s t : RealtimeCore R} {l : Label R}
    (taken : Takes lib s l t) {u : Target R} (stamp : t.stamped = some u) :
    s.submittedId = some u.motionId ∧ (s.stamped = some u ∨ u.stopGen = s.stopGen) := by
  -- The submission in progress is left alone.
  have kept (same : t.submission = s.submission) :
      s.submittedId = some u.motionId ∧ (s.stamped = some u ∨ u.stopGen = s.stopGen) := by
    have before : s.stamped = some u := by
      rw [← stamp]
      simp only [RealtimeCore.stamped, same]
    exact ⟨stamped_id before, .inl before⟩
  cases taken with
  | exit phase flagged =>
    apply kept
    simp only [RealtimeCore.exit]
    split <;> rfl
  | packet rxMono view phase =>
    apply kept
    simp only [ingestPacket]
    split <;> rfl
  | exchange op rest phase =>
    rcases exchange_shape s op with ⟨-, same⟩ | ⟨-, forwarded⟩
    · exact kept (by rw [same])
    · exact kept (by rw [forwarded])
  | pop last phase =>
    rcases pop_shape s last with ⟨-, same⟩ | ⟨_, _, _, _, -, popped⟩
    · exact kept (by rw [same])
    · exact kept (by rw [popped])
  | settle last cmd phase =>
    obtain ⟨_, _, _, _, settled⟩ := settle_shape s last cmd
    exact kept (by rw [settled])
  | submitTrajectory | submit | name | date => cases stamp
  | stamp v stage =>
    cases stamp
    refine ⟨?_, .inr rfl⟩
    simp only [submittedId, stage]
  | push v stage => cases stamp
  | start | stop | join | clear | timer | check | tick | stopBump | stopStore | request
  | reap | drainEvents => exact kept rfl

/-- The phases around the stop exchange. -/
structure PhaseSteps (s t : RealtimeCore R) (l : Label R) : Prop where
  order : t.phase.inOrder
  owes : (s.phase.owesTick = true ∧ l ≠ .tick) ∨ s.takesStop l = true → t.phase.owesTick = true
  collects : s.phase.collects = true ∨ s.takesStop l = true →
    t.phase.collects = true ∨ t.mailbox = []
  held : ∀ u sup, t.phase = .checked (some u) sup →
    s.phase = .checked (some u) sup ∨
      (s.phase = .drained (some u) ∧ sup = s.isSuperseded (some u))

omit [Field R] [LinearOrder R] [FloorRing R] in
theorem phaseSteps_same {s t : RealtimeCore R} {l : Label R} (order : s.phase.inOrder)
    (same : t.phase = s.phase) (quiet : s.takesStop l = false) : PhaseSteps s t l where
  order := same ▸ order
  owes := by
    rw [quiet, same]
    exact fun owes => owes.elim (fun before => before.1) nofun
  collects := by
    rw [quiet, same]
    exact fun collects => collects.imp_right nofun
  held := fun u sup phase => .inl (same ▸ phase)

theorem Takes.phases {lib : External R} {s t : RealtimeCore R} {l : Label R}
    (taken : Takes lib s l t) (tidy : s.Tidy) (order : s.phase.inOrder) : PhaseSteps s t l := by
  cases taken with
  | start idle cleared =>
    have down := tidy.idle idle
    exact ⟨(by rintro _ ⟨⟩), by simp [down, RtPhase.owesTick, takesStop],
      by simp [down, RtPhase.collects, takesStop], (by rintro _ _ ⟨⟩)⟩
  | exit phase flagged =>
    refine ⟨(by rintro _ ⟨⟩), by simp [phase, RtPhase.owesTick, takesStop],
      by simp [phase, RtPhase.collects, takesStop], (by rintro _ _ ⟨⟩)⟩
  | join phase unlocked =>
    exact ⟨(by rintro _ ⟨⟩), by simp [phase, RtPhase.owesTick, takesStop],
      by simp [phase, RtPhase.collects, takesStop], (by rintro _ _ ⟨⟩)⟩
  | packet rxMono view phase =>
    apply phaseSteps_same order
    · simp only [ingestPacket]
      split <;> rfl
    · rfl
  | timer phase =>
    refine ⟨fun rest same => ?_, by simp [phase, RtPhase.owesTick, takesStop],
      by simp [phase, RtPhase.collects, takesStop], (by rintro _ _ ⟨⟩)⟩
    cases same
    exact .inl rfl
  | exchange op rest phase =>
    have later : ControlOp.stop ∉ rest := by
      rcases order _ phase with first | past
      · cases first
        decide
      · exact fun member => past (List.mem_cons_of_mem _ member)
    by_cases done : rest = []
    · simp only [if_pos done]
      exact ⟨(by rintro _ ⟨⟩), fun _ => rfl, fun _ => .inl rfl, (by rintro _ _ ⟨⟩)⟩
    · simp only [if_neg done]
      refine ⟨fun rest' same => ?_, fun _ => ?_, fun _ => .inl ?_, (by rintro _ _ ⟨⟩)⟩
      · cases same
        exact .inr later
      · simpa [RtPhase.owesTick] using later
      · simpa [RtPhase.collects] using later
  | pop last phase =>
    rcases pop_shape s last with ⟨empty, same⟩ | ⟨_, _, _, _, -, popped⟩
    · rw [same]
      exact ⟨(by rintro _ ⟨⟩), fun _ => rfl, fun _ => .inr empty, (by rintro _ _ ⟨⟩)⟩
    · rw [popped]
      exact ⟨(by rintro _ ⟨⟩), fun _ => rfl, fun _ => .inl rfl, (by rintro _ _ ⟨⟩)⟩
  | check last phase =>
    refine ⟨(by rintro _ ⟨⟩), fun _ => rfl, by simp [phase, RtPhase.collects, takesStop], ?_⟩
    intro u sup checked
    cases checked
    exact .inr ⟨phase, rfl⟩
  | tick last consumeSuperseded phase =>
    exact ⟨(by rintro _ ⟨⟩), by simp [takesStop], by simp [phase, RtPhase.collects, takesStop],
      (by rintro _ _ ⟨⟩)⟩
  | settle last cmd phase =>
    obtain ⟨_, _, _, _, settled⟩ := settle_shape s last cmd
    rw [settled]
    exact ⟨(by rintro _ ⟨⟩), by simp [phase, RtPhase.owesTick, takesStop],
      by simp [phase, RtPhase.collects, takesStop], (by rintro _ _ ⟨⟩)⟩
  | push v stage =>
    apply phaseSteps_same order
    · rcases pushMailbox_shape s v with ⟨-, pushed⟩ | ⟨-, dropped⟩
      · rw [pushed]
      · rw [dropped]
    · rfl
  | stop | clear | submitTrajectory | submit | name | date | stamp | stopBump | stopStore | request
  | reap | drainEvents => exact phaseSteps_same order rfl rfl

/-! ### The core under the steps -/

theorem Takes.core_kept {lib : External R} {s t : RealtimeCore R} {l : Label R}
    (taken : Takes lib s l t) (unfed : s.coreInput l = none) :
    t.core = s.core ∨ t.core = { s.core with events := [] } := by
  have change := taken.core
  rw [unfed] at change
  exact change

theorem Takes.runs {lib : External R} {s t : RealtimeCore R} {l : Label R}
    (taken : Takes lib s l t) (owned : s.core.control.running → s.core.control.plays) {id : Nat}
    (runs : id ∈ t.core.runningIds) :
    (∃ u sup, l = .tick ∧ s.phase = .checked (some u) sup ∧ u.motionId = id ∧
      (sup = true → ¬ u.stoppable)) ∨
    (id ∈ s.core.runningIds ∧ (l = .tick → s.core.ops.stopRequested = false)) := by
  have kept := taken.core_kept
  cases taken with
  | tick last consumeSuperseded phase =>
    rcases TickCore.tick_runs owned runs with ⟨u, pending, same, spared⟩ | ⟨ran, quiet⟩
    · cases pending
      exact .inl ⟨u, consumeSuperseded, rfl, phase, same, spared⟩
    · exact .inr ⟨ran, fun _ => quiet⟩
  | packet rxMono view phase =>
    refine .inr ⟨?_, (by simp)⟩
    have active : (s.ingestPacket rxMono view).core.active = s.core.active := by
      simp only [ingestPacket]
      split <;> rfl
    simp only [TickCore.runningIds, active] at runs
    exact runs
  | exchange op rest phase =>
    refine .inr ⟨?_, (by simp)⟩
    have active := (forward_kept s.core op).2.1
    rcases exchange_shape s op with ⟨-, same⟩ | ⟨-, forwarded⟩
    · rw [same] at runs
      exact runs
    · rw [forwarded] at runs
      simp only [TickCore.runningIds, active] at runs
      exact runs
  | start | stop | exit | join | clear | timer | pop | check | settle | submitTrajectory | submit
  | name | date | stamp | push | stopBump | stopStore | request | reap | drainEvents =>
    refine .inr ⟨?_, (by simp)⟩
    rcases kept rfl with same | drained
    · rwa [same] at runs
    · rwa [drained] at runs

/-- Only the exchange puts a stop request to the core, and only the tick answers it. -/
theorem Takes.asked {lib : External R} {s t : RealtimeCore R} {l : Label R}
    (taken : Takes lib s l t) :
    t.core.ops.stopRequested = true ↔
      s.takesStop l = true ∨ (l ≠ .tick ∧ s.core.ops.stopRequested = true) := by
  have kept := taken.core_kept
  cases taken with
  | tick last consumeSuperseded phase =>
    have answered : (s.runTick lib last consumeSuperseded).core.ops.stopRequested = false :=
      congrArg Frame.stopRequested (TickCore.tick_frame lib s.core s.rx last consumeSuperseded)
    simp [answered, takesStop]
  | packet rxMono view phase =>
    have kept : (s.ingestPacket rxMono view).core.ops = s.core.ops := by
      simp only [ingestPacket]
      split <;> rfl
    simp [kept, takesStop]
  | exchange op rest phase =>
    have flag := congrArg Frame.stopRequested (forward_kept s.core op).2.2
    simp only [TickCore.frame] at flag
    rw [takesStop_exchange phase]
    rcases exchange_shape s op with ⟨quiet, same⟩ | ⟨raised, forwarded⟩
    · rw [same]
      by_cases stop : op = .stop
      · subst stop
        simp [quiet]
      · simp [stop]
    · rw [forwarded]
      simp only [flag, Bool.or_eq_true, Bool.and_eq_true, decide_eq_true_eq]
      by_cases stop : op = .stop
      · subst stop
        simp [raised]
      · simp [stop]
  | start | stop | exit | join | clear | timer | pop | check | settle | submitTrajectory | submit
  | name | date | stamp | push | stopBump | stopStore | request | reap | drainEvents =>
    rcases kept rfl with same | drained
    · rw [same]
      exact ⟨fun asked => .inr ⟨(by simp), asked⟩, fun asked => asked.elim (by rintro ⟨⟩) And.right⟩
    · rw [drained]
      exact ⟨fun asked => .inr ⟨(by simp), asked⟩, fun asked => asked.elim (by rintro ⟨⟩) And.right⟩

end RealtimeCore

/-- The ids that wait, were displaced, or were taken by the core. -/
def LoopWatch.known (w : LoopWatch R) (id : Nat) : Prop :=
  (∃ u ∈ w.rt.waiting, u.motionId = id) ∨ id ∈ w.displaced ∨ id ∈ w.journal.taken

namespace LoopWatch

omit [Field R] [LinearOrder R] [FloorRing R] in
theorem Sound.waiting_real {w : LoopWatch R} (sound : w.Sound) {u : Target R}
    (member : u ∈ w.rt.waiting) : u.kind ≠ .none := by
  rcases List.mem_append.mp member with mail | held
  · exact (sound.targets.mail u mail).real
  · apply (sound.targets.last u ?_).real
    cases phase : w.rt.phase with
    | draining | drained | checked =>
      rw [phase] at held
      exact Option.mem_toList.mp held
    | down | waiting | exchanging | ticked | exited =>
      rw [phase] at held
      cases held

omit [Field R] [LinearOrder R] [FloorRing R] in
theorem waiting_ids {w : LoopWatch R} {u : Target R} (member : u ∈ w.rt.waiting) :
    u.motionId ∈ w.rt.flightIds := by
  rcases List.mem_append.mp member with mail | held
  · exact List.mem_append_left _ (List.mem_map_of_mem mail)
  · apply List.mem_append_right
    apply List.mem_append_left
    rw [Option.mem_toList.mp held]
    exact List.mem_singleton_self _

omit [Field R] [LinearOrder R] [FloorRing R] in
theorem known_ids {w : LoopWatch R} {id : Nat} (known : w.known id) : id ∈ w.ids := by
  rcases known with ⟨u, member, rfl⟩ | displaced | taken
  · exact List.mem_append_left _ (waiting_ids member)
  · exact List.mem_append_right _ (List.mem_append_left _ displaced)
  · exact List.mem_append_right _ (List.mem_append_right _ taken)

omit [Field R] [LinearOrder R] [FloorRing R] in
/-- A motion still being submitted is new to the mailbox and the core. -/
theorem Sound.submitted_fresh {w : LoopWatch R} (sound : w.Sound) {id : Nat}
    (submitted : w.rt.submittedId = some id) : ¬ w.known id := by
  intro known
  have once := List.nodup_iff_count_le_one.mp sound.nodup id
  simp only [ids, RealtimeCore.flightIds, List.count_append, submitted, Option.toList_some,
    List.count_singleton_self] at once
  rcases known with ⟨u, member, rfl⟩ | displaced | taken
  · rcases List.mem_append.mp member with mail | held
    · have counted := List.count_pos_iff.mpr (List.mem_map_of_mem (f := Target.motionId) mail)
      omega
    · rw [Option.mem_toList.mp held, Option.map_some, Option.toList_some,
        List.count_singleton_self] at once
      omega
  · have counted := List.count_pos_iff.mpr displaced
    omega
  · have counted := List.count_pos_iff.mpr taken
    omega

omit [Field R] [LinearOrder R] [FloorRing R] in
theorem Sound.running_taken {w : LoopWatch R} (sound : w.Sound) {id : Nat}
    (runs : id ∈ w.rt.core.runningIds) : id ∈ w.journal.taken := by
  obtain ⟨running, same⟩ := TickCore.mem_runningIds.mp runs
  rw [← sound.active] at running same
  rw [← same]
  exact sound.journal.running_taken running

omit [Field R] [LinearOrder R] [FloorRing R] in
/-- What the core or the displaced list has, waits no more. -/
theorem Sound.gone {w : LoopWatch R} (sound : w.Sound) {id : Nat}
    (settles : id ∈ w.displaced ∨ id ∈ w.journal.taken) :
    ∀ u ∈ w.rt.waiting, u.motionId ≠ id := by
  intro u member same
  have once := List.nodup_iff_count_le_one.mp sound.nodup id
  have waits := List.count_pos_iff.mpr (same ▸ waiting_ids member)
  simp only [ids, List.count_append] at once
  rcases settles with displaced | taken
  · have counted := List.count_pos_iff.mpr displaced
    omega
  · have counted := List.count_pos_iff.mpr taken
    omega

omit [FloorRing R] in
theorem leaves_kept {w : LoopWatch R} {l : Label R} {u : Target R}
    (leaves : w.rt.leaves l = some u) (real : u.kind ≠ .none) :
    u.motionId ∈ w.displaces l ∨
      u.motionId ∈ ((w.rt.coreInput l).map Input.takes).getD [] := by
  cases l with
  | pop =>
    simp only [RealtimeCore.leaves] at leaves
    split at leaves
    · rename_i last _ _ phase full
      left
      simp only [displaces, phase, full, leaves]
      exact List.mem_singleton_self _
    · cases leaves
  | tick =>
    simp only [RealtimeCore.leaves] at leaves
    split at leaves
    · rename_i last sup phase
      right
      simp only [RealtimeCore.coreInput, phase, leaves, Option.map_some, Option.getD_some,
        Input.takes, Input.target]
      rw [if_neg real]
      exact List.mem_singleton_self _
    · cases leaves
  | start | stop | exit | join | clear | packet | timer | exchange | check | settle | submit
  | enqueue | stopBump | stopStore | request | reap | drainEvents => cases leaves

/-- What has been handed in is never lost: it waits, is displaced, or is taken. -/
theorem known_step {lib : External R} {w : LoopWatch R} {l : Label R} {rt : RealtimeCore R}
    (sound : w.Sound) (taken : RealtimeCore.Takes lib w.rt l rt) {id : Nat} (known : w.known id) :
    (w.observe lib l rt).known id := by
  have displaced : ∀ id ∈ w.displaced, id ∈ (w.observe lib l rt).displaced :=
    fun id member => List.mem_append_right _ member
  have kept : ∀ id ∈ w.journal.taken, id ∈ (w.observe lib l rt).journal.taken := by
    intro id member
    rw [observe_taken]
    exact List.mem_append_right _ member
  rcases known with ⟨u, member, rfl⟩ | settles | settles
  · have stays (waits : u ∈ rt.waiting) : (w.observe lib l rt).known u.motionId :=
      .inl ⟨u, waits, rfl⟩
    rcases taken.flow sound.tidy with ⟨-, same⟩ | ⟨-, v, -, pushed⟩ | ⟨v, leaves, left⟩
    · exact stays ((same u).mpr member)
    · rcases pushed with ⟨-, more⟩ | same
      · exact stays ((more u).mpr (.inl member))
      · exact stays ((same u).mpr member)
    · rcases (left u).mp member with waits | rfl
      · exact stays waits
      · rcases leaves_kept leaves (sound.waiting_real member) with here | there
        · exact .inr (.inl (List.mem_append_left _ here))
        · refine .inr (.inr ?_)
          rw [observe_taken]
          exact List.mem_append_left _ there
  · exact .inr (.inl (displaced id settles))
  · exact .inr (.inr (kept id settles))

omit [Field R] [LinearOrder R] [FloorRing R] in
/-- A motion that waits no more and does not run is over. -/
theorem Sound.settles {w : LoopWatch R} (sound : w.Sound) {id : Nat} (known : w.known id)
    (waits : ∀ u ∈ w.rt.waiting, u.motionId ≠ id) (idle : id ∉ w.rt.core.runningIds) :
    w.Over id := by
  have silent : w.journal.played ≠ some id := by
    rw [sound.played]
    intro plays
    apply idle
    split at plays
    · rename_i runs
      exact TickCore.mem_runningIds.mpr ⟨runs, Option.some.inj plays⟩
    · cases plays
  refine ⟨silent, ?_⟩
  rcases known with ⟨u, member, same⟩ | displaced | taken
  · exact absurd same (waits u member)
  · exact .inr displaced
  · left
    rw [sound.journal.exactlyOnce id taken, if_neg silent]

end LoopWatch

/-- The loop, and what the callers know of the order of their calls: the targets placed by
submissions that returned, the motions ahead of each stop, the stops that had returned when
a submission began, and the stops that the flag and the last exchange stand for. -/
structure StopWatch (R : Type) where
  loop : LoopWatch R
  placed : List Nat
  ahead : Nat → List Nat
  returned : List Nat
  draft : List Nat
  begun : Nat → List Nat
  stored : List Nat
  taken : List Nat
  due : List Nat

namespace StopWatch

abbrev rt (w : StopWatch R) : RealtimeCore R := w.loop.rt

def nextPlaced (w : StopWatch R) : Label R → List Nat
  | .enqueue =>
    match w.rt.stamped with
    | some t =>
      if w.rt.mailbox.length < kMailboxRoom ∧ t.stoppable then t.motionId :: w.placed else w.placed
    | none => w.placed
  | _ => w.placed

def nextAhead (w : StopWatch R) : Label R → Nat → List Nat
  | .stopBump => Function.update w.ahead (w.rt.stopGen + 1) (w.placed ++ w.rt.core.runningIds)
  | _ => w.ahead

def nextReturned (w : StopWatch R) : Label R → List Nat
  | .stopStore gen => gen :: w.returned
  | _ => w.returned

def nextDraft (w : StopWatch R) : Label R → List Nat
  | .submit _ _ => w.returned
  | _ => w.draft

def nextBegun (w : StopWatch R) : Label R → Nat → List Nat
  | .enqueue =>
    match w.rt.submission with
    | some ⟨_, .locked⟩ => Function.update w.begun w.rt.nextMotionId w.draft
    | _ => w.begun
  | _ => w.begun

def nextStored (w : StopWatch R) (l : Label R) : List Nat :=
  if w.rt.takesStop l then []
  else
    match l with
    | .stopStore gen => gen :: w.stored
    | _ => w.stored

def observe (w : StopWatch R) (l : Label R) (loop : LoopWatch R) :
    StopWatch R where
  loop := loop
  placed := w.nextPlaced l
  ahead := w.nextAhead l
  returned := w.nextReturned l
  draft := w.nextDraft l
  begun := w.nextBegun l
  stored := w.nextStored l
  taken := if w.rt.takesStop l then w.stored else w.taken
  due := if w.rt.takesStop l then w.stored.flatMap w.ahead ++ w.rt.core.runningIds else w.due

def step (lib : External R) (w : StopWatch R) (l : Label R) : Option (StopWatch R) :=
  (w.loop.step lib l).map (w.observe l)

def machine (lib : External R) (cfg : RtCoreConfig R) : Machine (StopWatch R) (Label R) where
  start := ⟨(LoopWatch.machine lib cfg).start, [], fun _ => [], [], [], fun _ => [], [], [], []⟩
  step := step lib

/-- Whether a stop that had not returned when the motion's submission began is among these. -/
def outruns (w : StopWatch R) (gens : List Nat) (id : Nat) : Prop :=
  ∃ gen ∈ gens, gen ∉ w.begun id

/-- No running motion is written over, and no target is drained under a stop flag that only
stops from before its submission raised. -/
def keepsOrder (lib : External R) (w : StopWatch R) (l : Label R) : Prop :=
  w.loop.keepsSlot lib l ∧
    match l with
    | .pop => ∀ t ∈ w.rt.mailbox.head?, w.stored ≠ [] → w.outruns w.stored t.motionId
    | _ => True

/-- The motions ahead of a taken stop are over once its tick is; a stop that returned before
a submission began neither supersedes nor stops its target. -/
structure CausalOrder (w : StopWatch R) : Prop where
  ahead : w.rt.phase = .waiting → ∀ id ∈ w.due, w.loop.Over id
  superseded : ∀ t, w.rt.phase = .checked (some t) true →
    t.stopGen < w.rt.stopGen ∧ ∀ gen ∈ w.begun t.motionId, gen ≤ t.stopGen
  stopped : ∀ last sup, w.rt.phase = .checked last sup →
    ∀ id ∈ w.rt.core.stopped w.rt.rx, w.outruns w.taken id

/-! ### The invariant -/

/-- A motion that has been handed in, and waits, if it does, as a target that the stop of
this generation supersedes. -/
structure Precedes (w : StopWatch R) (gen : Nat) (id : Nat) : Prop where
  known : w.loop.known id
  stamp : ∀ u ∈ w.rt.waiting, u.motionId = id → u.stoppable ∧ u.stopGen < gen

/-- What is left to do about a motion that a taken stop must end. -/
structure Ending (w : StopWatch R) (id : Nat) : Prop where
  precedes : w.Precedes w.rt.stopGen id
  mail : ∀ u ∈ w.rt.mailbox, u.motionId = id → w.rt.phase.collects = true
  held : ∀ u sup, w.rt.phase = .checked (some u) sup → u.motionId = id → sup = true
  runs : id ∈ w.rt.core.runningIds → w.rt.core.ops.stopRequested = true

/-- The motions that a stop taken next would meet: popped, or running. -/
def underway (w : StopWatch R) (id : Nat) : Prop :=
  (∃ u ∈ w.rt.phase.pending, u.motionId = id) ∨ id ∈ w.rt.core.runningIds

structure Sound (w : StopWatch R) : Prop where
  loop : w.loop.Sound
  order : w.rt.phase.inOrder
  distinct : w.rt.openStops.Nodup
  opened : ∀ gen ∈ w.rt.openStops, gen ≤ w.rt.stopGen ∧ gen ∉ w.returned
  returned : ∀ gen ∈ w.returned, gen ≤ w.rt.stopGen
  drafted : ∀ gen ∈ w.draft, gen ∈ w.returned
  begun : ∀ id, ∀ gen ∈ w.begun id, gen ∈ w.returned
  stamped : ∀ u, u ∈ w.rt.waiting ∨ w.rt.stamped = some u →
    u.stopGen ≤ w.rt.stopGen ∧ ∀ gen ∈ w.begun u.motionId, gen ≤ u.stopGen
  flagged : w.rt.requested .stop = true → w.stored ≠ []
  spared : w.stored ≠ [] → ∀ id, w.underway id → w.outruns w.stored id
  asked : w.rt.core.ops.stopRequested = true → ∀ id ∈ w.rt.core.runningIds, w.outruns w.taken id
  answered : w.rt.phase.owesTick = false → w.rt.core.ops.stopRequested = false
  placed : ∀ id ∈ w.placed, w.Precedes (w.rt.stopGen + 1) id
  ahead : ∀ gen, ∀ id ∈ w.ahead gen, gen ≤ w.rt.stopGen ∧ w.Precedes gen id
  due : ∀ id ∈ w.due, w.Ending id
  superseded : ∀ t, w.rt.phase = .checked (some t) true → t.stopGen < w.rt.stopGen

/-! ### One step -/

variable {lib : External R} {w : StopWatch R} {l : Label R} {rt : RealtimeCore R}

/-- The watch after a step of the loop. -/
abbrev after (lib : External R) (w : StopWatch R) (l : Label R) (rt : RealtimeCore R) :
    StopWatch R := w.observe l (w.loop.observe lib l rt)

theorem Precedes.step (sound : w.loop.Sound) (taken : RealtimeCore.Takes lib w.rt l rt)
    {gen more id : Nat} (precedes : w.Precedes gen id) (fewer : gen ≤ more) :
    (w.after lib l rt).Precedes more id where
  known := LoopWatch.known_step sound taken precedes.known
  stamp := by
    intro u member same
    rcases taken.waiting sound.tidy member with old | ⟨-, stamp, -⟩
    · obtain ⟨stoppable, behind⟩ := precedes.stamp u old same
      exact ⟨stoppable, behind.trans_le fewer⟩
    · exfalso
      refine sound.submitted_fresh ?_ precedes.known
      rw [← same]
      exact RealtimeCore.stamped_id stamp

theorem Sound.stopGen_mono (taken : RealtimeCore.Takes lib w.rt l rt) :
    w.rt.stopGen ≤ rt.stopGen := by
  rcases taken.stops with ⟨same, -⟩ | ⟨-, bumped⟩ | ⟨_, -, -, same, -⟩
  · exact same.ge
  · rw [bumped]
    exact Nat.le_succ _
  · exact same.ge

omit [Field R] [LinearOrder R] [FloorRing R] in
theorem nextBegun_eq (w : StopWatch R) (l : Label R) :
    w.nextBegun l = w.begun ∨ w.nextBegun l = Function.update w.begun w.rt.nextMotionId w.draft := by
  cases l with
  | enqueue =>
    simp only [nextBegun]
    split
    · exact .inr rfl
    · exact .inl rfl
  | start | stop | exit | join | clear | packet | timer | exchange | pop | check | tick | settle
  | submit | stopBump | stopStore | request | reap | drainEvents => exact .inl rfl

omit [Field R] [LinearOrder R] [FloorRing R] in
/-- The record of a motion named earlier stays as it is. -/
theorem nextBegun_kept (sound : w.loop.Sound) {id : Nat} (named : id ∈ w.loop.ids) :
    w.nextBegun l id = w.begun id := by
  have other : id ≠ w.rt.nextMotionId := (sound.named id named).2.ne
  rcases nextBegun_eq w l with same | updated
  · rw [same]
  · rw [updated, Function.update_of_ne other]

omit [Field R] [LinearOrder R] [FloorRing R] in
theorem nextBegun_returned (sound : w.Sound) (id : Nat) :
    ∀ gen ∈ w.nextBegun l id, gen ∈ w.returned := by
  rcases nextBegun_eq w l with same | updated
  · rw [same]
    exact sound.begun id
  · rw [updated]
    by_cases new : id = w.rt.nextMotionId
    · subst new
      rw [Function.update_self]
      exact sound.drafted
    · rw [Function.update_of_ne new]
      exact sound.begun id

omit [Field R] [LinearOrder R] [FloorRing R] in
theorem nextReturned_grows : ∀ gen ∈ w.returned, gen ∈ w.nextReturned l := by
  intro gen member
  cases l with
  | stopStore other => exact List.mem_cons_of_mem _ member
  | start | stop | exit | join | clear | packet | timer | exchange | pop | check | tick | settle
  | submit | enqueue | stopBump | request | reap | drainEvents => exact member

omit [Field R] [LinearOrder R] [FloorRing R] in
theorem nextDraft_returned (sound : w.Sound) : ∀ gen ∈ w.nextDraft l, gen ∈ w.returned := by
  cases l with
  | submit => exact fun gen member => member
  | start | stop | exit | join | clear | packet | timer | exchange | pop | check | tick | settle
  | enqueue | stopBump | stopStore | request | reap | drainEvents => exact sound.drafted

theorem flagged_step (sound : w.Sound) (taken : RealtimeCore.Takes lib w.rt l rt)
    (raised : rt.requested .stop = true) : w.nextStored l ≠ [] := by
  rcases taken.stops with ⟨-, -, flag⟩ | ⟨rfl, bumped⟩ | ⟨gen, -, rfl, -⟩
  · obtain ⟨before, untaken⟩ := flag raised
    simp only [nextStored, untaken, Bool.false_eq_true, if_false]
    split
    · exact List.cons_ne_nil _ _
    · exact sound.flagged before
  · rw [bumped] at raised
    exact sound.flagged raised
  · exact List.cons_ne_nil _ _

theorem gens_step (sound : w.Sound) (taken : RealtimeCore.Takes lib w.rt l rt) :
    rt.openStops.Nodup ∧ (∀ gen ∈ rt.openStops, gen ≤ rt.stopGen ∧ gen ∉ w.nextReturned l) ∧
      ∀ gen ∈ w.nextReturned l, gen ≤ rt.stopGen := by
  have unstored (quiet : ∀ gen, l ≠ .stopStore gen) : w.nextReturned l = w.returned := by
    cases l with
    | stopStore gen => exact absurd rfl (quiet gen)
    | start | stop | exit | join | clear | packet | timer | exchange | pop | check | tick | settle
    | submit | enqueue | stopBump | request | reap | drainEvents => rfl
  rcases taken.stops with ⟨gen, opened, -⟩ | ⟨bump, bumped⟩ | ⟨g, open_, stores, gen, opened⟩
  · by_cases stores : ∃ g, l = .stopStore g
    · obtain ⟨g, rfl⟩ := stores
      cases taken with
      | stopStore _ member =>
        exfalso
        have erased : (w.rt.openStops.erase g).length = w.rt.openStops.length :=
          congrArg List.length opened
        have positive := List.length_pos_of_mem member
        rw [List.length_erase_of_mem member] at erased
        omega
    · rw [unstored fun g same => stores ⟨g, same⟩, gen, opened]
      exact ⟨sound.distinct, sound.opened, sound.returned⟩
  · subst bump
    rw [unstored nofun, bumped]
    have fresh : w.rt.stopGen + 1 ∉ w.returned := by
      intro member
      have bound := sound.returned _ member
      omega
    refine ⟨?_, ?_, fun gen member => (sound.returned gen member).trans (Nat.le_succ _)⟩
    · apply List.nodup_append'.mpr
      refine ⟨sound.distinct, List.nodup_singleton _, ?_⟩
      intro gen member new
      have bound := (sound.opened gen member).1
      rw [List.mem_singleton.mp new] at bound
      omega
    · intro gen member
      rcases List.mem_append.mp member with old | new
      · obtain ⟨bound, pending⟩ := sound.opened gen old
        exact ⟨bound.trans (Nat.le_succ _), pending⟩
      · rw [List.mem_singleton.mp new]
        exact ⟨le_rfl, fresh⟩
  · subst stores
    rw [gen, opened]
    refine ⟨sound.distinct.erase g, ?_, ?_⟩
    · intro gen member
      obtain ⟨bound, pending⟩ := sound.opened gen (List.mem_of_mem_erase member)
      refine ⟨bound, fun stored => ?_⟩
      rcases List.mem_cons.mp stored with rfl | old
      · exact sound.distinct.not_mem_erase member
      · exact pending old
    · intro gen member
      rcases List.mem_cons.mp member with rfl | old
      · exact (sound.opened gen open_).1
      · exact sound.returned gen old

theorem stamped_step (sound : w.Sound) (taken : RealtimeCore.Takes lib w.rt l rt) (u : Target R)
    (tagged : u ∈ rt.waiting ∨ rt.stamped = some u) :
    u.stopGen ≤ rt.stopGen ∧ ∀ gen ∈ w.nextBegun l u.motionId, gen ≤ u.stopGen := by
  have mono := Sound.stopGen_mono taken
  have old (before : u ∈ w.rt.waiting ∨ w.rt.stamped = some u) (named : u.motionId ∈ w.loop.ids) :
      u.stopGen ≤ rt.stopGen ∧ ∀ gen ∈ w.nextBegun l u.motionId, gen ≤ u.stopGen := by
    rw [nextBegun_kept sound.loop named]
    obtain ⟨bound, record⟩ := sound.stamped u before
    exact ⟨bound.trans mono, record⟩
  have submitted (id : w.rt.submittedId = some u.motionId) : u.motionId ∈ w.loop.ids := by
    apply List.mem_append_left
    apply List.mem_append_right
    apply List.mem_append_right
    rw [id]
    exact List.mem_singleton_self _
  rcases tagged with waits | stamp
  · rcases taken.waiting sound.loop.tidy waits with before | ⟨-, stamp, -⟩
    · exact old (.inl before) (List.mem_append_left _ (LoopWatch.waiting_ids before))
    · exact old (.inr stamp) (submitted (RealtimeCore.stamped_id stamp))
  · obtain ⟨id, before | now⟩ := taken.stamped stamp
    · exact old (.inr before) (submitted id)
    · rw [nextBegun_kept sound.loop (submitted id), now]
      exact ⟨mono, fun gen member => sound.returned gen (sound.begun _ gen member)⟩

omit [Field R] [LinearOrder R] [FloorRing R] in
theorem underway_ids (sound : w.loop.Sound) {id : Nat} (under : w.underway id) :
    id ∈ w.loop.ids := by
  rcases under with ⟨u, held, rfl⟩ | runs
  · apply List.mem_append_left
    apply LoopWatch.waiting_ids
    exact List.mem_append_right _ (Option.mem_toList.mpr held)
  · exact LoopWatch.known_ids (.inr (.inr (sound.running_taken runs)))

/-- What a stop would meet, it would have met before, unless just popped. -/
theorem underway_step (sound : w.Sound) (taken : RealtimeCore.Takes lib w.rt l rt) {id : Nat}
    (under : (w.after lib l rt).underway id) :
    w.underway id ∨ (l = .pop ∧ ∃ u ∈ w.rt.mailbox.head?, u.motionId = id) := by
  rcases under with ⟨u, held, same⟩ | runs
  · rcases taken.pending held with before | ⟨pop, head⟩
    · exact .inl (.inl ⟨u, before, same⟩)
    · exact .inr ⟨pop, u, head, same⟩
  · have owned := sound.loop.journal.owned
    rw [sound.loop.mirrors] at owned
    rcases taken.runs owned runs with ⟨u, sup, -, phase, same, -⟩ | ⟨ran, -⟩
    · exact .inl (.inl ⟨u, by rw [phase]; rfl, same⟩)
    · exact .inl (.inr ran)

theorem spared_step (sound : w.Sound) (legal : w.keepsOrder lib l)
    (taken : RealtimeCore.Takes lib w.rt l rt) (stored : w.nextStored l ≠ []) {id : Nat}
    (under : (w.after lib l rt).underway id) : (w.after lib l rt).outruns (w.nextStored l) id := by
  simp only [nextStored] at stored ⊢
  split at stored
  · exact absurd rfl stored
  · rename_i untaken
    rw [if_neg untaken]
    have named : id ∈ w.loop.ids := by
      rcases underway_step sound taken under with before | ⟨-, u, head, rfl⟩
      · exact underway_ids sound.loop before
      · exact List.mem_append_left _ (LoopWatch.waiting_ids
          (List.mem_append_left _ (List.mem_of_mem_head? head)))
    simp only [outruns, observe, nextBegun_kept sound.loop named]
    have kept (flag : w.stored ≠ []) : w.outruns w.stored id := by
      rcases underway_step sound taken under with before | ⟨pop, u, head, rfl⟩
      · exact sound.spared flag id before
      · subst pop
        exact legal.2 u head flag
    cases l with
    | stopStore gen =>
      by_cases flag : w.stored = []
      · cases taken with
        | stopStore _ opened =>
          refine ⟨gen, List.mem_cons_self, fun member => ?_⟩
          exact (sound.opened gen opened).2 (sound.begun id gen member)
      · obtain ⟨other, member, late⟩ := kept flag
        exact ⟨other, List.mem_cons_of_mem _ member, late⟩
    | start | stop | exit | join | clear | packet | timer | exchange | pop | check | tick | settle
    | submit | enqueue | stopBump | request | reap | drainEvents => exact kept stored

theorem asked_step (sound : w.Sound) (taken : RealtimeCore.Takes lib w.rt l rt)
    (asked : rt.core.ops.stopRequested = true) {id : Nat} (runs : id ∈ rt.core.runningIds) :
    (w.after lib l rt).outruns (w.after lib l rt).taken id := by
  have owned := sound.loop.journal.owned
  rw [sound.loop.mirrors] at owned
  have waits : l ≠ .tick := by
    rintro rfl
    rcases taken.asked.mp asked with takes | ⟨other, -⟩
    · cases takes
    · exact other rfl
  have ran : id ∈ w.rt.core.runningIds := by
    rcases taken.runs owned runs with ⟨_, _, tick, -⟩ | ⟨ran, -⟩
    · exact absurd tick waits
    · exact ran
  have named := LoopWatch.known_ids (.inr (.inr (sound.loop.running_taken ran)))
  simp only [outruns, observe, nextBegun_kept sound.loop named]
  by_cases takes : w.rt.takesStop l = true
  · rw [if_pos takes]
    have raised := (RealtimeCore.takesStop_requested takes).2.1
    exact sound.spared (sound.flagged raised) id (.inr ran)
  · rw [if_neg takes]
    rcases taken.asked.mp asked with now | ⟨-, before⟩
    · exact absurd now takes
    · exact sound.asked before id ran

theorem placed_step (sound : w.Sound) (taken : RealtimeCore.Takes lib w.rt l rt) {id : Nat}
    (placed : id ∈ w.nextPlaced l) : (w.after lib l rt).Precedes (rt.stopGen + 1) id := by
  have mono := Sound.stopGen_mono taken
  have old (before : id ∈ w.placed) : (w.after lib l rt).Precedes (rt.stopGen + 1) id :=
    (sound.placed id before).step sound.loop taken (by omega)
  cases l with
  | enqueue =>
    simp only [nextPlaced] at placed
    split at placed
    · rename_i v stamp
      split at placed
      · rename_i fits
        rcases List.mem_cons.mp placed with rfl | before
        · have fresh := sound.loop.submitted_fresh (RealtimeCore.stamped_id stamp)
          have bound := (sound.stamped v (.inr stamp)).1
          have waits : v ∈ rt.waiting := by
            cases taken with
            | push u stage =>
              simp only [RealtimeCore.stamped, stage, Option.some.injEq] at stamp
              rcases RealtimeCore.pushMailbox_shape w.rt u with ⟨-, pushed⟩ | ⟨full, -⟩
              · rw [← stamp, pushed]
                exact List.mem_append_left _ (List.mem_append_right _ (List.mem_singleton_self u))
              · omega
            | name u stage | date u stage | stamp u stage =>
              simp only [RealtimeCore.stamped, stage, reduceCtorEq] at stamp
          refine ⟨.inl ⟨v, waits, rfl⟩, fun u member same => ?_⟩
          rcases taken.waiting sound.loop.tidy member with before | ⟨-, again, -⟩
          · exact absurd (.inl ⟨u, before, same⟩) fresh
          · rw [stamp] at again
            cases again
            exact ⟨fits.2, by omega⟩
        · exact old before
      · exact old placed
    · exact old placed
  | start | stop | exit | join | clear | packet | timer | exchange | pop | check | tick | settle
  | submit | stopBump | stopStore | request | reap | drainEvents => exact old placed

omit [Field R] [LinearOrder R] [FloorRing R] in
/-- A running motion waits nowhere, so any stop comes after it. -/
theorem Precedes.running (sound : w.loop.Sound) {id : Nat} (runs : id ∈ w.rt.core.runningIds)
    (gen : Nat) : w.Precedes gen id :=
  ⟨.inr (.inr (sound.running_taken runs)), fun u member same =>
    absurd same (sound.gone (.inr (sound.running_taken runs)) u member)⟩

theorem ahead_step (sound : w.Sound) (taken : RealtimeCore.Takes lib w.rt l rt) {gen id : Nat}
    (ahead : id ∈ w.nextAhead l gen) :
    gen ≤ rt.stopGen ∧ (w.after lib l rt).Precedes gen id := by
  have mono := Sound.stopGen_mono taken
  have old (before : id ∈ w.ahead gen) :
      gen ≤ rt.stopGen ∧ (w.after lib l rt).Precedes gen id := by
    obtain ⟨bound, precedes⟩ := sound.ahead gen id before
    exact ⟨bound.trans mono, precedes.step sound.loop taken le_rfl⟩
  cases l with
  | stopBump =>
    by_cases new : gen = w.rt.stopGen + 1
    · subst new
      simp only [nextAhead, Function.update_self] at ahead
      cases taken with
      | stopBump =>
        refine ⟨le_rfl, ?_⟩
        rcases List.mem_append.mp ahead with placed | runs
        · exact (sound.placed id placed).step sound.loop .stopBump le_rfl
        · exact (Precedes.running sound.loop runs _).step sound.loop .stopBump le_rfl
    · simp only [nextAhead, Function.update_of_ne new] at ahead
      exact old ahead
  | start | stop | exit | join | clear | packet | timer | exchange | pop | check | tick | settle
  | submit | enqueue | stopStore | request | reap | drainEvents => exact old ahead

theorem Ending.step (sound : w.Sound) (taken : RealtimeCore.Takes lib w.rt l rt) {id : Nat}
    (ending : w.Ending id) : (w.after lib l rt).Ending id where
  precedes := ending.precedes.step sound.loop taken (Sound.stopGen_mono taken)
  mail := by
    intro u member same
    rcases taken.mailbox member with before | stamp
    · rcases (taken.phases sound.loop.tidy sound.order).collects
        (.inl (ending.mail u before same)) with collects | empty
      · exact collects
      · exfalso
        have nothing : u ∈ rt.mailbox := member
        rw [empty] at nothing
        cases nothing
    · exfalso
      apply sound.loop.submitted_fresh (RealtimeCore.stamped_id stamp)
      rw [same]
      exact ending.precedes.known
  held := by
    intro u sup phase same
    rcases (taken.phases sound.loop.tidy sound.order).held u sup phase with before | ⟨drained, now⟩
    · exact ending.held u sup before same
    · have waits : u ∈ w.rt.waiting := by
        apply List.mem_append_right
        rw [drained]
        exact List.mem_singleton_self _
      have behind := (ending.precedes.stamp u waits same).2
      rw [now]
      simp only [RealtimeCore.isSuperseded, Option.any_some, decide_eq_true_eq]
      omega
  runs := by
    intro runs
    have owned := sound.loop.journal.owned
    rw [sound.loop.mirrors] at owned
    rcases taken.runs owned runs with ⟨u, sup, -, phase, same, spared⟩ | ⟨ran, quiet⟩
    · exfalso
      have waits : u ∈ w.rt.waiting := by
        apply List.mem_append_right
        rw [phase]
        exact List.mem_singleton_self _
      exact spared (ending.held u sup phase same) (ending.precedes.stamp u waits same).1
    · have asked := ending.runs ran
      apply taken.asked.mpr
      refine .inr ⟨fun tick => ?_, asked⟩
      rw [quiet tick] at asked
      cases asked

/-- What the exchange that takes the stops makes due. -/
theorem taken_ending (sound : w.Sound) (taken : RealtimeCore.Takes lib w.rt l rt)
    (takes : w.rt.takesStop l = true) {id : Nat}
    (due : id ∈ w.stored.flatMap w.ahead ++ w.rt.core.runningIds) :
    (w.after lib l rt).Ending id := by
  have phases := taken.phases sound.loop.tidy sound.order
  obtain ⟨-, -, rest, phase⟩ := RealtimeCore.takesStop_requested takes
  have precedes : w.Precedes w.rt.stopGen id := by
    rcases List.mem_append.mp due with stopped | runs
    · obtain ⟨gen, -, ahead⟩ := List.mem_flatMap.mp stopped
      obtain ⟨bound, precedes⟩ := sound.ahead gen id ahead
      refine ⟨precedes.known, fun u member same => ?_⟩
      obtain ⟨stoppable, behind⟩ := precedes.stamp u member same
      exact ⟨stoppable, behind.trans_le bound⟩
    · exact Precedes.running sound.loop runs _
  refine ⟨precedes.step sound.loop taken (Sound.stopGen_mono taken), fun u member same => ?_,
    fun u sup checked => ?_, fun _ => taken.asked.mpr (.inl takes)⟩
  · rcases phases.collects (.inr takes) with collects | empty
    · exact collects
    · exfalso
      have nothing : u ∈ rt.mailbox := member
      rw [empty] at nothing
      cases nothing
  · exfalso
    rcases phases.held u sup checked with before | ⟨drained, -⟩
    · rw [phase] at before
      cases before
    · rw [phase] at drained
      cases drained

theorem superseded_step (sound : w.Sound) (taken : RealtimeCore.Takes lib w.rt l rt) (t : Target R)
    (checked : rt.phase = .checked (some t) true) : t.stopGen < rt.stopGen := by
  have mono := Sound.stopGen_mono taken
  rcases (taken.phases sound.loop.tidy sound.order).held t true checked with before | ⟨drained, now⟩
  · exact (sound.superseded t before).trans_le mono
  · have waits : t ∈ w.rt.waiting := by
      apply List.mem_append_right
      rw [drained]
      exact List.mem_singleton_self _
    have bound := (sound.stamped t (.inl waits)).1
    simp only [RealtimeCore.isSuperseded, Option.any_some, eq_comm (a := true),
      decide_eq_true_eq] at now
    omega

theorem step_sound {v : StopWatch R} (sound : w.Sound) (legal : w.keepsOrder lib l)
    (moved : w.step lib l = some v) : v.Sound := by
  obtain ⟨loop, stepped, rfl⟩ := Option.map_eq_some_iff.mp moved
  have loopSound := LoopWatch.step_sound sound.loop legal.1 stepped
  obtain ⟨rt, ran, rfl⟩ := Option.map_eq_some_iff.mp stepped
  have taken := RealtimeCore.step_takes ran
  have phases := taken.phases sound.loop.tidy sound.order
  obtain ⟨distinct, opened, returned⟩ := gens_step sound taken
  refine ⟨loopSound, phases.order, distinct, opened, returned, ?_, ?_, stamped_step sound taken, ?_,
    fun stored id => spared_step sound legal taken stored,
    fun asked id => asked_step sound taken asked, ?_, fun id => placed_step sound taken, fun gen id => ahead_step sound taken, ?_,
    superseded_step sound taken⟩
  · intro gen member
    exact nextReturned_grows gen (nextDraft_returned sound gen member)
  · intro id gen member
    exact nextReturned_grows gen (nextBegun_returned sound id gen member)
  · exact flagged_step sound taken
  · intro quiet
    by_contra asked
    have owes : rt.phase.owesTick = true := by
      apply phases.owes
      rcases taken.asked.mp (Bool.eq_true_of_not_eq_false asked) with takes | ⟨waits, before⟩
      · exact .inr takes
      · refine .inl ⟨?_, waits⟩
        by_contra idle
        rw [sound.answered (Bool.eq_false_of_not_eq_true idle)] at before
        cases before
    have quiet : rt.phase.owesTick = false := quiet
    rw [owes] at quiet
    cases quiet
  · intro id due
    by_cases takes : w.rt.takesStop l = true
    · simp only [observe, if_pos takes] at due
      exact taken_ending sound taken takes due
    · simp only [observe, if_neg takes] at due
      exact (sound.due id due).step sound taken

theorem start_sound (lib : External R) (cfg : RtCoreConfig R) : (machine lib cfg).start.Sound where
  loop := LoopWatch.start_sound lib cfg
  order := nofun
  distinct := List.nodup_nil
  opened := nofun
  returned := nofun
  drafted := nofun
  begun := nofun
  stamped := by
    intro u tagged
    rcases tagged with waits | stamp
    · cases waits
    · cases stamp
  flagged := nofun
  spared := fun stored => absurd rfl stored
  asked := nofun
  answered := fun _ => rfl
  placed := nofun
  ahead := nofun
  due := nofun
  superseded := nofun

/-- In a sound state the callers' order is respected. -/
theorem Sound.causalOrder {w : StopWatch R} (sound : w.Sound) : w.CausalOrder where
  ahead := by
    intro phase id due
    have ending := sound.due id due
    apply sound.loop.settles ending.precedes.known
    · intro u member same
      have mail : u ∈ w.rt.mailbox := by
        simpa only [RealtimeCore.waiting, phase, RtPhase.pending, Option.toList_none,
          List.append_nil] using member
      have collects := ending.mail u mail same
      rw [phase] at collects
      cases collects
    · intro runs
      have quiet := sound.answered (by rw [phase]; rfl)
      rw [ending.runs runs] at quiet
      cases quiet
  superseded := by
    intro t phase
    have waits : t ∈ w.rt.waiting := by
      apply List.mem_append_right
      rw [phase]
      exact List.mem_singleton_self _
    exact ⟨sound.superseded t phase, (sound.stamped t (.inl waits)).2⟩
  stopped := by
    intro last sup phase id ended
    obtain ⟨asked, runs⟩ := TickCore.stopped_requested ended
    exact sound.asked asked id runs

/-- In every run that writes over no running motion, and drains no target under a stop flag
that only stops from before its submission raised, whatever the interleaving of the callers
with the window, `stop_j` respects the order of the calls. -/
theorem stop_respects_causal_order (lib : External R) (cfg : RtCoreConfig R) (w : StopWatch R)
    (reached : (machine lib cfg).Reachable (keepsOrder lib) w) : w.CausalOrder := by
  have sound : w.Sound := by
    refine Machine.Reaches.invariant reached (start_sound lib cfg) ?_
    intro a b l sound legal moved
    exact step_sound sound legal moved
  exact sound.causalOrder

instance (lib : External R) (w : LoopWatch R) (l : Label R) : Decidable (w.keepsSlot lib l) :=
  inferInstanceAs (Decidable (∀ i ∈ w.rt.coreInput l, w.journal.keepsSlot lib i))

instance (w : StopWatch R) (gens : List Nat) (id : Nat) : Decidable (w.outruns gens id) :=
  inferInstanceAs (Decidable (∃ gen ∈ gens, gen ∉ w.begun id))

instance (lib : External R) (w : StopWatch R) (l : Label R) : Decidable (w.keepsOrder lib l) :=
  match l with
  | .pop => inferInstanceAs (Decidable (w.loop.keepsSlot lib .pop ∧
      ∀ t ∈ w.rt.mailbox.head?, w.stored ≠ [] → w.outruns w.stored t.motionId))
  | .start | .stop | .exit | .join | .clear | .packet _ _ | .timer | .exchange | .check | .tick
  | .settle | .submit _ _ | .enqueue | .stopBump | .stopStore _ | .request _ | .reap
  | .drainEvents _ => inferInstanceAs (Decidable (w.loop.keepsSlot lib _ ∧ True))

/-- A servo motion is stopped between two windows and replaced by the next submission. -/
theorem stop_respects_causal_order_servoing :
    ∃ w : StopWatch ℚ, w.rt.phase = .waiting ∧ 1 ∈ w.due ∧ w.rt.core.active = ⟨2, .running⟩ ∧
      w.CausalOrder := by
  obtain ⟨w, reached, ended⟩ := Machine.reachable_of_test
    (machine benchExternal defaultRtCoreConfig) (keepsOrder benchExternal)
    ([.start, benchClear] ++ benchWindow 0 ++ benchSubmit benchServoRequest 0 ++ [benchClear] ++
      benchWindow 1 ++ [.stopBump, .stopStore 1, benchClear] ++ benchUpToTick 0 ++
      benchSubmit benchServoRequest 0 ++ [.tick, .settle, benchClear] ++ benchWindow 1)
    (fun w : StopWatch ℚ => w.rt.phase.waits &&
      decide (1 ∈ w.due) && decide (w.rt.core.active = ⟨2, .running⟩))
    (by decide +kernel) (by decide +kernel)
  simp only [Bool.and_eq_true, decide_eq_true_eq] at ended
  obtain ⟨⟨waiting, due⟩, active⟩ := ended
  exact ⟨w, RtPhase.eq_of_waits waiting, due, active,
    stop_respects_causal_order benchExternal defaultRtCoreConfig w reached⟩

/-- Whatever the run, `stop_j` respects the order of the calls. -/
def RespectsOrder (lib : External R) (cfg : RtCoreConfig R) : Prop :=
  ∀ w, (machine lib cfg).Reachable (fun _ _ => True) w → w.CausalOrder

/-- A stop lands between the exchange and the drain, and the target submitted after it
returned is drained in the same window: the next window's exchange stops that target. -/
theorem returned_stop_ends_next_motion : ¬ RespectsOrder benchExternal defaultRtCoreConfig := by
  intro respects
  obtain ⟨w, reached, ended⟩ := Machine.reachable_of_run (machine benchExternal defaultRtCoreConfig)
    ([.start, benchClear] ++ benchWindow 0 ++ [benchClear, .timer, .exchange, .exchange, .exchange,
      .exchange, .exchange, .stopBump, .stopStore 1] ++ benchSubmit benchServoRequest 0 ++
      [.pop, .pop, .check, .tick, .settle, benchClear] ++ benchUpToTick 0)
    (fun w : StopWatch ℚ => w.rt.phase.targetless &&
      decide (w.rt.core.stopped w.rt.rx = some 1) && decide (¬ w.outruns w.taken 1))
    (by decide +kernel)
  simp only [Bool.and_eq_true, decide_eq_true_eq] at ended
  obtain ⟨⟨checked, stopped⟩, late⟩ := ended
  exact late ((respects w reached).stopped _ _ (RtPhase.eq_of_targetless checked) 1 stopped)

end StopWatch

end AiroFanuc.RtCore
