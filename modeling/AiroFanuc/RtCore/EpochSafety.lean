import AiroFanuc.RtCore.Entries
import AiroFanuc.RtCore.StopOrder

/-! What the epoch of a submission promises: between the read that tagged a target and its
acceptance no fault, park or recovery was entered; and the epoch counts those entries. -/

namespace AiroFanuc.RtCore

open TickEngine Library

variable {R : Type} [Field R] [LinearOrder R] [FloorRing R]

namespace TickCore

/-- What `consume` accepts carries the epoch it is consumed in. -/
theorem accepted_epoch {lib : External R} {s : TickCore R} {t : Target R} {supersededByStop : Bool}
    (accepted : (s.consume lib t supersededByStop).1.accepted = true) :
    t.epoch = s.health.epoch := by
  by_contra stale
  have refusing : s.refuses lib t supersededByStop = true := by simp [refuses, stale]
  rw [consume_accepted] at accepted
  simp [refusing] at accepted

end TickCore

/-- The loop, every event its core has emitted, and how many of them there were when the
epoch of a motion's target was read. -/
structure EpochWatch (R : Type) where
  rt : RealtimeCore R
  log : List Event
  read : Nat → Nat

namespace RealtimeCore

/-- The id whose target reads the published epoch in this step. -/
def dates (s : RealtimeCore R) : Label R → Option Nat
  | .enqueue =>
    match s.submission with
    | some ⟨t, .named⟩ => some t.motionId
    | _ => none
  | _ => none

/-- The submission once it carries its epoch. -/
def dated (s : RealtimeCore R) : Option (Target R) :=
  match s.submission with
  | some ⟨t, .dated⟩ | some ⟨t, .stamped⟩ => some t
  | some ⟨_, .locked⟩ | some ⟨_, .named⟩ | none => none

omit [Field R] [LinearOrder R] [FloorRing R] in
theorem dates_id {s : RealtimeCore R} {l : Label R} {id : Nat} (dates : s.dates l = some id) :
    s.submittedId = some id := by
  cases l with
  | enqueue =>
    simp only [RealtimeCore.dates] at dates
    split at dates
    · rename_i t stage
      simp only [submittedId, stage]
      exact dates
    · cases dates
  | start | stop | exit | join | clear | packet | timer | exchange | pop | check | tick | settle
  | submit | stopBump | stopStore | request | reap | drainEvents => cases dates

omit [Field R] [LinearOrder R] [FloorRing R] in
theorem stamped_dated {s : RealtimeCore R} {u : Target R} (stamp : s.stamped = some u) :
    s.dated = some u := by
  simp only [RealtimeCore.stamped] at stamp
  simp only [RealtimeCore.dated]
  split at stamp
  · rename_i stage
    cases stamp
    rw [stage]
  all_goals cases stamp

omit [Field R] [LinearOrder R] [FloorRing R] in
theorem stamped_undates {s : RealtimeCore R} {u : Target R} (stamp : s.stamped = some u)
    (l : Label R) : s.dates l = none := by
  by_contra dates
  obtain ⟨id, reads⟩ := Option.ne_none_iff_exists'.mp dates
  cases l with
  | enqueue =>
    simp only [RealtimeCore.dates] at reads
    split at reads
    · rename_i t stage
      simp only [RealtimeCore.stamped, stage, reduceCtorEq] at stamp
    · cases reads
  | start | stop | exit | join | clear | packet | timer | exchange | pop | check | tick | settle
  | submit | stopBump | stopStore | request | reap | drainEvents => cases reads

/-- A submission keeps its id, or has just been given the next one. -/
theorem Takes.names {lib : External R} {s t : RealtimeCore R} {l : Label R}
    (taken : Takes lib s l t) :
    s.nextMotionId ≤ t.nextMotionId ∧ ∀ id ∈ t.submittedId, (l = .enqueue → s.stamped = none) ∧
      (id ∈ s.submittedId ∨ (s.nextMotionId ≤ id ∧ id < t.nextMotionId)) := by
  have kept (next : t.nextMotionId = s.nextMotionId) (same : t.submission = s.submission)
      (other : l ≠ .enqueue) :
      s.nextMotionId ≤ t.nextMotionId ∧ ∀ id ∈ t.submittedId, (l = .enqueue → s.stamped = none) ∧
        (id ∈ s.submittedId ∨ (s.nextMotionId ≤ id ∧ id < t.nextMotionId)) := by
    refine ⟨next.ge, fun id member => ⟨fun push => absurd push other, .inl ?_⟩⟩
    rwa [submittedId, same] at member
  cases taken with
  | exit phase flagged =>
    apply kept
    · simp only [RealtimeCore.exit]
      split <;> rfl
    · simp only [RealtimeCore.exit]
      split <;> rfl
    · simp
  | packet rxMono view phase =>
    apply kept
    · simp only [ingestPacket]
      split <;> rfl
    · simp only [ingestPacket]
      split <;> rfl
    · simp
  | exchange op rest phase =>
    rcases exchange_shape s op with ⟨-, same⟩ | ⟨-, forwarded⟩
    · exact kept (by rw [same]) (by rw [same]) (by simp)
    · exact kept (by rw [forwarded]) (by rw [forwarded]) (by simp)
  | pop last phase =>
    rcases pop_shape s last with ⟨-, same⟩ | ⟨_, _, _, _, -, popped⟩
    · exact kept (by rw [same]) (by rw [same]) (by simp)
    · exact kept (by rw [popped]) (by rw [popped]) (by simp)
  | settle last cmd phase =>
    obtain ⟨_, _, _, _, settled⟩ := settle_shape s last cmd
    exact kept (by rw [settled]) (by rw [settled]) (by simp)
  | submitTrajectory | submit => exact ⟨le_rfl, by rintro _ ⟨⟩⟩
  | name u stage =>
    refine ⟨Nat.le_succ _, fun id member => ⟨fun _ => ?_, .inr ?_⟩⟩
    · simp only [RealtimeCore.stamped, stage]
    · cases member
      exact ⟨le_rfl, Nat.lt_succ_self _⟩
  | date u stage | stamp u stage =>
    refine ⟨le_rfl, fun id member => ⟨fun _ => ?_, .inl ?_⟩⟩
    · simp only [RealtimeCore.stamped, stage]
    · simp only [submittedId, stage]
      exact member
  | push u stage =>
    refine ⟨?_, by rintro _ ⟨⟩⟩
    rcases pushMailbox_shape s u with ⟨-, pushed⟩ | ⟨-, dropped⟩
    · rw [pushed]
    · rw [dropped]
  | start | stop | join | clear | timer | check | tick | stopBump | stopStore | request
  | reap | drainEvents => exact kept rfl rfl (by simp)

/-- A submission keeps its epoch, or has just read the published one. -/
theorem Takes.dated {lib : External R} {s t : RealtimeCore R} {l : Label R}
    (taken : Takes lib s l t) {u : Target R} (dated : t.dated = some u) :
    (s.dates l = none ∧ ∃ v, s.dated = some v ∧ v.motionId = u.motionId ∧ v.epoch = u.epoch) ∨
      (s.dates l = some u.motionId ∧ u.epoch = s.publishedEpoch) := by
  have kept (same : t.submission = s.submission) (other : s.dates l = none) :
      (s.dates l = none ∧ ∃ v, s.dated = some v ∧ v.motionId = u.motionId ∧ v.epoch = u.epoch) ∨
        (s.dates l = some u.motionId ∧ u.epoch = s.publishedEpoch) := by
    refine .inl ⟨other, u, ?_, rfl, rfl⟩
    rwa [RealtimeCore.dated, same] at dated
  cases taken with
  | exit phase flagged =>
    apply kept
    · simp only [RealtimeCore.exit]
      split <;> rfl
    · rfl
  | packet rxMono view phase =>
    apply kept
    · simp only [ingestPacket]
      split <;> rfl
    · rfl
  | exchange op rest phase =>
    rcases exchange_shape s op with ⟨-, same⟩ | ⟨-, forwarded⟩
    · exact kept (by rw [same]) rfl
    · exact kept (by rw [forwarded]) rfl
  | pop last phase =>
    rcases pop_shape s last with ⟨-, same⟩ | ⟨_, _, _, _, -, popped⟩
    · exact kept (by rw [same]) rfl
    · exact kept (by rw [popped]) rfl
  | settle last cmd phase =>
    obtain ⟨_, _, _, _, settled⟩ := settle_shape s last cmd
    exact kept (by rw [settled]) rfl
  | submitTrajectory | submit | name | push => cases dated
  | date v stage =>
    cases dated
    refine .inr ⟨?_, rfl⟩
    simp only [RealtimeCore.dates, stage]
  | stamp v stage =>
    cases dated
    refine .inl ⟨?_, v, ?_, rfl, rfl⟩
    · simp only [RealtimeCore.dates, stage]
    · simp only [RealtimeCore.dated, stage]
  | start | stop | join | clear | timer | check | tick | stopBump | stopStore | request
  | reap | drainEvents => exact kept rfl rfl

/-- Between ticks the epoch and its counts stand, and only they are ever published. -/
theorem Takes.epoch {lib : External R} {s t : RealtimeCore R} {l : Label R}
    (taken : Takes lib s l t) (other : l ≠ .tick) :
    t.core.health.epoch = s.core.health.epoch ∧
      t.core.health.bumpCounts = s.core.health.bumpCounts ∧
      (t.publishedEpoch = s.publishedEpoch ∨ t.publishedEpoch = s.core.health.epoch) := by
  cases taken with
  | tick => exact absurd rfl other
  | exit phase flagged =>
    simp only [RealtimeCore.exit]
    split
    · exact ⟨rfl, rfl, .inl rfl⟩
    · exact ⟨rfl, rfl, .inl rfl⟩
  | packet rxMono view phase =>
    simp only [ingestPacket]
    split
    · exact ⟨rfl, rfl, .inr rfl⟩
    · exact ⟨rfl, rfl, .inl rfl⟩
  | exchange op rest phase =>
    rcases exchange_shape s op with ⟨-, same⟩ | ⟨-, moved⟩
    · rw [same]
      exact ⟨rfl, rfl, .inl rfl⟩
    · obtain ⟨_, _, _, shape⟩ := forward_shape s.core op
      rw [moved, shape]
      exact ⟨rfl, rfl, .inl rfl⟩
  | pop last phase =>
    rcases pop_shape s last with ⟨-, same⟩ | ⟨_, _, _, _, -, popped⟩
    · rw [same]
      exact ⟨rfl, rfl, .inl rfl⟩
    · rw [popped]
      exact ⟨rfl, rfl, .inl rfl⟩
  | settle last cmd phase =>
    obtain ⟨_, _, _, _, settled⟩ := settle_shape s last cmd
    rw [settled]
    exact ⟨rfl, rfl, .inr rfl⟩
  | push v stage =>
    rcases pushMailbox_shape s v with ⟨-, pushed⟩ | ⟨-, dropped⟩
    · rw [pushed]
      exact ⟨rfl, rfl, .inl rfl⟩
    · rw [dropped]
      exact ⟨rfl, rfl, .inl rfl⟩
  | start | stop | join | clear | timer | check | submitTrajectory | submit | name | date | stamp
  | stopBump | stopStore | request | reap | drainEvents => exact ⟨rfl, rfl, .inl rfl⟩

end RealtimeCore

namespace EpochWatch

def observe (w : EpochWatch R) (l : Label R) (rt : RealtimeCore R) : EpochWatch R where
  rt := rt
  log :=
    match l with
    | .tick => w.log ++ rt.core.events
    | _ => w.log
  read :=
    match w.rt.dates l with
    | some id => Function.update w.read id w.log.length
    | none => w.read

def step (lib : External R) (w : EpochWatch R) (l : Label R) : Option (EpochWatch R) :=
  (w.rt.step lib l).map (w.observe l)

def machine (lib : External R) (cfg : RtCoreConfig R) : Machine (EpochWatch R) (Label R) where
  start := ⟨.new cfg, [], fun _ => 0⟩
  step := step lib

/-- The epoch is the sum of its counts, and each counts the entries under its reason. -/
structure Counted (w : EpochWatch R) : Prop where
  total : w.rt.core.health.epoch = bumpTotal w.rt.core.health.bumpCounts
  once : ∀ reason, w.rt.core.health.bumpCounts reason = entries w.log reason

/-- A target that the coming tick accepts read its epoch after the last entry, those of the
tick itself included. -/
def Current (lib : External R) (w : EpochWatch R) : Prop :=
  ∀ t consumeSuperseded, w.rt.phase = .checked (some t) consumeSuperseded →
    ((w.rt.core.beforeConsume lib w.rt.rx).consume lib t consumeSuperseded).1.accepted = true →
    ∀ e ∈ (w.log ++ (w.rt.core.beforeConsume lib w.rt.rx).events).drop (w.read t.motionId),
      e.bump = none

/-- A target dates from a point of the log up to which its epoch counts every entry. -/
structure Dates (w : EpochWatch R) (u : Target R) : Prop where
  read : w.read u.motionId ≤ w.log.length
  epoch : u.epoch ≤ entryCount (w.log.take (w.read u.motionId))

structure Sound (w : EpochWatch R) : Prop where
  tidy : w.rt.Tidy
  counted : w.Counted
  epoch : w.rt.core.health.epoch = entryCount w.log
  published : w.rt.publishedEpoch ≤ w.rt.core.health.epoch
  waiting : ∀ u ∈ w.rt.waiting, u.motionId < w.rt.nextMotionId
  submitted : ∀ id ∈ w.rt.submittedId, id < w.rt.nextMotionId ∧
    ∀ u ∈ w.rt.waiting, u.motionId ≠ id
  dates : ∀ u, u ∈ w.rt.waiting ∨ w.rt.dated = some u → w.Dates u

/-! ### One step -/

variable {lib : External R} {w : EpochWatch R} {l : Label R} {rt : RealtimeCore R}

omit [Field R] [LinearOrder R] [FloorRing R] in
theorem observe_grows (w : EpochWatch R) (l : Label R) (rt : RealtimeCore R) :
    w.log <+: (w.observe l rt).log := by
  simp only [observe]
  split
  · exact List.prefix_append _ _
  · exact List.prefix_rfl

omit [Field R] [LinearOrder R] [FloorRing R] in
/-- A target dated before stays dated, whatever is logged and whoever reads after it. -/
theorem Dates.step {u : Target R} (dates : w.Dates u) (other : w.rt.dates l ≠ some u.motionId) :
    (w.observe l rt).Dates u := by
  have grows := observe_grows w l rt
  have same : (w.observe l rt).read u.motionId = w.read u.motionId := by
    cases reads : w.rt.dates l with
    | none => simp only [observe, reads]
    | some id =>
      have apart : u.motionId ≠ id := fun equal => other (by rw [reads, equal])
      simp only [observe, reads]
      exact Function.update_of_ne apart _ _
  constructor
  · rw [same]
    exact dates.read.trans grows.length_le
  · obtain ⟨more, grown⟩ := grows
    rw [same, ← grown, List.take_append_of_le_length dates.read]
    exact dates.epoch

omit [Field R] [LinearOrder R] [FloorRing R] in
theorem Dates.congr {u v : Target R} (dates : w.Dates v) (id : v.motionId = u.motionId)
    (epoch : v.epoch = u.epoch) : w.Dates u := by
  constructor
  · rw [← id]
    exact dates.read
  · rw [← id, ← epoch]
    exact dates.epoch

theorem dates_step (sound : w.Sound) (taken : RealtimeCore.Takes lib w.rt l rt) (u : Target R)
    (carries : u ∈ rt.waiting ∨ rt.dated = some u) : (w.observe l rt).Dates u := by
  rcases carries with waits | dated
  · rcases taken.waiting sound.tidy waits with old | ⟨-, stamp, -⟩
    · apply (sound.dates u (.inl old)).step
      intro reads
      exact (sound.submitted _ (RealtimeCore.dates_id reads)).2 u old rfl
    · apply (sound.dates u (.inr (RealtimeCore.stamped_dated stamp))).step
      rw [RealtimeCore.stamped_undates stamp]
      nofun
  · rcases taken.dated dated with ⟨undated, v, before, id, epoch⟩ | ⟨reads, epoch⟩
    · have kept : (w.observe l rt).Dates v := by
        apply (sound.dates v (.inr before)).step
        rw [undated]
        nofun
      exact kept.congr id epoch
    · -- The epoch is read here: what is published counts what has been logged.
      have grows := observe_grows w l rt
      have now : (w.observe l rt).read u.motionId = w.log.length := by
        simp only [observe, reads]
        exact Function.update_self _ _ _
      constructor
      · rw [now]
        exact grows.length_le
      · obtain ⟨more, grown⟩ := grows
        rw [now, ← grown, List.take_append_of_le_length le_rfl, List.take_length, epoch]
        exact sound.published.trans sound.epoch.le

theorem ids_step (sound : w.Sound) (taken : RealtimeCore.Takes lib w.rt l rt) :
    (∀ u ∈ rt.waiting, u.motionId < rt.nextMotionId) ∧
      ∀ id ∈ rt.submittedId, id < rt.nextMotionId ∧ ∀ u ∈ rt.waiting, u.motionId ≠ id := by
  obtain ⟨more, names⟩ := taken.names
  have bound (u : Target R) (waits : u ∈ rt.waiting) : u.motionId < w.rt.nextMotionId := by
    rcases taken.waiting sound.tidy waits with old | ⟨-, stamp, -⟩
    · exact sound.waiting u old
    · exact (sound.submitted _ (RealtimeCore.stamped_id stamp)).1
  refine ⟨fun u waits => (bound u waits).trans_le more, fun id member => ?_⟩
  obtain ⟨unpushed, same | ⟨fresh, named⟩⟩ := names id member
  · refine ⟨(sound.submitted id same).1.trans_le more, fun u waits => ?_⟩
    rcases taken.waiting sound.tidy waits with old | ⟨push, stamp, -⟩
    · exact (sound.submitted id same).2 u old
    · rw [unpushed push] at stamp
      cases stamp
  · exact ⟨named, fun u waits => ((bound u waits).trans_le fresh).ne⟩

theorem step_sound {v : EpochWatch R} (sound : w.Sound) (moved : w.step lib l = some v) :
    v.Sound := by
  obtain ⟨rt, stepped, rfl⟩ := Option.map_eq_some_iff.mp moved
  have taken : RealtimeCore.Takes lib w.rt l rt := RealtimeCore.step_takes stepped
  have tidy : rt.Tidy := taken.tidy sound.tidy
  have ids := ids_step sound taken
  have dates := dates_step sound taken
  by_cases ticks : l = .tick
  · subst ticks
    cases taken with
    | tick last consumeSuperseded phase =>
      have drained : w.rt.core.events = [] := sound.tidy.drained (by simp [phase])
      have fits := TickCore.tick_fits lib drained w.rt.rx last consumeSuperseded
      have tallies := TickCore.tick_tallies lib w.rt.core w.rt.rx last consumeSuperseded
      have total := tallies.total
      have counted := tallies.counted fits
      have epoch := tallies.epoch fits
      simp only [TickCore.register, drained, entries, entryCount, List.countP_nil, Nat.zero_add]
        at total counted epoch
      constructor
      · exact tidy
      · constructor
        · have before := sound.counted.total
          simp only [observe, RealtimeCore.runTick]
          omega
        · intro reason
          have before := sound.counted.once reason
          have new := counted reason
          simp only [observe, RealtimeCore.runTick, entries, List.countP_append]
          simp only [entries] at before
          omega
      · have before := sound.epoch
        simp only [observe, RealtimeCore.runTick, entryCount, List.countP_append]
        simp only [entryCount] at before
        omega
      · have published := sound.published
        simp only [observe, RealtimeCore.runTick]
        omega
      · exact ids.1
      · exact ids.2
      · exact dates
  · obtain ⟨epoch, counts, published⟩ := taken.epoch ticks
    have log : (w.observe l rt).log = w.log := by
      simp only [observe]
    constructor
    · exact tidy
    · constructor
      · simp only [observe, epoch, counts]
        exact sound.counted.total
      · intro reason
        rw [log]
        simp only [observe, counts]
        exact sound.counted.once reason
    · rw [log]
      simp only [observe, epoch]
      exact sound.epoch
    · simp only [observe, epoch]
      rcases published with same | fresh
      · rw [same]
        exact sound.published
      · exact fresh.le
    · exact ids.1
    · exact ids.2
    · exact dates

theorem start_sound (lib : External R) (cfg : RtCoreConfig R) : (machine lib cfg).start.Sound where
  tidy := RealtimeCore.new_tidy cfg
  counted := ⟨rfl, fun _ => rfl⟩
  epoch := rfl
  published := le_rfl
  waiting := nofun
  submitted := nofun
  dates := nofun

/-- What is accepted was dated after the last entry, or its epoch would be behind. -/
theorem Sound.current (sound : w.Sound) (lib : External R) : w.Current lib := by
  intro t consumeSuperseded phase accepted e member
  have waits : t ∈ w.rt.waiting := by simp [RealtimeCore.waiting, phase, RtPhase.pending]
  have dates := sound.dates t (.inl waits)
  have drained : w.rt.core.events = [] := sound.tidy.drained (by simp [phase])
  have fits := (TickCore.afterDwell_entries lib w.rt.core w.rt.rx (some t) consumeSuperseded).grows
    |>.length_le.trans_lt (TickCore.tick_fits lib drained w.rt.rx (some t) consumeSuperseded)
  have epoch := (TickCore.beforeConsume_tallies lib w.rt.core w.rt.rx).epoch fits
  have current := TickCore.accepted_epoch accepted
  have logged := sound.epoch
  have kept := dates.epoch
  have split : entryCount (w.log ++ (w.rt.core.beforeConsume lib w.rt.rx).events) =
      entryCount (w.log.take (w.read t.motionId)) +
        entryCount ((w.log ++ (w.rt.core.beforeConsume lib w.rt.rx).events).drop
          (w.read t.motionId)) := by
    rw [← List.take_append_of_le_length dates.read, entryCount, entryCount, entryCount,
      ← List.countP_append, List.take_append_drop]
  simp only [TickCore.register, drained, entryCount, List.countP_nil, Nat.zero_add,
    List.countP_append] at epoch split logged kept
  have none : entryCount ((w.log ++ (w.rt.core.beforeConsume lib w.rt.rx).events).drop
      (w.read t.motionId)) = 0 := by
    simp only [entryCount]
    omega
  simpa using List.countP_eq_zero.mp none e member

/-- A target is accepted only in the epoch its caller read, and the epoch counts every
fault, park and recovery entry exactly once. -/
theorem accepted_target_is_current (lib : External R) (cfg : RtCoreConfig R) (w : EpochWatch R)
    (reached : (machine lib cfg).Reachable (fun _ _ => True) w) : w.Counted ∧ w.Current lib := by
  have sound : w.Sound := by
    apply reached.invariant (start_sound lib cfg)
    intro a b l sound _ moved
    exact step_sound sound moved
  exact ⟨sound.counted, sound.current lib⟩

/-- A servo goal of the epoch after a pendant fault and its recovery is about to be taken. -/
def benchRecoveredServo : List (Label ℚ) :=
  [.start, benchClear] ++ benchWindow 0 ++ [benchPendant] ++ benchWindow 0 ++ [.request .recover] ++
    (List.replicate 63 ([benchClear] ++ benchWindow 0)).flatten ++
    benchSubmit benchServoRequest 0 ++ [benchClear] ++ benchUpToTick 1

/-- Two entries, the fault and the recovery, both before the read: the goal is accepted. -/
theorem accepted_target_is_current_recovered : ∃ w : EpochWatch ℚ,
    w.Current benchExternal ∧ w.rt.core.health.epoch = 2 ∧ entryCount w.log = 2 ∧
      w.rt.phase.pending.any (fun t => ((w.rt.core.beforeConsume benchExternal w.rt.rx).consume
        benchExternal t false).1.accepted) = true := by
  obtain ⟨w, reached, tested⟩ := Machine.reachable_of_run
    (machine benchExternal defaultRtCoreConfig) benchRecoveredServo
    (fun w : EpochWatch ℚ => decide (w.rt.core.health.epoch = 2) && decide (entryCount w.log = 2) &&
      w.rt.phase.pending.any (fun t => ((w.rt.core.beforeConsume benchExternal w.rt.rx).consume
        benchExternal t false).1.accepted))
        (by decide +kernel)
  simp only [Bool.and_eq_true, decide_eq_true_eq] at tested
  have current := (accepted_target_is_current benchExternal defaultRtCoreConfig w reached).2
  exact ⟨w, current, tested.1.1, tested.1.2, tested.2⟩

end EpochWatch

end AiroFanuc.RtCore
