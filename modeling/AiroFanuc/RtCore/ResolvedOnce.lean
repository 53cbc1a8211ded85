import AiroFanuc.RtCore.LoopJournal

/-! What the loop records of its motions: whatever is refused, displaced or written over, no motion
is resolved twice. -/

namespace AiroFanuc.RtCore

open TickEngine Library

/-! ### One tick -/

/-- No motion is paid and owed more than it was, and than it is charged. -/
def AtMost (charge : Nat → Nat) (s t : List Event × ActiveMotion) : Prop :=
  ∀ id, motionLedger.balance t id ≤ motionLedger.balance s id + charge id

theorem terminals_pushEvent (ring : List Event) (e : Event) (id : Nat) :
    terminals (pushEvent ring e) id ≤ terminals ring id + terminals [e] id := by
  unfold pushEvent
  split
  · exact Nat.le_of_eq (terminals_append ring [e] id)
  · omega

/-- A refused target takes the slot from whoever has it, and is paid at once. -/
theorem refused_atMost (ring : List Event) (a : ActiveMotion) (reason : FaultReason)
    (motionId epoch : Nat) (value : Int) :
    AtMost (fare motionId) (ring, a)
      (pushEvent ring ⟨.motionRejected, reason, motionId, epoch, value⟩, ⟨motionId, .rejected⟩) := by
  intro id
  have pushed := terminals_pushEvent ring ⟨.motionRejected, reason, motionId, epoch, value⟩ id
  have paid : terminals [⟨.motionRejected, reason, motionId, epoch, value⟩] id = fare motionId id :=
    terminals_final rfl id
  have idle : owed ⟨motionId, .rejected⟩ id = 0 := owed_idle (by simp) id
  simp only [motionLedger, idle]
  omega

namespace TickCore

variable {R : Type} [Field R] [LinearOrder R] [FloorRing R]

theorem consume_atMost {lib : External R} {s : TickCore R} {t : Target R} {superseded : Bool}
    (real : t.kind ≠ .none) (room : s.events.length + 3 ≤ kEventRoom) :
    AtMost (fare t.motionId) s.books (s.consume lib t superseded).2.books := by
  by_cases refusing : s.refuses lib t superseded = true
  · rcases (consume_refused real refusing).2 with ⟨reason, rejected⟩ | rejected | rejected
    · rw [rejected]
      exact refused_atMost s.events s.active reason t.motionId s.health.epoch 0
    · rw [rejected]
      intro id
      have mismatch : motionLedger.Conserves 1 s.books
          (s.emit .captureRejected .rejectedStartMismatch 0 t.motionId).books :=
        emit_conserves s rfl _ _ _
      have room : s.events.length + 1 ≤ kEventRoom := by omega
      have kept := mismatch.balance room id
      have refused : motionLedger.balance (s.rejectStart t).books id ≤ _ :=
        refused_atMost (s.emit .captureRejected .rejectedStartMismatch 0 t.motionId).events s.active
          .rejectedStartMismatch t.motionId s.health.epoch 0 id
      exact refused.trans (Nat.le_of_eq (congrArg (· + fare t.motionId id) kept))
    · rw [rejected]
      exact refused_atMost s.events s.active .internal t.motionId s.health.epoch 0
  · intro id
    exact Nat.le_of_eq ((consume_books real fun refused => absurd refused refusing).balance room id)

/-- A tick from a drained ring pays and owes at most what was owed, and the target it takes. -/
theorem tick_atMost {lib : External R} {s : TickCore R} {rx : Option (RxSample R)}
    {pending : Option (Target R)} {superseded : Bool} (drained : s.events = []) :
    AtMost (tickFare pending) s.books (s.tick lib rx pending superseded).2.books := by
  have empty : s.events.length = 0 := by rw [drained]; rfl
  have early : motionLedger.Conserves 31 s.books (s.beforeConsume lib rx).books :=
    (beforeDwell_conserves lib s rx).trans (recoveryDwell_conserves _)
  have late : motionLedger.Conserves 5
      ((s.beforeConsume lib rx).consumePending lib pending superseded).books
      (s.tick lib rx pending superseded).2.books :=
    (dispatchMode_conserves lib _).trans (sendCommand_conserves _ _)
  have upto : (s.beforeConsume lib rx).events.length ≤ s.events.length + 31 := early.load
  have load := consumePending_load lib s rx pending superseded
  have consumed : AtMost (tickFare pending) (s.beforeConsume lib rx).books
      ((s.beforeConsume lib rx).consumePending lib pending superseded).books := by
    cases pending with
    | none => exact fun id => Nat.le_refl _
    | some t =>
      have kept : ((s.beforeConsume lib rx).consumePending lib (some t) superseded).books =
        ((s.beforeConsume lib rx).consume lib t superseded).2.books := rfl
      rw [kept]
      by_cases absent : t.kind = .none
      · rw [(consume_ignored absent).2]
        exact fun id => Nat.le_add_right _ _
      · have charged : tickFare (some t) = fare t.motionId := funext fun id => if_neg absent
        rw [charged]
        exact consume_atMost absent (by simp only [kEventRoom]; omega)
  intro id
  have room : s.events.length + 31 ≤ kEventRoom := by simp only [kEventRoom]; omega
  have room' : ((s.beforeConsume lib rx).consumePending lib pending superseded).events.length + 5 ≤
      kEventRoom := by
    simp only [kEventRoom]
    omega
  calc motionLedger.balance (s.tick lib rx pending superseded).2.books id
      = motionLedger.balance
          ((s.beforeConsume lib rx).consumePending lib pending superseded).books id :=
        late.balance room' id
    _ ≤ motionLedger.balance (s.beforeConsume lib rx).books id + tickFare pending id :=
        consumed id
    _ = motionLedger.balance s.books id + tickFare pending id :=
        congrArg (· + tickFare pending id) (early.balance room id)

end TickCore

/-! ### The loop -/

variable {R : Type} [Field R] [LinearOrder R] [FloorRing R]

/-- What an event puts on record. -/
def Event.resolution (e : Event) : Option (Nat × MotionStatus) :=
  if isResolutionEvent e.type = true ∧ e.motionId ≠ 0 then some (e.motionId, eventToStatus e.type)
  else none

namespace RealtimeCore

/-- What a step puts on record. -/
def records (s : RealtimeCore R) : Label R → List (Nat × MotionStatus)
  | .pop =>
    match s.phase, s.mailbox with
    | .draining (some last), _ :: _ =>
      if last.motionId = 0 then [] else [(last.motionId, .preempted)]
    | _, _ => []
  | .settle =>
    match s.phase with
    | .ticked _ _ => s.core.events.filterMap Event.resolution
    | _ => []
  | _ => []

end RealtimeCore

/-- A loop, its core's journal, and every resolution that went on record. -/
structure ResolutionLog (R : Type) where
  watch : LoopWatch R
  recorded : List (Nat × MotionStatus)

namespace LoopWatch

/-- Every motion has its own number, and no motion is paid or owed twice. -/
structure Numbered (w : LoopWatch R) : Prop where
  tidy : w.rt.Tidy
  mirrors : w.journal.core = { w.rt.core with events := [] }
  ledger : ∀ id, terminals w.journal.log id + owed w.journal.core.active id ≤
    w.journal.taken.count id
  nodup : w.ids.Nodup
  named : ∀ id ∈ w.ids, 0 < id ∧ id < w.rt.nextMotionId
  first : 0 < w.rt.nextMotionId

omit [Field R] [LinearOrder R] [FloorRing R] in
theorem Numbered.core {w : LoopWatch R} (numbered : w.Numbered)
    (quiet : ∀ last cmd, w.rt.phase ≠ .ticked last cmd) : w.journal.core = w.rt.core := by
  have drained := numbered.tidy.drained quiet
  rw [numbered.mirrors, ← drained]

omit [Field R] [LinearOrder R] [FloorRing R] in
/-- An id is displaced in the mailbox or taken by the core, and once. -/
theorem Numbered.single {w : LoopWatch R} (numbered : w.Numbered) (id : Nat) :
    w.rt.flightIds.count id + (w.displaced.count id + w.journal.taken.count id) ≤ 1 := by
  have once := List.nodup_iff_count_le_one.mp numbered.nodup id
  simpa only [ids, List.count_append] using once

end LoopWatch

theorem Journal.step_atMost {lib : External R} {j : Journal R} (drained : j.core.events = [])
    (ledger : ∀ id, terminals j.log id + owed j.core.active id ≤ j.taken.count id) (i : Input R)
    (id : Nat) : terminals (j.step lib i).log id + owed (j.step lib i).core.active id ≤
      (j.step lib i).taken.count id := by
  have before := ledger id
  -- A call between ticks leaves the ring and the slot alone.
  have call (core : TickCore R) (same : core.books = j.core.books) :
      terminals (j.log ++ core.events) id + owed core.active id ≤ j.taken.count id := by
    have events : core.events = j.core.events := congrArg Prod.fst same
    have active : core.active = j.core.active := congrArg Prod.snd same
    rwa [events, drained, List.append_nil, active]
  cases i with
  | tick rx pending superseded =>
    have balance : terminals (j.core.tick lib rx pending superseded).2.events id +
        owed (j.core.tick lib rx pending superseded).2.active id ≤
          terminals j.core.events id + owed j.core.active id + TickCore.tickFare pending id :=
      TickCore.tick_atMost drained id
    show terminals (j.log ++ (j.core.tick lib rx pending superseded).2.events) id +
        owed (j.core.tick lib rx pending superseded).2.active id ≤
      ((Input.tick rx pending superseded).takes ++ j.taken).count id
    have nothing : terminals j.core.events id = 0 := by rw [drained]; rfl
    rw [terminals_append, List.count_append, Journal.takes_count]
    simp only [Input.target]
    omega
  | requestStop | requestHold | kick | heartbeat => exact call _ rfl
  | requestRecover =>
    refine call j.core.requestRecover ?_
    unfold TickCore.requestRecover
    split <;> rfl
  | beginStreaming qMeas => exact call (j.core.beginStreaming qMeas) rfl

namespace LoopWatch

/-- A step that feeds the core finds its ring drained. -/
theorem Numbered.fed {lib : External R} {w : LoopWatch R} (numbered : w.Numbered) {l : Label R}
    {rt : RealtimeCore R} (taken : RealtimeCore.Takes lib w.rt l rt) {i : Input R}
    (fed : w.rt.coreInput l = some i) : w.journal.core = w.rt.core := by
  refine numbered.core fun last cmd phase => ?_
  cases taken <;> simp_all [RealtimeCore.coreInput]

theorem Numbered.step {lib : External R} {w : LoopWatch R} {l : Label R} {rt : RealtimeCore R}
    (numbered : w.Numbered) (taken : RealtimeCore.Takes lib w.rt l rt) :
    (w.observe lib l rt).Numbered := by
  have change := taken.core
  have drained : w.journal.core.events = [] := by rw [numbered.mirrors]
  have handed : ∀ id, (w.observe lib l rt).ids.count id ≤
      w.ids.count id + (if rt.nextMotionId = w.rt.nextMotionId then 0
        else [w.rt.nextMotionId].count id) := by
    rcases ids_step numbered.tidy taken with ⟨next, fewer⟩ | ⟨next, fewer⟩
    · simpa [next] using fewer
    · simpa [next] using fewer
  have next : rt.nextMotionId = w.rt.nextMotionId ∨ rt.nextMotionId = w.rt.nextMotionId + 1 := by
    rcases ids_step numbered.tidy taken with ⟨next, -⟩ | ⟨next, -⟩
    · exact .inl next
    · exact .inr next
  have unused : w.ids.count w.rt.nextMotionId = 0 :=
    List.count_eq_zero.mpr fun old => Nat.lt_irrefl _ (numbered.named _ old).2
  have other {id : Nat} (new : id ≠ w.rt.nextMotionId) : [w.rt.nextMotionId].count id = 0 :=
    List.count_eq_zero.mpr (by simpa using new)
  have single := List.nodup_iff_count_le_one.mp numbered.nodup
  constructor
  · exact taken.tidy numbered.tidy
  · simp only [observe]
    cases fed : w.rt.coreInput l with
    | none =>
      rw [fed] at change
      rcases change with same | drained
      · rw [same]
        exact numbered.mirrors
      · rw [drained]
        exact numbered.mirrors
    | some i =>
      rw [fed] at change
      simp only [Journal.step]
      rw [numbered.fed taken fed, change]
  · intro id
    simp only [observe]
    cases w.rt.coreInput l with
    | none => exact numbered.ledger id
    | some i => exact Journal.step_atMost drained numbered.ledger i id
  · refine List.nodup_iff_count_le_one.mpr fun id => (handed id).trans ?_
    have once := single id
    by_cases new : id = w.rt.nextMotionId
    · subst new
      rw [unused, List.count_singleton_self]
      split <;> omega
    · rw [other new]
      split <;> omega
  · intro id member
    have counted := List.count_pos_iff.mpr member
    have kept := handed id
    show 0 < id ∧ id < rt.nextMotionId
    have first := numbered.first
    by_cases new : id = w.rt.nextMotionId
    · subst new
      rw [unused] at kept
      split at kept <;> omega
    · rw [other new] at kept
      have old := numbered.named id (List.count_pos_iff.mp (by split at kept <;> omega))
      omega
  · have first := numbered.first
    show 0 < rt.nextMotionId
    omega

theorem start_numbered (lib : External R) (cfg : RtCoreConfig R) :
    (machine lib cfg).start.Numbered where
  tidy := RealtimeCore.new_tidy cfg
  mirrors := rfl
  ledger := fun _ => Nat.le_refl _
  nodup := List.nodup_nil
  named := by simp [machine, ids, RealtimeCore.flightIds, RealtimeCore.new, RtPhase.pending,
    RealtimeCore.submittedId]
  first := Nat.zero_lt_one

end LoopWatch

/-! ### What goes on record -/

/-- The table after a record keeps the newest of all. -/
theorem take_record (history : List (Nat × MotionStatus)) (e : Nat × MotionStatus) :
    (e :: history.reverse.take kResolutions).take kResolutions =
      (history ++ [e]).reverse.take kResolutions := by
  rw [List.reverse_append, List.reverse_singleton, List.singleton_append]
  simp only [kResolutions, List.take_succ_cons, List.take_take, Nat.min_def, Nat.reduceLeDiff,
    if_true]

namespace RealtimeCore

omit [Field R] [LinearOrder R] [FloorRing R] in
theorem pushPyEvent_resolutions (s : RealtimeCore R) (e : Event) :
    (s.pushPyEvent e).resolutions = s.resolutions := by
  unfold pushPyEvent
  split <;> rfl

omit [Field R] [LinearOrder R] [FloorRing R] in
theorem drainEvents_resolutions {s : RealtimeCore R} {history : List (Nat × MotionStatus)}
    (table : s.resolutions = history.reverse.take kResolutions) (events : List Event) :
    (events.foldl drainEvent s).resolutions =
      (history ++ events.filterMap Event.resolution).reverse.take kResolutions := by
  induction events generalizing s history with
  | nil => simpa using table
  | cons e rest ih =>
    rw [List.foldl_cons, List.filterMap_cons]
    by_cases resolves : isResolutionEvent e.type = true ∧ e.motionId ≠ 0
    · have one : (s.drainEvent e).resolutions =
          (history ++ [(e.motionId, eventToStatus e.type)]).reverse.take kResolutions := by
        rw [drainEvent, if_pos resolves, pushPyEvent_resolutions, recordResolution, table,
          take_record]
      rw [ih one, Event.resolution, if_pos resolves, List.append_assoc]
      rfl
    · have one : (s.drainEvent e).resolutions = history.reverse.take kResolutions := by
        rw [drainEvent, if_neg resolves, pushPyEvent_resolutions, table]
      rw [ih one, Event.resolution, if_neg resolves]

omit [Field R] [LinearOrder R] [FloorRing R] in
theorem pop_resolutions {s : RealtimeCore R} {history : List (Nat × MotionStatus)}
    {last : Option (Target R)} (phase : s.phase = .draining last)
    (table : s.resolutions = history.reverse.take kResolutions) :
    (s.pop last).resolutions = (history ++ s.records .pop).reverse.take kResolutions := by
  simp only [pop, records, phase]
  cases waiting : s.mailbox with
  | nil =>
    simp only
    rw [List.append_nil]
    exact table
  | cons t rest =>
    cases last with
    | none =>
      simp only
      rw [List.append_nil]
      exact table
    | some displaced =>
      simp only [displace, retireOwner_shape]
      by_cases zero : displaced.motionId = 0
      · rw [if_pos zero, if_pos zero, List.append_nil]
        split
        · exact table
        · exact table
      · rw [if_neg zero, if_neg zero, pushPyEvent_resolutions, ← take_record, ← table]
        split <;> rfl

omit [LinearOrder R] [FloorRing R] in
theorem settle_resolutions {s : RealtimeCore R} {history : List (Nat × MotionStatus)}
    (table : s.resolutions = history.reverse.take kResolutions) (last : Option (Target R))
    (cmd : Command R) : (s.settle last cmd).resolutions =
      (history ++ s.core.events.filterMap Event.resolution).reverse.take kResolutions := by
  have drained (u : RealtimeCore R) (core : u.core = s.core)
      (same : u.resolutions = s.resolutions) : u.drainTickEvents.resolutions =
        (history ++ s.core.events.filterMap Event.resolution).reverse.take kResolutions := by
    rw [← core]
    exact drainEvents_resolutions (same.trans table) _
  simp only [settle, retireConsumed_shape]
  split
  · exact drained _ rfl rfl
  · exact drained _ rfl rfl

/-- The table holds the newest of all that a run has put on record. -/
theorem Takes.table {lib : External R} {s t : RealtimeCore R} {l : Label R}
    (taken : Takes lib s l t) {history : List (Nat × MotionStatus)}
    (table : s.resolutions = history.reverse.take kResolutions) :
    t.resolutions = (history ++ s.records l).reverse.take kResolutions := by
  have still (same : t.resolutions = s.resolutions) :
      t.resolutions = (history ++ []).reverse.take kResolutions := by
    rw [List.append_nil, same, table]
  cases taken with
  | pop last phase => exact pop_resolutions phase table
  | settle last cmd phase =>
    have recorded : s.records .settle = s.core.events.filterMap Event.resolution := by
      simp only [records, phase]
    rw [recorded]
    exact settle_resolutions table last cmd
  | packet rxMono view phase =>
    refine still ?_
    simp only [ingestPacket]
    split <;> rfl
  | exchange op rest phase =>
    refine still ?_
    rcases exchange_shape s op with ⟨-, same⟩ | ⟨-, forwarded⟩
    · rw [same]
    · rw [forwarded]
  | exit phase flagged =>
    refine still ?_
    simp only [RealtimeCore.exit]
    split <;> rfl
  | push t stage =>
    refine still ?_
    rcases pushMailbox_shape s t with ⟨-, pushed⟩ | ⟨-, dropped⟩
    · rw [pushed]
    · rw [dropped]
  | start | stop | join | clear | timer | check | tick | submitTrajectory | submit | name | date
  | stamp | stopBump | stopStore | request | reap | drainEvents => exact still rfl

/-- Off the ticks, what goes on record was an event of the core or is displaced in the mailbox. -/
theorem Takes.recorded {lib : External R} {w : LoopWatch R} {t : RealtimeCore R} {l : Label R}
    (taken : Takes lib w.rt l t) (unfed : w.rt.coreInput l = none) (id : Nat) :
    ((w.rt.records l).map Prod.fst).count id + terminals t.core.events id ≤
      terminals w.rt.core.events id + (w.displaces l).count id := by
  have core := taken.core
  rw [unfed] at core
  have fewer : terminals t.core.events id ≤ terminals w.rt.core.events id := by
    rcases core with same | drained
    · rw [same]
    · rw [drained]
      exact Nat.zero_le _
  cases taken with
  | pop last phase =>
    simp only [records, LoopWatch.displaces, phase]
    cases waiting : w.rt.mailbox with
    | nil =>
      cases last <;> exact Nat.add_comm _ _ ▸ fewer
    | cons t rest =>
      cases last with
      | none => exact Nat.add_comm _ _ ▸ fewer
      | some displaced =>
        simp only
        split
        · exact (Nat.zero_add _).symm ▸ fewer.trans (Nat.le_add_right _ _)
        · rw [Nat.add_comm]
          exact Nat.add_le_add_right fewer _
  | settle last cmd phase =>
    obtain ⟨_, _, _, _, settled⟩ := settle_shape w.rt last cmd
    simp only [records, phase, settled]
    have nothing : terminals ([] : List Event) id = 0 := rfl
    rw [nothing]
    have events (log : List Event) :
        ((log.filterMap Event.resolution).map Prod.fst).count id ≤ terminals log id := by
      induction log with
      | nil => exact Nat.le_refl _
      | cons e rest ih =>
        rw [← List.singleton_append, List.filterMap_append, List.map_append, List.count_append,
          terminals_append]
        refine Nat.add_le_add ?_ ih
        by_cases resolves : isResolutionEvent e.type = true ∧ e.motionId ≠ 0
        · rw [terminals_final resolves.1]
          simp [Event.resolution, resolves, fare, List.count_singleton]
        · simp [Event.resolution, resolves]
    exact (events _).trans (Nat.le_add_right _ _)
  | start | stop | exit | join | clear | packet | timer | exchange | check | tick
  | submitTrajectory | submit | name | date | stamp | push | stopBump | stopStore | request | reap
  | drainEvents =>
    exact (Nat.zero_add _).symm ▸ fewer.trans (Nat.le_add_right _ _)

end RealtimeCore

namespace ResolutionLog

def step (lib : External R) (r : ResolutionLog R) (l : Label R) : Option (ResolutionLog R) :=
  (r.watch.step lib l).map fun watch => ⟨watch, r.recorded ++ r.watch.rt.records l⟩

def machine (lib : External R) (cfg : RtCoreConfig R) : Machine (ResolutionLog R) (Label R) where
  start := ⟨(LoopWatch.machine lib cfg).start, []⟩
  step := step lib

structure Kept (r : ResolutionLog R) : Prop where
  numbered : r.watch.Numbered
  table : r.watch.rt.resolutions = r.recorded.reverse.take kResolutions
  counted : ∀ id, (r.recorded.map Prod.fst).count id + terminals r.watch.rt.core.events id ≤
    terminals r.watch.journal.log id + r.watch.displaced.count id

variable {lib : External R} {cfg : RtCoreConfig R} {r t : ResolutionLog R} {l : Label R}

theorem step_kept (kept : r.Kept) (moved : r.step lib l = some t) : t.Kept := by
  obtain ⟨watch, observed, rfl⟩ := Option.map_eq_some_iff.mp moved
  obtain ⟨rt, stepped, rfl⟩ := Option.map_eq_some_iff.mp observed
  have taken := RealtimeCore.step_takes stepped
  refine ⟨kept.numbered.step taken, taken.table kept.table, fun id => ?_⟩
  have before := kept.counted id
  have change := taken.core
  rw [List.map_append, List.count_append]
  simp only [LoopWatch.observe]
  cases fed : r.watch.rt.coreInput l with
  | none =>
    have recorded := taken.recorded fed id
    simp only [List.count_append]
    omega
  | some i =>
    rw [fed] at change
    -- The core's new events are all in its journal, and nothing goes on record with them.
    have quiet : r.watch.rt.records l = [] ∧ r.watch.displaces l = [] := by
      cases taken <;> simp_all [RealtimeCore.coreInput, RealtimeCore.records, LoopWatch.displaces]
    simp only [Journal.step, kept.numbered.fed taken fed, quiet.1, quiet.2, terminals_append,
      change, List.map_nil, List.count_nil, List.nil_append]
    omega

theorem kept_of_reachable (reached : (machine lib cfg).Reachable (fun _ _ => True) r) : r.Kept := by
  refine reached.invariant ⟨LoopWatch.start_numbered lib cfg, rfl, fun id => Nat.le_refl _⟩ ?_
  intro before after l kept _ moved
  exact step_kept kept moved

omit [Field R] [LinearOrder R] [FloorRing R] in
/-- A motion on record is neither on its way to the core nor in its slot. -/
theorem Kept.settled (kept : r.Kept) {id : Nat} (member : id ∈ r.recorded.map Prod.fst) :
    (r.recorded.map Prod.fst).count id = 1 ∧ r.watch.rt.flightIds.count id = 0 ∧
      owed r.watch.rt.core.active id = 0 := by
  have once := List.count_pos_iff.mpr member
  have counted := kept.counted id
  have single := kept.numbered.single id
  have ledger := kept.numbered.ledger id
  rw [kept.numbered.mirrors] at ledger
  simp only at ledger
  omega

omit [Field R] [LinearOrder R] [FloorRing R] in
theorem Kept.named (kept : r.Kept) {id : Nat} (member : id ∈ r.recorded.map Prod.fst) :
    0 < id ∧ id < r.watch.rt.nextMotionId := by
  have once := List.count_pos_iff.mpr member
  have counted := kept.counted id
  have ledger := kept.numbered.ledger id
  refine kept.numbered.named id (List.count_pos_iff.mp ?_)
  simp only [LoopWatch.ids, List.count_append]
  omega

omit [Field R] [LinearOrder R] [FloorRing R] in
theorem Kept.nodup (kept : r.Kept) : (r.recorded.map Prod.fst).Nodup := by
  refine List.nodup_iff_count_le_one.mpr fun id => ?_
  by_cases member : id ∈ r.recorded.map Prod.fst
  · exact Nat.le_of_eq (kept.settled member).1
  · rw [List.count_eq_zero.mpr member]
    exact Nat.zero_le 1

/-- **No motion is resolved twice.** Whatever is submitted, refused, displaced, written over or
restarted, every id on record is one that a submit handed out, stands there once, and belongs to a
motion that no longer runs nor waits for the core; the table holds the newest records. -/
theorem motions_resolve_at_most_once (lib : External R) (cfg : RtCoreConfig R) (r : ResolutionLog R)
    (reached : (machine lib cfg).Reachable (fun _ _ => True) r) :
    (r.recorded.map Prod.fst).Nodup ∧
    r.watch.rt.resolutions = r.recorded.reverse.take kResolutions ∧
    ∀ e ∈ r.recorded, 0 < e.1 ∧ e.1 < r.watch.rt.nextMotionId ∧
      e.1 ∉ r.watch.rt.flightIds ∧ r.watch.rt.core.active ≠ ⟨e.1, .running⟩ := by
  have kept := kept_of_reachable reached
  refine ⟨kept.nodup, kept.table, fun e member => ?_⟩
  have listed : e.1 ∈ r.recorded.map Prod.fst := List.mem_map_of_mem member
  obtain ⟨-, landed, idle⟩ := kept.settled listed
  obtain ⟨positive, below⟩ := kept.named listed
  refine ⟨positive, below, List.count_eq_zero.mp landed, fun runs => ?_⟩
  rw [runs] at idle
  simp [owed] at idle

/-- A plan displaces a servo target in the mailbox, and is then stopped. -/
theorem motions_resolve_at_most_once_displaced : ∃ r : ResolutionLog ℚ,
    r.recorded = [(1, .preempted), (2, .stopped)] ∧
    r.watch.rt.resolutions = [(2, .stopped), (1, .preempted)] ∧
    ∀ e ∈ r.recorded, r.watch.rt.core.active ≠ ⟨e.1, .running⟩ := by
  obtain ⟨r, reached, tested⟩ := (machine benchExternal defaultRtCoreConfig).reachable_of_run
    ([.start, benchClear] ++ benchSubmit benchServoRequest 0 ++ benchSubmit benchPlan 1 ++
      benchWindow 2 ++ [.stopBump, .stopStore 1] ++ benchWindow 0)
    (fun r => decide (r.recorded = [(1, .preempted), (2, .stopped)]))
    (by decide +kernel)
  have recorded := of_decide_eq_true tested
  obtain ⟨-, table, settled⟩ :=
    motions_resolve_at_most_once benchExternal defaultRtCoreConfig r reached
  rw [recorded] at table
  exact ⟨r, recorded, table, fun e member => (settled e member).2.2.2⟩

end ResolutionLog

end AiroFanuc.RtCore
