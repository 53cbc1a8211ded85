import AiroFanuc.Library.SlotRing
import AiroFanuc.RtCore.ResolvedOnce
import AiroFanuc.RtCore.SnapshotReads

/-! Motion handles as callers read them. The RT thread stores what is active and what is resolved
word by word, its events behind; any number of threads look a motion up word by word. -/

namespace AiroFanuc.RtCore

open TickEngine Library

/-- What the RT thread stores for its callers, next to the snapshot. -/
inductive BoardStore where
  | activeId (id : Nat)
  | activeStatus (st : MotionStatus)
  | record (id : Nat) (st : MotionStatus)
  | event (e : Event)
  deriving DecidableEq

/-- A `motion_status` call is in the table, or has found its id to be the active one. -/
inductive StatusStage where
  | scan (scan : Scan MotionStatus)
  | active

/-- An observer adds how many resolutions were in place at the call, and the events that
`drain_events` had handed out by then. -/
structure StatusCall where
  id : Nat
  since : Nat
  heard : List Event
  stage : StatusStage

/-- An answer, and how many resolutions had begun by then. -/
structure StatusAnswer where
  id : Nat
  since : Nat
  heard : List Event
  status : MotionStatus
  upto : Nat

/-- The loop's own copy of the event ring is left aside for `events`. An observer keeps the ids
shown as active, the events handed out, every event pushed, and how many found the ring full. -/
structure StatusBoard (R : Type) where
  register : ResolutionLog R
  todo : List BoardStore
  table : SlotRing MotionStatus
  activeId : Nat
  activeStatus : MotionStatus
  events : List Event
  calls : Nat → Option StatusCall
  shown : List Nat
  drained : List Event
  pushed : List Event
  lost : Nat
  answers : List StatusAnswer

inductive BoardLabel (R : Type) where
  | loop (l : Label R)
  | store
  | call (thread id : Nat)
  | read (thread : Nat)
  | drainEvents (max : Nat)

def Event.stores (e : Event) : List BoardStore :=
  match e.resolution with
  | some (id, st) => [.record id st, .event e]
  | none => [.event e]

def BoardStore.resolution : BoardStore → Option (Nat × MotionStatus)
  | .record id st => some (id, st)
  | .activeId _ | .activeStatus _ | .event _ => none

/-- The stores of a step of the RT thread, in their order. -/
def RealtimeCore.stores {R : Type} (s : RealtimeCore R) : Label R → List BoardStore
  | .pop =>
    match s.phase, s.mailbox with
    | .draining (some last), _ :: _ =>
      if last.motionId = 0 then []
      else [.record last.motionId .preempted,
        .event ⟨.motionPreempted, .none, last.motionId, s.core.health.epoch, 0⟩]
    | _, _ => []
  | .settle =>
    match s.phase with
    | .ticked _ _ => .activeId s.core.active.motionId :: .activeStatus s.core.active.status ::
        s.core.events.flatMap Event.stores
    | _ => []
  | _ => []

namespace StatusBoard

variable {R : Type}

/-- Whether the RT thread has stored all there was to store. -/
def free (r : StatusBoard R) : Bool := r.todo.isEmpty && r.table.naming.isNone

/-- `py_events_.push`: an event that finds the ring full is dropped. -/
def pushEvent (r : StatusBoard R) (e : Event) : StatusBoard R :=
  if r.events.length < kPyEventRoom then
    { r with events := r.events ++ [e], pushed := r.pushed ++ [e] }
  else { r with pushed := r.pushed ++ [e], lost := r.lost + 1 }

/-- The next store of the RT thread; a resolution takes two, its status and then its id. -/
def store (r : StatusBoard R) : Option (StatusBoard R) :=
  match r.table.naming with
  | some key => some { r with table := r.table.name kResolutions key }
  | none =>
    match r.todo with
    | [] => none
    | .activeId id :: rest =>
      some { r with todo := rest, activeId := id, shown := r.shown ++ [id] }
    | .activeStatus st :: rest => some { r with todo := rest, activeStatus := st }
    | .record id st :: rest => some { r with todo := rest, table := r.table.put id st }
    | .event e :: rest => some { r.pushEvent e with todo := rest }

def answer (r : StatusBoard R) (thread : Nat) (c : StatusCall) (st : MotionStatus) :
    StatusBoard R :=
  { r with
    calls := Function.update r.calls thread none
    answers := r.answers ++ [⟨c.id, c.since, c.heard, st, r.table.log.length⟩] }

/-- `motion_status` up to its first load: no motion has the id 0. -/
def call (r : StatusBoard R) (thread id : Nat) : StatusBoard R :=
  let c : StatusCall := ⟨id, r.table.done, r.drained, .scan (.slot 0)⟩
  if id = 0 then r.answer thread c .pending
  else { r with calls := Function.update r.calls thread (some c) }

/-- The next load of a `motion_status`, or its return. -/
def read (r : StatusBoard R) (thread : Nat) (c : StatusCall) : StatusBoard R :=
  match c.stage with
  | .scan (.found st) => r.answer thread c st
  | .scan .missed =>
    if r.activeId = c.id then
      { r with calls := Function.update r.calls thread (some { c with stage := .active }) }
    else r.answer thread c .pending
  | .scan scan =>
    { r with
      calls := Function.update r.calls thread
        (some { c with stage := .scan (r.table.look kResolutions c.id scan) }) }
  | .active => r.answer thread c r.activeStatus

variable [Field R] [LinearOrder R] [FloorRing R]

def step (lib : External R) (r : StatusBoard R) : BoardLabel R → Option (StatusBoard R)
  | .loop l =>
    if l.onRtThread = true ∧ r.free = false then none
    else (r.register.step lib l).map fun register =>
      { r with register := register, todo := r.todo ++ r.register.watch.rt.stores l }
  | .store => r.store
  | .call thread id => if (r.calls thread).isSome then none else some (r.call thread id)
  | .read thread => (r.calls thread).map (r.read thread)
  | .drainEvents max =>
    some { r with events := r.events.drop max, drained := r.drained ++ r.events.take max }

def machine (lib : External R) (cfg : RtCoreConfig R) :
    Machine (StatusBoard R) (BoardLabel R) where
  start :=
    { register := (ResolutionLog.machine lib cfg).start
      todo := []
      table := .new .pending
      activeId := 0
      activeStatus := .pending
      events := []
      calls := fun _ => none
      shown := []
      drained := []
      pushed := []
      lost := 0
      answers := [] }
  step := step lib

/-! ### The stores of a step -/

/-- No event goes out ahead of its resolution. -/
def Announced (log : List (Nat × MotionStatus)) : List BoardStore → Prop
  | [] => True
  | .event e :: rest => (∀ p ∈ e.resolution, p ∈ log) ∧ Announced log rest
  | .record id st :: rest => Announced (log ++ [(id, st)]) rest
  | .activeId _ :: rest | .activeStatus _ :: rest => Announced log rest

theorem announced_events (log : List (Nat × MotionStatus)) (events : List Event) :
    Announced log (events.flatMap Event.stores) := by
  induction events generalizing log with
  | nil => exact trivial
  | cons e rest ih =>
    rw [List.flatMap_cons, Event.stores]
    cases resolution : e.resolution with
    | none =>
      refine ⟨fun p announced => ?_, ih log⟩
      rw [resolution] at announced
      cases announced
    | some p =>
      refine ⟨fun q announced => ?_, ih _⟩
      rw [resolution] at announced
      cases announced
      exact List.mem_append_right _ (List.mem_singleton_self _)

omit [Field R] [LinearOrder R] [FloorRing R] in
theorem announced_stores (log : List (Nat × MotionStatus)) (s : RealtimeCore R) (l : Label R) :
    Announced log (s.stores l) := by
  cases l with
  | pop =>
    simp only [RealtimeCore.stores]
    split
    · split
      · exact trivial
      · refine ⟨fun p announced => ?_, trivial⟩
        simp only [Event.resolution, isResolutionEvent, eventToStatus] at announced
        split at announced
        · cases announced
          exact List.mem_append_right _ (List.mem_singleton_self _)
        · cases announced
    · exact trivial
  | settle =>
    simp only [RealtimeCore.stores]
    split
    · exact announced_events log s.core.events
    · exact trivial
  | start | stop | exit | join | clear | packet | timer | exchange | check | tick | submit | enqueue
  | stopBump | stopStore | request | reap | drainEvents => exact trivial

theorem stores_resolutions (events : List Event) :
    (events.flatMap Event.stores).filterMap BoardStore.resolution =
      events.filterMap Event.resolution := by
  induction events with
  | nil => rfl
  | cons e rest ih =>
    rw [List.flatMap_cons, List.filterMap_append, ih, List.filterMap_cons, Event.stores]
    cases e.resolution <;> rfl

omit [Field R] [LinearOrder R] [FloorRing R] in
/-- The stores of a step put on record what the step puts on record. -/
theorem stores_records (s : RealtimeCore R) (l : Label R) :
    (s.stores l).filterMap BoardStore.resolution = s.records l := by
  cases l with
  | pop =>
    cases phase : s.phase with
    | draining last =>
      cases waiting : s.mailbox with
      | nil => cases last <;> simp [RealtimeCore.stores, RealtimeCore.records, phase, waiting]
      | cons t rest =>
        cases last with
        | none => simp [RealtimeCore.stores, RealtimeCore.records, phase]
        | some last =>
          simp only [RealtimeCore.stores, RealtimeCore.records, phase, waiting]
          split
          · rfl
          · rfl
    | down | waiting | exchanging | drained | checked | ticked | exited =>
      simp [RealtimeCore.stores, RealtimeCore.records, phase]
  | settle =>
    cases phase : s.phase with
    | ticked last cmd =>
      simp only [RealtimeCore.stores, RealtimeCore.records, phase]
      exact stores_resolutions s.core.events
    | down | waiting | exchanging | draining | drained | checked | exited =>
      simp [RealtimeCore.stores, RealtimeCore.records, phase]
  | start | stop | exit | join | clear | packet | timer | exchange | check | tick | submit | enqueue
  | stopBump | stopStore | request | reap | drainEvents => rfl

omit [Field R] [LinearOrder R] [FloorRing R] in
/-- Callers store nothing for other callers. -/
theorem stores_callers (s : RealtimeCore R) {l : Label R} (caller : l.onRtThread = false) :
    s.stores l = [] := by
  cases l with
  | pop | settle => cases caller
  | start | stop | exit | join | clear | packet | timer | exchange | check | tick | submit | enqueue
  | stopBump | stopStore | request | reap | drainEvents => rfl

/-! ### What the observer knows -/

/-- The resolutions of these events are among the first `since` on record. -/
def Heard (log : List (Nat × MotionStatus)) (since : Nat) (events : List Event) : Prop :=
  ∀ e ∈ events, ∀ p ∈ e.resolution, ∃ m, m < since ∧ log[m]? = some p

end StatusBoard

structure StatusCall.Kept (table : SlotRing MotionStatus) (shown : List Nat) (c : StatusCall) :
    Prop where
  real : c.id ≠ 0
  earlier : c.since ≤ table.done
  heard : StatusBoard.Heard table.log c.since c.heard
  stage : match c.stage with
    | .scan scan => table.Fair kResolutions c.id c.since scan
    | .active => table.Fair kResolutions c.id c.since .missed ∧ c.id ∈ shown

/-- What an answer owes: the status on record, if its slot was not taken again meanwhile. -/
structure StatusAnswer.Told (table : SlotRing MotionStatus) (shown : List Nat) (a : StatusAnswer) :
    Prop where
  earlier : a.since ≤ table.done
  heard : StatusBoard.Heard table.log a.since a.heard
  told : ∀ m st, table.log[m]? = some (a.id, st) → m < a.since → a.upto ≤ m + kResolutions →
    a.status = st
  known : a.status ≠ .pending → (∃ st, (a.id, st) ∈ table.log) ∨ a.id ∈ shown

namespace StatusBoard

variable {R : Type} [Field R] [LinearOrder R] [FloorRing R]

structure Kept (r : StatusBoard R) : Prop where
  register : r.register.Kept
  table : r.table.Kept kResolutions
  recorded : r.table.log ++ r.todo.filterMap BoardStore.resolution = r.register.recorded
  announced : Announced r.table.log r.todo
  delivered : Heard r.table.log r.table.done (r.drained ++ r.events)
  ring : (r.drained ++ r.events).Sublist r.pushed ∧
    (r.drained ++ r.events).length + r.lost = r.pushed.length
  active : r.activeId ≠ 0 → r.activeId ∈ r.shown
  calls : ∀ thread c, r.calls thread = some c → c.Kept r.table r.shown
  answers : ∀ a ∈ r.answers, a.Told r.table r.shown

variable {lib : External R} {cfg : RtCoreConfig R} {r t : StatusBoard R}
  {table later : SlotRing MotionStatus} {shown longer : List Nat} {thread : Nat}

theorem Heard.mono {since : Nat} {events : List Event} (heard : Heard table.log since events)
    (grows : table.Grows later) : Heard later.log since events := by
  intro e member p resolves
  obtain ⟨m, early, found⟩ := heard e member p resolves
  exact ⟨m, early, prefix_getElem? grows.log found⟩

theorem call_mono {c : StatusCall} (kept : c.Kept table shown) (sound : table.Kept kResolutions)
    (grows : table.Grows later) (kin : ∀ id ∈ shown, id ∈ longer) : c.Kept later longer := by
  refine ⟨kept.real, kept.earlier.trans grows.done, kept.heard.mono grows, ?_⟩
  have stage := kept.stage
  split
  · rename_i scan at_scan
    rw [at_scan] at stage
    exact stage.mono sound kept.earlier grows
  · rename_i at_active
    rw [at_active] at stage
    exact ⟨stage.1.mono sound kept.earlier grows, kin _ stage.2⟩

theorem told_mono {a : StatusAnswer} (told : a.Told table shown) (sound : table.Kept kResolutions)
    (grows : table.Grows later) (kin : ∀ id ∈ shown, id ∈ longer) : a.Told later longer := by
  refine ⟨told.earlier.trans grows.done, told.heard.mono grows, fun m st found early => ?_,
    fun spoken => ?_⟩
  · obtain ⟨rest, longer⟩ := grows.log
    have within := sound.done_le
    have earlier := told.earlier
    rw [← longer, List.getElem?_append_left (by omega)] at found
    exact told.told m st found early
  · rcases told.known spoken with ⟨st, member⟩ | shown
    · exact .inl ⟨st, grows.log.subset member⟩
    · exact .inr (kin _ shown)

/-! ### Steps -/

theorem Kept.loop (kept : r.Kept) {l : Label R} (moved : r.step lib (.loop l) = some t) :
    t.Kept := by
  simp only [step] at moved
  split at moved
  · cases moved
  · rename_i ready
    obtain ⟨register, stepped, rfl⟩ := Option.map_eq_some_iff.mp moved
    have recorded : register.recorded = r.register.recorded ++ r.register.watch.rt.records l := by
      obtain ⟨_, _, rfl⟩ := Option.map_eq_some_iff.mp stepped
      rfl
    have announced : Announced r.table.log (r.todo ++ r.register.watch.rt.stores l) := by
      cases caller : l.onRtThread with
      | false =>
        rw [stores_callers _ caller, List.append_nil]
        exact kept.announced
      | true =>
        have done : r.todo = [] := by
          simp only [caller, true_and, Bool.not_eq_false] at ready
          simp only [free, Bool.and_eq_true, List.isEmpty_iff] at ready
          exact ready.1
        rw [done, List.nil_append]
        exact announced_stores r.table.log r.register.watch.rt l
    refine ⟨ResolutionLog.step_kept kept.register stepped, kept.table, ?_, announced, kept.delivered,
      kept.ring, kept.active, kept.calls, kept.answers⟩
    show r.table.log ++ (r.todo ++ _).filterMap BoardStore.resolution = register.recorded
    rw [List.filterMap_append, stores_records, ← List.append_assoc, kept.recorded, recorded]

omit [Field R] [LinearOrder R] [FloorRing R] in
/-- A store into the table. -/
theorem Kept.write (kept : r.Kept) {table : SlotRing MotionStatus} {todo : List BoardStore}
    (sound : table.Kept kResolutions) (grows : r.table.Grows table)
    (recorded : table.log ++ todo.filterMap BoardStore.resolution = r.register.recorded)
    (announced : Announced table.log todo) :
    Kept { r with table := table, todo := todo } where
  register := kept.register
  table := sound
  recorded := recorded
  announced := announced
  delivered := by
    intro e member p resolves
    obtain ⟨m, early, found⟩ := kept.delivered.mono grows e member p resolves
    exact ⟨m, Nat.lt_of_lt_of_le early grows.done, found⟩
  ring := kept.ring
  active := kept.active
  calls := fun thread c called =>
    call_mono (kept.calls thread c called) kept.table grows fun _ => id
  answers := fun a answered => told_mono (kept.answers a answered) kept.table grows fun _ => id

omit [Field R] [LinearOrder R] [FloorRing R] in
/-- A store beside the table. -/
theorem Kept.publish (kept : r.Kept) (todo : List BoardStore) (activeId : Nat)
    (activeStatus : MotionStatus) (more : List Nat)
    (recorded : todo.filterMap BoardStore.resolution = r.todo.filterMap BoardStore.resolution)
    (announced : Announced r.table.log todo)
    (active : activeId ≠ 0 → activeId ∈ r.shown ++ more) :
    Kept { r with
      todo := todo, activeId := activeId, activeStatus := activeStatus
      shown := r.shown ++ more } where
  register := kept.register
  table := kept.table
  recorded := by
    rw [recorded]
    exact kept.recorded
  announced := announced
  delivered := kept.delivered
  ring := kept.ring
  active := active
  calls := fun thread c called => call_mono (kept.calls thread c called) kept.table
    ⟨List.prefix_rfl, Nat.le_refl _⟩ fun _ => List.mem_append_left _
  answers := fun a answered => told_mono (kept.answers a answered) kept.table
    ⟨List.prefix_rfl, Nat.le_refl _⟩ fun _ => List.mem_append_left _

omit [Field R] [LinearOrder R] [FloorRing R] in
/-- An event reaches the ring with its resolution in place, or is dropped. -/
theorem Kept.push (kept : r.Kept) {e : Event} {rest : List BoardStore}
    (todo : r.todo = .event e :: rest) (idle : r.table.naming = none) :
    Kept { r.pushEvent e with todo := rest } := by
  have announced := kept.announced
  have recorded := kept.recorded
  rw [todo] at announced recorded
  obtain ⟨told, announced⟩ := announced
  obtain ⟨sublist, length⟩ := kept.ring
  unfold pushEvent
  split
  · refine ⟨kept.register, kept.table, recorded, announced, ?_, ?_, kept.active, kept.calls,
      kept.answers⟩
    · show Heard r.table.log r.table.done (r.drained ++ (r.events ++ [e]))
      rw [← List.append_assoc]
      intro e' member p resolves
      rcases List.mem_append.mp member with early | late
      · exact kept.delivered e' early p resolves
      · rw [List.mem_singleton.mp late] at resolves
        obtain ⟨m, found⟩ := List.mem_iff_getElem?.mp (told p resolves)
        have within := (List.getElem?_eq_some_iff.mp found).1
        exact ⟨m, kept.table.free idle ▸ within, found⟩
    · show (r.drained ++ (r.events ++ [e])).Sublist (r.pushed ++ [e]) ∧
        (r.drained ++ (r.events ++ [e])).length + r.lost = (r.pushed ++ [e]).length
      rw [← List.append_assoc]
      refine ⟨sublist.append (List.Sublist.refl [e]), ?_⟩
      simp only [List.length_append, List.length_singleton] at length ⊢
      omega
  · refine ⟨kept.register, kept.table, recorded, announced, kept.delivered, ?_, kept.active,
      kept.calls, kept.answers⟩
    show (r.drained ++ r.events).Sublist (r.pushed ++ [e]) ∧
      (r.drained ++ r.events).length + (r.lost + 1) = (r.pushed ++ [e]).length
    refine ⟨sublist.trans (List.sublist_append_left _ _), ?_⟩
    simp only [List.length_append, List.length_singleton] at length ⊢
    omega

omit [Field R] [LinearOrder R] [FloorRing R] in
theorem Kept.store (kept : r.Kept) (moved : r.store = some t) : t.Kept := by
  unfold StatusBoard.store at moved
  cases naming : r.table.naming with
  | some key =>
    simp only [naming, Option.some.injEq] at moved
    subst moved
    exact kept.write (kept.table.name naming) (SlotRing.name_grows _ _ _) kept.recorded
      kept.announced
  | none =>
    simp only [naming] at moved
    have recorded := kept.recorded
    have announced := kept.announced
    cases todo : r.todo with
    | nil =>
      rw [todo] at moved
      cases moved
    | cons next rest =>
      rw [todo] at moved recorded announced
      cases next with
      | activeId id =>
        cases moved
        exact kept.publish rest id r.activeStatus [id] (by rw [todo]; rfl) announced
          fun _ => List.mem_append_right _ (List.mem_singleton_self id)
      | activeStatus st =>
        cases moved
        have published := kept.publish rest r.activeId st [] (by rw [todo]; rfl) announced
          fun real => List.mem_append_left _ (kept.active real)
        rwa [List.append_nil] at published
      | record id st =>
        cases moved
        refine kept.write (kept.table.put naming id st) (SlotRing.put_grows _ _ _) ?_ announced
        show (r.table.log ++ [(id, st)]) ++ rest.filterMap BoardStore.resolution = _
        rw [List.append_assoc]
        exact recorded
      | event e =>
        cases moved
        exact kept.push todo naming

omit [Field R] [LinearOrder R] [FloorRing R] in
/-- A motion stands in the table's log once. -/
theorem Kept.once (kept : r.Kept) {l m id : Nat} {v w : MotionStatus}
    (first : r.table.log[l]? = some (id, v)) (second : r.table.log[m]? = some (id, w)) : l = m := by
  have single : (r.table.log.map Prod.fst).Nodup := by
    have all := kept.register.nodup
    rw [← kept.recorded, List.map_append] at all
    exact all.of_append_left
  have within : l < (r.table.log.map Prod.fst).length := by
    rw [List.length_map]
    exact (List.getElem?_eq_some_iff.mp first).1
  refine (List.getElem?_inj within single).mp ?_
  rw [List.getElem?_map, List.getElem?_map, first, second]
  rfl

omit [Field R] [LinearOrder R] [FloorRing R] in
theorem Kept.answer (kept : r.Kept) {c : StatusCall} {st : MotionStatus}
    (told : StatusAnswer.Told r.table r.shown ⟨c.id, c.since, c.heard, st, r.table.log.length⟩) :
    (r.answer thread c st).Kept where
  register := kept.register
  table := kept.table
  recorded := kept.recorded
  announced := kept.announced
  delivered := kept.delivered
  ring := kept.ring
  active := kept.active
  calls := by
    intro k d called
    have called : Function.update r.calls thread none k = some d := called
    by_cases here : k = thread
    · rw [here, Function.update_self] at called
      cases called
    · rw [Function.update_of_ne here] at called
      exact kept.calls k d called
  answers := by
    intro a answered
    rcases List.mem_append.mp answered with early | late
    · exact kept.answers a early
    · rw [List.mem_singleton.mp late]
      exact told

omit [Field R] [LinearOrder R] [FloorRing R] in
theorem Kept.setCall (kept : r.Kept) {c : StatusCall} (sound : c.Kept r.table r.shown) :
    Kept { r with calls := Function.update r.calls thread (some c) } where
  register := kept.register
  table := kept.table
  recorded := kept.recorded
  announced := kept.announced
  delivered := kept.delivered
  ring := kept.ring
  active := kept.active
  calls := by
    intro k d called
    have called : Function.update r.calls thread (some c) k = some d := called
    by_cases here : k = thread
    · rw [here, Function.update_self, Option.some.injEq] at called
      exact called ▸ sound
    · rw [Function.update_of_ne here] at called
      exact kept.calls k d called
  answers := kept.answers

omit [Field R] [LinearOrder R] [FloorRing R] in
theorem Kept.delivered_drained (kept : r.Kept) : Heard r.table.log r.table.done r.drained :=
  fun e member => kept.delivered e (List.mem_append_left _ member)

omit [Field R] [LinearOrder R] [FloorRing R] in
theorem Kept.call (kept : r.Kept) (id : Nat) : (r.call thread id).Kept := by
  simp only [StatusBoard.call]
  split
  · rename_i zero
    refine kept.answer ⟨Nat.le_refl _, kept.delivered_drained, ?_, fun spoken => absurd rfl spoken⟩
    -- No submit hands out the id 0, so none is on record under it.
    intro m st found
    have member : (id, st) ∈ r.register.recorded := by
      rw [← kept.recorded]
      exact List.mem_append_left _ (List.mem_of_getElem? found)
    have positive := (kept.register.named (List.mem_map_of_mem member)).1
    exact absurd zero (Nat.ne_of_gt positive)
  · rename_i real
    exact kept.setCall ⟨real, Nat.le_refl _, kept.delivered_drained,
      SlotRing.start_fair kResolutions r.table id⟩

omit [Field R] [LinearOrder R] [FloorRing R] in
/-- What a call that found nothing in the table may answer. -/
theorem Kept.missed (kept : r.Kept) {c : StatusCall} (sound : c.Kept r.table r.shown)
    (missed : r.table.Fair kResolutions c.id c.since .missed) {st : MotionStatus}
    (known : st ≠ .pending → c.id ∈ r.shown) : (r.answer thread c st).Kept := by
  refine kept.answer ⟨sound.earlier, sound.heard, fun m st' found early near => ?_,
    fun spoken => .inr (known spoken)⟩
  have passed := missed m st' found early
  have within := kept.table.done_le
  have near : r.table.log.length ≤ m + kResolutions := near
  omega

omit [Field R] [LinearOrder R] [FloorRing R] in
theorem Kept.read (kept : r.Kept) {c : StatusCall} (called : r.calls thread = some c) :
    (r.read thread c).Kept := by
  have sound := kept.calls thread c called
  have stage := sound.stage
  unfold StatusBoard.read
  cases at_stage : c.stage with
  | active =>
    rw [at_stage] at stage
    exact kept.missed sound stage.1 fun _ => stage.2
  | scan scan =>
    rw [at_stage] at stage
    have looked := stage.look kept.table sound.real sound.earlier (by decide)
    cases scan with
    | found st =>
      refine kept.answer ⟨sound.earlier, sound.heard, fun m st' found early near => ?_,
        fun _ => ?_⟩
      · have once (l : Nat) (w : MotionStatus) (other : r.table.log[l]? = some (c.id, w)) : l = m :=
          kept.once other found
        exact (stage.found_of_recorded kept.table found early once near).2 st rfl
      · obtain ⟨m, st', found, -⟩ := stage
        exact .inl ⟨st', List.mem_of_getElem? found⟩
    | missed =>
      simp only
      split
      · rename_i same
        have shown := kept.active (same ▸ sound.real)
        exact kept.setCall ⟨sound.real, sound.earlier, sound.heard, stage, same ▸ shown⟩
      · exact kept.missed sound stage fun spoken => absurd rfl spoken
    | slot i => exact kept.setCall ⟨sound.real, sound.earlier, sound.heard, looked⟩
    | named i => exact kept.setCall ⟨sound.real, sound.earlier, sound.heard, looked⟩

theorem step_kept (kept : r.Kept) {l : BoardLabel R} (moved : r.step lib l = some t) : t.Kept := by
  cases l with
  | loop l => exact kept.loop moved
  | store => exact kept.store moved
  | call thread id =>
    simp only [step] at moved
    split at moved
    · cases moved
    · cases moved
      exact kept.call id
  | read thread =>
    obtain ⟨c, called, rfl⟩ := Option.map_eq_some_iff.mp moved
    exact kept.read called
  | drainEvents max =>
    cases moved
    have same : (r.drained ++ r.events.take max) ++ r.events.drop max = r.drained ++ r.events := by
      rw [List.append_assoc, List.take_append_drop]
    refine ⟨kept.register, kept.table, kept.recorded, kept.announced, ?_, ?_, kept.active,
      kept.calls, kept.answers⟩
    · rw [same]
      exact kept.delivered
    · rw [same]
      exact kept.ring

theorem start_kept (lib : External R) (cfg : RtCoreConfig R) : (machine lib cfg).start.Kept where
  register := ⟨LoopWatch.start_numbered lib cfg, rfl, fun _ => Nat.le_refl _⟩
  table := SlotRing.new_kept kResolutions MotionStatus.pending
  recorded := rfl
  announced := trivial
  delivered := by simp [machine, Heard]
  ring := ⟨List.Sublist.refl _, rfl⟩
  active := fun real => absurd rfl real
  calls := by simp [machine]
  answers := by simp [machine]

/-- **A motion's status is told as it went on record.** However the loads of any number of
`motion_status` calls fall between the stores of the RT thread, a call that returns before 1024
further resolutions have begun answers the status on record if that was in place at the call, and
in particular if the motion's event had been drained by then. Any answer but PENDING is for a
motion that is on record or was shown as the active one. Events are drained in the order they
were pushed, each once, and are missing only where the ring was full. -/
theorem motion_status_tells (lib : External R) (cfg : RtCoreConfig R) (r : StatusBoard R)
    (reached : (machine lib cfg).Reachable (fun _ _ => True) r) :
    (∀ a ∈ r.answers,
      (∀ m st, r.register.recorded[m]? = some (a.id, st) → m < a.since →
        a.upto ≤ m + kResolutions → a.status = st) ∧
      (∀ e ∈ a.heard, ∀ st, e.resolution = some (a.id, st) →
        ∃ m, r.register.recorded[m]? = some (a.id, st) ∧
          (a.upto ≤ m + kResolutions → a.status = st)) ∧
      (a.status ≠ .pending → (∃ st, (a.id, st) ∈ r.register.recorded) ∨ a.id ∈ r.shown)) ∧
    (r.drained ++ r.events).Sublist r.pushed ∧
    (r.drained ++ r.events).length + r.lost = r.pushed.length := by
  have kept : r.Kept := by
    refine reached.invariant (start_kept lib cfg) ?_
    intro before after l kept _ moved
    exact step_kept kept moved
  have longer : r.table.log <+: r.register.recorded := ⟨_, kept.recorded⟩
  refine ⟨fun a answered => ?_, kept.ring⟩
  obtain ⟨earlier, heard, told, known⟩ := kept.answers a answered
  refine ⟨fun m st found early near => ?_, fun e member st resolves => ?_, fun spoken => ?_⟩
  · have within := kept.table.done_le
    rw [← kept.recorded, List.getElem?_append_left (by omega)] at found
    exact told m st found early near
  · obtain ⟨m, early, found⟩ := heard e member (a.id, st) resolves
    exact ⟨m, prefix_getElem? longer found, told m st found early⟩
  · rcases known spoken with ⟨st, member⟩ | shown
    · exact .inl ⟨st, longer.subset member⟩
    · exact .inr shown

/-- A plan displaces a servo target in the mailbox; once a caller has drained the event, it reads
the servo target's end. -/
theorem motion_status_tells_displaced : ∃ r : StatusBoard ℚ, ∃ a ∈ r.answers, a.id = 1 ∧
    (∃ e ∈ a.heard, e.resolution = some (1, .preempted)) ∧ a.status = .preempted := by
  obtain ⟨r, reached, tested⟩ := (machine benchExternal defaultRtCoreConfig).reachable_of_run
    (([.start, benchClear] ++ benchSubmit benchServoRequest 0 ++ benchSubmit benchPlan 1 ++
      [.timer, .exchange, .exchange, .exchange, .exchange, .exchange, .pop, .pop] :
        List (Label ℚ)).map .loop ++
      [.store, .store, .store, .drainEvents 1, .call 0 1, .read 0, .loop .pop, .read 0, .read 0])
    (fun r => r.answers.any fun a => decide (a.id = 1 ∧ a.upto ≤ kResolutions ∧
      ∃ e ∈ a.heard, e.resolution = some (1, .preempted)))
    (by decide +kernel)
  obtain ⟨a, answered, tested⟩ := List.any_eq_true.mp tested
  obtain ⟨same, soon, e, heard, resolves⟩ := of_decide_eq_true tested
  obtain ⟨-, told, -⟩ :=
    (motion_status_tells benchExternal defaultRtCoreConfig r reached).1 a answered
  obtain ⟨m, -, kept⟩ := told e heard .preempted (by rw [same]; exact resolves)
  exact ⟨r, a, answered, same, ⟨e, heard, resolves⟩, kept (by omega)⟩

end StatusBoard

end AiroFanuc.RtCore
