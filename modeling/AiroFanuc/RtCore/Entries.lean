import AiroFanuc.RtCore.Accounts

/-! Fault, park and recovery entries: what bumps the epoch, and what a stage of a tick may
do to the epoch, its counts by reason, and the recovery under way. -/

namespace AiroFanuc.RtCore

open TickEngine Library

/-- The reason under which a fault of this cause is counted. -/
def FaultReason.bump : FaultReason → BumpReason
  | .eStop => .eStopEdge
  | .inError | .internal => .faultEntry
  | .motionNotPossible | .teachMode | .contactStop | .safetyClamp => .killDegradedEntry
  | .rxDegraded => .safeFollowEntry
  | .watchdogExpired => .deadmanTrip
  | .supervisorLost => .supervisorLost
  | .none | .rxSilent | .forceGuard | .rejectedStartMismatch => .none

/-- The reason under which an entry event is counted. -/
def Event.bump (e : Event) : Option BumpReason :=
  match e.type with
  | .faultEntry => some e.reason.bump
  | .rxSilentEntry => some .rxSilentEntry
  | .recoveryComplete => some .recoveryComplete
  | _ => none

def entries (log : List Event) (r : BumpReason) : Nat := log.countP fun e => e.bump = some r

/-- The entries of any reason. -/
def entryCount (log : List Event) : Nat := log.countP fun e => e.bump.isSome

def kBumpReasons : List BumpReason :=
  [.none, .faultEntry, .safeFollowEntry, .killDegradedEntry, .recoveryComplete, .eStopEdge,
    .rxSilentEntry, .deadmanTrip, .supervisorLost]

def bumpTotal (counts : BumpReason → Nat) : Nat := (kBumpReasons.map counts).sum

def bumped (counts : BumpReason → Nat) (r : BumpReason) : BumpReason → Nat :=
  Function.update counts r (counts r + 1)

theorem bumpTotal_bumped (counts : BumpReason → Nat) (r : BumpReason) :
    bumpTotal (bumped counts r) = bumpTotal counts + 1 := by
  cases r <;>
    · simp only [bumpTotal, kBumpReasons, bumped, List.map_cons, List.map_nil, List.sum_cons,
        List.sum_nil, Function.update_apply, reduceCtorEq, if_true, if_false]
      omega

/-- The fault entries, whatever their cause. -/
def faultTotal (counts : BumpReason → Nat) : Nat :=
  counts .faultEntry + counts .safeFollowEntry + counts .killDegradedEntry + counts .eStopEdge +
    counts .deadmanTrip + counts .supervisorLost

theorem faultTotal_bumped (counts : BumpReason → Nat) (r : BumpReason) :
    faultTotal (bumped counts r) = faultTotal counts +
      if r ≠ .none ∧ r ≠ .rxSilentEntry ∧ r ≠ .recoveryComplete then 1 else 0 := by
  cases r <;>
    · simp only [faultTotal, bumped, Function.update_apply, reduceCtorEq, if_true, if_false, ne_eq,
        not_true_eq_false, not_false_eq_true, and_self, and_false, false_and, Nat.add_zero]
      try omega

theorem FaultReason.bump_fault (cause : FaultReason) :
    cause.bump ≠ .rxSilentEntry ∧ cause.bump ≠ .recoveryComplete := by
  cases cause <;> exact ⟨by decide, by decide⟩

/-- The events, the epoch, its counts and the recovery: what an entry writes. -/
structure Register where
  events : List Event
  epoch : Nat
  bumpCounts : BumpReason → Nat
  recovery : Recovery

namespace Register

def note (r : Register) (e : Event) : Register := { r with events := pushEvent r.events e }

def bump (r : Register) (reason : BumpReason) : Register :=
  { r with epoch := r.epoch + 1, bumpCounts := bumped r.bumpCounts reason }

/-- What one write of a stage does; only these causes are faulted on. -/
inductive Entry (causes : FaultReason → Prop) : Register → Register → Prop
  | note (r : Register) (e : Event) : e.bump = none → Entry causes r (r.note e)
  | fault (r : Register) (e : Event) (cause : FaultReason) : causes cause →
      e.bump = some cause.bump → cause.bump ≠ .none →
      Entry causes r { (r.bump cause.bump).note e with recovery := ⟨false, 0⟩ }
  | park (r : Register) (e : Event) : e.bump = some .rxSilentEntry →
      Entry causes r ((r.bump .rxSilentEntry).note e)

abbrev Entries (causes : FaultReason → Prop) : Register → Register → Prop :=
  Relation.ReflTransGen (Entry causes)

variable {causes wider : FaultReason → Prop} {r s : Register}

theorem Entries.mono (chain : Entries causes r s) (weaker : ∀ c, causes c → wider c) :
    Entries wider r s := by
  induction chain with
  | refl => exact .refl
  | tail _ last ih =>
    apply ih.tail
    cases last with
    | note e silent => exact .note _ e silent
    | fault e cause allowed counted real => exact .fault _ e cause (weaker _ allowed) counted real
    | park e counted => exact .park _ e counted

theorem Entry.grows (entry : Entry causes r s) : r.events <+: s.events := by
  cases entry with
  | note e silent => exact pushEvent_grows _ e
  | fault e cause allowed counted real => exact pushEvent_grows _ e
  | park e counted => exact pushEvent_grows _ e

theorem Entries.grows (chain : Entries causes r s) : r.events <+: s.events := by
  induction chain with
  | refl => exact List.prefix_rfl
  | tail _ last ih => exact ih.trans last.grows

theorem Entry.total (entry : Entry causes r s) :
    s.epoch + bumpTotal r.bumpCounts = r.epoch + bumpTotal s.bumpCounts := by
  cases entry with
  | note e silent => rfl
  | fault e cause allowed counted real =>
    simp only [Register.note, bump, bumpTotal_bumped]
    omega
  | park e counted =>
    simp only [Register.note, bump, bumpTotal_bumped]
    omega

/-- The epoch moves with the counts. -/
theorem Entries.total (chain : Entries causes r s) :
    s.epoch + bumpTotal r.bumpCounts = r.epoch + bumpTotal s.bumpCounts := by
  induction chain with
  | refl => rfl
  | tail _ last ih =>
    have step := last.total
    omega

/-- An event that did not fill the ring is in it. -/
theorem pushEvent_stored {ring : List Event} {e : Event}
    (fits : (pushEvent ring e).length < kEventRoom) : pushEvent ring e = ring ++ [e] := by
  unfold pushEvent at fits ⊢
  split
  · rfl
  · rename_i full
    rw [if_neg full] at fits
    exact absurd fits full

theorem entries_append (log : List Event) (e : Event) (reason : BumpReason) :
    entries (log ++ [e]) reason = entries log reason + if e.bump = some reason then 1 else 0 := by
  simp only [entries, List.countP_append, List.countP_singleton, decide_eq_true_eq]

theorem entryCount_append (log : List Event) (e : Event) :
    entryCount (log ++ [e]) = entryCount log + if e.bump.isSome then 1 else 0 := by
  simp only [entryCount, List.countP_append, List.countP_singleton]

theorem bumped_apply (counts : BumpReason → Nat) (reason other : BumpReason) :
    bumped counts reason other = counts other + if reason = other then 1 else 0 := by
  by_cases same : other = reason
  · subst same
    simp [bumped]
  · simp [bumped, Function.update_of_ne same, Ne.symm same]

/-- Each write counts in the log what it counts by reason. -/
theorem Entry.tally (entry : Entry causes r s) (fits : s.events.length < kEventRoom)
    (reason : BumpReason) :
    entries s.events reason + r.bumpCounts reason = entries r.events reason + s.bumpCounts reason ∧
      entryCount s.events + r.epoch = entryCount r.events + s.epoch := by
  cases entry with
  | note e silent =>
    have stored : (r.note e).events = r.events ++ [e] := pushEvent_stored fits
    rw [stored, entries_append, entryCount_append, silent]
    exact ⟨rfl, rfl⟩
  | fault e cause allowed counted real =>
    have stored : pushEvent r.events e = r.events ++ [e] := pushEvent_stored fits
    simp only [Register.note, bump, stored, entries_append, entryCount_append, bumped_apply,
      counted, Option.some.injEq, Option.isSome_some, if_true]
    constructor <;> omega
  | park e counted =>
    have stored : pushEvent r.events e = r.events ++ [e] := pushEvent_stored fits
    simp only [Register.note, bump, stored, entries_append, entryCount_append, bumped_apply,
      counted, Option.some.injEq, Option.isSome_some, if_true]
    constructor <;> omega

theorem Entries.tally (chain : Entries causes r s) (fits : s.events.length < kEventRoom)
    (reason : BumpReason) :
    entries s.events reason + r.bumpCounts reason = entries r.events reason + s.bumpCounts reason ∧
      entryCount s.events + r.epoch = entryCount r.events + s.epoch := by
  induction chain with
  | refl => exact ⟨rfl, rfl⟩
  | tail _ last ih =>
    obtain ⟨step, count⟩ := last.tally fits reason
    obtain ⟨before, total⟩ := ih (last.grows.length_le.trans_lt fits)
    constructor <;> omega

theorem Entry.epoch_mono (entry : Entry causes r s) : r.epoch ≤ s.epoch := by
  cases entry with
  | note e silent => exact le_rfl
  | fault e cause allowed counted real => exact Nat.le_succ _
  | park e counted => exact Nat.le_succ _

theorem Entries.epoch_mono (chain : Entries causes r s) : r.epoch ≤ s.epoch := by
  induction chain with
  | refl => exact le_rfl
  | tail _ last ih => exact ih.trans last.epoch_mono

/-- Two states of the register between which the log and the counts agree. -/
structure Tallies (r s : Register) : Prop where
  grows : r.events <+: s.events
  total : s.epoch + bumpTotal r.bumpCounts = r.epoch + bumpTotal s.bumpCounts
  counted : s.events.length < kEventRoom → ∀ reason,
    entries s.events reason + r.bumpCounts reason = entries r.events reason + s.bumpCounts reason
  epoch : s.events.length < kEventRoom →
    entryCount s.events + r.epoch = entryCount r.events + s.epoch

theorem Entries.tallies (chain : Entries causes r s) : r.Tallies s where
  grows := chain.grows
  total := chain.total
  counted := fun fits reason => (chain.tally fits reason).1
  epoch := fun fits => (chain.tally fits .none).2

theorem Tallies.trans {q : Register} (first : q.Tallies r) (second : r.Tallies s) :
    q.Tallies s where
  grows := first.grows.trans second.grows
  total := by
    have early := first.total
    have late := second.total
    omega
  counted := by
    intro fits reason
    have early := first.counted (second.grows.length_le.trans_lt fits) reason
    have late := second.counted fits reason
    omega
  epoch := by
    intro fits
    have early := first.epoch (second.grows.length_le.trans_lt fits)
    have late := second.epoch fits
    omega

/-- A recovery completes: counted once, with the event that reports it. -/
def complete (r : Register) (e e' : Event) : Register :=
  { ((r.bump .recoveryComplete).note e).note e' with recovery := ⟨false, 0⟩ }

theorem complete_tallies (r : Register) (e e' : Event) (silent : e.bump = none)
    (counted : e'.bump = some .recoveryComplete) : r.Tallies (r.complete e e') where
  grows := (pushEvent_grows _ e).trans (pushEvent_grows _ e')
  total := by
    simp only [complete, Register.note, bump, bumpTotal_bumped]
    omega
  counted := by
    intro fits reason
    have fits' : (pushEvent r.events e).length < kEventRoom :=
      (pushEvent_grows _ e').length_le.trans_lt fits
    have stored : (r.complete e e').events = r.events ++ [e] ++ [e'] := by
      rw [← pushEvent_stored fits']
      exact pushEvent_stored fits
    rw [stored, entries_append, entries_append, silent, counted]
    simp only [complete, Register.note, bump, bumped_apply, Option.some.injEq, reduceCtorEq,
      if_false]
    omega
  epoch := by
    intro fits
    have fits' : (pushEvent r.events e).length < kEventRoom :=
      (pushEvent_grows _ e').length_le.trans_lt fits
    have stored : (r.complete e e').events = r.events ++ [e] ++ [e'] := by
      rw [← pushEvent_stored fits']
      exact pushEvent_stored fits
    rw [stored, entryCount_append, entryCount_append, silent, counted]
    simp only [complete, Register.note, bump, Option.isSome_none, Option.isSome_some, if_true,
      Bool.false_eq_true, if_false]
    omega

/-- A reason that none of the causes counts under stays as it is. -/
theorem Entries.counts_kept (chain : Entries causes r s) {reason : BumpReason}
    (other : ∀ c, causes c → c.bump ≠ reason) (unparked : reason ≠ .rxSilentEntry) :
    s.bumpCounts reason = r.bumpCounts reason := by
  induction chain with
  | refl => rfl
  | tail _ last ih =>
    rw [← ih]
    cases last with
    | note e silent => rfl
    | fault e cause allowed counted real =>
      simp only [Register.note, bump, bumped_apply, other cause allowed, if_false, Nat.add_zero]
    | park e counted =>
      simp only [Register.note, bump, bumped_apply, Ne.symm unparked, if_false, Nat.add_zero]

/-- A recovery is left alone, or cancelled by a fault entry. -/
theorem Entries.cancels (chain : Entries causes r s) :
    (faultTotal s.bumpCounts = faultTotal r.bumpCounts ∧ s.recovery = r.recovery) ∨
      (faultTotal r.bumpCounts < faultTotal s.bumpCounts ∧ s.recovery = ⟨false, 0⟩) := by
  induction chain with
  | refl => exact .inl ⟨rfl, rfl⟩
  | tail _ last ih =>
    cases last with
    | note e silent => exact ih
    | fault e cause allowed counted real =>
      obtain ⟨unparked, unrecovered⟩ := cause.bump_fault
      have step (counts : BumpReason → Nat) :
          faultTotal (bumped counts cause.bump) = faultTotal counts + 1 := by
        rw [faultTotal_bumped, if_pos ⟨real, unparked, unrecovered⟩]
      refine .inr ⟨?_, rfl⟩
      simp only [Register.note, bump, step]
      rcases ih with ⟨same, -⟩ | ⟨more, -⟩ <;> omega
    | park e counted =>
      simp only [Register.note, bump, faultTotal_bumped, ne_eq, not_true_eq_false, and_false,
        false_and, if_false, Nat.add_zero]
      exact ih

end Register

/-! ### The stages of a tick -/

namespace TickCore

open Register

variable {R : Type} [Field R] [LinearOrder R] [FloorRing R]

def register (s : TickCore R) : Register :=
  ⟨s.events, s.health.epoch, s.health.bumpCounts, s.recovery⟩

/-- Everything but a lapse of the supervisor's heartbeat. -/
def routine (cause : FaultReason) : Prop := cause ≠ .supervisorLost

omit [Field R] [LinearOrder R] [FloorRing R] in
theorem emit_entries {causes : FaultReason → Prop} (s : TickCore R) (type : EventType)
    (reason : FaultReason) (value : Int) (motionId : Nat)
    (silent : (Event.mk type reason motionId s.health.epoch value).bump = none) :
    Entries causes s.register (s.emit type reason value motionId).register :=
  .single (.note s.register _ silent)

omit [Field R] [LinearOrder R] [FloorRing R] in
theorem resolveActive_entries {causes : FaultReason → Prop} (s : TickCore R) (st : MotionStatus) :
    Entries causes s.register (s.resolveActive st).register := by
  unfold resolveActive
  split
  · refine .single (.note s.register _ ?_)
    cases st <;> rfl
  · exact .refl

omit [FloorRing R] in
theorem beginBrake_entries {causes : FaultReason → Prop} (s : TickCore R) (st : MotionStatus)
    (reason : FaultReason) : Entries causes s.register (s.beginBrake st reason).register :=
  resolveActive_entries s st

/-- The motion's terminal event, if one runs. -/
def resolution (s : TickCore R) (st : MotionStatus) (cause : FaultReason) (epoch : Nat) :
    List Event :=
  if s.active.status = .running then [⟨motionEventFor st, cause, s.active.motionId, epoch, 0⟩]
  else []

omit [Field R] [LinearOrder R] [FloorRing R] in
theorem resolution_silent {s : TickCore R} {st : MotionStatus} {cause : FaultReason} {epoch : Nat} :
    ∀ e ∈ s.resolution st cause epoch, e.bump = none := by
  intro e member
  unfold resolution at member
  split at member
  · rw [List.mem_singleton.mp member]
    cases st <;> rfl
  · cases member

theorem notes_entries {causes : FaultReason → Prop} (r : Register) (notes : List Event)
    (silent : ∀ e ∈ notes, e.bump = none) : Entries causes r (notes.foldl Register.note r) := by
  induction notes generalizing r with
  | nil => exact .refl
  | cons e rest ih =>
    have first : Entries causes r (r.note e) := .single (.note r e (silent e List.mem_cons_self))
    exact first.trans (ih _ fun e member => silent e (List.mem_cons_of_mem _ member))

/-- A fault entry counts once, under the reason of its cause, and cancels a recovery. -/
theorem enterFault_entries {causes : FaultReason → Prop} (s : TickCore R) (cause : FaultReason)
    (allowed : causes cause) (real : cause.bump ≠ .none) (st : MotionStatus) :
    Entries causes s.register (s.enterFault cause cause.bump st).register := by
  -- The counts are written first, but no event before the entry's own depends on them.
  let epoch := s.health.epoch + 1
  have noted : Entries causes s.register (List.foldl Register.note s.register
      (⟨.epochBump, .none, 0, epoch, cause.bump.ordinal⟩ :: s.resolution st cause epoch ++
        [⟨.safeFollowEntry, cause, 0, epoch, 0⟩])) := by
    apply notes_entries
    intro e member
    rcases List.mem_append.mp member with early | last
    · rcases List.mem_cons.mp early with rfl | resolved
      · rfl
      · exact resolution_silent e resolved
    · rw [List.mem_singleton.mp last]
      rfl
  refine noted.tail ?_
  have entered := Entry.fault (List.foldl Register.note s.register
      (⟨.epochBump, .none, 0, epoch, cause.bump.ordinal⟩ :: s.resolution st cause epoch ++
        [⟨.safeFollowEntry, cause, 0, epoch, 0⟩])) ⟨.faultEntry, cause, 0, epoch, 0⟩ cause allowed
      rfl real
  convert entered using 1
  by_cases runs : s.active.status = .running
  · simp only [enterFault, resolveActive, bumpEpoch, emit, runs, register, resolution, if_true]
    rfl
  · simp only [enterFault, resolveActive, bumpEpoch, emit, runs, register, resolution, if_false]
    rfl

omit [Field R] [LinearOrder R] [FloorRing R] in
/-- A park entry counts once, and leaves a recovery under way. -/
theorem enterRxSilent_entries {causes : FaultReason → Prop} (s : TickCore R) :
    Entries causes s.register s.enterRxSilent.register := by
  let epoch := s.health.epoch + 1
  have noted : Entries causes s.register (List.foldl Register.note s.register
      (⟨.epochBump, .none, 0, epoch, BumpReason.rxSilentEntry.ordinal⟩ ::
        s.resolution .faulted .rxSilent epoch)) := by
    apply notes_entries
    intro e member
    rcases List.mem_cons.mp member with rfl | resolved
    · rfl
    · exact resolution_silent e resolved
  refine noted.tail ?_
  have entered : Entry causes _ _ := Entry.park (List.foldl Register.note s.register
      (⟨.epochBump, .none, 0, epoch, BumpReason.rxSilentEntry.ordinal⟩ ::
        s.resolution .faulted .rxSilent epoch)) ⟨.rxSilentEntry, .rxSilent, 0, epoch, 0⟩ rfl
  convert entered using 1
  by_cases runs : s.active.status = .running
  · simp only [enterRxSilent, resolveActive, bumpEpoch, emit, setCondition, runs, register,
      resolution, if_true]
    rfl
  · simp only [enterRxSilent, resolveActive, bumpEpoch, emit, setCondition, runs, register,
      resolution, if_false]
    rfl

/-- Every gate edge is counted under the reason of its cause. -/
theorem gateEdges_bump {last g : Gates} {e : Condition × FaultReason × BumpReason}
    (member : e ∈ gateEdges last g) :
    e.2.2 = e.2.1.bump ∧ e.2.1.bump ≠ .none ∧ routine e.2.1 := by
  simp only [gateEdges, List.mem_append] at member
  rcases member with ((((member | member) | member) | member) | member) | member <;>
    · split at member
      · rw [List.mem_singleton.mp member]
        exact ⟨rfl, by decide, FaultReason.noConfusion⟩
      · cases member

omit [Field R] [LinearOrder R] [FloorRing R] in
theorem gateEvents_entries {causes : FaultReason → Prop}
    (edges : List (Condition × FaultReason × BumpReason)) (s : TickCore R) :
    Entries causes s.register
      (edges.foldl (fun s e => s.emit .gateEdge e.2.1 e.1.mask 0) s).register := by
  induction edges generalizing s with
  | nil => exact .refl
  | cons e rest ih =>
    have first : Entries causes s.register (s.emit .gateEdge e.2.1 e.1.mask 0).register :=
      emit_entries s _ _ _ _ rfl
    exact first.trans (ih _)

omit [Field R] [LinearOrder R] [FloorRing R] in
theorem observeGates_entries {causes : FaultReason → Prop} (s : TickCore R) (g : Gates) :
    Entries causes s.register (s.observeGates g).register := by
  have leveled : (s.setGateConditions g).register = s.register := rfl
  have reported : Entries causes _ _ := gateEvents_entries (gateEdges s.lastGates g)
    (s.setGateConditions g)
  rw [leveled] at reported
  simp only [observeGates]
  generalize List.foldl _ (s.setGateConditions g) _ = a at reported
  exact reported

theorem processGates_entries (s : TickCore R) (g : Gates) :
    Entries routine s.register (s.processGates g).register := by
  have observed : Entries routine s.register _ := observeGates_entries s g
  simp only [processGates]
  split
  · split
    · exact observed
    · rename_i bit cause bump rest edges
      have edge : (bit, cause, bump) ∈ gateEdges s.lastGates g := edges ▸ List.mem_cons_self
      obtain ⟨same, real, allowed⟩ := gateEdges_bump edge
      simp only at same
      rw [same]
      exact observed.trans (enterFault_entries _ cause allowed real .faulted)
  · exact observed

theorem ingestRx_entries (s : TickCore R) (rx : Option (RxSample R)) :
    Entries routine s.register (s.ingestRx rx).register := by
  cases rx with
  | none => exact .refl
  | some r => exact processGates_entries (s.takeRx r) r.gates

omit [FloorRing R] in
theorem answerStop_entries {causes : FaultReason → Prop} (s : TickCore R) :
    Entries causes s.register s.answerStop.register := by
  unfold answerStop
  split
  · cases mode : s.health.mode with
    | hold | capture | trajectory | servo =>
      simp only [mode]
      exact beginBrake_entries { s with ops.stopRequested := false } .stopped .none
    | brake =>
      simp only [mode]
      exact resolveActive_entries { s with ops.stopRequested := false } .stopped
    | streamDown | preroll | safeFollow | rxSilent =>
      simp only [mode]
      exact .refl
  · exact .refl

omit [FloorRing R] in
theorem answerHold_entries {causes : FaultReason → Prop} (s : TickCore R) :
    Entries causes s.register s.answerHold.register := by
  unfold answerHold
  split
  · cases mode : s.health.mode with
    | capture | trajectory | servo =>
      simp only [mode]
      exact beginBrake_entries { s with ops.holdRequested := false } .preempted .none
    | hold | brake | streamDown | preroll | safeFollow | rxSilent =>
      simp only [mode]
      exact .refl
  · exact .refl

omit [Field R] [LinearOrder R] [FloorRing R] in
theorem answerKick_register (s : TickCore R) : s.answerKick.register = s.register := by
  unfold answerKick
  split <;> rfl

omit [Field R] [LinearOrder R] [FloorRing R] in
theorem answerHeartbeat_register (s : TickCore R) : s.answerHeartbeat.register = s.register := by
  unfold answerHeartbeat
  split <;> rfl

theorem handleRxSilence_entries (s : TickCore R) :
    Entries routine s.register s.handleRxSilence.register := by
  have degraded : Entries routine s.register s.degradeRx.register :=
    emit_entries (TickCore.setCondition { s with rxWatch.degradedEntered := true } .rxDegraded true)
      .rxDegraded .rxDegraded 0 0 rfl
  simp only [handleRxSilence]
  split
  · exact .refl
  · split
    · exact .refl
    · split
      · exact enterRxSilent_entries s
      · split
        · exact degraded.trans (enterFault_entries _ .rxDegraded FaultReason.noConfusion
            (by decide) .faulted)
        · exact .refl

theorem handleDeadman_entries (s : TickCore R) :
    Entries routine s.register s.handleDeadman.register := by
  simp only [handleDeadman]
  split
  · exact .refl
  · split
    · have faulted : Entries routine s.register _ := enterFault_entries
        { s with deadman.ticksSinceKick := s.deadman.ticksSinceKick + 1 } .watchdogExpired
        FaultReason.noConfusion (by decide) .stopped
      exact faulted.trans (emit_entries _ _ _ _ _ rfl)
    · exact .refl

theorem handleSupervisorLiveness_entries (s : TickCore R) :
    Entries (fun _ => True) s.register s.handleSupervisorLiveness.register := by
  simp only [handleSupervisorLiveness]
  split
  · exact .refl
  · split
    · exact .refl
    · split
      · have faulted : Entries (fun _ => True) s.register _ :=
          enterFault_entries { s with
            liveness.ticksSinceHeartbeat := s.liveness.ticksSinceHeartbeat + 1
            liveness.lostLatched := true } .supervisorLost trivial (by decide) .faulted
        exact faulted.trans (emit_entries _ _ _ _ _ rfl)
      · exact .refl

omit [FloorRing R] in
theorem handleForceGuard_entries {causes : FaultReason → Prop} (lib : External R) (s : TickCore R)
    (rx : RxSample R) : Entries causes s.register (s.handleForceGuard lib rx).register := by
  simp only [handleForceGuard]
  split
  · exact .refl
  · split
    · exact (beginBrake_entries s .stopped .none).trans (emit_entries _ _ _ _ _ rfl)
    · exact .refl

/-- The stages from the packet to the silence and the deadman. -/
def beforeLiveness (s : TickCore R) (rx : Option (RxSample R)) : TickCore R :=
  (s.countTick.ingestRx rx).answerStop.answerHold.answerKick.answerHeartbeat.handleRxSilence
    |>.handleDeadman

theorem beforeLiveness_entries (s : TickCore R) (rx : Option (RxSample R)) :
    Entries routine s.register (s.beforeLiveness rx).register := by
  have ingested : Entries routine s.register (s.countTick.ingestRx rx).register :=
    ingestRx_entries s.countTick rx
  have answered : Entries routine (s.countTick.ingestRx rx).register
      (s.countTick.ingestRx rx).answerStop.answerHold.answerKick.answerHeartbeat.register := by
    rw [answerHeartbeat_register, answerKick_register]
    exact (answerStop_entries _).trans (answerHold_entries _)
  exact (ingested.trans answered).trans
    ((handleRxSilence_entries _).trans (handleDeadman_entries _))

/-- The watchdog, and the force guard after it. -/
def afterLiveness (lib : External R) (s : TickCore R) (rx : Option (RxSample R)) : TickCore R :=
  match rx with
  | some rx => s.handleForceGuard lib rx
  | none => s

theorem beforeDwell_eq (lib : External R) (s : TickCore R) (rx : Option (RxSample R)) :
    s.beforeDwell lib rx = ((s.beforeLiveness rx).handleSupervisorLiveness).afterLiveness lib rx := rfl

omit [FloorRing R] in
theorem afterLiveness_entries {causes : FaultReason → Prop} (lib : External R) (s : TickCore R)
    (rx : Option (RxSample R)) : Entries causes s.register (s.afterLiveness lib rx).register := by
  cases rx with
  | none => exact .refl
  | some r => exact handleForceGuard_entries lib s r

theorem beforeDwell_entries (lib : External R) (s : TickCore R) (rx : Option (RxSample R)) :
    Entries (fun _ => True) s.register (s.beforeDwell lib rx).register := by
  rw [beforeDwell_eq]
  have early := (beforeLiveness_entries s rx).mono fun _ _ => trivial
  exact (early.trans (handleSupervisorLiveness_entries _)).trans (afterLiveness_entries lib _ rx)

/-! ### The dwell -/

omit [Field R] [LinearOrder R] [FloorRing R] in
theorem completeRecovery_register (s : TickCore R) :
    s.completeRecovery.register = s.register.complete
      ⟨.epochBump, .none, 0, s.health.epoch + 1, BumpReason.recoveryComplete.ordinal⟩
      ⟨.recoveryComplete, .none, 0, s.health.epoch + 1, 0⟩ := by
  simp only [completeRecovery]
  split <;> rfl

theorem recoveryDwell_completes {s : TickCore R} (completes : s.dwellCompletes = true) :
    s.recoveryDwell = s.countDwell.completeRecovery := by
  simp only [dwellCompletes, Bool.and_eq_true, decide_eq_true_eq] at completes
  simp only [recoveryDwell, completes, if_true]

theorem recoveryDwell_waits {s : TickCore R} (waits : s.dwellCompletes = false) :
    s.recoveryDwell = { s with recovery.allClearTicks :=
      if s.recovery.pending = true then
        if s.dwellClear = true then s.recovery.allClearTicks + 1 else 0
      else s.recovery.allClearTicks } := by
  unfold recoveryDwell
  by_cases pending : s.recovery.pending = true
  · by_cases clear : s.dwellClear = true
    · have early : ¬ s.msToTicks s.cfg.antiflapDwellMs ≤ s.recovery.allClearTicks + 1 := by
        simpa [dwellCompletes, pending, clear] using waits
      rw [if_pos pending, if_pos clear, if_neg early, if_pos pending, if_pos clear]
      rfl
    · rw [if_pos pending, if_neg clear, if_pos pending, if_neg clear]
  · rw [if_neg pending, if_neg pending]

theorem recoveryDwell_tallies (s : TickCore R) : s.register.Tallies s.recoveryDwell.register := by
  cases completes : s.dwellCompletes with
  | true =>
    rw [recoveryDwell_completes completes, completeRecovery_register]
    have counting : s.register.Tallies s.countDwell.register :=
      ⟨List.prefix_rfl, rfl, fun _ _ => rfl, fun _ => rfl⟩
    exact counting.trans (complete_tallies _ _ _ rfl rfl)
  | false =>
    rw [recoveryDwell_waits completes]
    exact ⟨List.prefix_rfl, rfl, fun _ _ => rfl, fun _ => rfl⟩

theorem beforeConsume_tallies (lib : External R) (s : TickCore R) (rx : Option (RxSample R)) :
    s.register.Tallies (s.beforeConsume lib rx).register :=
  (beforeDwell_entries lib s rx).tallies.trans (recoveryDwell_tallies _)

/-! ### The mailbox and the dispatch -/

theorem consume_entries {causes : FaultReason → Prop} (lib : External R) (s : TickCore R)
    (t : Target R) (supersededByStop : Bool) :
    Entries causes s.register (s.consume lib t supersededByStop).2.register := by
  by_cases absent : t.kind = .none
  · rw [(consume_ignored absent).2]
  by_cases refusing : s.refuses lib t supersededByStop = true
  · rcases (consume_refused absent refusing).2 with ⟨reason, refused⟩ | refused | refused
    · rw [refused]
      exact emit_entries { s with active := ⟨t.motionId, .rejected⟩ } _ _ _ _ rfl
    · rw [refused]
      have first : Entries causes s.register _ :=
        emit_entries { s with active := ⟨t.motionId, .rejected⟩ } .captureRejected
          .rejectedStartMismatch 0 t.motionId rfl
      exact first.trans (emit_entries _ _ _ _ _ rfl)
    · rw [refused]
      exact emit_entries { s.planCapture lib t with active := ⟨t.motionId, .rejected⟩ } _ _ _ _ rfl
  · have resolved : Entries causes s.register _ := resolveActive_entries s .preempted
    rw [(consume_admitted absent (Bool.eq_false_of_not_eq_true refusing)).2]
    cases kind : t.kind with
    | none => exact absurd kind absent
    | hold =>
      simp only [consumeHold]
      split
      · exact (resolved.trans (beginBrake_entries _ .preempted .none)).trans
          (.single (.note _ _ rfl))
      · exact resolved.trans (.single (.note _ _ rfl))
    | brake => exact resolved.trans (.single (.note _ _ rfl))
    | servo =>
      simp only [consumeServo]
      split
      · exact resolved.trans (.single (.note _ _ rfl))
      · exact resolved.trans (.single (.note _ _ rfl))
    | trajectory =>
      have planned : Entries causes s.register (TickCore.resolveActive { s.planCapture lib t with
          splice.capture := (s.planCapture lib t).splice.capturePending } .preempted).register :=
        resolveActive_entries { s.planCapture lib t with
          splice.capture := (s.planCapture lib t).splice.capturePending } .preempted
      exact planned.trans (.single (.note _ _ rfl))

theorem consumePending_entries {causes : FaultReason → Prop} (lib : External R) (s : TickCore R)
    (pending : Option (Target R)) (consumeSuperseded : Bool) :
    Entries causes s.register (s.consumePending lib pending consumeSuperseded).register := by
  cases pending with
  | none => exact .refl
  | some t => exact consume_entries lib s t consumeSuperseded

theorem dispatchTrajectory_entries {causes : FaultReason → Prop} (s : TickCore R) :
    Entries causes s.register s.dispatchTrajectory.2.register := by
  unfold dispatchTrajectory
  cases s.playback.trajPhase with
  | playing =>
    simp only
    split
    · split <;> exact .refl
    · exact .refl
  | endBlend =>
    simp only
    split <;> exact .refl
  | settling =>
    simp only
    split
    · exact resolveActive_entries { s with
        anchor.qdCmd := 0, anchor.qddCmd := 0, playback.settle := _ } .done
    · exact resolveActive_entries { s with
        anchor.qdCmd := 0, anchor.qddCmd := 0, playback.settle := _ } .settleTimeout
    · exact .refl

theorem dispatchMode_entries (lib : External R) (s : TickCore R) :
    Entries routine s.register (s.dispatchMode lib).2.register := by
  have internal (u : TickCore R) (same : u.register = s.register) :
      Entries routine s.register (u.enterFault .internal .faultEntry .faulted).register := by
    rw [← same]
    exact enterFault_entries u .internal FaultReason.noConfusion (by decide) .faulted
  unfold dispatchMode
  cases s.health.mode with
  | streamDown | preroll | rxSilent | hold => exact .refl
  | capture =>
    simp only
    split
    · exact .refl
    · exact dispatchTrajectory_entries (s.installTrajectory s.splice.capturedTarget)
  | trajectory => exact dispatchTrajectory_entries s
  | servo =>
    have reissued : s.reissueServo.register = s.register := by
      simp only [reissueServo]
      split <;> rfl
    simp only [dispatchServo]
    split
    · exact internal { s.reissueServo with
        servo.servo := (s.reissueServo.servo.servo.step lib).2 } reissued
    · rw [← reissued]
      exact .refl
  | brake =>
    simp only [dispatchBrake]
    split
    · exact internal { s with brake.brake := (s.brake.brake.step lib).2 } rfl
    · split
      · split
        · exact resolveActive_entries { s with
            brake.brake := (s.brake.brake.step lib).2
            anchor.qdCmd := (s.brake.brake.step lib).1.qd
            anchor.qddCmd := (s.brake.brake.step lib).1.qdd } .done
        · exact .refl
      · exact .refl
  | safeFollow =>
    have followed : s.dispatchSafeFollow.2.register = s.register := by
      unfold dispatchSafeFollow
      cases s.follow.phase with
      | ramp => rfl
      | reanchor =>
        simp only
        split
        · rfl
        · split <;> rfl
    rw [followed]

omit [FloorRing R] in
theorem sendCommand_entries {causes : FaultReason → Prop} (s : TickCore R) (qDesired : Vec6 R) :
    Entries causes s.register (s.sendCommand qDesired).2.register := by
  simp only [sendCommand]
  split
  · exact .single (.note s.register _ rfl)
  · split
    · exact .refl
    · exact .refl

/-- From the dwell on, a tick cancels or counts nothing but an internal fault. -/
theorem afterDwell_entries (lib : External R) (s : TickCore R) (rx : Option (RxSample R))
    (pending : Option (Target R)) (consumeSuperseded : Bool) :
    Entries routine (s.beforeConsume lib rx).register
      (s.tick lib rx pending consumeSuperseded).2.register := by
  simp only [tick]
  have consumed : Entries routine _ _ :=
    consumePending_entries lib (s.beforeConsume lib rx) pending consumeSuperseded
  exact (consumed.trans (dispatchMode_entries lib _)).trans (sendCommand_entries _ _)

theorem tick_tallies (lib : External R) (s : TickCore R) (rx : Option (RxSample R))
    (pending : Option (Target R)) (consumeSuperseded : Bool) :
    s.register.Tallies (s.tick lib rx pending consumeSuperseded).2.register :=
  (beforeConsume_tallies lib s rx).trans
    (afterDwell_entries lib s rx pending consumeSuperseded).tallies

end TickCore

end AiroFanuc.RtCore
