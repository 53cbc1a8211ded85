import AiroFanuc.RtCore.GuardTrips
import AiroFanuc.RtCore.Resolution

/-! A guard belongs to the trajectory that carried its threshold: it may trip only while that
trajectory is played and unresolved. The one way out of a motion that leaves it armed is the
settled end in a hold. -/

namespace AiroFanuc.RtCore

open TickEngine Library

variable {R : Type} [Field R] [LinearOrder R] [FloorRing R]

/-- The guards an accepted trajectory brings are the ones it carries. -/
def Scope.carries (scope : Scope R) (t : Target R) : Prop :=
  scope.captured = t ∧ scope.forceGuard = ⟨decide (0 < t.forceStopN), t.forceStopN⟩ ∧
    scope.deadmanArmed = decide (0 < t.deadmanS) ∧ scope.deadmanS = t.deadmanS

namespace Control

variable {c d : Control}

abbrev guards (c : Control) : Prop := (c.mode = .capture ∨ c.mode = .trajectory) ∨ c.mode = .hold

/-- Whatever leaves these modes without ending in a hold disarms the guard. -/
theorem Move.guards (move : Move c d) (guarded : c.forceArmed = true → c.guards) :
    d.forceArmed = true → d.guards := by
  intro armed
  cases move with
  | fault | park | brake => cases armed
  | halt mode =>
    have moving := guarded ((resolve_forceArmed c .stopped).symm.trans armed)
    simp [Control.guards, mode] at moving
  | play mode => exact .inl (.inr rfl)
  | finish st plays ended => exact .inr rfl
  | rest mode own => exact .inr rfl

theorem Moves.guards (moved : Moves c d) (guarded : c.forceArmed = true → c.guards) :
    d.forceArmed = true → d.guards :=
  Moves.invariant (I := fun e => e.forceArmed = true → e.guards) moved guarded
    fun _ _ kept move => move.guards kept

theorem accept_guards {kind : TargetKind} {motionId : Nat} {guard : Bool}
    (guarded : c.forceArmed = true → c.guards) :
    (c.accept kind motionId guard).forceArmed = true →
      (c.accept kind motionId guard).guards := by
  intro armed
  cases kind with
  | none => exact guarded armed
  | brake | servo => cases armed
  | trajectory => exact .inl (.inl rfl)
  | hold =>
    simp only [accept] at armed ⊢
    split at armed
    · cases armed
    · rename_i still
      rw [if_neg still]
      exact guarded armed

end Control

namespace TickCore

/-! ### What a tick leaves of a motion's guards -/

/-- What still rolls in front of the mailbox rolled when the tick began, under the same guards. -/
theorem beforeConsume_scope {lib : External R} {s : TickCore R} {rx : Option (RxSample R)}
    (rolls : (s.beforeConsume lib rx).reel.rolls) :
    s.reel.rolls ∧ (s.beforeConsume lib rx).scope = s.scope := by
  have dwelt := (recoveryDwell_spares (s.beforeDwell lib rx)).keeps rolls
  have unguarded : s.beforeDwell lib rx = s.beforeGuard rx := by
    cases rx with
    | none => rfl
    | some r =>
      apply handleForceGuard_early
      intro due
      have braked : (s.beforeDwell lib (some r)).health.mode = .brake :=
        congrArg (fun u : TickCore R => u.health.mode) (handleForceGuard_due due)
      rcases dwelt.1 with mode | mode <;>
        · rw [show (s.beforeDwell lib (some r)).reel.mode = .brake from braked] at mode
          cases mode
  have watching : (s.beforeGuard rx).reel.rolls := unguarded ▸ dwelt.1
  have alive := (handleSupervisorLiveness_spares (s.beforeLiveness rx)).keeps watching
  have early : ¬ (s.beforeDeadman rx).deadmanDue := by
    intro due
    obtain ⟨u, tripped⟩ := handleDeadman_due due
    have faulted : (s.beforeLiveness rx).health.mode = .safeFollow :=
      congrArg (fun u : TickCore R => u.health.mode) tripped
    rcases alive.1 with mode | mode <;>
      · rw [show (s.beforeLiveness rx).reel.mode = .safeFollow from faulted] at mode
        cases mode
  have watched := (handleDeadman_spares early).keeps alive.1
  have began := (beforeDeadman_spares s rx).keeps watched.1
  refine ⟨began.1, ?_⟩
  calc (s.beforeConsume lib rx).scope = (s.beforeDwell lib rx).scope := dwelt.2
    _ = (s.beforeGuard rx).scope := by rw [unguarded]
    _ = (s.beforeLiveness rx).scope := alive.2
    _ = (s.beforeDeadman rx).scope := watched.2
    _ = s.scope := began.2

theorem tick_scope {lib : External R} {s : TickCore R} {rx : Option (RxSample R)}
    {pending : Option (Target R)} {consumeSuperseded : Bool}
    (rolls : (s.tick lib rx pending consumeSuperseded).2.reel.rolls) :
    ((s.beforeConsume lib rx).consumePending lib pending consumeSuperseded).reel.rolls ∧
      (s.tick lib rx pending consumeSuperseded).2.scope =
        ((s.beforeConsume lib rx).consumePending lib pending consumeSuperseded).scope :=
  ((dispatchMode_spares lib _).trans (sendCommand_spares _ _)).keeps rolls

/-- An event that is no verdict on a motion leaves that motion's verdicts alone. -/
theorem pushEvent_terminals {ring : List Event} {e : Event} {motionId : Nat}
    (other : e.motionId ≠ motionId) :
    terminals (pushEvent ring e) motionId = terminals ring motionId := by
  unfold pushEvent
  split
  · rw [terminals_append]
    simp [terminals, other]
  · rfl

/-- What a motion has been paid and is still owed. -/
def credit (s : TickCore R) (motionId : Nat) : Nat :=
  terminals s.events motionId + owed s.active motionId

omit [Field R] [LinearOrder R] [FloorRing R] in
/-- Another motion's verdict does not pay this one. -/
theorem refused_credit {s u : TickCore R} {t : Target R} {motionId : Nat}
    (other : motionId ≠ t.motionId) (reason : FaultReason)
    (posted : terminals u.events motionId = terminals s.events motionId) :
    (u.rejectTarget t reason).credit motionId ≤ s.credit motionId := by
  have unpaid : terminals (u.rejectTarget t reason).events motionId = terminals s.events motionId :=
    (pushEvent_terminals (Ne.symm other)).trans posted
  have idle : owed (u.rejectTarget t reason).active motionId = 0 :=
    owed_idle (by simp [rejectTarget, emit]) motionId
  simp only [credit, unpaid, idle]
  omega

theorem consume_credit {lib : External R} {s : TickCore R} {t : Target R} {superseded : Bool}
    (fits : s.events.length + 3 ≤ kEventRoom) {motionId : Nat} (other : motionId ≠ t.motionId) :
    (s.consume lib t superseded).2.credit motionId ≤ s.credit motionId := by
  by_cases absent : t.kind = .none
  · rw [(consume_ignored absent).2]
  by_cases refusing : s.refuses lib t superseded = true
  · rcases (consume_refused absent refusing).2 with ⟨reason, refused⟩ | refused | refused
    · rw [refused]
      exact refused_credit other reason rfl
    · rw [refused]
      have mismatch : terminals (s.emit .captureRejected .rejectedStartMismatch 0
          t.motionId).events motionId = terminals s.events motionId :=
        pushEvent_terminals (Ne.symm other)
      exact refused_credit other .rejectedStartMismatch mismatch
    · rw [refused]
      exact refused_credit other .internal rfl
  · have booked : motionLedger.Books 3 (fare t.motionId) s.books
        (s.consume lib t superseded).2.books :=
      consume_books absent fun raised => absurd raised refusing
    have balance := booked.balance fits motionId
    rw [fare, if_neg (Ne.symm other)] at balance
    exact balance.le

/-- Up to the mailbox a tick pays what it owes, and no more. -/
theorem beforeConsume_credit (lib : External R) {s : TickCore R} (drained : s.events = [])
    (rx : Option (RxSample R)) (motionId : Nat) :
    (s.beforeConsume lib rx).credit motionId = s.credit motionId := by
  have early := (beforeDwell_conserves (L := motionLedger) lib s rx).trans
    (recoveryDwell_conserves (s.beforeDwell lib rx))
  have fits : (motionLedger.log s.books).length + (29 + 2) ≤ motionLedger.room := by
    simp [motionLedger, books, drained, kEventRoom]
  have balance := early.balance fits motionId
  exact balance

theorem consumePending_credit (lib : External R) {s : TickCore R} (drained : s.events = [])
    {rx : Option (RxSample R)} {pending : Option (Target R)} {superseded : Bool} {motionId : Nat}
    (other : motionId ∉ (Input.tick rx pending superseded).takes) :
    ((s.beforeConsume lib rx).consumePending lib pending superseded).credit motionId ≤
      s.credit motionId := by
  rw [← beforeConsume_credit lib drained rx motionId]
  cases pending with
  | none => exact le_rfl
  | some t =>
    have kept : ((s.beforeConsume lib rx).consumePending lib (some t) superseded).credit motionId =
        ((s.beforeConsume lib rx).consume lib t superseded).2.credit motionId := rfl
    rw [kept]
    by_cases absent : t.kind = .none
    · rw [(consume_ignored absent).2]
    · have early := (beforeDwell_conserves (L := motionLedger) lib s rx).trans
        (recoveryDwell_conserves (s.beforeDwell lib rx))
      have load : (s.beforeConsume lib rx).events.length ≤ s.events.length + (29 + 2) := early.load
      apply consume_credit
      · rw [drained] at load
        simp only [List.length_nil, kEventRoom] at load ⊢
        omega
      · simpa [Input.takes, Input.target, absent] using other

/-- Behind the mailbox a tick pays what it owes, and no more. -/
theorem tick_credit (lib : External R) {s : TickCore R} (drained : s.events = [])
    (rx : Option (RxSample R)) (pending : Option (Target R)) (superseded : Bool) (motionId : Nat) :
    (s.tick lib rx pending superseded).2.credit motionId =
      ((s.beforeConsume lib rx).consumePending lib pending superseded).credit motionId := by
  have load := consumePending_load lib s rx pending superseded
  obtain ⟨c, taken⟩ : ∃ c, c = (s.beforeConsume lib rx).consumePending lib pending superseded :=
    ⟨_, rfl⟩
  rw [← taken, drained] at load
  have late := (dispatchMode_conserves (L := motionLedger) lib c).trans
    (sendCommand_conserves (c.dispatchMode lib).2 (c.dispatchMode lib).1)
  have fits : (motionLedger.log c.books).length + (4 + 1) ≤ motionLedger.room := by
    simp only [motionLedger, books, kEventRoom]
    simp only [List.length_nil] at load
    omega
  have balance := late.balance fits motionId
  rw [tick, ← taken]
  exact balance

/-- A target that is not accepted rejects itself and leaves the guards alone. -/
theorem consume_unaccepted {lib : External R} {s : TickCore R} {t : Target R} {superseded : Bool}
    (passed : t.kind = .none ∨ s.refuses lib t superseded = true) :
    (s.consume lib t superseded).2.reel = s.reel ∧
      ∃ active terms, (s.consume lib t superseded).2.scope =
          { s.scope with active := active, terminals := terms } ∧
        ∀ motionId, t.kind = .none ∨ motionId ≠ t.motionId →
          terms motionId = terminals s.events motionId := by
  by_cases absent : t.kind = .none
  · rw [(consume_ignored absent).2]
    exact ⟨rfl, s.active, _, rfl, fun _ _ => rfl⟩
  · have spared {e : Event} (own : e.motionId = t.motionId) (ring : List Event) (motionId : Nat)
        (other : t.kind = .none ∨ motionId ≠ t.motionId) :
        terminals (pushEvent ring e) motionId = terminals ring motionId := by
      apply pushEvent_terminals
      rw [own]
      exact Ne.symm (other.resolve_left absent)
    rcases (consume_refused absent (passed.resolve_left absent)).2 with
      ⟨reason, refused⟩ | refused | refused
    · rw [refused]
      exact ⟨rfl, _, _, rfl, fun motionId other => spared rfl _ _ other⟩
    · rw [refused]
      refine ⟨rfl, _, _, rfl, fun motionId other => ?_⟩
      exact (spared rfl _ _ other).trans (spared rfl _ _ other)
    · rw [refused]
      exact ⟨rfl, _, _, rfl, fun motionId other => spared rfl _ _ other⟩

/-- Only a trajectory starts rolling at the mailbox. -/
theorem admitted_rolls {lib : External R} {s : TickCore R} {t : Target R} {superseded : Bool}
    (real : t.kind ≠ .none) (admitted : s.refuses lib t superseded = false)
    (rolls : (s.consume lib t superseded).2.reel.rolls) : t.kind = .trajectory := by
  have taken := TickCore.consume_control lib s t superseded
  rw [if_neg real, if_neg (by simp [admitted])] at taken
  have mode : (s.consume lib t superseded).2.reel.mode =
      (s.control.accept t.kind t.motionId (decide (0 < t.forceStopN))).mode :=
    congrArg Control.mode taken
  cases kind : t.kind with
  | none => exact absurd kind real
  | trajectory => rfl
  | brake | servo =>
    rw [kind] at mode
    rcases rolls with rolls | rolls <;>
      · rw [mode] at rolls
        cases rolls
  | hold =>
    rw [kind] at mode
    simp only [Control.accept] at mode
    split at mode
    · rcases rolls with rolls | rolls <;>
        · rw [mode] at rolls
          cases rolls
    · rename_i still
      rcases rolls with rolls | rolls
      · exact absurd (.inl (mode.symm.trans rolls)) still
      · exact absurd (.inr (.inl (mode.symm.trans rolls))) still

omit [FloorRing R] in
theorem acceptTrajectory_scope (s : TickCore R) (t : Target R) :
    Scope.carries (s.acceptTrajectory t).scope t ∧
      (s.acceptTrajectory t).active = ⟨t.motionId, .running⟩ := by
  simp only [acceptTrajectory, resolveActive_shape]
  exact ⟨⟨rfl, rfl, rfl, rfl⟩, rfl⟩

end TickCore

/-- `taken` lists the motions `consume` was given; `playing` is the trajectory an observer of the
accepts and the mode sees played. -/
structure GuardWatch (R : Type) where
  core : TickCore R
  log : List Event
  taken : List Nat
  playing : Option (Target R)

namespace GuardWatch

def nextPlaying (w : GuardWatch R) (i : Input R) (core : TickCore R) : Option (Target R) :=
  if core.health.mode = .capture ∨ core.health.mode = .trajectory then
    match i.target with
    | none => w.playing
    | some t => if core.lastConsume.accepted ∧ t.kind = .trajectory then some t else w.playing
  else none

def step (lib : External R) (w : GuardWatch R) (i : Input R) : GuardWatch R :=
  let core := w.core.apply lib i
  { core := { core with events := [] }
    log := w.log ++ core.events
    taken := i.takes ++ w.taken
    playing := w.nextPlaying i core }

def machine (lib : External R) (cfg : RtCoreConfig R) : Machine (GuardWatch R) (Input R) where
  start := ⟨.new cfg, [], [], none⟩
  step := fun w i => some (w.step lib i)

/-- No two motions share an id. -/
def distinct (w : GuardWatch R) (i : Input R) : Prop := ∀ motionId ∈ i.takes, motionId ∉ w.taken

/-- A tick reports a trip. -/
def reports (lib : External R) (w : GuardWatch R) (rx : Option (RxSample R))
    (pending : Option (Target R)) (superseded : Bool) (type : EventType) : Prop :=
  ∃ e ∈ (w.core.tick lib rx pending superseded).2.events, e.type = type

/-- `t` is played, and its motion has no verdict yet. -/
def Plays (w : GuardWatch R) (t : Target R) : Prop :=
  w.playing = some t ∧ (w.core.health.mode = .capture ∨ w.core.health.mode = .trajectory) ∧
    terminals w.log t.motionId = 0

structure Scoped (lib : External R) (w : GuardWatch R) (rx : Option (RxSample R))
    (pending : Option (Target R)) (superseded : Bool) : Prop where
  force : w.reports lib rx pending superseded .forceGuardTrip →
    ∃ t, w.Plays t ∧ 0 < t.forceStopN
  deadman : w.reports lib rx pending superseded .deadmanTrip → ∃ t, w.Plays t ∧ 0 < t.deadmanS
  prompt : ∀ t ∈ w.playing, ∀ r ∈ rx, 0 < t.forceStopN → r.wrenchValid = true →
    t.forceStopN < r.force lib → ¬ w.core.interrupted r →
    w.reports lib rx pending superseded .forceGuardTrip

/-- An ended trajectory's guard, still armed in the hold behind it, meets a packet over its
threshold. -/
def FiresInHold (lib : External R) (w : GuardWatch R) (rx : Option (RxSample R)) : Prop :=
  w.core.health.mode = .hold ∧ ∃ r ∈ rx, w.core.forceDue lib r ∧ ¬ w.core.interrupted r

structure Sound (w : GuardWatch R) : Prop where
  drained : w.core.events = []
  guardable : w.core.forceGuard.armed = true → w.core.guardable
  known : ∀ motionId ∉ w.taken, terminals w.log motionId + owed w.core.active motionId = 0
  idle : ¬ w.core.reel.rolls → w.playing = none
  played : w.core.reel.rolls → ∃ t, w.playing = some t ∧ w.core.scope.carries t ∧
    t.motionId ∈ w.taken ∧ terminals w.log t.motionId = 0

/-! ### One tick -/

section Tick

variable {lib : External R} {w : GuardWatch R} {rx : Option (RxSample R)}
  {pending : Option (Target R)} {superseded : Bool}

theorem Sound.tick_known (sound : w.Sound) {motionId : Nat}
    (unknown : motionId ∉ (Input.tick rx pending superseded).takes ++ w.taken) :
    terminals (w.log ++ (w.core.tick lib rx pending superseded).2.events) motionId +
      owed (w.core.tick lib rx pending superseded).2.active motionId = 0 := by
  rw [List.mem_append, not_or] at unknown
  have before := sound.known motionId unknown.2
  have early : ((w.core.beforeConsume lib rx).consumePending lib pending superseded).credit motionId ≤
      w.core.credit motionId := TickCore.consumePending_credit lib sound.drained unknown.1
  have late := TickCore.tick_credit lib sound.drained rx pending superseded motionId
  have empty : terminals w.core.events motionId = 0 := by rw [sound.drained]; rfl
  simp only [TickCore.credit, empty] at early late
  rw [terminals_append]
  omega

/-- A trajectory that no target replaced is played on under its own guards. -/
theorem Sound.kept (sound : w.Sound) (rolls : (w.core.beforeConsume lib rx).reel.rolls)
    {after : Scope R} {active : ActiveMotion} {terms : Nat → Nat}
    (same : after = { (w.core.beforeConsume lib rx).scope with active := active, terminals := terms })
    (spared : ∀ motionId ∈ w.taken,
      terms motionId = terminals (w.core.beforeConsume lib rx).events motionId) :
    ∃ t, w.playing = some t ∧ after.carries t ∧ t.motionId ∈ w.taken ∧
      terminals w.log t.motionId + after.terminals t.motionId = 0 := by
  obtain ⟨rolled, began⟩ := TickCore.beforeConsume_scope rolls
  obtain ⟨t, playing, carried, member, unresolved⟩ := sound.played rolled
  refine ⟨t, playing, ?_, member, ?_⟩
  · rw [same, began]
    exact carried
  · have early : terminals (w.core.beforeConsume lib rx).events t.motionId =
        terminals w.core.events t.motionId := congrFun (congrArg Scope.terminals began) _
    have silent : after.terminals t.motionId = 0 := by
      rw [same]
      exact (spared _ member).trans (early.trans (by rw [sound.drained]; rfl))
    rw [unresolved, silent]

/-- A trajectory just accepted owns the guards, with no verdict on it out yet. -/
theorem Sound.accepted (sound : w.Sound) {t : Target R} (kind : t.kind = .trajectory)
    (fresh : t.motionId ∉ w.taken)
    (admitted : (w.core.beforeConsume lib rx).refuses lib t superseded = false) :
    (((w.core.beforeConsume lib rx).consume lib t superseded).2).scope.carries t ∧
      terminals w.log t.motionId +
        terminals ((w.core.beforeConsume lib rx).consume lib t superseded).2.events t.motionId
          = 0 := by
  obtain ⟨b, begun⟩ : ∃ b, b = w.core.beforeConsume lib rx := ⟨_, rfl⟩
  have real : t.kind ≠ .none := by
    rw [kind]
    decide
  have unpaid : terminals b.events t.motionId + owed b.active t.motionId = 0 := by
    have early := TickCore.beforeConsume_credit lib sound.drained rx t.motionId
    have before := sound.known t.motionId fresh
    have empty : terminals w.core.events t.motionId = 0 := by rw [sound.drained]; rfl
    simp only [TickCore.credit, empty, ← begun] at early
    omega
  have load : b.events.length ≤ 31 := by
    have early := ((TickCore.beforeDwell_conserves (L := motionLedger) lib w.core rx).trans
      (TickCore.recoveryDwell_conserves _)).load
    have empty : w.core.events.length = 0 := by rw [sound.drained]; rfl
    have length : (w.core.beforeConsume lib rx).events.length ≤ w.core.events.length + 31 := early
    rw [begun]
    omega
  rw [← begun] at admitted ⊢
  have booked : motionLedger.Books 3 (fare t.motionId) b.books (b.consume lib t superseded).2.books :=
    TickCore.consume_books real fun raised => absurd raised (by simp [admitted])
  have fits : (motionLedger.log b.books).length + 3 ≤ motionLedger.room := by
    simp only [motionLedger, TickCore.books, kEventRoom]
    omega
  have balance : terminals (b.consume lib t superseded).2.events t.motionId +
      owed (b.consume lib t superseded).2.active t.motionId =
        terminals b.events t.motionId + owed b.active t.motionId + fare t.motionId t.motionId :=
    booked.balance fits t.motionId
  have taken : (b.consume lib t superseded).2 = (b.planCapture lib t).acceptTrajectory t := by
    rw [(TickCore.consume_admitted real admitted).2, kind]
  obtain ⟨carried, running⟩ := TickCore.acceptTrajectory_scope (b.planCapture lib t) t
  rw [← taken] at carried running
  refine ⟨carried, ?_⟩
  have before := sound.known t.motionId fresh
  have owes : owed ⟨t.motionId, .running⟩ t.motionId = fare t.motionId t.motionId :=
    owed_running rfl t.motionId
  rw [running, owes, unpaid] at balance
  omega

/-- What is played behind the tick was played before it and not replaced, or has just been
accepted; its guards are its own, and no verdict on it is out. -/
theorem Sound.tick_played (sound : w.Sound)
    (fresh : w.distinct (.tick rx pending superseded))
    (rolls : (w.core.tick lib rx pending superseded).2.reel.rolls) :
    ∃ t, w.nextPlaying (.tick rx pending superseded)
        (w.core.tick lib rx pending superseded).2 = some t ∧
      (w.core.tick lib rx pending superseded).2.scope.carries t ∧
      t.motionId ∈ (Input.tick rx pending superseded).takes ++ w.taken ∧
      terminals w.log t.motionId +
        (w.core.tick lib rx pending superseded).2.scope.terminals t.motionId = 0 := by
  obtain ⟨dispatched, same⟩ := TickCore.tick_scope rolls
  have observed : w.nextPlaying (.tick rx pending superseded)
      (w.core.tick lib rx pending superseded).2 = _ := if_pos rolls
  rw [observed, same]
  cases pending with
  | none =>
    obtain ⟨t, playing, carried, member, unresolved⟩ := sound.kept dispatched rfl fun _ _ => rfl
    exact ⟨t, playing, carried, List.mem_append_right _ member, unresolved⟩
  | some t =>
    have verdict := Journal.tick_accepted lib w.core rx t superseded
    by_cases passed : t.kind = .none ∨
        (w.core.beforeConsume lib rx).refuses lib t superseded = true
    · obtain ⟨reel, active, terms, scope, spared⟩ := TickCore.consume_unaccepted passed
      have unaccepted : (w.core.tick lib rx (some t) superseded).2.lastConsume.accepted = false := by
        rw [verdict]
        rcases passed with absent | refused
        · simp [absent]
        · simp [refused]
      have rolled : (w.core.beforeConsume lib rx).reel.rolls := reel ▸ dispatched
      obtain ⟨t', playing, carried, member, unresolved⟩ := sound.kept rolled scope
        fun motionId member => spared motionId (by
          by_cases absent : t.kind = .none
          · exact .inl absent
          · refine .inr ?_
            rintro rfl
            exact fresh t.motionId (by simp [Input.takes, Input.target, absent]) member)
      refine ⟨t', ?_, carried, List.mem_append_right _ member, unresolved⟩
      simpa [Input.target, unaccepted] using playing
    · obtain ⟨real, admitted⟩ := not_or.mp passed
      have current := Bool.eq_false_of_not_eq_true admitted
      have kind : t.kind = .trajectory := TickCore.admitted_rolls real current dispatched
      have unknown := fresh t.motionId (by simp [Input.takes, Input.target, real])
      obtain ⟨carried, unresolved⟩ := sound.accepted kind unknown current
      have accepted : (w.core.tick lib rx (some t) superseded).2.lastConsume.accepted = true := by
        rw [verdict]
        simp [real, current]
      refine ⟨t, ?_, carried, ?_, unresolved⟩
      · simp [Input.target, accepted, kind]
      · simp [Input.takes, Input.target, real]

/-- The armed guard of a hold or of a rolling motion is all that a tick leaves. -/
theorem Sound.tick_guardable (sound : w.Sound)
    (armed : (w.core.tick lib rx pending superseded).2.forceGuard.armed = true) :
    (w.core.tick lib rx pending superseded).2.guardable :=
  TickCore.tick_invariant (I := fun c => c.forceArmed = true → c.guards)
    (fun _ _ guarded moved => Control.Moves.guards moved guarded)
    (fun _ _ _ => .inr rfl)
    (fun guarded => by
      rw [TickCore.consumePending_control]
      cases pending with
      | none => exact guarded
      | some t =>
        simp only [TickCore.consume_control]
        split
        · exact guarded
        · split
          · exact guarded
          · exact Control.accept_guards guarded)
    sound.guardable armed

theorem Sound.tick_sound (sound : w.Sound) (fresh : w.distinct (.tick rx pending superseded)) :
    (w.step lib (.tick rx pending superseded)).Sound where
  drained := rfl
  guardable := sound.tick_guardable
  known := fun _ unknown => sound.tick_known unknown
  idle := fun still => if_neg still
  played := by
    intro rolls
    obtain ⟨t, playing, carried, member, unresolved⟩ := sound.tick_played fresh rolls
    refine ⟨t, playing, carried, member, ?_⟩
    rw [← unresolved]
    exact terminals_append _ _ _

end Tick

/-! ### The trips of one tick -/

section Trips

variable {lib : External R} {w : GuardWatch R} {rx : Option (RxSample R)}
  {pending : Option (Target R)} {superseded : Bool}

theorem forceDue_reports (drained : w.core.events = []) {r : RxSample R}
    (due : (w.core.beforeGuard (some r)).forceDue lib r) :
    w.reports lib (some r) pending superseded .forceGuardTrip := by
  have load : (w.core.beforeDwell lib (some r)).events.length ≤ w.core.events.length + 29 :=
    (TickCore.beforeDwell_conserves (L := motionLedger) lib w.core (some r)).load
  have room : (w.core.beforeDwell lib (some r)).events.length < kEventRoom := by
    rw [drained] at load
    exact lt_of_le_of_lt load (by decide)
  obtain ⟨e, member, type⟩ := TickCore.handleForceGuard_reports due room
  have dwelt := (TickCore.recoveryDwell_tallies (w.core.beforeDwell lib (some r))).grows
  have late := (TickCore.afterDwell_entries lib w.core (some r) pending superseded).grows
  exact ⟨e, late.subset (dwelt.subset member), type⟩

theorem Sound.reports_force (sound : w.Sound) :
    w.reports lib rx pending superseded .forceGuardTrip ↔
      ∃ r ∈ rx, w.core.forceDue lib r ∧ ¬ w.core.interrupted r := by
  constructor
  · rintro ⟨e, member, type⟩
    rcases TickCore.tick_trips sound.drained member (by rw [type]; rfl) with other | ⟨-, r, fresh, due⟩
    · rw [type] at other
      cases other.1
    · cases fresh
      have armed : w.core.forceGuard.armed = true := by
        by_contra off
        have moved := TickCore.beforeGuard_moves w.core (some r)
        have disarmed := Control.Moves.disarmed moved (Bool.eq_false_of_not_eq_true off)
        exact absurd (due.1.symm.trans disarmed) (by decide)
      exact ⟨r, rfl, (TickCore.forceDue_iff (sound.guardable armed)).mp due⟩
  · rintro ⟨r, fresh, due⟩
    cases fresh
    exact forceDue_reports sound.drained
      ((TickCore.forceDue_iff (sound.guardable due.1.1)).mpr due)

/-- A deadman only lapses under the trajectory that armed it. -/
theorem Sound.deadman_scoped (sound : w.Sound)
    (reported : w.reports lib rx pending superseded .deadmanTrip) :
    ∃ t, w.Plays t ∧ 0 < t.deadmanS := by
  obtain ⟨e, member, type⟩ := reported
  rcases TickCore.tick_trips sound.drained member (by rw [type]; rfl) with ⟨-, due⟩ | other
  · have rolling : (w.core.beforeDeadman rx).reel.rolls := .inr due.2.1
    obtain ⟨rolls, same⟩ := (TickCore.beforeDeadman_spares w.core rx).keeps rolling
    obtain ⟨t, playing, carried, -, unresolved⟩ := sound.played rolls
    have armed : decide (0 < t.deadmanS) = true := by
      rw [← carried.2.2.1, ← same]
      exact due.1
    exact ⟨t, ⟨playing, rolls, unresolved⟩, of_decide_eq_true armed⟩
  · rw [type] at other
    cases other.1

/-- Only a hold that an ended trajectory left with its guard armed lets a guard out of scope. -/
theorem Sound.scoped_iff (sound : w.Sound) :
    w.Scoped lib rx pending superseded ↔ ¬ w.FiresInHold lib rx := by
  constructor
  · rintro within ⟨hold, due⟩
    obtain ⟨t, ⟨-, rolls, -⟩, -⟩ := within.force (sound.reports_force.mpr due)
    rw [hold] at rolls
    simp at rolls
  · intro clear
    constructor
    · intro reported
      obtain ⟨r, fresh, due⟩ := sound.reports_force.mp reported
      rcases sound.guardable due.1.1 with rolls | hold
      · obtain ⟨t, playing, carried, -, unresolved⟩ := sound.played rolls
        have guard : w.core.forceGuard = ⟨decide (0 < t.forceStopN), t.forceStopN⟩ := carried.2.1
        have armed := due.1.1
        rw [guard] at armed
        exact ⟨t, ⟨playing, rolls, unresolved⟩, of_decide_eq_true armed⟩
      · exact absurd ⟨hold, r, fresh, due⟩ clear
    · exact sound.deadman_scoped
    · intro t playing r fresh limit valid beyond calm
      have rolls : w.core.reel.rolls := by
        by_contra still
        rw [sound.idle still] at playing
        cases playing
      obtain ⟨t', playing', carried, -⟩ := sound.played rolls
      obtain rfl : t' = t := Option.some.inj (playing'.symm.trans playing)
      have guard : w.core.forceGuard = ⟨decide (0 < t'.forceStopN), t'.forceStopN⟩ := carried.2.1
      refine sound.reports_force.mpr ⟨r, fresh, ⟨?_, valid, ?_⟩, calm⟩
      · rw [guard]
        exact decide_eq_true limit
      · rw [guard]
        exact beyond

end Trips

/-! ### Runs -/

/-- A call between the ticks starts no motion and arms no guard. -/
theorem Sound.call {lib : External R} {w : GuardWatch R} {i : Input R} (sound : w.Sound)
    (target : i.target = none) (reel : (w.core.apply lib i).reel = w.core.reel)
    (scope : (w.core.apply lib i).scope = w.core.scope)
    (drained : (w.core.apply lib i).events = w.core.events) : (w.step lib i).Sound := by
  have takes : i.takes = [] := by simp only [Input.takes, target]
  have mode : (w.core.apply lib i).health.mode = w.core.health.mode := congrArg Reel.mode reel
  have guard : (w.core.apply lib i).forceGuard = w.core.forceGuard := congrArg Scope.forceGuard scope
  have active : (w.core.apply lib i).active = w.core.active := congrArg Scope.active scope
  have log : (w.step lib i).log = w.log := by
    simp only [step, drained, sound.drained, List.append_nil]
  have taken : (w.step lib i).taken = w.taken := by simp only [step, takes, List.nil_append]
  constructor
  · rfl
  · intro armed
    have before := sound.guardable (by rw [← guard]; exact armed)
    rw [TickCore.guardable, Reel.rolls] at before ⊢
    exact before.imp (fun rolls => reel.symm ▸ rolls) fun hold => mode.trans hold
  · intro motionId unknown
    rw [taken] at unknown
    rw [log]
    exact active.symm ▸ sound.known motionId unknown
  · exact fun still => if_neg still
  · intro rolls
    have rolled : w.core.reel.rolls := reel ▸ rolls
    obtain ⟨t, playing, carried, member, unresolved⟩ := sound.played rolled
    refine ⟨t, ?_, ?_, taken.symm ▸ member, log.symm ▸ unresolved⟩
    · have observed : (w.step lib i).playing = _ := if_pos rolls
      rw [observed, target]
      exact playing
    · exact ⟨(congrArg Scope.captured scope).trans carried.1, guard.trans carried.2.1,
        (congrArg Scope.deadmanArmed scope).trans carried.2.2.1,
        (congrArg Scope.deadmanS scope).trans carried.2.2.2⟩

theorem Sound.step {lib : External R} {w : GuardWatch R} (sound : w.Sound) {i : Input R}
    (fresh : w.distinct i) : (w.step lib i).Sound := by
  cases i with
  | tick rx pending superseded => exact sound.tick_sound fresh
  | requestStop | requestHold | kick | heartbeat => exact sound.call rfl rfl rfl rfl
  | requestRecover =>
    have asked : w.core.requestRecover.reel = w.core.reel ∧
        w.core.requestRecover.scope = w.core.scope ∧
        w.core.requestRecover.events = w.core.events := by
      unfold TickCore.requestRecover
      split
      · exact ⟨rfl, rfl, rfl⟩
      · exact ⟨rfl, rfl, rfl⟩
    exact sound.call rfl asked.1 asked.2.1 asked.2.2
  | beginStreaming qMeas =>
    constructor
    · rfl
    · exact fun _ => .inr rfl
    · intro motionId unknown
      have log : (w.step lib (.beginStreaming qMeas)).log = w.log := by
        simp [GuardWatch.step, TickCore.apply, TickCore.beginStreaming, sound.drained]
      rw [log]
      exact sound.known motionId unknown
    · exact fun _ => rfl
    · rintro (rolls | rolls) <;> cases rolls

omit [FloorRing R] in
theorem start_sound (cfg : RtCoreConfig R) : (⟨.new cfg, [], [], none⟩ : GuardWatch R).Sound where
  drained := rfl
  guardable := nofun
  known := fun _ _ => rfl
  idle := fun _ => rfl
  played := by
    rintro (rolls | rolls) <;> cases rolls

theorem sound_of_reachable {lib : External R} {cfg : RtCoreConfig R} {w : GuardWatch R}
    (reached : (machine lib cfg).Reachable distinct w) : w.Sound := by
  refine reached.invariant (start_sound cfg) ?_
  rintro a b i sound fresh ⟨⟩
  exact sound.step fresh

/-- After every run, the next tick keeps the guards to the motion that armed them exactly if it
is not one that takes an over-threshold packet in the hold behind an ended trajectory. -/
theorem guards_scoped_iff {lib : External R} {cfg : RtCoreConfig R} {w : GuardWatch R}
    (reached : (machine lib cfg).Reachable distinct w) (rx : Option (RxSample R))
    (pending : Option (Target R)) (superseded : Bool) :
    w.Scoped lib rx pending superseded ↔ ¬ w.FiresInHold lib rx :=
  (sound_of_reachable reached).scoped_iff

instance (w : GuardWatch R) (i : Input R) : Decidable (w.distinct i) :=
  inferInstanceAs (Decidable (∀ _ ∈ _, _))

/-- Five milliseconds at rest, guarded at half a newton. -/
def guardedRest : Target ℚ :=
  { benchTrajectory 1 0 0 with timesNs := some [0, 5000000], forceStopN := 1 / 2 }

/-- A packet that reports one newton. -/
def pressedRx : RxSample ℚ := { benchRx benchGates 0 with fx := 1, wrenchValid := true }

/-- One newton in the middle of the guarded motion trips its guard. -/
theorem guards_scoped_iff_played : ∃ w : GuardWatch ℚ, w.playing.isSome ∧
    w.reports benchExternal (some pressedRx) none false .forceGuardTrip ∧
    w.Scoped benchExternal (some pressedRx) none false := by
  obtain ⟨w, reached, tested⟩ := Machine.reachable_of_test
    (machine benchExternal defaultRtCoreConfig) distinct
    [.beginStreaming 0, benchTick none, benchTick (some guardedRest)]
    (fun w : GuardWatch ℚ => w.playing.isSome && decide (w.core.health.mode = .capture) &&
      (w.core.tick benchExternal (some pressedRx) none false).2.events.any
        fun e => decide (e.type = .forceGuardTrip))
    (by decide +kernel) (by decide +kernel)
  simp only [Bool.and_eq_true, decide_eq_true_eq, List.any_eq_true] at tested
  obtain ⟨⟨playing, rolling⟩, reported⟩ := tested
  refine ⟨w, playing, reported, (guards_scoped_iff reached _ _ _).mpr ?_⟩
  rintro ⟨hold, -⟩
  rw [rolling] at hold
  cases hold

/-- Whatever the run, guards stay with their motion. -/
def GuardsScoped (lib : External R) (cfg : RtCoreConfig R) : Prop :=
  ∀ w, (machine lib cfg).Reachable distinct w → ∀ rx pending superseded,
    w.Scoped lib rx pending superseded

/-- The guarded motion is done and the core holds; one newton still trips its guard. -/
theorem settled_guard_fires : ¬ GuardsScoped benchExternal defaultRtCoreConfig := by
  intro within
  obtain ⟨w, reached, tested⟩ := Machine.reachable_of_test
    (machine benchExternal defaultRtCoreConfig) distinct
    [.beginStreaming 0, benchTick none, benchTick (some guardedRest), benchTick none,
      benchTick none]
    (fun w : GuardWatch ℚ => decide (w.core.health.mode = .hold) &&
      (w.core.tick benchExternal (some pressedRx) none false).2.events.any
        fun e => decide (e.type = .forceGuardTrip))
    (by decide +kernel) (by decide +kernel)
  simp only [Bool.and_eq_true, decide_eq_true_eq, List.any_eq_true] at tested
  obtain ⟨t, ⟨-, rolls, -⟩, -⟩ := (within w reached (some pressedRx) none false).force tested.2
  rw [tested.1] at rolls
  simp at rolls

end GuardWatch

end AiroFanuc.RtCore
