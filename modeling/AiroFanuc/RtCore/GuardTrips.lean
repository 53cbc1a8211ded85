import AiroFanuc.RtCore.Entries
import AiroFanuc.RtCore.GuardStages

/-! When a guard trips: the exact condition on the packet and the state a tick begins in. -/

namespace AiroFanuc.RtCore

open TickEngine Library

variable {R : Type} [Field R] [LinearOrder R] [FloorRing R]

/-- The force a packet reports. -/
def RxSample.force (lib : External R) (rx : RxSample R) : R :=
  lib.sqrt (rx.fx * rx.fx + rx.fy * rx.fy + rx.fz * rx.fz)

/-- A guard disarmed by a stage stays so through every later one. -/
theorem Control.Moves.disarmed {c d : Control} (moved : Control.Moves c d)
    (off : c.forceArmed = false) : d.forceArmed = false := by
  have kept : ∀ ⦃a b : Control⦄, a.forceArmed = false → Control.Move a b → b.forceArmed = false := by
    intro a b off move
    cases move with
    | fault | park | brake => rfl
    | halt mode => exact (Control.resolve_forceArmed a .stopped).trans off
    | play mode => exact off
    | finish st plays ended => exact (Control.resolve_forceArmed a st).trans off
    | rest mode own => exact off
  exact Control.Moves.invariant (I := fun e => e.forceArmed = false) moved off kept

namespace TickCore

/-- The state the deadman's watch looks at. -/
def beforeDeadman (s : TickCore R) (rx : Option (RxSample R)) : TickCore R :=
  (s.countTick.ingestRx rx).answerStop.answerHold.answerKick.answerHeartbeat.handleRxSilence

/-- The state the force guard looks at. -/
def beforeGuard (s : TickCore R) (rx : Option (RxSample R)) : TickCore R :=
  (s.beforeLiveness rx).handleSupervisorLiveness

def deadmanDue (s : TickCore R) : Prop :=
  s.deadman.armed = true ∧ s.health.mode = .trajectory ∧
    s.deadman.deadmanS ≤ ((s.deadman.ticksSinceKick + 1 : ℕ) : R) * s.itp

def supervisorDue (s : TickCore R) : Prop :=
  s.anchor.streaming = true ∧ s.liveness.armed = true ∧ s.liveness.lostLatched = false ∧
    s.cfg.supervisorLostS ≤ ((s.liveness.ticksSinceHeartbeat + 1 : ℕ) : R) * s.itp

def forceDue (lib : External R) (s : TickCore R) (rx : RxSample R) : Prop :=
  s.forceGuard.armed = true ∧ rx.wrenchValid = true ∧ s.forceGuard.stopN < rx.force lib

/-! ### The three watches -/

theorem handleDeadman_due {s : TickCore R} (due : s.deadmanDue) :
    ∃ u : TickCore R, s.handleDeadman =
      (u.enterFault .watchdogExpired .deadmanTrip .stopped).emit .deadmanTrip .watchdogExpired
        0 0 := by
  refine ⟨{ s with deadman.ticksSinceKick := s.deadman.ticksSinceKick + 1 }, ?_⟩
  simp only [handleDeadman]
  rw [if_neg (by simp [due.1, due.2.1]), if_pos (by exact due.2.2)]

/-- The deadman's count is all an early look changes. -/
theorem handleDeadman_early {s : TickCore R} (early : ¬ s.deadmanDue) :
    ∃ ticks, s.handleDeadman = { s with deadman.ticksSinceKick := ticks } := by
  simp only [handleDeadman]
  split
  · exact ⟨s.deadman.ticksSinceKick, rfl⟩
  · rename_i watching
    simp only [not_or, Bool.not_eq_false, not_not] at watching
    split
    · rename_i lapsed
      exact absurd ⟨watching.1, watching.2, lapsed⟩ early
    · exact ⟨_, rfl⟩

theorem handleSupervisorLiveness_due {s : TickCore R} (due : s.supervisorDue) :
    s.handleSupervisorLiveness.forceGuard.armed = false := by
  simp only [handleSupervisorLiveness]
  rw [if_neg (by simp [due.1, due.2.1]), if_neg (by simp [due.2.2.1]), if_pos (by exact due.2.2.2)]
  rfl

theorem handleSupervisorLiveness_early {s : TickCore R} (early : ¬ s.supervisorDue) :
    ∃ ticks, s.handleSupervisorLiveness = { s with liveness.ticksSinceHeartbeat := ticks } := by
  simp only [handleSupervisorLiveness]
  split
  · exact ⟨s.liveness.ticksSinceHeartbeat, rfl⟩
  · rename_i watching
    simp only [not_or, Bool.not_eq_false] at watching
    split
    · exact ⟨s.liveness.ticksSinceHeartbeat, rfl⟩
    · rename_i unlatched
      split
      · rename_i lapsed
        exact absurd ⟨watching.1, watching.2, Bool.eq_false_of_not_eq_true unlatched, lapsed⟩ early
      · exact ⟨_, rfl⟩

omit [FloorRing R] in
theorem handleForceGuard_due {lib : External R} {s : TickCore R} {rx : RxSample R}
    (due : s.forceDue lib rx) : s.handleForceGuard lib rx =
      (s.beginBrake .stopped .none).emit .forceGuardTrip .forceGuard 0 0 := by
  simp only [handleForceGuard]
  rw [if_neg (by simp [due.1, due.2.1]), if_pos (by exact due.2.2)]

omit [FloorRing R] in
theorem handleForceGuard_early {lib : External R} {s : TickCore R} {rx : RxSample R}
    (early : ¬ s.forceDue lib rx) : s.handleForceGuard lib rx = s := by
  simp only [handleForceGuard]
  split
  · rfl
  · rename_i watching
    simp only [not_or, Bool.not_eq_false] at watching
    exact if_neg fun beyond => early ⟨watching.1, watching.2, beyond⟩

/-! ### Up to the force guard -/

theorem beforeDeadman_spares (s : TickCore R) (rx : Option (RxSample R)) :
    Spares s (s.beforeDeadman rx) := by
  have counted : Spares s s.countTick := ⟨.refl _, fun rolls => ⟨rolls, rfl⟩⟩
  have answered := ((counted.trans (ingestRx_spares _ rx)).trans (answerStop_spares _)).trans
    (answerHold_spares _)
  exact ((answered.trans (answerKick_spares _)).trans (answerHeartbeat_spares _)).trans
    (handleRxSilence_spares _)

/-- The deadman's trip is the only one before the force guard. -/
theorem handleDeadman_spares {s : TickCore R} (early : ¬ s.deadmanDue) : Spares s s.handleDeadman := by
  obtain ⟨ticks, counted⟩ := handleDeadman_early early
  rw [counted]
  exact ⟨.refl _, fun rolls => ⟨rolls, rfl⟩⟩

theorem handleDeadman_posts (s : TickCore R) {e : Event} (member : e ∈ s.handleDeadman.events) :
    e ∈ s.events ∨ e.type.trips = false ∨ (e.type = .deadmanTrip ∧ s.deadmanDue) := by
  by_cases due : s.deadmanDue
  · simp only [handleDeadman] at member
    rw [if_neg (by simp [due.1, due.2.1]), if_pos (by exact due.2.2)] at member
    simp only [emit, pushEvent] at member
    have faulted := (enterFault_spares { s with
      deadman.ticksSinceKick := s.deadman.ticksSinceKick + 1 } .watchdogExpired .deadmanTrip
      .stopped).posts
    split at member
    · rcases List.mem_append.mp member with before | posted
      · exact (faulted e before).imp_right .inl
      · rw [List.mem_singleton.mp posted]
        exact .inr (.inr ⟨rfl, due⟩)
    · exact (faulted e member).imp_right .inl
  · exact ((handleDeadman_spares due).posts e member).imp_right .inl

omit [FloorRing R] in
theorem handleForceGuard_posts (lib : External R) (s : TickCore R) (rx : RxSample R) {e : Event}
    (member : e ∈ (s.handleForceGuard lib rx).events) :
    e ∈ s.events ∨ e.type.trips = false ∨ (e.type = .forceGuardTrip ∧ s.forceDue lib rx) := by
  by_cases due : s.forceDue lib rx
  · rw [handleForceGuard_due due] at member
    simp only [emit, pushEvent] at member
    have braked := (beginBrake_spares s .stopped .none).posts
    split at member
    · rcases List.mem_append.mp member with before | posted
      · exact (braked e before).imp_right .inl
      · rw [List.mem_singleton.mp posted]
        exact .inr (.inr ⟨rfl, due⟩)
    · exact (braked e member).imp_right .inl
  · rw [handleForceGuard_early due] at member
    exact .inl member

omit [FloorRing R] in
/-- A due guard reports its trip if the ring has room for it. -/
theorem handleForceGuard_reports {lib : External R} {s : TickCore R} {rx : RxSample R}
    (due : s.forceDue lib rx) (room : (s.handleForceGuard lib rx).events.length < kEventRoom) :
    ∃ e ∈ (s.handleForceGuard lib rx).events, e.type = .forceGuardTrip := by
  rw [handleForceGuard_due due] at room ⊢
  have stored : ((s.beginBrake .stopped .none).emit .forceGuardTrip .forceGuard 0 0).events =
      (s.beginBrake .stopped .none).events ++ _ := Register.pushEvent_stored room
  rw [stored]
  exact ⟨_, List.mem_append_right _ (List.mem_singleton.mpr rfl), rfl⟩

/-- Whatever trip a tick reports is due where its guard looks. -/
theorem tick_trips {lib : External R} {s : TickCore R} {rx : Option (RxSample R)}
    {pending : Option (Target R)} {consumeSuperseded : Bool} (drained : s.events = []) {e : Event}
    (member : e ∈ (s.tick lib rx pending consumeSuperseded).2.events)
    (trips : e.type.trips = true) :
    (e.type = .deadmanTrip ∧ (s.beforeDeadman rx).deadmanDue) ∨
      (e.type = .forceGuardTrip ∧ ∃ r, rx = some r ∧ (s.beforeGuard rx).forceDue lib r) := by
  have late : Untripped (s.beforeDwell lib rx).events
      (s.tick lib rx pending consumeSuperseded).2.events :=
    (((recoveryDwell_spares (s.beforeDwell lib rx)).posts.trans
      (consumePending_posts lib (s.beforeConsume lib rx) pending consumeSuperseded)).trans
      (dispatchMode_spares lib _).posts).trans (sendCommand_spares _ _).posts
  have dwelling : e ∈ (s.beforeDwell lib rx).events :=
    (late e member).resolve_right (by simp [trips])
  have guarding : e ∈ (s.beforeGuard rx).events ∨
      (e.type = .forceGuardTrip ∧ ∃ r, rx = some r ∧ (s.beforeGuard rx).forceDue lib r) := by
    cases rx with
    | none => exact .inl dwelling
    | some r =>
      rcases handleForceGuard_posts lib (s.beforeGuard (some r)) r dwelling with early | quiet | due
      · exact .inl early
      · exact absurd trips (by simp [quiet])
      · exact .inr ⟨due.1, r, rfl, due.2⟩
  rcases guarding with early | due
  · have watching : e ∈ (s.beforeLiveness rx).events :=
      ((handleSupervisorLiveness_spares _).posts e early).resolve_right (by simp [trips])
    rcases handleDeadman_posts (s.beforeDeadman rx) watching with before | quiet | due
    · have began := ((beforeDeadman_spares s rx).posts e before).resolve_right (by simp [trips])
      rw [drained] at began
      cases began
    · exact absurd trips (by simp [quiet])
    · exact .inl due
  · exact .inr due

/-! ### From the start of the tick -/

/-- A stop is answered, or the hold of a motion. -/
def answersStop (s : TickCore R) : Prop :=
  s.ops.stopRequested = true ∨ (s.ops.holdRequested = true ∧ s.health.mode ≠ .hold)

def gateKills (s : TickCore R) (rx : RxSample R) : Prop :=
  s.anchor.streaming = true ∧ gateEdges s.lastGates rx.gates ≠ []

/-- A stop or a fault comes before the force guard on this tick. -/
def interrupted (s : TickCore R) (rx : RxSample R) : Prop :=
  s.gateKills rx ∨ s.answersStop ∨ s.answerKick.answerHeartbeat.deadmanDue ∨
    s.answerKick.answerHeartbeat.supervisorDue

/-- The modes in which a force guard can be armed. -/
def guardable (s : TickCore R) : Prop := s.reel.rolls ∨ s.health.mode = .hold

/-- What the watches look at. -/
structure Vigil (R : Type) where
  cfg : RtCoreConfig R
  mode : Mode
  streaming : Bool
  deadman : Deadman R
  liveness : Liveness
  forceGuard : ForceGuard R

def vigil (s : TickCore R) : Vigil R :=
  ⟨s.cfg, s.health.mode, s.anchor.streaming, s.deadman, s.liveness, s.forceGuard⟩

omit [FloorRing R] in
theorem deadmanDue_congr {s t : TickCore R} (same : s.vigil = t.vigil) :
    s.deadmanDue ↔ t.deadmanDue := by
  have cfg : s.cfg = t.cfg := congrArg Vigil.cfg same
  have mode : s.health.mode = t.health.mode := congrArg Vigil.mode same
  have deadman : s.deadman = t.deadman := congrArg Vigil.deadman same
  simp only [deadmanDue, itp, cfg, mode, deadman]

omit [FloorRing R] in
theorem supervisorDue_congr {s t : TickCore R} (same : s.vigil = t.vigil) :
    s.supervisorDue ↔ t.supervisorDue := by
  have cfg : s.cfg = t.cfg := congrArg Vigil.cfg same
  have streaming : s.anchor.streaming = t.anchor.streaming := congrArg Vigil.streaming same
  have liveness : s.liveness = t.liveness := congrArg Vigil.liveness same
  simp only [supervisorDue, itp, cfg, streaming, liveness]

omit [Field R] [LinearOrder R] [FloorRing R] in
theorem answerKick_vigil (s : TickCore R) :
    s.answerKick.vigil =
      { s.vigil with
        deadman := if s.ops.kicked then { s.deadman with ticksSinceKick := 0 } else s.deadman } := by
  unfold answerKick
  split <;> rfl

omit [Field R] [LinearOrder R] [FloorRing R] in
theorem answerHeartbeat_vigil (s : TickCore R) :
    s.answerHeartbeat.vigil =
      { s.vigil with
        liveness := if s.vigil.liveness.heartbeated then ⟨false, true, 0, false⟩
          else s.vigil.liveness } := by
  unfold answerHeartbeat
  split
  · rename_i beat
    rw [if_pos (by exact beat)]
    rfl
  · rename_i quiet
    rw [if_neg (by exact quiet)]

omit [Field R] [LinearOrder R] [FloorRing R] in
theorem setCondition_vigil (s : TickCore R) (bit : Condition) (on : Bool) :
    (s.setCondition bit on).vigil = s.vigil := rfl

omit [Field R] [LinearOrder R] [FloorRing R] in
/-- Gates that are only observed disturb neither the watches nor the requests. -/
theorem observeGates_vigil (s : TickCore R) (g : Gates) :
    (s.observeGates g).vigil = s.vigil ∧ (s.observeGates g).ops = s.ops ∧
      (s.observeGates g).rxWatch = s.rxWatch := by
  have leveled : (s.setGateConditions g).vigil = s.vigil := by
    simp only [setGateConditions, setCondition_vigil]
  simp only [observeGates, gateEvents_shape]
  exact ⟨leveled, rfl, rfl⟩

/-- A packet whose gates raise no edge, or one from before the streaming. -/
theorem ingestRx_calm {s : TickCore R} {rx : RxSample R} (calm : ¬ s.gateKills rx) :
    s.countTick.ingestRx (some rx) = (s.countTick.takeRx rx).observeGates rx.gates := by
  simp only [ingestRx, processGates]
  have anchor : ((s.countTick.takeRx rx).observeGates rx.gates).anchor = s.anchor :=
    observeGates_anchor _ _
  rw [anchor]
  split
  · rename_i streaming
    have edges : gateEdges (s.countTick.takeRx rx).lastGates rx.gates = [] := by
      by_contra raised
      exact calm ⟨streaming, raised⟩
    rw [edges]
  · rfl

theorem ingestRx_kills {s : TickCore R} {rx : RxSample R} (kills : s.gateKills rx) :
    (s.countTick.ingestRx (some rx)).forceGuard.armed = false := by
  simp only [ingestRx, processGates]
  have anchor : ((s.countTick.takeRx rx).observeGates rx.gates).anchor = s.anchor :=
    observeGates_anchor _ _
  rw [anchor, if_pos kills.1]
  split
  · rename_i edges
    exact absurd edges kills.2
  · rfl

theorem handleRxSilence_fresh {s : TickCore R} (fresh : s.rxWatch.ticksSinceRx = 0) :
    s.handleRxSilence = s := by
  simp only [handleRxSilence]
  exact if_pos fresh

omit [FloorRing R] in
/-- The deadman's count is nothing to the supervisor's watch. -/
theorem supervisorDue_counted (s : TickCore R) (ticks : Nat) :
    ({ s with deadman.ticksSinceKick := ticks } : TickCore R).supervisorDue ↔ s.supervisorDue :=
  Iff.rfl

/-- With no stop to answer, a tick leaves the motion to its watches. -/
theorem beforeDeadman_vigil {s : TickCore R} {rx : RxSample R}
    (calm : ¬ s.gateKills rx) (unasked : ¬ s.answersStop) :
    (s.beforeDeadman (some rx)).vigil = s.answerKick.answerHeartbeat.vigil := by
  obtain ⟨a, ingested⟩ : ∃ a, a = s.countTick.ingestRx (some rx) := ⟨_, rfl⟩
  obtain ⟨view, ops, fresh⟩ := observeGates_vigil (s.countTick.takeRx rx) rx.gates
  rw [← ingestRx_calm calm, ← ingested] at view ops fresh
  replace view : a.vigil = s.vigil := view
  replace ops : a.ops = s.ops := ops
  replace fresh : a.rxWatch.ticksSinceRx = 0 := congrArg RxWatch.ticksSinceRx fresh
  have unstopped : a.answerStop = a := by
    unfold answerStop
    rw [ops]
    exact if_neg fun requested => unasked (.inl requested)
  have held : a.answerHold.vigil = s.vigil ∧ a.answerHold.ops.kicked = s.ops.kicked ∧
      a.answerHold.rxWatch.ticksSinceRx = 0 := by
    have mode : a.health.mode = s.health.mode := congrArg Vigil.mode view
    unfold answerHold
    rw [ops]
    split
    · rename_i requested
      have still : s.health.mode = .hold := by
        by_contra moving
        exact unasked (.inr ⟨requested, moving⟩)
      simp only [mode, still]
      exact ⟨view, trivial, fresh⟩
    · exact ⟨view, congrArg ControlOps.kicked ops, fresh⟩
  have kicked : a.answerHold.answerKick.vigil = s.answerKick.vigil := by
    have deadman : a.answerHold.deadman = s.deadman := congrArg Vigil.deadman held.1
    rw [answerKick_vigil, answerKick_vigil, held.1, held.2.1, deadman]
  have beat : a.answerHold.answerKick.answerHeartbeat.vigil = s.answerKick.answerHeartbeat.vigil := by
    rw [answerHeartbeat_vigil, answerHeartbeat_vigil, kicked]
  have aged : a.answerHold.answerKick.answerHeartbeat.rxWatch.ticksSinceRx = 0 := by
    have unkicked : a.answerHold.answerKick.rxWatch = a.answerHold.rxWatch := by
      unfold answerKick
      split <;> rfl
    unfold answerHeartbeat
    split <;> exact (congrArg RxWatch.ticksSinceRx unkicked).trans held.2.2
  rw [beforeDeadman, ← ingested, unstopped, handleRxSilence_fresh aged]
  exact beat

/-- The moves from the answered requests to the force guard. -/
theorem answered_moves (a : TickCore R) :
    Control.Moves a.control
      a.answerKick.answerHeartbeat.handleRxSilence.handleDeadman.handleSupervisorLiveness.control := by
  have answered : a.answerKick.answerHeartbeat.control = a.control := by
    rw [answerHeartbeat_control, answerKick_control]
  rw [← answered]
  exact ((handleRxSilence_moves _).trans (handleDeadman_moves _)).trans
    (handleSupervisorLiveness_moves _)

theorem beforeGuard_moves (s : TickCore R) (rx : Option (RxSample R)) :
    Control.Moves s.control (s.beforeGuard rx).control := by
  have ingested : Control.Moves s.control (s.countTick.ingestRx rx).control :=
    ingestRx_moves s.countTick rx
  exact ((ingested.trans (answerStop_moves _)).trans (answerHold_moves _)).trans (answered_moves _)

/-- Whatever interrupts a tick disarms the force guard before it looks. -/
theorem interrupted_disarms {s : TickCore R} {rx : RxSample R} (live : s.guardable)
    (stopped : s.interrupted rx) : (s.beforeGuard (some rx)).forceGuard.armed = false := by
  by_cases kills : s.gateKills rx
  · have onward := ((answerStop_moves (s.countTick.ingestRx (some rx))).trans
      (answerHold_moves _)).trans (answered_moves _)
    exact Control.Moves.disarmed onward (ingestRx_kills kills)
  obtain ⟨a, ingested⟩ : ∃ a, a = s.countTick.ingestRx (some rx) := ⟨_, rfl⟩
  obtain ⟨view, ops, -⟩ := observeGates_vigil (s.countTick.takeRx rx) rx.gates
  rw [← ingestRx_calm kills, ← ingested] at view ops
  replace ops : a.ops = s.ops := ops
  have mode : a.health.mode = s.health.mode := congrArg Vigil.mode view
  by_cases asked : s.answersStop
  · have braked : a.answerStop.answerHold.control.forceArmed = false := by
      by_cases requested : a.ops.stopRequested = true
      · have disarmed : a.answerStop.control.forceArmed = false := by
          unfold answerStop
          rw [if_pos requested]
          rcases live with (live | live) | live <;>
            · simp only [mode.trans live]
              rfl
        exact Control.Moves.disarmed (answerHold_moves a.answerStop) disarmed
      · have unstopped : a.answerStop = a := by
          unfold answerStop
          exact if_neg requested
        have hold := asked.resolve_left (by rwa [← ops])
        rw [unstopped]
        unfold answerHold
        rw [if_pos (by rw [ops]; exact hold.1)]
        rcases live with (live | live) | live
        · simp only [mode.trans live]
          rfl
        · simp only [mode.trans live]
          rfl
        · exact absurd live hold.2
    rw [beforeGuard, beforeLiveness, ← ingested]
    exact Control.Moves.disarmed (answered_moves a.answerStop.answerHold) braked
  have view := beforeDeadman_vigil kills asked
  by_cases due : s.answerKick.answerHeartbeat.deadmanDue
  · obtain ⟨u, tripped⟩ := handleDeadman_due ((deadmanDue_congr view).mpr due)
    have disarmed : (s.beforeDeadman (some rx)).handleDeadman.control.forceArmed = false := by
      rw [tripped]
      rfl
    exact Control.Moves.disarmed (handleSupervisorLiveness_moves _) disarmed
  · have lapsed := ((stopped.resolve_left kills).resolve_left asked).resolve_left due
    obtain ⟨ticks, counted⟩ := handleDeadman_early fun d => due ((deadmanDue_congr view).mp d)
    have last : (s.beforeDeadman (some rx)).handleDeadman.supervisorDue := by
      rw [counted, supervisorDue_counted]
      exact (supervisorDue_congr view).mpr lapsed
    exact handleSupervisorLiveness_due last

/-- Uninterrupted, the force guard looks at the guard the tick began with. -/
theorem uninterrupted_guard {s : TickCore R} {rx : RxSample R}
    (onward : ¬ s.interrupted rx) : (s.beforeGuard (some rx)).forceGuard = s.forceGuard := by
  simp only [interrupted, not_or] at onward
  obtain ⟨calm, unasked, kicked, alive⟩ := onward
  have view := beforeDeadman_vigil calm unasked
  obtain ⟨ticks, counted⟩ := handleDeadman_early fun due => kicked ((deadmanDue_congr view).mp due)
  have early : ¬ (s.beforeDeadman (some rx)).handleDeadman.supervisorDue := by
    rw [counted, supervisorDue_counted]
    exact fun due => alive ((supervisorDue_congr view).mp due)
  obtain ⟨beats, watched⟩ := handleSupervisorLiveness_early early
  have guard : (s.beforeDeadman (some rx)).forceGuard = s.forceGuard := by
    have same := congrArg Vigil.forceGuard view
    rw [answerHeartbeat_vigil, answerKick_vigil] at same
    exact same
  rw [beforeGuard,
    show s.beforeLiveness (some rx) = (s.beforeDeadman (some rx)).handleDeadman from rfl,
    watched, counted]
  exact guard

/-- A packet trips the force guard exactly if it exceeds the guard the tick began with, and
nothing interrupts the tick before. -/
theorem forceDue_iff {lib : External R} {s : TickCore R} {rx : RxSample R} (live : s.guardable) :
    (s.beforeGuard (some rx)).forceDue lib rx ↔ s.forceDue lib rx ∧ ¬ s.interrupted rx := by
  by_cases stopped : s.interrupted rx
  · have disarmed := interrupted_disarms live stopped
    constructor
    · intro due
      rw [due.1] at disarmed
      cases disarmed
    · exact fun due => absurd stopped due.2
  · rw [forceDue, forceDue, uninterrupted_guard stopped]
    exact ⟨fun due => ⟨due, stopped⟩, And.left⟩

end TickCore

end AiroFanuc.RtCore
