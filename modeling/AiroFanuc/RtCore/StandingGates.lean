import AiroFanuc.RtCore.Frames
import AiroFanuc.RtCore.Run

/-! Faults are raised on edges, conditions are levels: when a standing kill condition
is a fault. -/

namespace AiroFanuc.RtCore

open TickEngine Library
open TickCore (killLevel gateEdges)

/-- Without an edge over the packet before, a kill level was already up there. -/
theorem killLevel_of_no_edge {last g : Gates} (level : killLevel true g = true)
    (quiet : gateEdges last g = []) : killLevel true last = true := by
  simp only [gateEdges, List.append_eq_nil_iff, ite_eq_right_iff, List.cons_ne_nil, imp_false,
    Bool.and_eq_true, Bool.not_eq_true', not_and, Bool.not_eq_false] at quiet
  obtain ⟨⟨⟨⟨⟨stop, error⟩, teach⟩, contact⟩, clamp⟩, drop⟩ := quiet
  simp only [killLevel, Bool.and_true, Bool.or_eq_true, Bool.not_eq_true'] at level ⊢
  rcases level with ((((up | up) | down) | up) | up) | up
  · simp [stop up]
  · simp [error up]
  · have before : last.motionPossible = false := Bool.eq_false_of_not_eq_true (drop down)
    simp [before]
  · simp [teach up]
  · simp [contact up]
  · simp [clamp up]

namespace Control

variable {c d : Control}

theorem Move.fault_latched (move : Move c d) (latched : c.fault ≠ .none) : d.fault ≠ .none := by
  cases move with
  | fault cause st real ended => exact real
  | park => exact FaultReason.noConfusion
  | brake st armed ended => simpa [braking] using latched
  | halt mode => simpa [halted] using latched
  | play mode => exact latched
  | finish st playing ended => simpa [rested] using latched
  | rest mode own => exact latched

theorem Moves.fault_latched (moved : Moves c d) (latched : c.fault ≠ .none) : d.fault ≠ .none :=
  Moves.invariant moved latched fun _ _ kept move => move.fault_latched kept

theorem Moves.guarded (moved : Moves c d) (guarded : c.Guarded) : d.Guarded :=
  Moves.invariant moved guarded fun _ _ kept move => move.guarded kept

theorem Guarded.accept (guarded : c.Guarded) {kind : TargetKind} (motionId : Nat) (guard : Bool)
    (free : kind ≠ .hold → c.fault = .none) : (c.accept kind motionId guard).Guarded := by
  cases kind with
  | none => exact guarded
  | hold =>
    by_cases moving : c.mode = .capture ∨ c.mode = .trajectory ∨ c.mode = .servo
    · have unsafed : ¬ c.safed := by rcases moving with mode | mode | mode <;> simp [safed, mode]
      have braked : (c.braking .preempted).Guarded :=
        (Move.brake c .preempted (.inl unsafed) (by decide)).guarded guarded
      simp only [Control.accept, moving, if_true]
      exact ⟨braked.fault, braked.guard⟩
    · simp only [Control.accept, moving, if_false]
      exact ⟨guarded.fault, guarded.guard⟩
  | trajectory | servo | brake =>
    have clear := free (by decide)
    exact ⟨by simp [Control.accept, clear], by simp [Control.accept]⟩

end Control

namespace TickCore

variable {R : Type} [Field R] [LinearOrder R] [FloorRing R]

/-- An edge that a streaming core takes in is a fault. -/
theorem ingestRx_faults {s : TickCore R} {rx : RxSample R} (streams : s.anchor.streaming = true)
    (edge : gateEdges s.lastGates rx.gates ≠ []) :
    (s.ingestRx (some rx)).control.fault ≠ .none := by
  simp only [ingestRx, processGates]
  have streaming : ((s.takeRx rx).observeGates rx.gates).anchor.streaming = true := by
    rw [observeGates_anchor]
    exact streams
  rw [if_pos streaming]
  split
  · rename_i quiet
    exact absurd quiet edge
  · rename_i bit cause bump rest edges
    rw [enterFault_control]
    exact gateEdges_real (e := (bit, cause, bump)) (edges ▸ List.mem_cons_self)

theorem refuses_of_fault {lib : External R} {s : TickCore R} {t : Target R}
    {supersededByStop : Bool} (faulted : s.health.fault ≠ .none) (moving : t.kind ≠ .hold) :
    s.refuses lib t supersededByStop = true :=
  refuses_of_refusesMotion moving (by simp [refusesMotion, faulted])

theorem consumePending_guarded (lib : External R) {s : TickCore R} (pending : Option (Target R))
    (consumeSuperseded : Bool) (guarded : s.control.Guarded) :
    (s.consumePending lib pending consumeSuperseded).control.Guarded := by
  rw [consumePending_control]
  cases pending with
  | none => exact guarded
  | some t =>
    simp only [consume_control]
    split
    · exact guarded
    · split
      · exact ⟨guarded.fault, guarded.guard⟩
      · rename_i admitted
        refine guarded.accept _ _ fun moving => ?_
        by_contra faulted
        exact admitted (refuses_of_fault faulted moving)

theorem consumePending_fault (lib : External R) (s : TickCore R) (pending : Option (Target R))
    (consumeSuperseded : Bool) :
    (s.consumePending lib pending consumeSuperseded).control.fault = s.control.fault := by
  rw [consumePending_control]
  cases pending with
  | none => rfl
  | some t =>
    simp only [consume_control]
    split
    · rfl
    · split
      · rfl
      · exact Control.accept_fault _ _ _ _

/-- The fault and the safed modes go together in every run, whatever the inputs. -/
theorem apply_guarded (lib : External R) {s : TickCore R} (i : Input R)
    (guarded : s.control.Guarded) : (s.apply lib i).control.Guarded := by
  cases i with
  | tick rx pending consumeSuperseded =>
    refine tick_invariant (fun c d kept moved => moved.guarded kept) ?_ ?_ guarded
    · intro _ _
      exact ⟨by simp [Control.recovered, Control.rested], by simp [Control.recovered, Control.rested]⟩
    · exact consumePending_guarded lib pending consumeSuperseded
  | requestStop | requestHold | kick | heartbeat => exact guarded
  | requestRecover =>
    simp only [apply, requestRecover]
    split
    · exact ⟨guarded.fault, guarded.guard⟩
    · exact guarded
  | beginStreaming qMeas =>
    exact ⟨by simp [apply, beginStreaming, control], by simp [apply, beginStreaming, control]⟩

/-- A latched fault lasts through a tick on which a kill condition stands. -/
theorem tick_fault (lib : External R) {s : TickCore R} {rx : Option (RxSample R)}
    (killed : (s.ingestRx rx).health.conditions.killed = true)
    (latched : (s.countTick.ingestRx rx).health.fault ≠ .none) :
    (s.beforeConsume lib rx).health.fault ≠ .none ∧
      ∀ pending consumeSuperseded,
        (s.tick lib rx pending consumeSuperseded).2.health.fault ≠ .none := by
  have early := (watches_move lib s rx).fault_latched latched
  have standing : (s.beforeDwell lib rx).health.conditions.killed = true := by
    have kept := congrArg Frame.killed (beforeDwell_frame lib s rx)
    rw [ingestRx_frame] at kept
    have before := congrArg Frame.killed (ingestRx_frame s rx)
    exact kept.trans (before.symm.trans killed)
  have waits : (s.beforeDwell lib rx).dwellCompletes = false := by
    simp [dwellCompletes, dwellClear, standing]
  have taken : (s.beforeConsume lib rx).control.fault ≠ .none := by
    rw [beforeConsume_control, waits]
    exact early
  refine ⟨taken, fun pending consumeSuperseded => ?_⟩
  refine (tick_moves lib s rx pending consumeSuperseded).fault_latched ?_
  rwa [consumePending_fault]

end TickCore

/-! ### Runs, with the seam at which streaming begins -/

/-- `seam` is up from the beginning of streaming to the first packet after it. -/
structure GateWatch (R : Type) where
  core : TickCore R
  seam : Bool

namespace GateWatch

variable {R : Type} [Field R] [LinearOrder R] [FloorRing R]

def step (lib : External R) (w : GateWatch R) (i : Input R) : GateWatch R where
  core := w.core.apply lib i
  seam :=
    match i with
    | .beginStreaming _ => true
    | .tick (some _) _ _ => false
    | _ => w.seam

def machine (lib : External R) (cfg : RtCoreConfig R) : Machine (GateWatch R) (Input R) where
  start := ⟨.new cfg, false⟩
  step := fun w i => some (w.step lib i)

/-- The first packet after streaming began does not stand at a kill level that the
packet before the seam already showed. -/
def seamShowsEdge (w : GateWatch R) : Input R → Prop
  | .tick (some rx) _ _ =>
    w.seam = true → w.core.health.fault = .none → killLevel true rx.gates = true →
      gateEdges w.core.lastGates rx.gates ≠ []
  | _ => True

/-- What a tick on a streaming core owes a standing kill condition. -/
def Enforced (after : TickCore R) (pending : Option (Target R)) : Prop :=
  after.anchor.streaming = true → after.health.conditions.killed = true →
    after.health.fault ≠ .none ∧
    (after.health.mode = .safeFollow ∨ after.health.mode = .rxSilent) ∧
    ∀ t ∈ pending, t.kind ≠ .hold → after.lastConsume.accepted = false

structure Sound (w : GateWatch R) : Prop where
  guarded : w.core.control.Guarded
  seam : w.core.anchor.streaming = true → w.seam = true → w.core.health.conditions.killed = false
  level : w.core.anchor.streaming = true → w.seam = false →
    w.core.health.conditions.killed = killLevel true w.core.lastGates
  fault : w.core.anchor.streaming = true → w.core.health.conditions.killed = true →
    w.core.health.fault ≠ .none

/-- Once the packet is in, a streaming core with a kill condition has its fault. -/
theorem ingest_faults {w : GateWatch R} {rx : Option (RxSample R)} (sound : w.Sound)
    {pending : Option (Target R)} {consumeSuperseded : Bool}
    (legal : w.seamShowsEdge (.tick rx pending consumeSuperseded))
    (streams : w.core.anchor.streaming = true)
    (killed : (w.core.ingestRx rx).health.conditions.killed = true) :
    (w.core.countTick.ingestRx rx).health.fault ≠ .none := by
  have level := congrArg Frame.killed (TickCore.ingestRx_frame w.core rx)
  simp only [TickCore.frame] at level
  rw [killed] at level
  cases rx with
  | none => exact sound.fault streams level.symm
  | some rx =>
    simp only [streams] at level
    have latched (faulted : w.core.health.fault ≠ .none) :
        (w.core.countTick.ingestRx (some rx)).health.fault ≠ .none :=
      (TickCore.ingestRx_moves w.core.countTick (some rx)).fault_latched faulted
    by_cases clear : w.core.health.fault = .none
    swap
    · exact latched clear
    have edge : gateEdges w.core.lastGates rx.gates ≠ [] := by
      intro quiet
      cases seam : w.seam with
      | true => exact legal seam clear level.symm quiet
      | false =>
        have before := killLevel_of_no_edge level.symm quiet
        rw [← sound.level streams seam] at before
        exact sound.fault streams before clear
    exact TickCore.ingestRx_faults (s := w.core.countTick) streams edge

theorem tick_enforced (lib : External R) {w : GateWatch R} {rx : Option (RxSample R)}
    {pending : Option (Target R)} {consumeSuperseded : Bool} (sound : w.Sound)
    (legal : w.seamShowsEdge (.tick rx pending consumeSuperseded)) :
    Enforced (w.core.tick lib rx pending consumeSuperseded).2 pending := by
  intro streams killed
  have frame := TickCore.tick_frame lib w.core rx pending consumeSuperseded
  have standing : (w.core.ingestRx rx).health.conditions.killed = true :=
    (congrArg Frame.killed frame).symm.trans killed
  have streaming : w.core.anchor.streaming = true := by
    have kept : (w.core.ingestRx rx).anchor.streaming = true :=
      (congrArg Frame.streaming frame).symm.trans streams
    have before := congrArg Frame.streaming (TickCore.ingestRx_frame w.core rx)
    cases rx with
    | none => exact before.symm.trans kept
    | some rx => exact before.symm.trans kept
  have latched := TickCore.tick_fault lib standing (ingest_faults sound legal streaming standing)
  have guarded := TickCore.apply_guarded lib (.tick rx pending consumeSuperseded) sound.guarded
  refine ⟨latched.2 _ _, ?_, fun t present moving => ?_⟩
  · by_contra free
    exact latched.2 _ _ (guarded.fault.mpr free)
  · cases present
    have verdict := congrArg (fun f => f.lastConsume.accepted) frame
    refine verdict.trans ?_
    simp [TickCore.consume_accepted, TickCore.refuses_of_fault latched.1 moving]

theorem tick_sound {lib : External R} {w : GateWatch R} {rx : Option (RxSample R)}
    {pending : Option (Target R)} {consumeSuperseded : Bool} (sound : w.Sound)
    (legal : w.seamShowsEdge (.tick rx pending consumeSuperseded)) :
    (w.step lib (.tick rx pending consumeSuperseded)).Sound := by
  have frame := TickCore.tick_frame lib w.core rx pending consumeSuperseded
  rw [TickCore.ingestRx_frame] at frame
  have enforced := tick_enforced lib sound legal
  refine ⟨TickCore.apply_guarded lib _ sound.guarded, ?_, ?_,
    fun streams killed => (enforced streams killed).1⟩
  · intro streams seam
    cases rx with
    | none =>
      have streaming := (congrArg Frame.streaming frame).symm.trans streams
      exact (congrArg Frame.killed frame).trans (sound.seam streaming seam)
    | some rx => cases seam
  · intro streams seam
    have streaming := (congrArg Frame.streaming frame).symm.trans streams
    have gates := congrArg Frame.lastGates frame
    have level := congrArg Frame.killed frame
    cases rx with
    | none =>
      refine level.trans ((sound.level streaming seam).trans ?_)
      exact congrArg (killLevel true) gates.symm
    | some rx =>
      have streamed : w.core.anchor.streaming = true := streaming
      simp only [streamed] at level
      exact level.trans (congrArg (killLevel true) gates.symm)

theorem step_sound {lib : External R} {w : GateWatch R} {i : Input R} (sound : w.Sound)
    (legal : w.seamShowsEdge i) : (w.step lib i).Sound := by
  cases i with
  | tick rx pending consumeSuperseded => exact tick_sound sound legal
  | requestStop | requestHold | kick | heartbeat =>
    exact ⟨sound.guarded, sound.seam, sound.level, sound.fault⟩
  | requestRecover =>
    have guarded := TickCore.apply_guarded lib .requestRecover sound.guarded
    have same : w.core.requestRecover.frame = w.core.frame ∧
        w.core.requestRecover.health = w.core.health := by
      unfold TickCore.requestRecover
      split
      · exact ⟨rfl, rfl⟩
      · exact ⟨rfl, rfl⟩
    have streaming : w.core.requestRecover.anchor.streaming = w.core.anchor.streaming :=
      congrArg Frame.streaming same.1
    have gates : w.core.requestRecover.lastGates = w.core.lastGates :=
      congrArg Frame.lastGates same.1
    refine ⟨guarded, ?_, ?_, ?_⟩ <;>
      simp only [step, TickCore.apply, streaming, gates, same.2]
    · exact sound.seam
    · exact sound.level
    · exact sound.fault
  | beginStreaming qMeas =>
    refine ⟨TickCore.apply_guarded lib _ sound.guarded, fun _ _ => rfl, fun _ seam => ?_,
      fun _ killed => ?_⟩
    · cases seam
    · cases killed

theorem start_sound (lib : External R) (cfg : RtCoreConfig R) : (machine lib cfg).start.Sound :=
  ⟨⟨by simp [machine, TickCore.control, TickCore.new],
      by simp [machine, TickCore.control, TickCore.new]⟩,
    by simp [machine, TickCore.new], by simp [machine, TickCore.new], by simp [machine, TickCore.new]⟩

/-- In every run whose seams show their edges, a kill condition that stands while
streaming is a fault, and no motion is accepted under it. -/
theorem standing_kill_is_fault (lib : External R) (cfg : RtCoreConfig R) (w : GateWatch R)
    (reached : (machine lib cfg).Reachable seamShowsEdge w) (rx : Option (RxSample R))
    (pending : Option (Target R)) (consumeSuperseded : Bool)
    (legal : w.seamShowsEdge (.tick rx pending consumeSuperseded)) :
    Enforced (w.core.tick lib rx pending consumeSuperseded).2 pending := by
  have sound : w.Sound := by
    refine Machine.Reaches.invariant reached (start_sound lib cfg) ?_
    intro a b i sound legal moved
    cases moved
    exact step_sound sound legal
  exact tick_enforced lib sound legal

instance (w : GateWatch R) (i : Input R) : Decidable (w.seamShowsEdge i) :=
  match i with
  | .tick (some rx) _ _ => inferInstanceAs (Decidable
    (w.seam = true → w.core.health.fault = .none → killLevel true rx.gates = true →
      gateEdges w.core.lastGates rx.gates ≠ []))
  | .tick none _ _ | .requestStop | .requestHold | .requestRecover | .kick | .heartbeat
  | .beginStreaming _ => inferInstanceAs (Decidable True)

/-- The pendant is enabled while the arm streams. -/
theorem standing_kill_is_fault_pendant :
    ∃ after : TickCore ℚ, after.health.conditions .teach = true ∧ Enforced after none := by
  obtain ⟨w, reached, standing⟩ := Machine.reachable_of_test
    (machine benchExternal defaultRtCoreConfig) seamShowsEdge [.beginStreaming 0, benchTick none]
    (fun w => decide (w.seamShowsEdge (.tick (some (benchRx pendantGates 0)) none false)) &&
      (w.core.tick benchExternal (some (benchRx pendantGates 0)) none false).2.health.conditions
        .teach) (by decide +kernel) (by decide +kernel)
  simp only [Bool.and_eq_true, decide_eq_true_eq] at standing
  exact ⟨_, standing.2,
    standing_kill_is_fault benchExternal defaultRtCoreConfig w reached _ _ _ standing.1⟩

/-- Whatever the run, a kill condition that stands while streaming is a fault. -/
def StandingKillFaults (lib : External R) (cfg : RtCoreConfig R) : Prop :=
  ∀ w, (machine lib cfg).Reachable (fun _ _ => True) w → ∀ rx pending consumeSuperseded,
    Enforced (w.core.tick lib rx pending consumeSuperseded).2 pending

/-- The pendant was enabled before streaming began: no edge, no fault, and a servo
target is accepted under the standing condition. -/
theorem pendant_before_streaming_accepts :
    ¬ StandingKillFaults benchExternal defaultRtCoreConfig := by
  intro faults
  obtain ⟨w, reached, accepts⟩ := Machine.reachable_of_run (machine benchExternal defaultRtCoreConfig)
    [.tick (some (benchRx pendantGates 0)) none false, .beginStreaming 0]
    (fun w =>
      let after := (w.core.tick benchExternal (some (benchRx pendantGates 0))
        (some (benchServo 1 0)) false).2
      after.anchor.streaming && after.health.conditions.killed && after.lastConsume.accepted)
    (by decide +kernel)
  simp only [Bool.and_eq_true] at accepts
  obtain ⟨⟨streams, killed⟩, accepted⟩ := accepts
  have refused := (faults w reached _ _ _ streams killed).2.2 _ rfl (by decide)
  rw [refused] at accepted
  cases accepted

end GateWatch

end AiroFanuc.RtCore
