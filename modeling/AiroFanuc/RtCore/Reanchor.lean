import AiroFanuc.Library.Pursuit
import AiroFanuc.RtCore.Handover
import AiroFanuc.RtCore.Reel
import AiroFanuc.RtCore.SlewSafety
import AiroFanuc.TickEngine.Playback
import Mathlib.Algebra.Order.Group.Pointwise.Interval

/-! The re-anchor phase: after a fault's ramp the command follows the measured pose, on fresh
packets only, by bounded steps, and rests once it is inside the deadband. -/

namespace AiroFanuc.RtCore

open TickEngine Library
open SlewWatch (slewBound)

/-! ### The clamps -/

section Clamp

variable {R : Type} [Field R] [LinearOrder R] [IsStrictOrderedRing R]

theorem clamp_eq {x lo hi : R} (ordered : lo ≤ hi) : clamp x lo hi = max lo (min hi x) := by
  unfold clamp
  split
  · rename_i low
    rw [min_eq_right (by linarith), max_eq_left low.le]
  · rename_i above
    split
    · rename_i high
      rw [min_eq_left high.le, max_eq_right ordered]
    · rename_i below
      rw [min_eq_right (not_lt.mp below), max_eq_right (not_lt.mp above)]

omit [Field R] [IsStrictOrderedRing R] in
theorem clampPos_inside {lo hi : Option R} {x : R} (inside : x ∈ within lo hi) :
    clampPos lo hi x = x := by
  cases lo with
  | none =>
    cases hi with
    | none => rfl
    | some h => exact if_neg (not_lt.mpr (inside.2 h rfl))
  | some l =>
    have above : ¬ x < l := not_lt.mpr (inside.1 l rfl)
    cases hi with
    | none => exact if_neg above
    | some h =>
      have below : ¬ h < x := not_lt.mpr (inside.2 h rfl)
      simp only [clampPos, clamp, above, below, if_false]

end Clamp

namespace TickCore

variable {R : Type} [Field R] [LinearOrder R] [FloorRing R]

def reanchoring (s : TickCore R) : Prop := s.health.mode = .safeFollow ∧ s.follow.phase = .reanchor

/-- The pose the re-anchor step wants next, from the measured one. -/
def reanchored (cfg : RtCoreConfig R) (qMeas here : Vec6 R) : Vec6 R :=
  if maxAbsDiff here qMeas < cfg.safeFollowDeadbandRad then here
  else fun j => here j + clamp (qMeas j - here j) (-(cfg.safeFollowRateRadS * cfg.tick.itpS))
    (cfg.safeFollowRateRadS * cfg.tick.itpS)

section Step

variable [IsStrictOrderedRing R] {cfg : RtCoreConfig R} {qMeas here : Vec6 R}

theorem reanchored_toward (qMeas here : Vec6 R)
    (nonneg : 0 ≤ cfg.safeFollowRateRadS * cfg.tick.itpS) (j : Fin kNumJoints) :
    |reanchored cfg qMeas here j - here j| ≤ cfg.safeFollowRateRadS * cfg.tick.itpS ∧
      reanchored cfg qMeas here j ∈ Set.uIcc (here j) (qMeas j) := by
  unfold reanchored
  split
  · rw [sub_self, abs_zero]
    exact ⟨nonneg, Set.left_mem_uIcc⟩
  · have order : -(cfg.safeFollowRateRadS * cfg.tick.itpS) ≤
        cfg.safeFollowRateRadS * cfg.tick.itpS := by linarith
    simp only [clamp_eq order]
    exact ⟨stepTowards_length nonneg, stepTowards_mem nonneg⟩

/-- The largest deviation recedes as one distance does. -/
theorem reanchored_deviation (nonneg : 0 ≤ cfg.safeFollowRateRadS * cfg.tick.itpS) :
    maxAbsDiff (reanchored cfg qMeas here) qMeas =
      recede cfg.safeFollowDeadbandRad (cfg.safeFollowRateRadS * cfg.tick.itpS)
        (maxAbsDiff here qMeas) := by
  unfold reanchored recede
  split
  · rfl
  generalize cfg.safeFollowRateRadS * cfg.tick.itpS = step at nonneg
  apply eq_of_forall_ge_iff
  intro x
  have joint (j : Fin kNumJoints) :
      |here j + clamp (qMeas j - here j) (-step) step - qMeas j| =
        max 0 (|here j - qMeas j| - step) := by
    rw [clamp_eq (by linarith)]
    exact stepTowards_left nonneg
  simp only [maxAbsDiff_le, joint, max_le_iff, sub_le_iff_le_add]
  constructor
  · rintro ⟨low, near⟩
    exact ⟨low, by linarith, fun j => (near j).2⟩
  · rintro ⟨low, -, near⟩
    exact ⟨low, fun j => ⟨low, near j⟩⟩

end Step

/-! ### One tick of the phase -/

section Tick

variable {lib : External R} {s : TickCore R} {rx : Option (RxSample R)}
  {pending : Option (Target R)} {superseded : Bool}

theorem dispatched_frame (lib : External R) (s : TickCore R) (rx : Option (RxSample R))
    (pending : Option (Target R)) (superseded : Bool) :
    ∃ verdict captured, (s.dispatched lib rx pending superseded).frame =
      { (s.beforeConsume lib rx).frame with lastConsume := verdict, captured := captured } := by
  cases pending with
  | none => exact ⟨.empty, _, rfl⟩
  | some t =>
    have consumed := consume_frame lib (s.beforeConsume lib rx) t superseded
    exact ⟨_, _, congrArg (fun f : Frame R => { f with
      lastConsume := ((s.beforeConsume lib rx).consume lib t superseded).1 }) consumed⟩

/-- In the phase a tick still has the pose it began with, and this tick's packet. -/
theorem reanchoring_view (following : (s.dispatched lib rx pending superseded).reanchoring) :
    (s.dispatched lib rx pending superseded).frame.pose = ⟨s.anchor.qCmd, s.slew⟩ ∧
      (s.dispatched lib rx pending superseded).cfg = s.cfg ∧
      (s.dispatched lib rx pending superseded).measured = (s.ingestRx rx).measured ∧
      (s.dispatched lib rx pending superseded).rxWatch.ticksSinceRx =
        (s.ingestRx rx).rxWatch.ticksSinceRx := by
  obtain ⟨verdict, captured, frame⟩ := dispatched_frame lib s rx pending superseded
  rw [beforeConsume_frame, beforeDwell_dwelt] at frame
  have undwelt : ¬ s.reanchors lib rx = true := by
    rw [reanchors, following_waits following.1]
    simp
  rw [if_neg undwelt] at frame
  refine ⟨congrArg Frame.pose frame, ?_, congrArg Frame.measured frame,
    congrArg Frame.ticksSinceRx frame⟩
  exact (congrArg Frame.cfg frame).trans (ingestRx_cfg s rx)

/-- Where the phase wants the command next. -/
def reanchorGoal (s : TickCore R) (rx : Option (RxSample R)) : Vec6 R :=
  match rx with
  | none => s.anchor.qCmd
  | some r => reanchored s.cfg r.qMeas s.anchor.qCmd

theorem dispatchMode_reanchoring {c : TickCore R} (following : c.reanchoring) :
    (c.dispatchMode lib).1 =
      if c.measured.haveMeas = false ∨ c.rxWatch.ticksSinceRx ≠ 0 then c.anchor.qCmd
      else reanchored c.cfg c.measured.qMeas c.anchor.qCmd := by
  simp only [dispatchMode, following.1, dispatchSafeFollow, following.2, reanchored]
  split
  · rfl
  · split
    · rfl
    · rfl

/-- The phase sends its goal through the clamp and the limiter. -/
theorem tick_reanchoring (following : (s.dispatched lib rx pending superseded).reanchoring) :
    (s.tick lib rx pending superseded).2.anchor.qCmd =
      (s.slew.apply (s.clampPositions (s.reanchorGoal rx))).1.q := by
  obtain ⟨pose, cfg, measured, age⟩ := reanchoring_view following
  have goal : ((s.dispatched lib rx pending superseded).dispatchMode lib).1 = s.reanchorGoal rx := by
    have qCmd : (s.dispatched lib rx pending superseded).anchor.qCmd = s.anchor.qCmd :=
      congrArg Pose.qCmd pose
    rw [dispatchMode_reanchoring following, measured, age, qCmd, cfg]
    cases rx with
    | none =>
      have silent : (s.ingestRx none).rxWatch.ticksSinceRx = s.rxWatch.ticksSinceRx + 1 := rfl
      rw [silent, if_pos (.inr (by omega))]
      rfl
    | some r =>
      have ingested := ingestRx_frame s (some r)
      have fresh : (s.ingestRx (some r)).measured = ⟨r.qMeas, r.qdEst, true⟩ :=
        congrArg Frame.measured ingested
      have young : (s.ingestRx (some r)).rxWatch.ticksSinceRx = 0 :=
        congrArg Frame.ticksSinceRx ingested
      rw [fresh, young, if_neg (by simp)]
      rfl
  obtain ⟨c, dispatching⟩ : ∃ c, c = s.dispatched lib rx pending superseded := ⟨_, rfl⟩
  have sent := congrArg Frame.pose
    (sendCommand_frame (c.dispatchMode lib).2 (c.dispatchMode lib).1)
  have frame := dispatchMode_frame lib c
  rw [← dispatching] at pose cfg goal
  have slew : (c.dispatchMode lib).2.slew = s.slew :=
    (congrArg (fun f : Frame R => f.pose.slew) frame).trans (congrArg Pose.slew pose)
  have settings : (c.dispatchMode lib).2.cfg = s.cfg := (congrArg Frame.cfg frame).trans cfg
  have clamped (q : Vec6 R) : (c.dispatchMode lib).2.clampPositions q = s.clampPositions q := by
    funext j
    rw [clampPositions, clampPositions, settings]
  have ticked : (s.tick lib rx pending superseded).2 =
      ((c.dispatchMode lib).2.sendCommand (c.dispatchMode lib).1).2 := by
    rw [dispatching]
    rfl
  rw [ticked, ← goal, ← clamped, ← slew]
  exact congrArg Pose.qCmd sent

end Tick

/-! ### The limiter behind the phase -/

/-- The limiter works against the pose commanded last, and by the phase it has one. -/
structure Poised (cfg : RtCoreConfig R) (s : TickCore R) : Prop where
  settings : s.cfg = cfg
  limiter : s.slew.cfg = cfg.tick
  anchored : s.slew.prevQ = s.anchor.qCmd
  primed : s.follow.phase = .reanchor → s.slew.hasPrev = true

theorem tick_poised {lib : External R} {cfg : RtCoreConfig R} {s : TickCore R}
    (poised : s.Poised cfg) (rx : Option (RxSample R)) (pending : Option (Target R))
    (superseded : Bool) : (s.tick lib rx pending superseded).2.Poised cfg := by
  obtain ⟨qDesired, pose, -⟩ := tick_pose lib s rx pending superseded
  have frame := tick_frame lib s rx pending superseded
  rw [ingestRx_frame] at frame
  obtain ⟨prev, primed⟩ := SlewWatch.apply_state (s.beforeDwell lib rx).dwelt.slew
    (s.clampPositions qDesired)
  have qCmd := congrArg Pose.qCmd pose
  have slew := congrArg Pose.slew pose
  simp only [TickCore.frame] at qCmd slew
  constructor
  · exact (tick_cfg lib s rx pending superseded).trans poised.settings
  · have kept := congrArg Frame.slewCfg frame
    cases rx <;> exact kept.trans poised.limiter
  · rw [slew, prev, qCmd]
  · intro _
    rw [slew]
    exact primed

theorem Poised.apply {lib : External R} {cfg : RtCoreConfig R} {s : TickCore R}
    (poised : s.Poised cfg) (i : Input R) : (s.apply lib i).Poised cfg := by
  cases i with
  | tick rx pending superseded => exact tick_poised poised rx pending superseded
  | beginStreaming qMeas => exact ⟨poised.settings, poised.limiter, rfl, fun _ => rfl⟩
  | requestRecover =>
    simp only [TickCore.apply, requestRecover]
    split
    · exact ⟨poised.settings, poised.limiter, poised.anchored, poised.primed⟩
    · exact poised
  | requestStop | requestHold | kick | heartbeat =>
    exact ⟨poised.settings, poised.limiter, poised.anchored, poised.primed⟩

theorem poised_of_reachable {lib : External R} {cfg : RtCoreConfig R} {s : TickCore R}
    (reached : (machine lib cfg).Reachable (fun _ _ => True) s) : s.Poised cfg := by
  refine reached.invariant ⟨rfl, rfl, rfl, nofun⟩ ?_
  rintro a b i poised - ⟨⟩
  exact poised.apply i

/-- Inside the position limits on every joint. -/
def Inside (cfg : RtCoreConfig R) (q : Vec6 R) : Prop :=
  ∀ j, q j ∈ within (cfg.tick.limits.posLo j) (cfg.tick.limits.posHi j)

/-- What a tick of the phase may do with the command. -/
structure Follows (cfg : RtCoreConfig R) (here : Vec6 R) (rx : Option (RxSample R))
    (next : Vec6 R) : Prop where
  stale : rx = none → next = here
  toward : ∀ r ∈ rx, ∀ j, |next j - here j| ≤ cfg.safeFollowRateRadS * cfg.tick.itpS ∧
    next j ∈ Set.uIcc (here j) (r.qMeas j)
  rests : ∀ r ∈ rx, maxAbsDiff here r.qMeas < cfg.safeFollowDeadbandRad → next = here

section Follows

variable [IsStrictOrderedRing R] {lib : External R} {cfg : RtCoreConfig R} {s : TickCore R}
  {rx : Option (RxSample R)} {pending : Option (Target R)} {superseded : Bool}

omit [IsStrictOrderedRing R] in
/-- Inside the limits the goal of the phase is clipped only by the limiter. -/
theorem Poised.tick_clips (poised : s.Poised cfg)
    (following : (s.dispatched lib rx pending superseded).reanchoring)
    (began : s.follow.phase = .reanchor) (inside : Inside cfg (s.reanchorGoal rx))
    (j : Fin kNumJoints) :
    (s.tick lib rx pending superseded).2.anchor.qCmd j = (s.slew.clip (s.reanchorGoal rx) j).1 := by
  have free : s.clampPositions (s.reanchorGoal rx) = s.reanchorGoal rx := by
    funext k
    rw [clampPositions, poised.settings]
    exact clampPos_inside (inside k)
  rw [tick_reanchoring following, free]
  simp only [SlewLimiter.apply, poised.primed began, Bool.true_eq_false, if_false]

omit [IsStrictOrderedRing R] in
/-- A phase met at the dispatch is the one the tick began in. -/
theorem reanchoring_began (following : (s.dispatched lib rx pending superseded).reanchoring) :
    s.follow.phase = .reanchor := by
  have handed := dispatched_handover lib (following_waits following.1) pending superseded
  rcases handed.follows following.1 with ⟨⟨entered, -⟩, -⟩ | ⟨-, follow, -⟩
  · have phase := following.2
    rw [entered] at phase
    cases phase
  · rw [← follow]
    exact following.2

theorem reanchorGoal_inside (poised : s.Poised cfg)
    (nonneg : 0 ≤ cfg.safeFollowRateRadS * cfg.tick.itpS) (here : Inside cfg s.anchor.qCmd)
    (there : ∀ r ∈ rx, Inside cfg r.qMeas) : Inside cfg (s.reanchorGoal rx) := by
  cases rx with
  | none => exact here
  | some r =>
    intro j
    simp only [reanchorGoal, poised.settings]
    exact moved_mem (within_connected _ _) (here j) (there r rfl j) (reanchored_toward _ _ nonneg j).2

/-- The phase never moves on stale data, never past the measured pose, and not inside the
deadband. -/
theorem Poised.tick_follows (poised : s.Poised cfg) (slews : ∀ j, 0 ≤ slewBound cfg.tick j)
    (nonneg : 0 ≤ cfg.safeFollowRateRadS * cfg.tick.itpS)
    (following : (s.dispatched lib rx pending superseded).reanchoring)
    (here : Inside cfg s.anchor.qCmd) (there : ∀ r ∈ rx, Inside cfg r.qMeas) :
    Follows cfg s.anchor.qCmd rx (s.tick lib rx pending superseded).2.anchor.qCmd := by
  have clips := poised.tick_clips following (reanchoring_began following)
    (reanchorGoal_inside poised nonneg here there)
  have bound (j : Fin kNumJoints) : 0 ≤ s.slew.maxStep j := by
    rw [SlewLimiter.maxStep, poised.limiter]
    exact slews j
  have part (j : Fin kNumJoints) : (s.tick lib rx pending superseded).2.anchor.qCmd j ∈
      Set.uIcc (s.anchor.qCmd j) (s.reanchorGoal rx j) := by
    rw [clips, ← poised.anchored]
    exact (clip_step (bound j)).2
  have still (same : s.reanchorGoal rx = s.anchor.qCmd) :
      (s.tick lib rx pending superseded).2.anchor.qCmd = s.anchor.qCmd := by
    funext j
    have alone := part j
    rw [same, Set.uIcc_self] at alone
    exact alone
  constructor
  · rintro rfl
    exact still rfl
  · rintro r ⟨⟩ j
    have goal : s.reanchorGoal (some r) = reanchored cfg r.qMeas s.anchor.qCmd := by
      simp only [reanchorGoal, poised.settings]
    obtain ⟨short, toward⟩ := reanchored_toward r.qMeas s.anchor.qCmd nonneg j
    have between := part j
    rw [goal] at between
    exact ⟨(Set.abs_sub_left_of_mem_uIcc between).trans short,
      Set.uIcc_subset_uIcc_left toward between⟩
  · rintro r ⟨⟩ near
    apply still
    simp only [reanchorGoal, poised.settings]
    exact if_pos near

/-- With room for the step in the limiter the phase gets where it wants. -/
theorem Poised.tick_reanchored (poised : s.Poised cfg) {r : RxSample R}
    (nonneg : 0 ≤ cfg.safeFollowRateRadS * cfg.tick.itpS)
    (room : ∀ j, cfg.safeFollowRateRadS * cfg.tick.itpS ≤ slewBound cfg.tick j)
    (following : (s.dispatched lib (some r) pending superseded).reanchoring)
    (here : Inside cfg s.anchor.qCmd) (there : Inside cfg r.qMeas) :
    (s.tick lib (some r) pending superseded).2.anchor.qCmd =
      reanchored cfg r.qMeas s.anchor.qCmd := by
  funext j
  have goal : s.reanchorGoal (some r) = reanchored cfg r.qMeas s.anchor.qCmd := by
    simp only [reanchorGoal, poised.settings]
  have inside : Inside cfg (s.reanchorGoal (some r)) :=
    reanchorGoal_inside poised nonneg here (by rintro _ ⟨⟩; exact there)
  have bound : s.slew.maxStep j = slewBound cfg.tick j := by
    rw [SlewLimiter.maxStep, poised.limiter]
    rfl
  have short := abs_le.mp ((reanchored_toward r.qMeas s.anchor.qCmd nonneg j).1.trans
    (room j))
  rw [poised.tick_clips following (reanchoring_began following) inside, goal, SlewLimiter.clip, bound,
    poised.anchored]
  rw [if_neg (by linarith [short.2]), if_neg (by linarith [short.1])]

end Follows

/-! ### A fixed measured pose -/

/-- The core, and its ticks since the start of a stretch. -/
def countedMachine (lib : External R) (cfg : RtCoreConfig R) :
    Machine (TickCore R × ℕ) (Input R) where
  start := (.new cfg, 0)
  step := fun (s, n) i => some (s.apply lib i, match i with | .tick _ _ _ => n + 1 | _ => n)

/-- Every tick takes a fresh packet with the same measured pose, in the phase. -/
def tracks (lib : External R) (qMeas : Vec6 R) (stretch : TickCore R × ℕ) : Input R → Prop
  | .tick (some r) pending superseded =>
    r.qMeas = qMeas ∧ (stretch.1.dispatched lib (some r) pending superseded).reanchoring
  | .tick none _ _ | .beginStreaming _ => False
  | .requestStop | .requestHold | .requestRecover | .kick | .heartbeat => True

/-- What a stretch of `n` ticks that began at `q0` and got to `q` has done, and its next tick
will. -/
structure Closes (cfg : RtCoreConfig R) (qMeas q0 : Vec6 R) (n : ℕ) (q : Vec6 R)
    (next : Vec6 R) : Prop where
  shrinks : cfg.safeFollowDeadbandRad ≤ maxAbsDiff q qMeas →
    maxAbsDiff next qMeas = max 0 (maxAbsDiff q qMeas - cfg.safeFollowRateRadS * cfg.tick.itpS)
  early : n < recessions cfg.safeFollowDeadbandRad (cfg.safeFollowRateRadS * cfg.tick.itpS)
    (maxAbsDiff q0 qMeas) → cfg.safeFollowDeadbandRad ≤ maxAbsDiff q qMeas
  arrives : recessions cfg.safeFollowDeadbandRad (cfg.safeFollowRateRadS * cfg.tick.itpS)
    (maxAbsDiff q0 qMeas) ≤ n → maxAbsDiff q qMeas < cfg.safeFollowDeadbandRad ∧ next = q

section Pursuit

variable [IsStrictOrderedRing R] {lib : External R} {cfg : RtCoreConfig R} {qMeas : Vec6 R}

/-- Along a stretch the command is the start's, stepped once a tick. -/
theorem Poised.stretch {s t : TickCore R} {n : ℕ} (poised : s.Poised cfg)
    (nonneg : 0 ≤ cfg.safeFollowRateRadS * cfg.tick.itpS)
    (room : ∀ j, cfg.safeFollowRateRadS * cfg.tick.itpS ≤ slewBound cfg.tick j)
    (there : Inside cfg qMeas) (here : Inside cfg s.anchor.qCmd)
    (tracked : (countedMachine lib cfg).Reaches (tracks lib qMeas) (s, 0) (t, n)) :
    t.Poised cfg ∧ Inside cfg t.anchor.qCmd ∧
      t.anchor.qCmd = (reanchored cfg qMeas)^[n] s.anchor.qCmd := by
  refine tracked.invariant (I := fun a => a.1.Poised cfg ∧ Inside cfg a.1.anchor.qCmd ∧
    a.1.anchor.qCmd = (reanchored cfg qMeas)^[a.2] s.anchor.qCmd) ⟨poised, here, rfl⟩ ?_
  rintro ⟨a, k⟩ b i ⟨ready, inside, stepped⟩ tracking ⟨⟩
  refine ⟨ready.apply i, ?_⟩
  cases i with
  | tick rx pending superseded =>
    cases rx with
    | none => cases tracking
    | some r =>
      obtain ⟨same, following⟩ := tracking
      have moved := ready.tick_reanchored nonneg room following inside (same ▸ there)
      have next : (a.apply lib (.tick (some r) pending superseded)).anchor.qCmd =
          reanchored cfg qMeas a.anchor.qCmd := by
        rw [← same]
        exact moved
      constructor
      · intro j
        rw [next]
        exact moved_mem (within_connected _ _) (inside j) (there j) (reanchored_toward _ _ nonneg j).2
      · rw [next, stepped]
        exact (Function.iterate_succ_apply' _ _ _).symm
  | beginStreaming q => cases tracking
  | requestRecover =>
    have kept : (a.apply lib .requestRecover).anchor = a.anchor := by
      simp only [TickCore.apply, requestRecover]
      split <;> rfl
    rw [kept]
    exact ⟨inside, stepped⟩
  | requestStop | requestHold | kick | heartbeat => exact ⟨inside, stepped⟩

theorem iterate_deviation (nonneg : 0 ≤ cfg.safeFollowRateRadS * cfg.tick.itpS) (q : Vec6 R)
    (n : ℕ) : maxAbsDiff ((reanchored cfg qMeas)^[n] q) qMeas =
      (recede cfg.safeFollowDeadbandRad (cfg.safeFollowRateRadS * cfg.tick.itpS))^[n]
        (maxAbsDiff q qMeas) := by
  induction n with
  | zero => rfl
  | succ n ih =>
    rw [Function.iterate_succ_apply', Function.iterate_succ_apply', reanchored_deviation nonneg, ih]

end Pursuit

/-- After every run, a tick of the phase with the command and its measurement inside the limits
moves only on a fresh packet, towards the measured pose and not past it, and not inside the
deadband; and over a stretch of fresh packets at one pose the largest deviation shrinks by full
steps, is inside the deadband after the count of them, and then the command rests. -/
theorem reanchor_follows [IsStrictOrderedRing R] {lib : External R} {cfg : RtCoreConfig R}
    (slews : ∀ j, 0 ≤ slewBound cfg.tick j)
    (nonneg : 0 ≤ cfg.safeFollowRateRadS * cfg.tick.itpS) {s : TickCore R}
    (reached : (machine lib cfg).Reachable (fun _ _ => True) s) (here : Inside cfg s.anchor.qCmd) :
    (∀ rx pending superseded, (s.dispatched lib rx pending superseded).reanchoring →
      (∀ r ∈ rx, Inside cfg r.qMeas) →
      Follows cfg s.anchor.qCmd rx (s.tick lib rx pending superseded).2.anchor.qCmd) ∧
    (∀ qMeas, Inside cfg qMeas → 0 < cfg.safeFollowRateRadS * cfg.tick.itpS →
      (∀ j, cfg.safeFollowRateRadS * cfg.tick.itpS ≤ slewBound cfg.tick j) →
      0 < cfg.safeFollowDeadbandRad →
      ∀ t n, (countedMachine lib cfg).Reaches (tracks lib qMeas) (s, 0) (t, n) →
        ∀ r pending superseded, tracks lib qMeas (t, n) (.tick (some r) pending superseded) →
          Closes cfg qMeas s.anchor.qCmd n t.anchor.qCmd
            (t.tick lib (some r) pending superseded).2.anchor.qCmd) := by
  have poised := poised_of_reachable reached
  constructor
  · intro rx pending superseded following there
    exact poised.tick_follows slews nonneg following here there
  · intro qMeas there positive room band t n tracked r pending superseded tracking
    obtain ⟨ready, inside, stepped⟩ := poised.stretch nonneg room there here tracked
    obtain ⟨same, following⟩ := tracking
    have moved := ready.tick_reanchored nonneg room following inside (same ▸ there)
    rw [same] at moved
    rw [moved]
    constructor
    · intro outside
      rw [reanchored_deviation nonneg, recede_outside outside]
    · intro early
      rw [stepped, iterate_deviation nonneg]
      exact (recede_early band positive early).1
    · intro late
      have arrived : maxAbsDiff t.anchor.qCmd qMeas < cfg.safeFollowDeadbandRad := by
        rw [stepped, iterate_deviation nonneg]
        exact (recede_late band positive late).2
      exact ⟨arrived, if_pos arrived⟩

instance (s : TickCore R) : Decidable s.reanchoring := inferInstanceAs (Decidable (_ ∧ _))

instance (lib : External R) (qMeas : Vec6 R) (a : TickCore R × ℕ) (i : Input R) :
    Decidable (tracks lib qMeas a i) := by
  unfold tracks
  split <;> infer_instance

/-- The pendant is enabled and the arm five and a half degrees away: five steps of fifteen degrees
a second, with a hold asked for among them, and the command rests inside the deadband. -/
theorem reanchor_follows_away : ∃ s t : TickCore ℚ,
    let rx := benchRx pendantGates fun _ => deg2rad (11 / 2)
    let next := (t.tick benchExternal (some rx) none false).2.anchor.qCmd
    Follows defaultRtCoreConfig s.anchor.qCmd (some rx)
      (s.tick benchExternal (some rx) none false).2.anchor.qCmd ∧
    (countedMachine benchExternal defaultRtCoreConfig).Reaches
      (tracks benchExternal rx.qMeas) (s, 0) (t, 5) ∧
    Closes defaultRtCoreConfig rx.qMeas s.anchor.qCmd 5 t.anchor.qCmd next ∧
    next = t.anchor.qCmd ∧ t.anchor.qCmd ≠ s.anchor.qCmd := by
  have unlimited (q : Vec6 ℚ) : Inside defaultRtCoreConfig q := fun _ => ⟨nofun, nofun⟩
  let there : Input ℚ := .tick (some (benchRx pendantGates fun _ => deg2rad (11 / 2))) none false
  let steps := [there, there, .requestHold, there, there, there]
  let counted := countedMachine benchExternal (defaultRtCoreConfig (R := ℚ))
  let tracking := tracks benchExternal fun _ => (deg2rad (11 / 2) : ℚ)
  obtain ⟨s, reached, tested⟩ := Machine.reachable_of_run
    (machine benchExternal defaultRtCoreConfig)
    [.beginStreaming 0, benchTick none, .tick (some (benchRx pendantGates 0)) none false]
    (fun s : TickCore ℚ => decide (tracking (s, 0) there ∧ s.anchor.qCmd = 0 ∧
      counted.legalRun tracking (s, 0) steps = true ∧
        (counted.run (s, 0) steps).any fun a => decide (tracking a there ∧ a.1.anchor.qCmd ≠ 0)))
    (by decide +kernel)
  obtain ⟨first, rest, legal, last⟩ := of_decide_eq_true tested
  obtain ⟨t, ran⟩ : ∃ t, counted.run (s, 0) steps = some (t, 5) := ⟨_, rfl⟩
  rw [ran, Option.any_some, decide_eq_true_eq] at last
  have stretch := Machine.reaches_of_run legal ran
  have due : recessions (deg2rad 5) (deg2rad 15 * (8 / 1000))
      (maxAbsDiff (0 : Vec6 ℚ) fun _ => deg2rad (11 / 2)) = 5 := by decide +kernel
  obtain ⟨safe, closes⟩ := reanchor_follows (by decide +kernel) (by decide +kernel) reached
    (unlimited _)
  have closed := closes _ (unlimited _) (by decide +kernel) (by decide +kernel)
    (by decide +kernel) t 5 stretch _ none false last.1
  refine ⟨s, t, safe _ none false first.2 fun r _ => unlimited r.qMeas, stretch, closed, ?_, ?_⟩
  · apply (closed.arrives _).2
    rw [rest]
    exact due.le
  · rw [rest]
    exact last.2

end TickCore

end AiroFanuc.RtCore
