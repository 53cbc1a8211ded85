import AiroFanuc.Library.Interval
import AiroFanuc.RtCore.SilencePark
import Mathlib.Data.List.Chain

/-! The whole command stream: no two successive commands further apart than one slew step,
and no command leaving the soft stops once it is inside them. -/

namespace AiroFanuc.RtCore

open TickEngine Library

/-! ### The clamp and the clip of one joint -/

section Joint

variable {R : Type} [Field R] [LinearOrder R] [IsStrictOrderedRing R] {lo hi : Option R} {x : R}

/-- The soft stops as an interval; an absent one is infinite. -/
def within (lo hi : Option R) : Set R := { x | (∀ l ∈ lo, l ≤ x) ∧ ∀ h ∈ hi, x ≤ h }

/-- How far a position is from the interval: as far as from its clamped self. -/
def excess (lo hi : Option R) (x : R) : R := |x - clampPos lo hi x|

omit [Field R] [IsStrictOrderedRing R] in
theorem within_connected (lo hi : Option R) : (within lo hi).OrdConnected := by
  constructor
  intro a insideA b insideB c between
  exact ⟨fun l member => (insideA.1 l member).trans between.1,
    fun h member => between.2.trans (insideB.2 h member)⟩

omit [Field R] [IsStrictOrderedRing R] in
theorem clampPos_mem (ordered : ∀ l ∈ lo, ∀ h ∈ hi, l ≤ h) (x : R) :
    clampPos lo hi x ∈ within lo hi := by
  cases lo with
  | none =>
    cases hi with
    | none => exact ⟨nofun, nofun⟩
    | some h =>
      refine ⟨nofun, ?_⟩
      rintro _ ⟨⟩
      simp only [clampPos]
      split
      · exact le_rfl
      · rename_i low
        exact not_lt.mp low
  | some l =>
    cases hi with
    | none =>
      refine ⟨?_, nofun⟩
      rintro _ ⟨⟩
      simp only [clampPos]
      split
      · exact le_rfl
      · rename_i high
        exact not_lt.mp high
    | some h =>
      have room : l ≤ h := ordered l rfl h rfl
      simp only [clampPos, clamp]
      constructor
      · rintro _ ⟨⟩
        split
        · exact le_rfl
        · split
          · exact room
          · rename_i high _
            exact not_lt.mp high
      · rintro _ ⟨⟩
        split
        · exact room
        · split
          · exact le_rfl
          · rename_i low
            exact not_lt.mp low

/-- Nothing in the interval is nearer than the clamped position. -/
theorem excess_le {y : R} (inside : y ∈ within lo hi) (x : R) : excess lo hi x ≤ |x - y| := by
  have below (l : R) (short : x < l) (above : l ≤ y) : |x - l| ≤ |x - y| := by
    rw [abs_sub_comm x l, abs_sub_comm x y, abs_of_pos (sub_pos.mpr short),
      abs_of_pos (sub_pos.mpr (short.trans_le above))]
    exact sub_le_sub_right above x
  have beyond (h : R) (long : h < x) (under : y ≤ h) : |x - h| ≤ |x - y| := by
    rw [abs_of_pos (sub_pos.mpr long), abs_of_pos (sub_pos.mpr (under.trans_lt long))]
    exact sub_le_sub_left under x
  have still : |x - x| ≤ |x - y| := by
    rw [sub_self, abs_zero]
    exact abs_nonneg _
  unfold excess
  cases lo with
  | none =>
    cases hi with
    | none => exact still
    | some h =>
      simp only [clampPos]
      split
      · rename_i long
        exact beyond h long (inside.2 h rfl)
      · exact still
  | some l =>
    cases hi with
    | none =>
      simp only [clampPos]
      split
      · rename_i short
        exact below l short (inside.1 l rfl)
      · exact still
    | some h =>
      simp only [clampPos, clamp]
      split
      · rename_i short
        exact below l short (inside.1 l rfl)
      · split
        · rename_i long
          exact beyond h long (inside.2 h rfl)
        · exact still

/-- A step toward a clamped goal brings no position further out. -/
theorem excess_moved {here next : R} (ordered : ∀ l ∈ lo, ∀ h ∈ hi, l ≤ h)
    (part : next ∈ Set.uIcc here (clampPos lo hi x)) : excess lo hi next ≤ excess lo hi here := by
  obtain ⟨z, inside, near⟩ := moved_nearer (within_connected lo hi) (clampPos_mem ordered x) part
    (clampPos_mem ordered here)
  exact (excess_le inside next).trans near

variable {l : SlewLimiter R} {q : Vec6 R} {j : Fin kNumJoints}

/-- A primed limiter moves each joint at most one step, and only toward what is desired. -/
theorem clip_step (nonneg : 0 ≤ l.maxStep j) :
    |(l.clip q j).1 - l.prevQ j| ≤ l.maxStep j ∧ (l.clip q j).1 ∈ Set.uIcc (l.prevQ j) (q j) := by
  simp only [SlewLimiter.clip]
  split
  · rename_i long
    constructor
    · rw [add_sub_cancel_left, abs_of_nonneg nonneg]
    · exact Set.mem_uIcc.mpr (.inl ⟨by linarith, by linarith⟩)
  · rename_i short
    split
    · rename_i back
      constructor
      · rw [sub_sub_cancel_left, abs_neg, abs_of_nonneg nonneg]
      · exact Set.mem_uIcc.mpr (.inr ⟨by linarith, by linarith⟩)
    · rename_i forth
      constructor
      · exact abs_le.mpr ⟨by linarith, by linarith⟩
      · exact Set.right_mem_uIcc

end Joint

/-! ### Re-anchoring -/

namespace TickCore

variable {R : Type} [Field R] [LinearOrder R] [FloorRing R]

/-- Whether this tick's dwell re-anchors: it ends a recovery in the park. -/
def reanchors (lib : External R) (s : TickCore R) (rx : Option (RxSample R)) : Bool :=
  (s.beforeDwell lib rx).dwellCompletes && decide ((s.beforeDwell lib rx).health.mode = .rxSilent) &&
    (s.beforeDwell lib rx).measured.haveMeas

theorem beforeDwell_dwelt {lib : External R} {s : TickCore R} {rx : Option (RxSample R)} :
    (s.beforeDwell lib rx).dwelt =
      if s.reanchors lib rx then
        ⟨(s.beforeDwell lib rx).measured.qMeas,
          s.slew.reset (s.beforeDwell lib rx).measured.qMeas⟩
      else ⟨s.anchor.qCmd, s.slew⟩ := by
  have frame := beforeDwell_frame lib s rx
  rw [ingestRx_frame] at frame
  have pose : (⟨(s.beforeDwell lib rx).anchor.qCmd, (s.beforeDwell lib rx).slew⟩ : Pose R) =
      ⟨s.anchor.qCmd, s.slew⟩ := by
    cases rx <;> exact congrArg Frame.pose frame
  have qCmd : (s.beforeDwell lib rx).anchor.qCmd = s.anchor.qCmd := congrArg Pose.qCmd pose
  have slew : (s.beforeDwell lib rx).slew = s.slew := congrArg Pose.slew pose
  simp only [dwelt, resumed, reanchors, qCmd, slew, Bool.and_eq_true, decide_eq_true_eq]
  by_cases completes : (s.beforeDwell lib rx).dwellCompletes = true
  · simp only [completes, true_and, if_true]
  · simp only [completes, false_and, if_false, Bool.false_eq_true]

omit [FloorRing R] in
theorem beginBrake_awake (s : TickCore R) (st : MotionStatus) (reason : FaultReason) :
    (s.beginBrake st reason).health.mode ≠ .rxSilent := by
  simp [beginBrake]

omit [Field R] [LinearOrder R] [FloorRing R] in
theorem emit_awake {s : TickCore R} (awake : s.health.mode ≠ .rxSilent) (type : EventType)
    (reason : FaultReason) (value : Int) (motionId : Nat) :
    (s.emit type reason value motionId).health.mode ≠ .rxSilent := awake

theorem enterFault_awake (s : TickCore R) (cause : FaultReason) (bump : BumpReason)
    (st : MotionStatus) : (s.enterFault cause bump st).health.mode ≠ .rxSilent := by
  simp [enterFault, emit]

theorem ingestRx_awake {s : TickCore R} (awake : s.health.mode ≠ .rxSilent)
    (rx : Option (RxSample R)) : (s.ingestRx rx).health.mode ≠ .rxSilent := by
  cases rx with
  | none => exact awake
  | some r =>
    have observed : ((s.takeRx r).observeGates r.gates).health.mode ≠ .rxSilent := by
      have mode := congrArg Control.mode (observeGates_control (s.takeRx r) r.gates)
      exact fun parked => awake (mode.symm.trans parked)
    simp only [ingestRx, processGates]
    split
    · split
      · exact observed
      · exact enterFault_awake _ _ _ _
    · exact observed

omit [FloorRing R] in
theorem answers_awake {s : TickCore R} (awake : s.health.mode ≠ .rxSilent) :
    s.answerStop.answerHold.answerKick.answerHeartbeat.health.mode ≠ .rxSilent := by
  have stopped : s.answerStop.health.mode ≠ .rxSilent := by
    unfold answerStop
    split
    · cases mode : s.health.mode with
      | hold | capture | trajectory | servo =>
        simp only [mode]
        exact beginBrake_awake _ _ _
      | brake =>
        simp only [mode, resolveActive_shape]
        nofun
      | rxSilent => exact absurd mode awake
      | streamDown | preroll | safeFollow =>
        simp only [mode]
        nofun
    · exact awake
  have held : s.answerStop.answerHold.health.mode ≠ .rxSilent := by
    revert stopped
    generalize s.answerStop = a
    intro stopped
    unfold answerHold
    split
    · cases mode : a.health.mode with
      | capture | trajectory | servo =>
        simp only [mode]
        exact beginBrake_awake _ _ _
      | rxSilent => exact absurd mode stopped
      | hold | brake | streamDown | preroll | safeFollow =>
        simp only [mode]
        nofun
    · exact stopped
  have quiet := answerHeartbeat_control s.answerStop.answerHold.answerKick
  rw [answerKick_control] at quiet
  exact fun parked => held ((congrArg Control.mode quiet).symm.trans parked)

theorem watches_awake {s : TickCore R} (awake : s.health.mode ≠ .rxSilent) :
    s.handleDeadman.handleSupervisorLiveness.health.mode ≠ .rxSilent := by
  have deadman : s.handleDeadman.health.mode ≠ .rxSilent := by
    simp only [handleDeadman]
    split
    · exact awake
    · split
      · apply emit_awake
        exact enterFault_awake _ _ _ _
      · exact awake
  generalize s.handleDeadman = a at *
  simp only [handleSupervisorLiveness]
  split
  · exact deadman
  · split
    · exact deadman
    · split
      · apply emit_awake
        exact enterFault_awake _ _ _ _
      · exact deadman

/-- A tick with a packet parks nothing. -/
theorem beforeDwell_awake (lib : External R) {s : TickCore R} (awake : s.health.mode ≠ .rxSilent)
    (r : RxSample R) : (s.beforeDwell lib (some r)).health.mode ≠ .rxSilent := by
  have ingested := ingestRx_awake (s := s.countTick) awake (some r)
  have answered := answers_awake ingested
  have age : ((s.countTick.ingestRx (some r)).answerStop.answerHold.answerKick.answerHeartbeat
      ).rxWatch.ticksSinceRx = 0 := by
    have frame :
        (s.countTick.ingestRx (some r)).answerStop.answerHold.answerKick.answerHeartbeat.frame =
        { (s.countTick.ingestRx (some r)).frame with stopRequested := false } := by
      rw [answerHeartbeat_frame, answerKick_frame, answerHold_frame, answerStop_frame]
    rw [ingestRx_frame] at frame
    exact congrArg Frame.ticksSinceRx frame
  simp only [beforeDwell]
  generalize (s.countTick.ingestRx (some r)).answerStop.answerHold.answerKick.answerHeartbeat = a at *
  have fresh : a.handleRxSilence = a := by
    simp only [handleRxSilence, age, if_true]
  rw [fresh]
  have watched := watches_awake answered
  generalize a.handleDeadman.handleSupervisorLiveness = b at *
  simp only [handleForceGuard]
  split
  · exact watched
  · split
    · exact beginBrake_awake b .stopped .none
    · exact watched

/-- Only a core that was parked when the tick began is re-anchored by it. -/
theorem reanchors_parked {lib : External R} {s : TickCore R} {rx : Option (RxSample R)}
    (reanchors : s.reanchors lib rx = true) : s.health.mode = .rxSilent := by
  simp only [TickCore.reanchors, Bool.and_eq_true, decide_eq_true_eq] at reanchors
  obtain ⟨⟨completes, parked⟩, -⟩ := reanchors
  have fresh := dwell_fresh parked completes
  by_contra awake
  cases rx with
  | none => cases fresh
  | some r => exact beforeDwell_awake lib awake r parked

end TickCore

/-! ### Runs -/

/-- The command stream, newest first, and the poses since the last anchoring: the pose it
anchored to is the oldest of them. -/
structure SlewWatch (R : Type) where
  core : TickCore R
  commands : List (Command R)
  poses : List (Vec6 R)

namespace SlewWatch

variable {R : Type} [Field R] [LinearOrder R] [FloorRing R]

def step (lib : External R) (w : SlewWatch R) (i : Input R) : SlewWatch R :=
  match i with
  | .tick rx pending consumeSuperseded =>
    let (command, core) := w.core.tick lib rx pending consumeSuperseded
    let anchored :=
      if w.core.reanchors lib rx then [(w.core.beforeDwell lib rx).measured.qMeas] else w.poses
    ⟨core, command :: w.commands, command.qRad :: anchored⟩
  | .beginStreaming qMeas => ⟨w.core.beginStreaming qMeas, w.commands, [qMeas]⟩
  | i => { w with core := w.core.apply lib i }

def machine (lib : External R) (cfg : RtCoreConfig R) : Machine (SlewWatch R) (Input R) where
  start := ⟨.new cfg, [], []⟩
  step := fun w i => some (w.step lib i)

/-- The owner begins streaming once. -/
def oneStream (w : SlewWatch R) : Input R → Prop
  | .beginStreaming _ => w.core.anchor.streaming = false
  | _ => True

def slewBound (cfg : TickEngineConfig R) (j : Fin kNumJoints) : R :=
  cfg.slewFactor * cfg.limits.v j * cfg.itpS

/-- A joint inside its soft stops is still inside; one outside is no further away. -/
def Retains (cfg : TickEngineConfig R) (newer older : Vec6 R) : Prop :=
  ∀ j, (older j ∈ within (cfg.limits.posLo j) (cfg.limits.posHi j) →
      newer j ∈ within (cfg.limits.posLo j) (cfg.limits.posHi j)) ∧
    excess (cfg.limits.posLo j) (cfg.limits.posHi j) (newer j) ≤
      excess (cfg.limits.posLo j) (cfg.limits.posHi j) (older j)

instance (cfg : TickEngineConfig R) : Trans (Retains cfg) (Retains cfg) (Retains cfg) where
  trans := fun late early j =>
    ⟨fun inside => (late j).1 ((early j).1 inside), (late j).2.trans (early j).2⟩

/-- What holds of the whole stream so far. -/
structure Slewed (cfg : TickEngineConfig R) (w : SlewWatch R) : Prop where
  /-- Two successive commands that are both sent are one slew step apart at most. -/
  steps : w.commands.IsChain fun newer older => newer.tx = true → older.tx = true →
    ∀ j, |newer.qRad j - older.qRad j| ≤ slewBound cfg j
  /-- Since the last anchoring no pose has moved out, against any pose before it. -/
  retained : w.poses.Pairwise (Retains cfg)
  /-- The limiter clips against the pose commanded last. -/
  anchored : w.core.slew.prevQ = w.core.anchor.qCmd

structure Sound (cfg : RtCoreConfig R) (w : SlewWatch R) : Prop where
  slewed : w.Slewed cfg.tick
  settings : w.core.cfg = cfg
  limiter : w.core.slew.cfg = cfg.tick
  posed : ∀ pose ∈ w.poses.head?, pose = w.core.anchor.qCmd ∧ w.core.slew.hasPrev = true
  sent : ∀ command ∈ w.commands.head?, command.tx = true →
    command.qRad = w.core.anchor.qCmd ∧ w.core.slew.hasPrev = true ∧
      w.core.health.mode ≠ .rxSilent ∧ w.core.anchor.streaming = true

/-- One slew step at most, and toward the inside of the soft stops. -/
def Limited (cfg : TickEngineConfig R) (here next : Vec6 R) : Prop :=
  ∀ j, |next j - here j| ≤ slewBound cfg j ∧
    ∃ x, next j ∈ Set.uIcc (here j) (clampPos (cfg.limits.posLo j) (cfg.limits.posHi j) x)

section Limited

variable [IsStrictOrderedRing R] {cfg : TickEngineConfig R} {here next : Vec6 R}

omit [FloorRing R] in
theorem Limited.retains (limited : Limited cfg here next)
    (ordered : ∀ j, ∀ l ∈ cfg.limits.posLo j, ∀ h ∈ cfg.limits.posHi j, l ≤ h) :
    Retains cfg next here := by
  intro j
  obtain ⟨-, x, part⟩ := limited j
  constructor
  · intro inside
    exact moved_mem (within_connected _ _) inside (clampPos_mem (ordered j) x) part
  · exact excess_moved (ordered j) part

end Limited

omit [FloorRing R] in
theorem apply_limited [IsStrictOrderedRing R] {cfg : RtCoreConfig R} {s : TickCore R}
    {l : SlewLimiter R} (settings : s.cfg = cfg) (limiter : l.cfg = cfg.tick)
    (nonneg : ∀ j, 0 ≤ slewBound cfg.tick j) (primed : l.hasPrev = true) (qDesired : Vec6 R) :
    Limited cfg.tick l.prevQ (l.apply (s.clampPositions qDesired)).1.q := by
  intro j
  have bound : l.maxStep j = slewBound cfg.tick j := by
    rw [SlewLimiter.maxStep, limiter]
    rfl
  have clipped : (l.apply (s.clampPositions qDesired)).1.q j =
      (l.clip (s.clampPositions qDesired) j).1 := by
    simp only [SlewLimiter.apply, primed, Bool.true_eq_false, if_false]
  obtain ⟨step, toward⟩ := clip_step (l := l) (q := s.clampPositions qDesired) (j := j)
    (bound ▸ nonneg j)
  rw [clipped, ← bound]
  refine ⟨step, qDesired j, ?_⟩
  rw [← settings]
  exact toward

omit [FloorRing R] in
theorem apply_state (l : SlewLimiter R) (q : Vec6 R) :
    (l.apply q).2.prevQ = (l.apply q).1.q ∧ (l.apply q).2.hasPrev = true := by
  simp only [SlewLimiter.apply]
  split
  · exact ⟨rfl, rfl⟩
  · rename_i primed
    exact ⟨rfl, by simpa using primed⟩

/-- The pose a tick's command moves on from, and whether it was ever anchored. -/
def origin (lib : External R) (w : SlewWatch R) (rx : Option (RxSample R)) : Vec6 R :=
  if w.core.reanchors lib rx then (w.core.beforeDwell lib rx).measured.qMeas
  else w.core.anchor.qCmd

theorem tick_limited [IsStrictOrderedRing R] (lib : External R) {cfg : RtCoreConfig R}
    {w : SlewWatch R} (sound : w.Sound cfg) (nonneg : ∀ j, 0 ≤ slewBound cfg.tick j)
    (rx : Option (RxSample R)) (pending : Option (Target R)) (consumeSuperseded : Bool) :
    (w.core.tick lib rx pending consumeSuperseded).2.anchor.qCmd =
        (w.core.tick lib rx pending consumeSuperseded).1.qRad ∧
      (w.core.tick lib rx pending consumeSuperseded).2.slew.prevQ =
        (w.core.tick lib rx pending consumeSuperseded).1.qRad ∧
      (w.core.tick lib rx pending consumeSuperseded).2.slew.hasPrev = true ∧
      (w.core.reanchors lib rx = true ∨ w.core.slew.hasPrev = true →
        Limited cfg.tick (w.origin lib rx)
          (w.core.tick lib rx pending consumeSuperseded).1.qRad) := by
  obtain ⟨qDesired, pose, command⟩ := TickCore.tick_pose lib w.core rx pending consumeSuperseded
  have qCmd := congrArg Pose.qCmd pose
  have slew := congrArg Pose.slew pose
  rw [TickCore.beforeDwell_dwelt] at qCmd slew command
  simp only [TickCore.frame] at qCmd slew
  simp only [origin]
  rw [qCmd, slew, command]
  split
  · obtain ⟨prev, primed⟩ := apply_state (w.core.slew.reset _) (w.core.clampPositions qDesired)
    refine ⟨rfl, prev, primed, fun _ => ?_⟩
    have reset : (w.core.slew.reset (w.core.beforeDwell lib rx).measured.qMeas).cfg = cfg.tick :=
      sound.limiter
    exact apply_limited sound.settings reset nonneg rfl qDesired
  · rename_i kept
    obtain ⟨prev, primed⟩ := apply_state w.core.slew (w.core.clampPositions qDesired)
    refine ⟨rfl, prev, primed, fun ready => ?_⟩
    rw [← sound.slewed.anchored]
    exact apply_limited sound.settings sound.limiter nonneg
      (ready.resolve_left kept) qDesired

theorem tick_sound [IsStrictOrderedRing R] (lib : External R) {cfg : RtCoreConfig R}
    {w : SlewWatch R} (sound : w.Sound cfg) (nonneg : ∀ j, 0 ≤ slewBound cfg.tick j)
    (ordered : ∀ j, ∀ l ∈ cfg.tick.limits.posLo j, ∀ h ∈ cfg.tick.limits.posHi j, l ≤ h)
    (rx : Option (RxSample R)) (pending : Option (Target R)) (consumeSuperseded : Bool) :
    (w.step lib (.tick rx pending consumeSuperseded)).Sound cfg := by
  obtain ⟨anchor, reference, primed, limited⟩ :=
    tick_limited lib sound nonneg rx pending consumeSuperseded
  have frame := TickCore.tick_frame lib w.core rx pending consumeSuperseded
  have settings : (w.core.tick lib rx pending consumeSuperseded).2.cfg = cfg :=
    ((congrArg Frame.cfg frame).trans (TickCore.ingestRx_cfg w.core rx)).trans sound.settings
  have limiter : (w.core.tick lib rx pending consumeSuperseded).2.slew.cfg = cfg.tick := by
    rw [TickCore.ingestRx_frame] at frame
    have kept := congrArg Frame.slewCfg frame
    cases rx <;> exact kept.trans sound.limiter
  have sends := TickCore.tick_tx lib w.core rx pending consumeSuperseded
  -- The poses this command is measured against all reach as far as the one it moves on from.
  let anchored :=
    if w.core.reanchors lib rx then [(w.core.beforeDwell lib rx).measured.qMeas] else w.poses
  have origins : ∀ pose ∈ anchored.head?, pose = w.origin lib rx ∧
      (w.core.reanchors lib rx = true ∨ w.core.slew.hasPrev = true) := by
    intro pose head
    simp only [anchored] at head
    simp only [origin]
    split at head
    · rename_i again
      cases head
      exact ⟨(if_pos again).symm, .inl again⟩
    · rename_i kept
      obtain ⟨same, ready⟩ := sound.posed pose head
      exact ⟨same.trans (if_neg kept).symm, .inr ready⟩
  have retained : anchored.Pairwise (Retains cfg.tick) := by
    simp only [anchored]
    split
    · exact List.pairwise_singleton _ _
    · exact sound.slewed.retained
  have stepped : w.step lib (.tick rx pending consumeSuperseded) =
      ⟨(w.core.tick lib rx pending consumeSuperseded).2,
        (w.core.tick lib rx pending consumeSuperseded).1 :: w.commands,
        (w.core.tick lib rx pending consumeSuperseded).1.qRad :: anchored⟩ := rfl
  rw [stepped]
  clear frame stepped
  generalize w.core.tick lib rx pending consumeSuperseded = r at *
  constructor
  · constructor
    · refine List.isChain_cons.mpr ⟨?_, sound.slewed.steps⟩
      intro older head sent sent' j
      obtain ⟨pose, ready, awake, -⟩ := sound.sent older head sent'
      have kept : ¬ w.core.reanchors lib rx = true := fun again =>
        awake (TickCore.reanchors_parked again)
      have step := (limited (.inr ready) j).1
      rw [origin, if_neg kept, ← pose] at step
      exact step
    · apply List.isChain_iff_pairwise.mp
      refine List.isChain_cons.mpr ⟨?_, List.isChain_iff_pairwise.mpr retained⟩
      intro pose head
      obtain ⟨same, ready⟩ := origins pose head
      rw [same]
      exact (limited ready).retains ordered
    · exact reference.trans anchor.symm
  · exact settings
  · exact limiter
  · rintro pose ⟨⟩
    exact ⟨anchor.symm, primed⟩
  · rintro command ⟨⟩ sent
    have left := sends.symm.trans sent
    rw [Bool.and_eq_true, decide_eq_true_eq] at left
    exact ⟨anchor.symm, primed, left.2, left.1⟩

theorem step_sound [IsStrictOrderedRing R] (lib : External R) {cfg : RtCoreConfig R}
    {w : SlewWatch R} {i : Input R} (sound : w.Sound cfg) (legal : w.oneStream i)
    (nonneg : ∀ j, 0 ≤ slewBound cfg.tick j)
    (ordered : ∀ j, ∀ l ∈ cfg.tick.limits.posLo j, ∀ h ∈ cfg.tick.limits.posHi j, l ≤ h) :
    (w.step lib i).Sound cfg := by
  cases i with
  | tick rx pending consumeSuperseded =>
    exact tick_sound lib sound nonneg ordered rx pending consumeSuperseded
  | beginStreaming qMeas =>
    have silent : w.core.anchor.streaming = false := legal
    constructor
    · exact ⟨sound.slewed.steps, List.pairwise_singleton _ _, rfl⟩
    · exact sound.settings
    · exact sound.limiter
    · rintro pose ⟨⟩
      exact ⟨rfl, rfl⟩
    · intro command head sent
      have streams := (sound.sent command head sent).2.2.2
      rw [silent] at streams
      cases streams
  | requestRecover =>
    simp only [step, TickCore.apply, TickCore.requestRecover]
    split
    · exact ⟨⟨sound.slewed.steps, sound.slewed.retained, sound.slewed.anchored⟩, sound.settings,
        sound.limiter, sound.posed, sound.sent⟩
    · exact sound
  | requestStop | requestHold | kick | heartbeat =>
    exact ⟨⟨sound.slewed.steps, sound.slewed.retained, sound.slewed.anchored⟩, sound.settings,
      sound.limiter, sound.posed, sound.sent⟩

theorem start_sound (lib : External R) (cfg : RtCoreConfig R) :
    (machine lib cfg).start.Sound cfg where
  slewed := ⟨.nil, .nil, rfl⟩
  settings := rfl
  limiter := rfl
  posed := nofun
  sent := nofun

/-- Whatever is submitted, measured or faulted: one slew step between two commands sent in a
row, and no pose further out than one before it since the last anchoring. -/
theorem commands_stay_slewed [IsStrictOrderedRing R] (lib : External R) (cfg : RtCoreConfig R)
    (nonneg : ∀ j, 0 ≤ slewBound cfg.tick j)
    (ordered : ∀ j, ∀ l ∈ cfg.tick.limits.posLo j, ∀ h ∈ cfg.tick.limits.posHi j, l ≤ h)
    (w : SlewWatch R) (reached : (machine lib cfg).Reachable oneStream w) : w.Slewed cfg.tick := by
  have sound : w.Sound cfg := by
    apply reached.invariant (start_sound lib cfg)
    intro a b i sound legal moved
    cases moved
    exact step_sound lib sound legal nonneg ordered
  exact sound.slewed

instance (w : SlewWatch R) (i : Input R) : Decidable (w.oneStream i) :=
  match i with
  | .beginStreaming _ => inferInstanceAs (Decidable (w.core.anchor.streaming = false))
  | .tick _ _ _ | .requestStop | .requestHold | .requestRecover | .kick | .heartbeat =>
    inferInstanceAs (Decidable True)

/-- Soft stops half a radian to either side. -/
def stopsConfig : RtCoreConfig ℚ :=
  { (defaultRtCoreConfig : RtCoreConfig ℚ) with
    tick.limits.posLo := fun _ => some (-1 / 2)
    tick.limits.posHi := fun _ => some (1 / 2) }

/-- A servo goal one radian away, sent one clipped step a tick. -/
theorem commands_stay_slewed_servo : ∃ w : SlewWatch ℚ, w.Slewed stopsConfig.tick ∧
    w.poses.length = 4 ∧ w.core.anchor.qCmd 0 = 3 * slewBound stopsConfig.tick 0 := by
  have bound : ∀ j, 0 ≤ slewBound stopsConfig.tick j := by decide +kernel
  have stops (j : Fin kNumJoints) : ∀ l ∈ stopsConfig.tick.limits.posLo j,
      ∀ h ∈ stopsConfig.tick.limits.posHi j, l ≤ h := by
    rintro l ⟨⟩ h ⟨⟩
    decide +kernel
  obtain ⟨w, reached, tested⟩ := Machine.reachable_of_test (machine benchExternal stopsConfig)
    oneStream
    [.beginStreaming 0, benchTick (some { benchServo 1 0 with servoQ := fun _ => 1 }),
      benchTick none, benchTick none]
    (fun w : SlewWatch ℚ => decide (w.poses.length = 4) &&
      decide (w.core.anchor.qCmd 0 = 3 * slewBound stopsConfig.tick 0))
    (by decide +kernel) (by decide +kernel)
  simp only [Bool.and_eq_true, decide_eq_true_eq] at tested
  exact ⟨w, commands_stay_slewed benchExternal stopsConfig bound stops w reached, tested.1, tested.2⟩

end SlewWatch

end AiroFanuc.RtCore
