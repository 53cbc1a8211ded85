import AiroFanuc.RtCore.Reanchor
import AiroFanuc.RtCore.Reel

/-! The tick of a standing arm, which leaves the commanded pose where it is, and the ticks of a
splice, each of which hands on one knot of it. -/

namespace AiroFanuc.RtCore

open TickEngine Library

variable {R : Type} [Field R] [LinearOrder R] [FloorRing R]

namespace TickCore

/-- No recovery ends in the tick, its dispatch holds, and what it holds is at rest inside the soft
stops. -/
def stands (lib : External R) (s : TickCore R) (rx : Option (RxSample R))
    (pending : Option (Target R)) (superseded : Bool) : Bool :=
  !(s.beforeDwell lib rx).dwellCompletes &&
    decide ((s.dispatched lib rx pending superseded).health.mode = .hold) &&
    decide (s.anchor.qdCmd = 0) && decide (s.clampPositions s.anchor.qCmd = s.anchor.qCmd)

variable {lib : External R} {cfg : RtCoreConfig R} {s : TickCore R} {rx : Option (RxSample R)}
  {pending : Option (Target R)} {superseded : Bool}

/-- A tick that ends no recovery dispatches from the pose it began with. -/
theorem dispatched_pose (waits : (s.beforeDwell lib rx).dwellCompletes = false) :
    (s.dispatched lib rx pending superseded).frame.pose = ⟨s.anchor.qCmd, s.slew⟩ ∧
      (s.dispatched lib rx pending superseded).cfg = s.cfg := by
  obtain ⟨verdict, captured, frame⟩ := dispatched_frame lib s rx pending superseded
  rw [beforeConsume_frame, beforeDwell_dwelt] at frame
  have undwelt : ¬ s.reanchors lib rx = true := by
    rw [reanchors, waits]
    simp
  rw [if_neg undwelt] at frame
  exact ⟨congrArg Frame.pose frame, (congrArg Frame.cfg frame).trans (ingestRx_cfg s rx)⟩

/-- A dispatch that holds asks for the pose there is. -/
theorem dispatchMode_hold {c : TickCore R} (holding : c.health.mode = .hold) :
    (c.dispatchMode lib).1 = c.anchor.qCmd ∧ (c.dispatchMode lib).2.anchor.qdCmd = 0 := by
  simp only [dispatchMode, holding, and_self]

omit [FloorRing R] in
theorem sendCommand_qdCmd (s : TickCore R) (qDesired : Vec6 R) :
    (s.sendCommand qDesired).2.anchor.qdCmd = s.anchor.qdCmd := by
  simp only [sendCommand]
  split
  · rfl
  · split <;> rfl

section Standing

variable [IsStrictOrderedRing R]

omit [FloorRing R] in
/-- A limiter that is asked for its own reference gives it back. -/
theorem apply_reference {l : SlewLimiter R} (nonneg : ∀ j, 0 ≤ l.maxStep j) :
    (l.apply l.prevQ).1.q = l.prevQ := by
  unfold SlewLimiter.apply
  split
  · rfl
  · funext j
    have step := nonneg j
    simp only [SlewLimiter.clip, sub_self]
    rw [if_neg (not_lt.mpr step), if_neg (not_lt.mpr (neg_nonpos.mpr step))]

/-- Nothing moves the commanded pose of an arm that stands. -/
theorem tick_stands (poised : s.Poised cfg) (nonneg : ∀ j, 0 ≤ SlewWatch.slewBound cfg.tick j)
    (standing : s.stands lib rx pending superseded = true) :
    (s.tick lib rx pending superseded).2.anchor.qCmd = s.anchor.qCmd ∧
      (s.tick lib rx pending superseded).2.anchor.qdCmd = s.anchor.qdCmd := by
  simp only [stands, Bool.and_eq_true, Bool.not_eq_true', decide_eq_true_eq] at standing
  obtain ⟨⟨⟨waits, holding⟩, rest⟩, inside⟩ := standing
  obtain ⟨pose, settings⟩ :
      (s.dispatched lib rx pending superseded).frame.pose = ⟨s.anchor.qCmd, s.slew⟩ ∧
        (s.dispatched lib rx pending superseded).cfg = s.cfg := dispatched_pose waits
  obtain ⟨c, dispatching⟩ : ∃ c, c = s.dispatched lib rx pending superseded := ⟨_, rfl⟩
  have ticked : (s.tick lib rx pending superseded).2 =
      ((c.dispatchMode lib).2.sendCommand (c.dispatchMode lib).1).2 := by
    rw [dispatching]
    rfl
  rw [← dispatching] at pose settings holding
  obtain ⟨asked, still⟩ : (c.dispatchMode lib).1 = c.anchor.qCmd ∧
      (c.dispatchMode lib).2.anchor.qdCmd = 0 := dispatchMode_hold holding
  have frame := dispatchMode_frame lib c
  have slew : (c.dispatchMode lib).2.slew = s.slew :=
    (congrArg (fun f : Frame R => f.pose.slew) frame).trans (congrArg Pose.slew pose)
  have qCmd : c.anchor.qCmd = s.anchor.qCmd := congrArg Pose.qCmd pose
  have clamped : (c.dispatchMode lib).2.clampPositions s.anchor.qCmd = s.anchor.qCmd := by
    have same : (c.dispatchMode lib).2.cfg = s.cfg := (congrArg Frame.cfg frame).trans settings
    refine Eq.trans ?_ inside
    funext j
    rw [clampPositions, clampPositions, same]
  have bounds (j : Fin kNumJoints) : 0 ≤ s.slew.maxStep j := by
    rw [SlewLimiter.maxStep, poised.limiter]
    exact nonneg j
  rw [ticked]
  constructor
  · calc ((c.dispatchMode lib).2.sendCommand (c.dispatchMode lib).1).2.anchor.qCmd
        = (s.slew.apply ((c.dispatchMode lib).2.clampPositions (c.dispatchMode lib).1)).1.q := by
          rw [← slew]
          exact congrArg (fun f : Frame R => f.pose.qCmd) (sendCommand_frame _ _)
      _ = (s.slew.apply s.slew.prevQ).1.q := by rw [asked, qCmd, clamped, poised.anchored]
      _ = s.anchor.qCmd := (apply_reference bounds).trans poised.anchored
  · rw [sendCommand_qdCmd, still, rest]

end Standing

/-! ### The splice -/

/-- The knot a tick of a splice hands to the clamp and the limiter, and its velocity. -/
def handsOn (lib : External R) (c : TickCore R) : Option (Vec6 R × Vec6 R) :=
  if c.health.mode = .capture ∧ c.splice.captureIdx < c.splice.capture.count then
    some ((c.dispatchMode lib).1, (c.dispatchMode lib).2.anchor.qdCmd)
  else none

def knot (k : HermiteSample R) : Vec6 R × Vec6 R := (k.q, k.qd)

theorem handsOn_knot {c : TickCore R} :
    c.handsOn lib =
      if c.health.mode = .capture then (c.splice.capture.knots[c.splice.captureIdx]?).map knot
      else none := by
  by_cases spliced : c.health.mode = .capture
  · rw [if_pos spliced, handsOn]
    cases found : c.splice.capture.knots[c.splice.captureIdx]? with
    | none =>
        have past := List.getElem?_eq_none_iff.mp found
        rw [if_neg (by rw [CapturePath.count]; omega), Option.map_none]
    | some k =>
        obtain ⟨inside, -⟩ := List.getElem?_eq_some_iff.mp found
        rw [if_pos ⟨spliced, inside⟩]
        simp only [dispatchMode, spliced, found, Option.map_some, knot]
  · rw [if_neg spliced, handsOn, if_neg (fun both => spliced both.1)]

/-- A dispatch that leaves a splice running has handed on a knot, and goes on behind it. -/
theorem dispatchMode_splicing {c : TickCore R}
    (goes : (c.dispatchMode lib).2.health.mode = .capture) :
    c.health.mode = .capture ∧ (c.handsOn lib).isSome = true ∧
      (c.dispatchMode lib).2.splice.capture = c.splice.capture ∧
      (c.dispatchMode lib).2.splice.captureIdx = c.splice.captureIdx + 1 := by
  have spliced : c.health.mode = .capture := by
    by_contra other
    by_cases rolling : c.health.mode = .trajectory
    · simp only [dispatchMode, rolling] at goes
      rcases dispatchTrajectory_mode c with mode | mode
      · rw [goes, rolling] at mode
        cases mode
      · rw [goes] at mode
        cases mode
    · refine dispatchMode_idle lib (s := c) ?_ (.inl goes)
      rintro (mode | mode)
      · exact other mode
      · exact rolling mode
  refine ⟨spliced, ?_⟩
  rw [handsOn_knot, if_pos spliced]
  cases found : c.splice.capture.knots[c.splice.captureIdx]? with
  | none =>
      -- The playback takes over, and no playback is a splice.
      simp only [dispatchMode, spliced, found] at goes
      rcases dispatchTrajectory_mode (c.installTrajectory c.splice.capturedTarget) with mode | mode
      · rw [goes] at mode
        cases mode
      · rw [goes] at mode
        cases mode
  | some k =>
      simp only [dispatchMode, spliced, found]
      exact ⟨rfl, trivial, trivial⟩

/-- A dispatch that leaves a playback running had one, or a splice with no knot left. -/
theorem dispatchMode_playing {c : TickCore R}
    (goes : (c.dispatchMode lib).2.health.mode = .trajectory) :
    c.handsOn lib = none ∧ (c.health.mode = .trajectory ∨
      (c.health.mode = .capture ∧ c.splice.capture.count ≤ c.splice.captureIdx)) := by
  rw [handsOn_knot]
  by_cases spliced : c.health.mode = .capture
  · rw [if_pos spliced]
    cases found : c.splice.capture.knots[c.splice.captureIdx]? with
    | none => exact ⟨rfl, .inr ⟨spliced, List.getElem?_eq_none_iff.mp found⟩⟩
    | some k =>
        simp only [dispatchMode, spliced, found] at goes
        cases goes
  · rw [if_neg spliced]
    refine ⟨rfl, .inl ?_⟩
    by_contra other
    refine dispatchMode_idle lib (s := c) ?_ (.inr goes)
    rintro (mode | mode)
    · exact spliced mode
    · exact other mode

/-- An accepted trajectory starts from the splice that the gate let pass. -/
theorem consume_spliced {t : Target R} (kind : t.kind = .trajectory)
    (accepted : (s.consume lib t superseded).1.accepted = true) :
    (s.consume lib t superseded).2.reel = s.splicedReel lib t ∧
      captureWouldReject lib s.anchor.qCmd s.anchor.qdCmd t.q0 t.qd0 s.cfg.tick = false ∧
      (generateCapturePath lib s.anchor.qCmd s.anchor.qdCmd t.q0 t.qd0 s.cfg.tick).ok = true := by
  have present : t.kind ≠ .none := by rw [kind]; decide
  have admitted : s.refuses lib t superseded = false := by
    cases refusing : s.refuses lib t superseded with
    | false => rfl
    | true =>
        rw [(consume_refused present refusing).1] at accepted
        cases accepted
  refine ⟨?_, ?_⟩
  · rw [(consume_admitted present admitted).2]
    simp only [kind]
    exact acceptTrajectory_reel lib s t
  · simp only [refuses, kind, decide_true, Bool.true_and, Bool.or_eq_false_iff,
      Bool.not_eq_false'] at admitted
    exact ⟨admitted.2.1.2, admitted.2.2⟩

/-- Any other target leaves what rolls alone, or ends it. -/
theorem consume_keeps {t : Target R}
    (other : t.kind = .trajectory → (s.consume lib t superseded).1.accepted = false) :
    s.reel.Keeps (s.consume lib t superseded).2.reel := by
  intro rolls
  rcases consume_reel lib s t superseded rolls with same | ⟨kind, -⟩
  · exact same
  · have present : t.kind ≠ .none := by rw [kind]; decide
    cases refusing : s.refuses lib t superseded with
    | true =>
        rcases (consume_refused present refusing).2 with ⟨reason, refused⟩ | refused | refused <;>
          · rw [refused]
            rfl
    | false =>
        have taken := (consume_admitted present refusing).1
        rw [other kind] at taken
        cases taken

end TickCore

end AiroFanuc.RtCore
