import AiroFanuc.RtCore.Reel
import AiroFanuc.TickEngine.Playback

/-! One period of path time a tick: the playback of a trajectory behind its splice, over its
end, and through the end blend. -/

namespace AiroFanuc.RtCore

open TickEngine Library

/-! ### The target of a motion -/

namespace Target

variable {R : Type} [Field R] [LinearOrder R] [FloorRing R]

/-- The trajectory as the sampler is bound to it. -/
def view (t : Target R) : TrajectorySampler R :=
  .bind (t.timesNs.getD []) (t.q.getD []) (t.qd.getD []) t.n

/-- The end blend of an unscaled trajectory, when one is planned. -/
def blend (t : Target R) (cfg : TickEngineConfig R) : Option (QdEndBlend R) :=
  if cfg.settleVelEpsRadS < maxAbs t.qdLast then
    some (.plan t.view.qLast t.qdLast cfg.qdEndBlendMinS cfg.itpS)
  else none

/-- Faster at its end than what counts as settled. -/
def coasts (t : Target R) (cfg : TickEngineConfig R) : Prop :=
  max cfg.settleVelEpsRadS 0 < maxAbs t.qdLast

/-- Unscaled, let through by the driver, and within what the 64-bit clocks count exactly. -/
structure Playable (cfg : TickEngineConfig R) (t : Target R) : Prop where
  scale : t.speedScale = 1
  valid : t.view.Valid
  span : t.view.spanNs + 4 * itpNs cfg.itpS ≤ kInt64Max
  ramp : ∀ b ∈ t.blend cfg, b.durNs + 4 * itpNs cfg.itpS ≤ kInt64Max

section OnPath

variable [IsStrictOrderedRing R] {cfg : TickEngineConfig R} {t : Target R}

omit [IsStrictOrderedRing R] in
theorem blend_some {b : QdEndBlend R} (planned : b ∈ t.blend cfg) :
    b = .plan t.view.qLast t.qdLast cfg.qdEndBlendMinS cfg.itpS := by
  rw [blend] at planned
  split at planned
  · exact (Option.mem_some_iff.mp planned).symm
  · cases planned

/-- From the last knot on, the end blend is the path. -/
theorem Playable.onPath_blend (playable : t.Playable cfg) (ticks : 0 < itpNs cfg.itpS)
    {b : QdEndBlend R} (planned : b ∈ t.blend cfg) {tauNs : Int} (beyond : t.view.spanNs ≤ tauNs) :
    t.view.OnPath (t.blend cfg) tauNs (b.sample (tauNs - t.view.spanNs)).q := by
  rcases beyond.eq_or_lt with rfl | past
  · rw [sub_self, blend_some planned, QdEndBlend.plan_sample_zero ticks]
    exact playable.valid.onPath_span
  · unfold TrajectorySampler.OnPath
    rw [if_neg past.not_ge, Option.mem_def.mp planned]

omit [IsStrictOrderedRing R] in
/-- Without one the path rests there. -/
theorem Playable.onPath_rest (playable : t.Playable cfg) (unplanned : t.blend cfg = none)
    {tauNs : Int} (beyond : t.view.spanNs ≤ tauNs) :
    t.view.OnPath (t.blend cfg) tauNs t.view.qLast := by
  rcases beyond.eq_or_lt with rfl | past
  · exact playable.valid.onPath_span
  · unfold TrajectorySampler.OnPath
    rw [if_neg past.not_ge, unplanned]

/-- Holding the last knot past the end is on the path only when no ramp leaves it. -/
theorem Playable.onPath_last_iff (playable : t.Playable cfg) (ticks : 0 < itpNs cfg.itpS)
    {tauNs : Int} (beyond : t.view.spanNs ≤ tauNs) :
    t.view.OnPath (t.blend cfg) tauNs t.view.qLast ↔ tauNs ≤ t.view.spanNs ∨ ¬ t.coasts cfg := by
  rcases beyond.eq_or_lt with rfl | past
  · exact iff_of_true playable.valid.onPath_span (.inl le_rfl)
  cases planned : t.blend cfg with
  | none =>
    rw [← planned]
    refine iff_of_true (playable.onPath_rest planned beyond) (.inr ?_)
    rw [blend] at planned
    split at planned
    · cases planned
    · rename_i settled
      exact fun coasts => settled (lt_of_le_of_lt (le_max_left _ _) coasts)
  | some b =>
    have fits := playable.ramp b planned
    have planned' := blend_some planned
    unfold TrajectorySampler.OnPath
    rw [if_neg past.not_ge]
    simp only
    by_cases moving : 0 < maxAbs t.qdLast
    · have coasts : t.coasts cfg := by
        rw [blend] at planned
        split at planned
        · rename_i fast
          exact max_lt fast moving
        · cases planned
      have leaves := QdEndBlend.plan_sample_moves ticks moving (sub_pos.mpr past)
        (planned' ▸ (by omega : b.durNs ≤ kInt64Max))
      rw [← planned'] at leaves
      apply iff_of_false
      · exact fun same => leaves same.symm
      · rintro (early | settled)
        · omega
        · exact settled coasts
    · have resting : b.sample (tauNs - t.view.spanNs) = .atRest t.view.qLast := by
        rw [planned']
        simp only [QdEndBlend.plan, if_pos (not_lt.mp moving), QdEndBlend.sample, true_or, if_true]
      rw [resting]
      exact iff_of_true rfl (.inr fun coasts =>
        moving (lt_of_le_of_lt (le_max_right _ _) coasts))

end OnPath

end Target

/-! ### The splice in front of it -/

section Residue

variable {R : Type} [Field R] [LinearOrder R] [IsStrictOrderedRing R] [FloorRing R]

theorem captureLoop_residue (lib : External R) {itpS : R} (positive : 0 < itpS) (room : Nat)
    (history : List (InputParameter R)) (inp : InputParameter R) (out : CapturePath R)
    (bounded : 0 ≤ out.residueNs ∧ out.residueNs ≤ itpNs itpS) :
    0 ≤ (captureLoop lib itpS room history inp out).residueNs ∧
      (captureLoop lib itpS room history inp out).residueNs ≤ itpNs itpS := by
  induction room generalizing history inp out with
  | zero => exact bounded
  | succ room ih =>
    simp only [captureLoop]
    split
    · exact bounded
    · have low : 0 ≤ clamp ((lib.ruckig itpS history inp).2.time -
          (lib.ruckig itpS history inp).2.duration) 0 itpS := by
        simp only [clamp]
        split
        · exact le_rfl
        · split
          · exact positive.le
          · exact not_lt.mp ‹_›
      have high : clamp ((lib.ruckig itpS history inp).2.time -
          (lib.ruckig itpS history inp).2.duration) 0 itpS ≤ itpS := by
        simp only [clamp]
        split
        · exact positive.le
        · split
          · exact le_rfl
          · exact not_lt.mp ‹_›
      constructor
      · exact llround_nonneg (by positivity)
      · exact llround_mono (by positivity) (mul_le_mul_of_nonneg_right high (by positivity))
    · exact ih _ _ _ bounded

theorem generateCapturePath_residue (lib : External R) (qCmd qdCmd q0 qd0 : Vec6 R)
    {cfg : TickEngineConfig R} (ticks : 0 < itpNs cfg.itpS) :
    0 ≤ (generateCapturePath lib qCmd qdCmd q0 qd0 cfg).residueNs ∧
      (generateCapturePath lib qCmd qdCmd q0 qd0 cfg).residueNs ≤ itpNs cfg.itpS :=
  captureLoop_residue lib (itp_pos ticks) _ _ _ _ ⟨le_rfl, ticks.le⟩

end Residue

/-! ### The playback clocks -/

section Cue

variable {R : Type} [Field R] [LinearOrder R] [FloorRing R]

/-- Where the playback stands when the command of the path time `tauNs` is due; `opening` is
the first one behind the splice, due whatever the length of the trajectory. -/
inductive Stands (cfg : TickEngineConfig R) (t : Target R) (tauNs : Int) (opening : Prop)
    (r : Reel R) : Prop
  | playing : r.playback.trajPhase = .playing → r.playback.tauNs = tauNs →
      tauNs < t.view.spanNs ∨ opening ∧ tauNs ≤ 2 * itpNs cfg.itpS →
      Stands cfg t tauNs opening r
  | blending (b : QdEndBlend R) : r.playback.trajPhase = .endBlend → b ∈ t.blend cfg →
      r.qdBlend = b → r.playback.tauBlendNs = tauNs - t.view.spanNs → t.view.spanNs ≤ tauNs →
      tauNs - t.view.spanNs ≤ b.durNs ∨ tauNs - t.view.spanNs ≤ 3 * itpNs cfg.itpS →
      Stands cfg t tauNs opening r
  | coasted (b : QdEndBlend R) : r.playback.trajPhase = .settling → b ∈ t.blend cfg →
      r.playback.qHold = b.qCoast → t.view.spanNs ≤ tauNs → b.durNs ≤ tauNs - t.view.spanNs →
      Stands cfg t tauNs opening r
  | rested : r.playback.trajPhase = .settling → t.blend cfg = none →
      r.playback.qHold = t.view.qLast → t.view.spanNs ≤ tauNs → Stands cfg t tauNs opening r

structure Cue (cfg : RtCoreConfig R) (t : Target R) (tauNs : Int) (opening : Prop) (r : Reel R) :
    Prop where
  settings : r.cfg = cfg
  sampler : r.playback.sampler = t.view
  scale : r.playback.speedScale = 1
  wire : r.playback.qdEndWire = t.qdLast
  ends : r.playback.trajEndTauNs = t.view.spanNs
  stands : Stands cfg.tick t tauNs opening r

namespace TickCore

variable [IsStrictOrderedRing R] {cfg : RtCoreConfig R} {t : Target R} {tauNs : Int}
  {opening : Prop} {s : TickCore R}

omit [IsStrictOrderedRing R] in
/-- Settling repeats the pose it holds until the motion ends. -/
theorem dispatchTrajectory_settling (settling : s.playback.trajPhase = .settling) :
    s.dispatchTrajectory.1 = s.playback.qHold ∧
      (s.dispatchTrajectory.2.health.mode = .trajectory → ∃ settle,
        s.dispatchTrajectory.2.reel =
          { s.reel with playback := { s.playback with settle := settle } }) := by
  simp only [dispatchTrajectory, settling]
  split
  · rw [resolveActive_shape]
    exact ⟨rfl, nofun⟩
  · rw [resolveActive_shape]
    exact ⟨rfl, nofun⟩
  · exact ⟨rfl, fun _ => ⟨_, rfl⟩⟩

omit [IsStrictOrderedRing R] in
/-- A playing tick moves its clock on, and turns to the end once the clock has reached it. -/
theorem dispatchTrajectory_playing (playing : s.playback.trajPhase = .playing) {nextNs : Int}
    (next : wrapInt64 (s.playback.tauNs + itpNs s.itp) = nextNs) :
    s.dispatchTrajectory.2.reel =
      if s.playback.trajEndTauNs ≤ nextNs then
        if s.cfg.tick.settleVelEpsRadS < maxAbs s.playback.qdEndWire then
          { s.reel with
            qdBlend := .plan s.playback.sampler.qLast s.playback.qdEndWire
              s.cfg.tick.qdEndBlendMinS s.itp
            playback := { s.playback with
              tauNs := nextNs
              trajPhase := .endBlend
              tauBlendNs := wrapInt64 (nextNs - s.playback.trajEndTauNs) } }
        else
          { s.reel with
            playback := { s.playback with
              tauNs := nextNs
              trajPhase := .settling
              qHold := s.playback.sampler.qLast
              settle := (SettleDetector.new s.playback.motionTickCfg).reset } }
      else { s.reel with playback := { s.playback with tauNs := nextNs } } := by
  subst next
  simp only [dispatchTrajectory, playing]
  by_cases beyond : s.playback.trajEndTauNs ≤ wrapInt64 (s.playback.tauNs + itpNs s.itp)
  · rw [if_pos (by exact beyond), if_pos beyond]
    by_cases fast : s.cfg.tick.settleVelEpsRadS < maxAbs s.playback.qdEndWire
    · rw [if_pos (by exact fast), if_pos fast]
      rfl
    · rw [if_neg (by exact fast), if_neg fast]
      rfl
  · rw [if_neg (by exact beyond), if_neg beyond]
    rfl

omit [IsStrictOrderedRing R] in
theorem dispatchTrajectory_blending (blending : s.playback.trajPhase = .endBlend) {nextNs : Int}
    (next : wrapInt64 (s.playback.tauBlendNs + itpNs s.itp) = nextNs) :
    s.dispatchTrajectory.2.reel =
      if s.qdBlend.durNs ≤ nextNs then
        { s.reel with
          playback := { s.playback with
            tauBlendNs := nextNs
            trajPhase := .settling
            qHold := s.qdBlend.qCoast
            settle := (SettleDetector.new s.playback.motionTickCfg).reset } }
      else { s.reel with playback := { s.playback with tauBlendNs := nextNs } } := by
  subst next
  simp only [dispatchTrajectory, blending]
  by_cases beyond : s.qdBlend.durNs ≤ wrapInt64 (s.playback.tauBlendNs + itpNs s.itp)
  · rw [if_pos (by exact beyond), if_pos beyond]
    rfl
  · rw [if_neg (by exact beyond), if_neg beyond]
    rfl

/-- Every command but an overdue first one is the path's value. -/
theorem dispatchTrajectory_onPath (playable : t.Playable cfg.tick) (ticks : 0 < itpNs cfg.tick.itpS)
    (cue : Cue cfg t tauNs opening s.reel) (started : 0 < tauNs)
    (due : tauNs < t.view.spanNs ∨ ¬ opening) :
    t.view.OnPath (t.blend cfg.tick) tauNs s.dispatchTrajectory.1 := by
  have sampler : s.playback.sampler = t.view := cue.sampler
  have scale : s.playback.speedScale = 1 := cue.scale
  have fits := playable.span
  cases cue.stands with
  | playing phase clock room =>
    have playing : s.playback.trajPhase = .playing := phase
    have now : s.playback.tauNs = tauNs := clock
    have inside : tauNs < t.view.spanNs := by
      rcases room with inside | ⟨first, -⟩
      · exact inside
      · exact due.resolve_right (not_not.mpr first)
    have command : s.dispatchTrajectory.1 = (t.view.sample tauNs 1).q := by
      simp only [dispatchTrajectory, playing, now, sampler, scale]
      split
      · split <;> rfl
      · rfl
    rw [command]
    unfold TrajectorySampler.OnPath
    rw [if_pos inside.le]
    exact playable.valid.sample_inside started inside (by omega)
  | blending b phase planned held clock beyond room =>
    have blending : s.playback.trajPhase = .endBlend := phase
    have now : s.playback.tauBlendNs = tauNs - t.view.spanNs := clock
    have ramp : s.qdBlend = b := held
    have command : s.dispatchTrajectory.1 = (b.sample (tauNs - t.view.spanNs)).q := by
      simp only [dispatchTrajectory, blending, now, ramp]
      split <;> rfl
    rw [command]
    exact playable.onPath_blend ticks planned beyond
  | coasted b phase planned held beyond spent =>
    have settling : s.playback.trajPhase = .settling := phase
    have hold : s.playback.qHold = b.qCoast := held
    have command := (dispatchTrajectory_settling settling).1
    rw [command, hold, ← QdEndBlend.sample_over spent]
    exact playable.onPath_blend ticks planned beyond
  | rested phase unplanned held beyond =>
    have settling : s.playback.trajPhase = .settling := phase
    have hold : s.playback.qHold = t.view.qLast := held
    have command := (dispatchTrajectory_settling settling).1
    rw [command, hold]
    exact playable.onPath_rest unplanned beyond

/-- An overdue first command is the last knot. -/
theorem dispatchTrajectory_overdue (playable : t.Playable cfg.tick)
    (cue : Cue cfg t tauNs opening s.reel) (playing : s.playback.trajPhase = .playing)
    (beyond : t.view.spanNs ≤ tauNs) (clock : s.playback.tauNs = tauNs) :
    s.dispatchTrajectory.1 = t.view.qLast := by
  have sampler : s.playback.sampler = t.view := cue.sampler
  have scale : s.playback.speedScale = 1 := cue.scale
  rw [← playable.valid.sample_over beyond]
  simp only [dispatchTrajectory, playing, clock, sampler, scale]
  split
  · split <;> rfl
  · rfl

omit [IsStrictOrderedRing R] in
/-- A period later the playback stands one period of path time further on. -/
theorem dispatchTrajectory_cue (playable : t.Playable cfg.tick) (ticks : 0 < itpNs cfg.tick.itpS)
    (cue : Cue cfg t tauNs opening s.reel) (started : 0 < tauNs)
    (rolls : s.dispatchTrajectory.2.health.mode = .trajectory) :
    Cue cfg t (tauNs + itpNs cfg.tick.itpS) False s.dispatchTrajectory.2.reel := by
  have settings : s.cfg = cfg := cue.settings
  have sampler : s.playback.sampler = t.view := cue.sampler
  have scale : s.playback.speedScale = 1 := cue.scale
  have wire : s.playback.qdEndWire = t.qdLast := cue.wire
  have ends : s.playback.trajEndTauNs = t.view.spanNs := cue.ends
  have period : s.itp = cfg.tick.itpS := congrArg (fun c : RtCoreConfig R => c.tick.itpS) settings
  have limit : kInt64Max = 2 ^ 63 - 1 := rfl
  have fits := playable.span
  have spans := playable.valid.span_pos
  cases cue.stands with
  | playing phase clock room =>
    have playing : s.playback.trajPhase = .playing := phase
    have now : s.playback.tauNs = tauNs := clock
    have early : tauNs < t.view.spanNs ∨ tauNs ≤ 2 * itpNs cfg.tick.itpS := by
      rcases room with inside | ⟨-, near⟩
      · exact .inl inside
      · exact .inr near
    have next : wrapInt64 (s.playback.tauNs + itpNs s.itp) = tauNs + itpNs cfg.tick.itpS := by
      rw [now, period]
      exact wrapInt64_fits (by simp only [kInt64Min]; omega) (by omega)
    have rest : wrapInt64 (tauNs + itpNs cfg.tick.itpS - t.view.spanNs) =
        tauNs + itpNs cfg.tick.itpS - t.view.spanNs :=
      wrapInt64_fits (by simp only [kInt64Min]; omega) (by omega)
    rw [dispatchTrajectory_playing playing next, ends, wire, sampler, settings, period, rest]
    by_cases beyond : t.view.spanNs ≤ tauNs + itpNs cfg.tick.itpS
    · rw [if_pos beyond]
      by_cases fast : cfg.tick.settleVelEpsRadS < maxAbs t.qdLast
      · rw [if_pos fast]
        exact ⟨settings, sampler, scale, wire, ends,
          .blending _ rfl (if_pos fast) rfl rfl beyond (.inr (by omega))⟩
      · rw [if_neg fast]
        exact ⟨settings, sampler, scale, wire, ends, .rested rfl (if_neg fast) rfl beyond⟩
    · rw [if_neg beyond]
      exact ⟨settings, sampler, scale, wire, ends, .playing playing rfl (.inl (not_le.mp beyond))⟩
  | blending b phase planned held clock beyond room =>
    have blending : s.playback.trajPhase = .endBlend := phase
    have now : s.playback.tauBlendNs = tauNs - t.view.spanNs := clock
    have ramp : s.qdBlend = b := held
    have long := playable.ramp b planned
    have next : wrapInt64 (s.playback.tauBlendNs + itpNs s.itp) =
        tauNs + itpNs cfg.tick.itpS - t.view.spanNs := by
      rw [now, period, wrapInt64_fits (by simp only [kInt64Min]; omega) (by omega)]
      omega
    rw [dispatchTrajectory_blending blending next, ramp]
    by_cases spent : b.durNs ≤ tauNs + itpNs cfg.tick.itpS - t.view.spanNs
    · rw [if_pos spent]
      exact ⟨settings, sampler, scale, wire, ends,
        .coasted b rfl planned rfl (by omega) spent⟩
    · rw [if_neg spent]
      exact ⟨settings, sampler, scale, wire, ends,
        .blending b blending planned ramp rfl (by omega) (.inl (by omega))⟩
  | coasted b phase planned held beyond spent =>
    have settling : s.playback.trajPhase = .settling := phase
    obtain ⟨settle, kept⟩ := (dispatchTrajectory_settling settling).2 rolls
    rw [kept]
    exact ⟨settings, sampler, scale, wire, ends,
      .coasted b settling planned held (by omega) (by omega)⟩
  | rested phase unplanned held beyond =>
    have settling : s.playback.trajPhase = .settling := phase
    obtain ⟨settle, kept⟩ := (dispatchTrajectory_settling settling).2 rolls
    rw [kept]
    exact ⟨settings, sampler, scale, wire, ends, .rested settling unplanned held (by omega)⟩

end TickCore

end Cue

/-! ### From the mailbox to the command -/

/-- A splice under way, with the target it leads to. -/
structure Loaded {R : Type} [Field R] [LinearOrder R] [FloorRing R] (cfg : RtCoreConfig R)
    (r : Reel R) : Prop where
  playable : r.captured.Playable cfg.tick
  scale : r.playback.speedScale = 1
  wire : r.playback.qdEndWire = r.captured.qdLast
  residue : 0 ≤ r.capture.residueNs ∧ r.capture.residueNs ≤ itpNs cfg.tick.itpS

namespace TickCore

variable {R : Type} [Field R] [LinearOrder R] [IsStrictOrderedRing R] [FloorRing R]
  {cfg : RtCoreConfig R}

/-- What rolls behind the mailbox rolled in front of it, or was just accepted. -/
theorem consume_rolls (lib : External R) {s : TickCore R} {t : Target R}
    (settings : s.cfg = cfg) (ticks : 0 < itpNs cfg.tick.itpS)
    (playable : t.kind = .trajectory → t.Playable cfg.tick) (supersededByStop : Bool)
    (rolls : (s.consume lib t supersededByStop).2.reel.rolls) :
    (s.consume lib t supersededByStop).2.reel = s.reel ∨
      (s.consume lib t supersededByStop).2.reel.mode = .capture ∧
        Loaded cfg (s.consume lib t supersededByStop).2.reel := by
  rcases consume_reel lib s t supersededByStop rolls with same | ⟨kind, taken⟩
  · exact .inl same
  · rw [taken]
    refine .inr ⟨rfl, playable kind, (playable kind).scale, ?_, ?_⟩
    · show (fun j => t.qdLast j * t.speedScale) = t.qdLast
      rw [(playable kind).scale]
      simp only [mul_one]
    · have residue := generateCapturePath_residue lib s.anchor.qCmd s.anchor.qdCmd t.q0 t.qd0
        (settings ▸ ticks : 0 < itpNs s.cfg.tick.itpS)
      rw [← settings]
      exact residue

theorem consumePending_rolls (lib : External R) {s : TickCore R} {pending : Option (Target R)}
    (settings : s.cfg = cfg) (ticks : 0 < itpNs cfg.tick.itpS)
    (playable : ∀ t ∈ pending, t.kind = .trajectory → t.Playable cfg.tick) (consumeSuperseded : Bool)
    (rolls : (s.consumePending lib pending consumeSuperseded).reel.rolls) :
    (s.consumePending lib pending consumeSuperseded).reel = s.reel ∨
      (s.consumePending lib pending consumeSuperseded).reel.mode = .capture ∧
        Loaded cfg (s.consumePending lib pending consumeSuperseded).reel := by
  cases pending with
  | none => exact .inl rfl
  | some t => exact consume_rolls lib settings ticks (playable t rfl) consumeSuperseded rolls

/-- The command after the last knot of the splice is the first one of the trajectory. -/
theorem installTrajectory_cue {s : TickCore R} (settings : s.cfg = cfg)
    (loaded : Loaded cfg s.reel) :
    Cue cfg s.splice.capturedTarget (s.splice.capture.residueNs + itpNs cfg.tick.itpS) True
      (s.installTrajectory s.splice.capturedTarget).reel := by
  have playable : s.splice.capturedTarget.Playable cfg.tick := loaded.playable
  have residue : 0 ≤ s.splice.capture.residueNs ∧
      s.splice.capture.residueNs ≤ itpNs cfg.tick.itpS := loaded.residue
  have scale : s.playback.speedScale = 1 := loaded.scale
  have fits := playable.span
  have spans := playable.valid.span_pos
  have two := playable.valid.two
  have limit : kInt64Max = 2 ^ 63 - 1 := rfl
  have length : s.splice.capturedTarget.view.durationNs = s.splice.capturedTarget.view.spanNs := by
    rw [TrajectorySampler.durationNs, if_neg (by omega)]
    exact wrapInt64_fits (by simp only [kInt64Min]; change _ ≤ TrajectorySampler.spanNs _; omega)
      (by change TrajectorySampler.spanNs _ ≤ _; omega)
  constructor
  · exact settings
  · rfl
  · exact scale
  · exact loaded.wire
  · show (if 0 < s.playback.speedScale then
      truncInt64 ((s.splice.capturedTarget.view.durationNs : R) / s.playback.speedScale)
      else s.splice.capturedTarget.view.durationNs) = _
    rw [scale, if_pos one_pos, div_one, length]
    exact truncInt64_intCast (by simp only [kInt64Min]; omega) (by omega)
  · apply Stands.playing rfl
    · show wrapInt64 (itpNs s.itp + s.splice.capture.residueNs) = _
      rw [itp, settings, add_comm]
      exact wrapInt64_fits (by simp only [kInt64Min]; omega) (by omega)
    · exact .inr ⟨trivial, by omega⟩

end TickCore

/-! ### Runs -/

/-- A trajectory since its hand-over, and the commands it has dispatched, the first one first. -/
structure Play (R : Type) where
  target : Target R
  residueNs : Int
  commands : List (Vec6 R)

namespace Play

variable {R : Type} [Field R] [LinearOrder R] [FloorRing R]

/-- The path time of the `k`-th command. -/
def time (p : Play R) (cfg : RtCoreConfig R) (k : Nat) : Int :=
  p.residueNs + k * itpNs cfg.tick.itpS

def OnPath (p : Play R) (cfg : RtCoreConfig R) (k : Nat) (q : Vec6 R) : Prop :=
  p.target.view.OnPath (p.target.blend cfg.tick) (p.time cfg k) q

/-- Every command so far is the path's value one period after the one before it. -/
def Follows (cfg : RtCoreConfig R) (p : Play R) : Prop :=
  ∀ k q, p.commands[k]? = some q → p.OnPath cfg (k + 1) q

/-- The trajectory lasts to its first command, or ends at rest. -/
def Lasts (cfg : RtCoreConfig R) (p : Play R) : Prop :=
  p.residueNs + itpNs cfg.tick.itpS ≤ p.target.view.spanNs ∨ ¬ p.target.coasts cfg.tick

def add (p : Play R) (q : Vec6 R) : Play R := { p with commands := p.commands ++ [q] }

theorem follows_add {cfg : RtCoreConfig R} {p : Play R} {q : Vec6 R} :
    (p.add q).Follows cfg ↔ p.Follows cfg ∧ p.OnPath cfg (p.commands.length + 1) q := by
  constructor
  · intro follows
    constructor
    · intro k older found
      refine follows k older ?_
      have bound := (List.getElem?_eq_some_iff.mp found).1
      exact (List.getElem?_append_left bound).trans found
    · exact follows p.commands.length q List.getElem?_concat_length
  · rintro ⟨follows, last⟩ k other found
    rcases Nat.lt_trichotomy k p.commands.length with early | rfl | late
    · exact follows k other ((List.getElem?_append_left early).symm.trans found)
    · have same : some q = some other := List.getElem?_concat_length.symm.trans found
      cases same
      exact last
    · have outside : (p.commands ++ [q])[k]? = none := by
        rw [List.getElem?_eq_none_iff, List.length_append]
        exact late
      rw [add, outside] at found
      cases found

theorem follows_one {cfg : RtCoreConfig R} {target : Target R} {residueNs : Int} {q : Vec6 R} :
    (⟨target, residueNs, [q]⟩ : Play R).Follows cfg ↔
      target.view.OnPath (target.blend cfg.tick) (residueNs + itpNs cfg.tick.itpS) q := by
  have first : ((⟨target, residueNs, []⟩ : Play R).add q).Follows cfg ↔ _ := follows_add
  have none : (⟨target, residueNs, []⟩ : Play R).Follows cfg := nofun
  simp only [add, List.nil_append, none, true_and, OnPath, time, List.length_nil, Nat.zero_add,
    Nat.cast_one, one_mul] at first
  exact first

end Play

/-- The core, and the trajectory it plays. -/
structure PlayWatch (R : Type) where
  core : TickCore R
  play : Option (Play R)

namespace PlayWatch

variable {R : Type} [Field R] [LinearOrder R] [FloorRing R]

/-- The play after a dispatch: begun behind the last knot of the splice, continued from
there, ended by anything else. -/
def dispatched (lib : External R) (play : Option (Play R)) (c : TickCore R) : Option (Play R) :=
  match c.health.mode with
  | .capture =>
    if c.splice.capture.knots[c.splice.captureIdx]?.isNone then
      some ⟨c.splice.capturedTarget, c.splice.capture.residueNs, [(c.dispatchMode lib).1]⟩
    else none
  | .trajectory => play.map fun p => p.add (c.dispatchMode lib).1
  | _ => none

def step (lib : External R) (w : PlayWatch R) (i : Input R) : PlayWatch R :=
  match i with
  | .tick rx pending consumeSuperseded =>
    { core := (w.core.tick lib rx pending consumeSuperseded).2
      play := dispatched lib w.play
        ((w.core.beforeConsume lib rx).consumePending lib pending consumeSuperseded) }
  | i => { w with core := w.core.apply lib i }

def machine (lib : External R) (cfg : RtCoreConfig R) : Machine (PlayWatch R) (Input R) where
  start := ⟨.new cfg, none⟩
  step := fun w i => some (w.step lib i)

/-- Every trajectory submitted is one the driver lets through, at speed scale 1. -/
def unscaled (cfg : RtCoreConfig R) (_ : PlayWatch R) : Input R → Prop
  | .tick _ (some t) _ => t.kind = .trajectory → t.Playable cfg.tick
  | _ => True

structure Sound (cfg : RtCoreConfig R) (w : PlayWatch R) : Prop where
  settings : w.core.cfg = cfg
  loaded : w.core.reel.mode = .capture → Loaded cfg w.core.reel
  cued : w.core.reel.mode = .trajectory →
    ∃ p ∈ w.play, Cue cfg p.target (p.time cfg (p.commands.length + 1)) False w.core.reel
  sized : ∀ p ∈ w.play, p.target.Playable cfg.tick ∧ 0 ≤ p.residueNs
  verdict : ∀ p ∈ w.play, p.Follows cfg ↔ p.Lasts cfg

section Step

variable [IsStrictOrderedRing R] {lib : External R} {cfg : RtCoreConfig R}

/-- The splice goes on, or hands over to the trajectory it leads to. -/
theorem splice_sound {play : Option (Play R)} {c : TickCore R} (ticks : 0 < itpNs cfg.tick.itpS)
    (settings : c.cfg = cfg) (spliced : c.reel.mode = .capture) (loaded : Loaded cfg c.reel)
    {after : TickCore R} (same : after.reel = (c.dispatchMode lib).2.reel)
    (kept : after.cfg = cfg) : Sound cfg ⟨after, dispatched lib play c⟩ := by
  have mode : c.health.mode = .capture := spliced
  cases knot : c.splice.capture.knots[c.splice.captureIdx]? with
  | some next =>
    have waits : dispatched lib play c = none := by
      simp only [dispatched, mode, knot, Option.isNone_some, Bool.false_eq_true, if_false]
    have moved : (c.dispatchMode lib).2.reel =
        { c.reel with captureIdx := c.splice.captureIdx + 1 } := by
      simp only [TickCore.dispatchMode, mode, knot]
      simp only [TickCore.reel, mode]
    rw [moved] at same
    rw [waits]
    refine ⟨kept, ?_, ?_, (by simp), (by simp)⟩
    · intro _
      rw [same]
      exact ⟨loaded.playable, loaded.scale, loaded.wire, loaded.residue⟩
    · intro plays
      rw [same] at plays
      exact Mode.noConfusion (plays.symm.trans mode)
  | none =>
    have dispatch : c.dispatchMode lib =
        (c.installTrajectory c.splice.capturedTarget).dispatchTrajectory := by
      simp only [TickCore.dispatchMode, mode, knot]
    have begun : dispatched lib play c = some ⟨c.splice.capturedTarget, c.splice.capture.residueNs,
        [(c.installTrajectory c.splice.capturedTarget).dispatchTrajectory.1]⟩ := by
      simp only [dispatched, mode, knot, Option.isNone_none, if_true, dispatch]
    have cue := TickCore.installTrajectory_cue settings loaded
    have playable : c.splice.capturedTarget.Playable cfg.tick := loaded.playable
    have residue : 0 ≤ c.splice.capture.residueNs := loaded.residue.1
    rw [dispatch] at same
    rw [begun]
    have started : 0 < c.splice.capture.residueNs + itpNs cfg.tick.itpS := by omega
    refine ⟨kept, ?_, ?_, ?_, ?_⟩
    · intro again
      rw [same] at again
      rcases TickCore.dispatchTrajectory_mode (c.installTrajectory c.splice.capturedTarget) with
        still | held
      · exact Mode.noConfusion (again.symm.trans still)
      · exact Mode.noConfusion (again.symm.trans held)
    · intro goes
      rw [same] at goes ⊢
      have next := TickCore.dispatchTrajectory_cue playable ticks cue started goes
      refine ⟨_, rfl, ?_⟩
      have later (q : Vec6 R) : (⟨c.splice.capturedTarget, c.splice.capture.residueNs, [q]⟩ :
          Play R).time cfg 2 = c.splice.capture.residueNs + itpNs cfg.tick.itpS +
            itpNs cfg.tick.itpS := by
        simp only [Play.time]
        push_cast
        ring
      rw [List.length_singleton, later]
      exact next
    · rintro _ ⟨⟩
      exact ⟨playable, residue⟩
    · rintro _ ⟨⟩
      rw [Play.follows_one, Play.Lasts]
      by_cases inside : c.splice.capture.residueNs + itpNs cfg.tick.itpS <
          c.splice.capturedTarget.view.spanNs
      · exact iff_of_true (TickCore.dispatchTrajectory_onPath playable ticks cue started
          (.inl inside)) (.inl inside.le)
      · have beyond := not_lt.mp inside
        have clock : (c.installTrajectory c.splice.capturedTarget).playback.tauNs =
            c.splice.capture.residueNs + itpNs cfg.tick.itpS := by
          cases cue.stands with
          | playing phase clock room => exact clock
          | blending b phase _ _ _ _ _ => cases phase
          | coasted b phase _ _ _ _ => cases phase
          | rested phase _ _ _ => cases phase
        rw [TickCore.dispatchTrajectory_overdue playable cue rfl beyond clock]
        exact playable.onPath_last_iff ticks beyond

/-- What the dispatch makes of a splice or a playback that stands in front of it. -/
theorem dispatched_sound {play : Option (Play R)} {c : TickCore R}
    (ticks : 0 < itpNs cfg.tick.itpS) (settings : c.cfg = cfg)
    (loaded : c.reel.mode = .capture → Loaded cfg c.reel)
    (cued : c.reel.mode = .trajectory →
      ∃ p ∈ play, Cue cfg p.target (p.time cfg (p.commands.length + 1)) False c.reel)
    (sized : ∀ p ∈ play, p.target.Playable cfg.tick ∧ 0 ≤ p.residueNs)
    (verdict : ∀ p ∈ play, p.Follows cfg ↔ p.Lasts cfg)
    {after : TickCore R} (same : after.reel = (c.dispatchMode lib).2.reel)
    (kept : after.cfg = cfg) :
    Sound cfg ⟨after, dispatched lib play c⟩ := by
  by_cases rolls : c.reel.rolls
  swap
  · have idle := TickCore.dispatchMode_idle lib rolls
    rw [← same] at idle
    have ended : dispatched lib play c = none := by
      unfold dispatched
      cases mode : c.health.mode with
      | capture => exact absurd (.inl mode) rolls
      | trajectory => exact absurd (.inr mode) rolls
      | _ => rfl
    rw [ended]
    exact ⟨kept, fun mode => absurd (.inl mode) idle, fun mode => absurd (.inr mode) idle, nofun,
      nofun⟩
  rcases rolls with rolls | rolls
  · exact splice_sound ticks settings rolls (loaded rolls) same kept
  · obtain ⟨p, playing, cue⟩ := cued rolls
    have mode : c.health.mode = .trajectory := rolls
    obtain ⟨playable, residue⟩ := sized p playing
    have continued : dispatched lib play c = some (p.add (c.dispatchMode lib).1) := by
      simp only [dispatched, mode, Option.mem_def.mp playing, Option.map_some]
    have dispatch : c.dispatchMode lib = c.dispatchTrajectory := by
      simp only [TickCore.dispatchMode, mode]
    rw [continued, dispatch]
    rw [dispatch] at same
    have started : 0 < p.time cfg (p.commands.length + 1) := by
      have more : 0 < ((p.commands.length + 1 : Nat) : Int) * itpNs cfg.tick.itpS := by positivity
      rw [Play.time]
      omega
    have onPath := TickCore.dispatchTrajectory_onPath playable ticks cue started (.inr not_false)
    refine ⟨kept, ?_, ?_, ?_, ?_⟩
    · intro spliced
      rw [same] at spliced
      rcases TickCore.dispatchTrajectory_mode c with still | held
      · exact Mode.noConfusion ((spliced.symm.trans still).trans mode)
      · exact Mode.noConfusion (spliced.symm.trans held)
    · intro goes
      rw [same] at goes ⊢
      have next := TickCore.dispatchTrajectory_cue playable ticks cue started goes
      refine ⟨_, rfl, ?_⟩
      have later : (p.add c.dispatchTrajectory.1).time cfg
          ((p.add c.dispatchTrajectory.1).commands.length + 1) =
            p.time cfg (p.commands.length + 1) + itpNs cfg.tick.itpS := by
        simp only [Play.time, Play.add, List.length_append, List.length_singleton]
        push_cast
        ring
      rw [later]
      exact next
    · rintro _ ⟨⟩
      exact ⟨playable, residue⟩
    · rintro _ ⟨⟩
      rw [Play.follows_add, verdict p playing]
      exact ⟨fun both => both.1, fun lasts => ⟨lasts, onPath⟩⟩

theorem tick_sound {w : PlayWatch R} (sound : w.Sound cfg) (ticks : 0 < itpNs cfg.tick.itpS)
    (rx : Option (RxSample R)) (pending : Option (Target R)) (consumeSuperseded : Bool)
    (playable : ∀ t ∈ pending, t.kind = .trajectory → t.Playable cfg.tick) :
    (w.step lib (.tick rx pending consumeSuperseded)).Sound cfg := by
  have keeps := TickCore.beforeConsume_keeps lib w.core rx
  have before := (TickCore.beforeConsume_cfg lib w.core rx).trans sound.settings
  have after := (TickCore.tick_cfg lib w.core rx pending consumeSuperseded).trans sound.settings
  have settings :=
    (TickCore.consumePending_cfg lib w.core rx pending consumeSuperseded).trans sound.settings
  have consumed := TickCore.consumePending_rolls lib before ticks playable
    consumeSuperseded
  have sent := TickCore.tick_reel lib w.core rx pending consumeSuperseded
  refine dispatched_sound ticks settings ?_ ?_ sound.sized sound.verdict sent after
  · intro mode
    rcases consumed (.inl mode) with same | ⟨-, loaded⟩
    · rw [same] at mode ⊢
      have kept := keeps (.inl mode)
      rw [kept] at mode ⊢
      exact sound.loaded mode
    · exact loaded
  · intro mode
    rcases consumed (.inr mode) with same | ⟨spliced, -⟩
    · rw [same] at mode ⊢
      have kept := keeps (.inr mode)
      rw [kept] at mode ⊢
      exact sound.cued mode
    · exact Mode.noConfusion (mode.symm.trans spliced)

theorem step_sound {w : PlayWatch R} {i : Input R} (sound : w.Sound cfg)
    (ticks : 0 < itpNs cfg.tick.itpS) (legal : unscaled cfg w i) : (w.step lib i).Sound cfg := by
  cases i with
  | tick rx pending consumeSuperseded =>
    apply tick_sound sound ticks
    rintro t ⟨⟩ kind
    exact legal kind
  | beginStreaming qMeas => exact ⟨sound.settings, nofun, nofun, sound.sized, sound.verdict⟩
  | requestRecover =>
    simp only [step, TickCore.apply, TickCore.requestRecover]
    split
    · exact ⟨sound.settings, sound.loaded, sound.cued, sound.sized, sound.verdict⟩
    · exact sound
  | requestStop | requestHold | kick | heartbeat =>
    exact ⟨sound.settings, sound.loaded, sound.cued, sound.sized, sound.verdict⟩

omit [IsStrictOrderedRing R] in
theorem start_sound (lib : External R) (cfg : RtCoreConfig R) :
    (machine lib cfg).start.Sound cfg where
  settings := rfl
  loaded := nofun
  cued := nofun
  sized := nofun
  verdict := nofun

theorem reachable_sound (ticks : 0 < itpNs cfg.tick.itpS) {w : PlayWatch R}
    (reached : (machine lib cfg).Reachable (unscaled cfg) w) : w.Sound cfg := by
  apply reached.invariant (start_sound lib cfg)
  intro a b i sound legal moved
  cases moved
  exact step_sound sound ticks legal

/-- Whatever happens before, after and around it, a playback takes one period of path time a
tick exactly if its trajectory lasts to the first command or ends at rest. -/
theorem playback_keeps_path_time_iff (lib : External R) (cfg : RtCoreConfig R)
    (ticks : 0 < itpNs cfg.tick.itpS) (w : PlayWatch R)
    (reached : (machine lib cfg).Reachable (unscaled cfg) w) :
    ∀ p ∈ w.play, p.Follows cfg ↔ p.Lasts cfg :=
  (reachable_sound ticks reached).verdict

end Step

/-- The splice ends on the trajectory, its last knot up to a period past the first knot. -/
def EndsOnPath (lib : External R) (cfg : TickEngineConfig R) : Prop :=
  ∀ qCmd qdCmd q0 qd0, (generateCapturePath lib qCmd qdCmd q0 qd0 cfg).ok = true →
    0 < (generateCapturePath lib qCmd qdCmd q0 qd0 cfg).residueNs ∧
      (generateCapturePath lib qCmd qdCmd q0 qd0 cfg).residueNs ≤ itpNs cfg.itpS ∧
      ∃ knot ∈ (generateCapturePath lib qCmd qdCmd q0 qd0 cfg).knots.getLast?,
        (knot.q = fun j => q0 j +
          ((generateCapturePath lib qCmd qdCmd q0 qd0 cfg).residueNs : R) / 10 ^ 9 * qd0 j) ∧
        knot.qd = qd0

/-- Every playback of every run takes one period of path time a tick. -/
def KeepsPathTime (lib : External R) (cfg : RtCoreConfig R) : Prop :=
  EndsOnPath lib cfg.tick →
    ∀ w, (machine lib cfg).Reachable (unscaled cfg) w → ∀ p ∈ w.play, p.Follows cfg

instance (cfg : TickEngineConfig R) (t : Target R) : Decidable (t.Playable cfg) :=
  decidable_of_iff (t.speedScale = 1 ∧
      (2 ≤ t.view.n ∧ t.view.times.length = t.view.n ∧ t.view.times.Pairwise (· < ·) ∧
        ∀ time ∈ t.view.times, kInt64Min ≤ time ∧ time ≤ kInt64Max) ∧
      t.view.spanNs + 4 * itpNs cfg.itpS ≤ kInt64Max ∧
      ∀ b ∈ t.blend cfg, b.durNs + 4 * itpNs cfg.itpS ≤ kInt64Max)
    ⟨fun ⟨scale, ⟨two, knots, increasing, range⟩, span, ramp⟩ =>
      ⟨scale, ⟨two, knots, increasing, range⟩, span, ramp⟩,
    fun ⟨scale, ⟨two, knots, increasing, range⟩, span, ramp⟩ =>
      ⟨scale, ⟨two, knots, increasing, range⟩, span, ramp⟩⟩

instance (cfg : RtCoreConfig R) (w : PlayWatch R) (i : Input R) : Decidable (unscaled cfg w i) :=
  match i with
  | .tick _ (some t) _ => inferInstanceAs (Decidable (t.kind = .trajectory → t.Playable cfg.tick))
  | .tick _ none _ | .requestStop | .requestHold | .requestRecover | .kick | .heartbeat
  | .beginStreaming _ => inferInstanceAs (Decidable True)

instance (cfg : RtCoreConfig R) (p : Play R) : Decidable (p.Lasts cfg) :=
  inferInstanceAs (Decidable (_ ≤ _ ∨ ¬ _ < _))

/-- A splice of one period that ends a period past the first knot. -/
def spliceExternal : External ℚ where
  ruckig := fun itpS _ inp => (.finished,
    ⟨fun j => inp.targetPosition j + itpS * inp.targetVelocity j, inp.targetVelocity, 0, itpS, 0⟩)
  sqrt := fun x => x

/-- Rest at zero, then half a radian a second after `times`. -/
def launch (times : List Int) : Target ℚ :=
  { benchTrajectory 1 0 0 with timesNs := some times, qd := some [0, fun _ => 1 / 2] }

/-- A hundred milliseconds, on the path to the fifth command. -/
theorem playback_keeps_path_time_iff_long : ∃ w : PlayWatch ℚ, ∃ p ∈ w.play,
    p.Follows defaultRtCoreConfig ∧ p.commands.length = 5 := by
  obtain ⟨w, reached, tested⟩ := Machine.reachable_of_test
    (machine spliceExternal defaultRtCoreConfig) (unscaled defaultRtCoreConfig)
    [.beginStreaming 0, benchTick (some (launch [0, 100000000])), benchTick none, benchTick none,
      benchTick none, benchTick none, benchTick none]
    (fun w : PlayWatch ℚ => w.play.any fun p : Play ℚ =>
      decide (p.Lasts defaultRtCoreConfig) && decide (p.commands.length = 5))
    (by decide +kernel) (by decide +kernel)
  obtain ⟨p, playing, checked⟩ := (Option.any_eq_true _ _).mp tested
  simp only [Bool.and_eq_true, decide_eq_true_eq] at checked
  have verdict := playback_keeps_path_time_iff spliceExternal defaultRtCoreConfig
    (by decide +kernel) w reached p playing
  exact ⟨w, p, playing, verdict.mpr checked.1, checked.2⟩

theorem spliceExternal_ends :
    EndsOnPath spliceExternal (defaultRtCoreConfig : RtCoreConfig ℚ).tick := by
  intro qCmd qdCmd q0 qd0 _
  have residue : llround (clamp ((8 / 1000 : ℚ) - 0) 0 (8 / 1000) * 10 ^ 9) = 8000000 := by
    decide +kernel
  have path : generateCapturePath spliceExternal qCmd qdCmd q0 qd0
      (defaultRtCoreConfig : RtCoreConfig ℚ).tick =
      { knots := [⟨qCmd, qdCmd, 0⟩, ⟨fun j => q0 j + 8 / 1000 * qd0 j, qd0, 0⟩]
        result := .finished
        overflow := false
        finished := true
        residueNs := llround (clamp ((8 / 1000 : ℚ) - 0) 0 (8 / 1000) * 10 ^ 9) } := rfl
  rw [path, residue]
  have period : (8000000 : Int) ≤ itpNs (8 / 1000 : ℚ) := by decide +kernel
  refine ⟨by norm_num, period, _, rfl, ?_, rfl⟩
  norm_num

/-- Five milliseconds: the first command is the last knot, eleven milliseconds behind. -/
theorem short_trajectory_skips_blend : ¬ KeepsPathTime spliceExternal defaultRtCoreConfig := by
  intro keeps
  obtain ⟨w, reached, tested⟩ := Machine.reachable_of_test
    (machine spliceExternal defaultRtCoreConfig) (unscaled defaultRtCoreConfig)
    [.beginStreaming 0, benchTick (some (launch [0, 5000000])), benchTick none]
    (fun w : PlayWatch ℚ => w.play.any fun p : Play ℚ =>
      p.commands[0]?.any (fun q => decide (∀ j, q j = p.target.view.qLast j)) &&
        decide (p.target.view.spanNs < p.time defaultRtCoreConfig 1) &&
        !decide (p.time defaultRtCoreConfig 1 ≤ p.target.view.spanNs ∨
          ¬ max (defaultRtCoreConfig : RtCoreConfig ℚ).tick.settleVelEpsRadS 0 <
            maxAbs p.target.qdLast))
    (by decide +kernel) (by decide +kernel)
  obtain ⟨p, playing, checked⟩ := (Option.any_eq_true _ _).mp tested
  simp only [Bool.and_eq_true, Bool.not_eq_true', decide_eq_true_eq, decide_eq_false_iff_not]
    at checked
  obtain ⟨⟨first, beyond⟩, leaves⟩ := checked
  obtain ⟨q, command, last⟩ := (Option.any_eq_true _ _).mp first
  have same : q = p.target.view.qLast := funext (of_decide_eq_true last)
  subst same
  have playable := ((reachable_sound (by decide +kernel) reached).sized p playing).1
  have follows := keeps spliceExternal_ends w reached p playing 0 _ command
  exact leaves ((playable.onPath_last_iff (by decide +kernel) beyond.le).mp follows)

end PlayWatch

end AiroFanuc.RtCore
