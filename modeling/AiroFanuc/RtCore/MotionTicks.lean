import AiroFanuc.RtCore.SeamTiming

/-! The ticks a motion has left: its splice, its playback, its end blend and its settling each take
a bounded number of ticks, and every dispatch takes one of them. -/

namespace AiroFanuc.RtCore

open TickEngine Library

/-! ### Clocks and timeouts in ticks -/

section Ticks

/-- The ticks a path clock that stands at `tauNs` takes to reach `endNs`, one more at least. -/
def ticksUntil (stepNs endNs tauNs : Int) : Nat := ((endNs - tauNs) / stepNs).toNat + 1

variable {stepNs endNs laterNs tauNs earlierNs : Int}

theorem ticksUntil_next (steps : 0 < stepNs) (inside : tauNs + stepNs < endNs) :
    ticksUntil stepNs endNs (tauNs + stepNs) + 1 ≤ ticksUntil stepNs endNs tauNs := by
  have shifted : (endNs - tauNs) / stepNs = (endNs - (tauNs + stepNs)) / stepNs + 1 := by
    rw [← Int.add_mul_ediv_right _ 1 steps.ne']
    congr 1
    ring
  have rest : 0 ≤ (endNs - (tauNs + stepNs)) / stepNs :=
    Int.ediv_nonneg (by omega) steps.le
  rw [ticksUntil, ticksUntil, shifted]
  omega

theorem ticksUntil_mono (steps : 0 < stepNs) (ends : endNs ≤ laterNs) (clock : earlierNs ≤ tauNs) :
    ticksUntil stepNs endNs tauNs ≤ ticksUntil stepNs laterNs earlierNs := by
  have quotients : (endNs - tauNs) / stepNs ≤ (laterNs - earlierNs) / stepNs :=
    Int.ediv_le_ediv steps (by omega)
  have whole := Int.toNat_le_toNat quotients
  rw [ticksUntil, ticksUntil]
  omega

variable {R : Type} [Field R] [LinearOrder R] [IsStrictOrderedRing R] [FloorRing R]

/-- The ticks after which a timeout of `limitS` has passed. -/
def timeoutTicks (itpS limitS : R) : Nat := ⌈limitS / itpS⌉.toNat + 1

theorem timeoutTicks_left {itpS limitS : R} (positive : 0 < itpS) {elapsed : Nat}
    (waits : ¬ limitS ≤ (elapsed : R) * itpS) : elapsed + 1 < timeoutTicks itpS limitS := by
  have early : (elapsed : R) < limitS / itpS := (lt_div_iff₀ positive).mpr (not_le.mp waits)
  have whole : (elapsed : Int) < ⌈limitS / itpS⌉ := Int.lt_ceil.mpr (by exact_mod_cast early)
  rw [timeoutTicks]
  omega

end Ticks

/-! ### What a motion may take -/

section Budget

variable {R : Type} [Field R] [LinearOrder R] [FloorRing R]

/-- The length of an end blend that is planned at all. -/
def blendNs (cfg : TickEngineConfig R) : Int :=
  llround ((QdEndBlend.ticks cfg.qdEndBlendMinS cfg.itpS : R) * cfg.itpS * 10 ^ 9)

/-- A period and an end blend that the 64-bit clocks count exactly. -/
structure Tickable (cfg : TickEngineConfig R) : Prop where
  period : 0 < itpNs cfg.itpS
  short : itpNs cfg.itpS ≤ 2 ^ 60
  blend : blendNs cfg + itpNs cfg.itpS ≤ kInt64Max

def blendTicks (cfg : TickEngineConfig R) : Nat := ticksUntil (itpNs cfg.itpS) (blendNs cfg) 0

def brakeTicks (cfg : TickEngineConfig R) : Nat := timeoutTicks cfg.itpS cfg.brakeMaxDurationS

namespace Target

/-- The path time at which the playback of a target ends, its speed scale applied. -/
def endTauNs (t : Target R) : Int :=
  if 0 < t.speedScale then truncInt64 ((t.view.durationNs : R) / t.speedScale)
  else t.view.durationNs

def settleCfg (cfg : TickEngineConfig R) (t : Target R) : TickEngineConfig R :=
  { cfg with
    settleTolRad := t.settleTolRad
    settleVelEpsRadS := t.settleVelEpsRadS
    settleTimeoutS := t.settleTimeoutS }

structure Clocked (cfg : TickEngineConfig R) (t : Target R) : Prop where
  forward : 0 ≤ t.endTauNs
  fits : t.endTauNs + itpNs cfg.itpS ≤ kInt64Max

def playTicks (cfg : TickEngineConfig R) (t : Target R) : Nat :=
  ticksUntil (itpNs cfg.itpS) t.endTauNs 0

def settleTicks (cfg : TickEngineConfig R) (t : Target R) : Nat :=
  timeoutTicks cfg.itpS t.settleTimeoutS

end Target

/-- The ticks a motion and the brake behind it take at most. -/
def motionTicks (cfg : TickEngineConfig R) (t : Target R) : Nat :=
  CapturePath.kMaxKnots + t.playTicks cfg + blendTicks cfg + t.settleTicks cfg + brakeTicks cfg

section Plan

variable [IsStrictOrderedRing R] {cfg : TickEngineConfig R}

theorem blendNs_nonneg (tickable : Tickable cfg) : 0 ≤ blendNs cfg := by
  have count : (0 : R) ≤ QdEndBlend.ticks cfg.qdEndBlendMinS cfg.itpS := by
    exact_mod_cast zero_le_one.trans QdEndBlend.ticks_pos
  have period := (itp_pos tickable.period).le
  exact llround_nonneg (by positivity)

theorem plan_durNs_le (tickable : Tickable cfg) (qEnd qdEnd : Vec6 R) :
    (QdEndBlend.plan qEnd qdEnd cfg.qdEndBlendMinS cfg.itpS).durNs ≤ blendNs cfg := by
  unfold QdEndBlend.plan
  split
  · exact blendNs_nonneg tickable
  · exact le_rfl

omit [IsStrictOrderedRing R] in
theorem captureLoop_count (lib : External R) (itpS : R) (room : Nat)
    (history : List (InputParameter R)) (inp : InputParameter R) (out : CapturePath R) :
    (captureLoop lib itpS room history inp out).count ≤ out.count + room := by
  induction room generalizing history inp out with
  | zero => exact le_rfl
  | succ room ih =>
    simp only [captureLoop]
    split
    · exact Nat.le_add_right _ _
    · simp only [CapturePath.count, List.length_append, List.length_singleton]
      omega
    · refine (ih _ _ _).trans ?_
      simp only [CapturePath.count, List.length_append, List.length_singleton]
      omega

omit [IsStrictOrderedRing R] in
theorem generateCapturePath_count (lib : External R) (qCmd qdCmd q0 qd0 : Vec6 R)
    (cfg : TickEngineConfig R) :
    (generateCapturePath lib qCmd qdCmd q0 qd0 cfg).count ≤ CapturePath.kMaxKnots :=
  captureLoop_count lib cfg.itpS (CapturePath.kMaxKnots - 1) _ _ _

end Plan

end Budget

/-! ### The ticks a motion has left -/

/-- A detector that settles on has counted the tick and has not timed out. -/
theorem settle_goes {R : Type} [Field R] [LinearOrder R] {d e : SettleDetector R}
    {qTarget qMeas qdMeas : Vec6 R} (goes : d.update qTarget qMeas qdMeas = (.settling, e)) :
    e.cfg = d.cfg ∧ e.elapsedTicks = d.elapsedTicks + 1 ∧
      ¬ e.cfg.settleTimeoutS ≤ e.elapsedS := by
  unfold TickEngine.SettleDetector.update at goes
  split at goes
  · rename_i ended
    exact absurd (congrArg Prod.fst goes) ended
  · simp only [Prod.mk.injEq] at goes
    obtain ⟨state, rfl⟩ := goes
    split at state
    · cases state
    · split at state
      · cases state
      · exact ⟨rfl, rfl, ‹_›⟩

section Left

variable {R : Type} [Field R] [LinearOrder R] [FloorRing R]

namespace Reel

/-- Where a motion in progress stands on its own clock. -/
inductive Paced (cfg : TickEngineConfig R) (r : Reel R) : Prop
  | splicing : r.mode = .capture → r.playback.speedScale = r.captured.speedScale →
      0 ≤ r.capture.residueNs → r.capture.residueNs ≤ itpNs cfg.itpS →
      r.capture.count ≤ CapturePath.kMaxKnots → Paced cfg r
  | playing : r.mode = .trajectory → r.playback.trajPhase = .playing →
      r.playback.trajEndTauNs = r.captured.endTauNs → 0 ≤ r.playback.tauNs →
      r.playback.tauNs < r.captured.endTauNs ∨ r.playback.tauNs ≤ 2 * itpNs cfg.itpS → Paced cfg r
  | blending : r.mode = .trajectory → r.playback.trajPhase = .endBlend →
      r.qdBlend.durNs ≤ blendNs cfg → 0 ≤ r.playback.tauBlendNs →
      r.playback.tauBlendNs < r.qdBlend.durNs ∨ r.playback.tauBlendNs ≤ 3 * itpNs cfg.itpS →
      Paced cfg r
  | settling : r.mode = .trajectory → r.playback.trajPhase = .settling →
      r.playback.settle.cfg = r.captured.settleCfg cfg → Paced cfg r

structure Timed (cfg : RtCoreConfig R) (r : Reel R) : Prop where
  settings : r.cfg = cfg
  clocked : r.captured.Clocked cfg.tick
  settles : r.playback.motionTickCfg = r.captured.settleCfg cfg.tick
  paced : r.Paced cfg.tick

/-- What the phases of a playback have left. -/
def phaseTicks (cfg : TickEngineConfig R) (r : Reel R) : Nat :=
  match r.playback.trajPhase with
  | .playing =>
    ticksUntil (itpNs cfg.itpS) r.captured.endTauNs r.playback.tauNs + blendTicks cfg +
      r.captured.settleTicks cfg
  | .endBlend =>
    ticksUntil (itpNs cfg.itpS) r.qdBlend.durNs r.playback.tauBlendNs + r.captured.settleTicks cfg
  | .settling => r.captured.settleTicks cfg - r.playback.settle.elapsedTicks

def ticksLeft (cfg : TickEngineConfig R) (r : Reel R) : Nat :=
  if r.mode = .capture then
    (r.capture.count - r.captureIdx) + r.captured.playTicks cfg + blendTicks cfg +
      r.captured.settleTicks cfg
  else r.phaseTicks cfg

variable {cfg : TickEngineConfig R} {r : Reel R}

theorem ticksLeft_splicing (mode : r.mode = .capture) :
    r.ticksLeft cfg = (r.capture.count - r.captureIdx) + r.captured.playTicks cfg +
      blendTicks cfg + r.captured.settleTicks cfg := if_pos mode

theorem ticksLeft_playing (mode : r.mode = .trajectory) (phase : r.playback.trajPhase = .playing) :
    r.ticksLeft cfg = ticksUntil (itpNs cfg.itpS) r.captured.endTauNs r.playback.tauNs +
      blendTicks cfg + r.captured.settleTicks cfg := by
  rw [ticksLeft, if_neg (by rw [mode]; decide), phaseTicks, phase]

theorem ticksLeft_blending (mode : r.mode = .trajectory)
    (phase : r.playback.trajPhase = .endBlend) :
    r.ticksLeft cfg = ticksUntil (itpNs cfg.itpS) r.qdBlend.durNs r.playback.tauBlendNs +
      r.captured.settleTicks cfg := by
  rw [ticksLeft, if_neg (by rw [mode]; decide), phaseTicks, phase]

theorem ticksLeft_settling (mode : r.mode = .trajectory)
    (phase : r.playback.trajPhase = .settling) :
    r.ticksLeft cfg = r.captured.settleTicks cfg - r.playback.settle.elapsedTicks := by
  rw [ticksLeft, if_neg (by rw [mode]; decide), phaseTicks, phase]

end Reel

namespace TickCore

variable [IsStrictOrderedRing R] {cfg : RtCoreConfig R} {s : TickCore R}

omit [IsStrictOrderedRing R] in
/-- A settling that goes on has not timed out. -/
theorem dispatchTrajectory_settles (settling : s.playback.trajPhase = .settling)
    (goes : s.dispatchTrajectory.2.health.mode = .trajectory) :
    ∃ settle : SettleDetector R,
      s.dispatchTrajectory.2.reel =
        { s.reel with playback := { s.playback with settle := settle } } ∧
      settle.cfg = s.playback.settle.cfg ∧
      settle.elapsedTicks = s.playback.settle.elapsedTicks + 1 ∧
      ¬ settle.cfg.settleTimeoutS ≤ settle.elapsedS := by
  unfold dispatchTrajectory at goes ⊢
  simp only [settling] at goes ⊢
  cases verdict : s.playback.settle.update s.playback.qHold s.measured.qMeas s.measured.qdEst with
  | mk st settle =>
    rw [verdict] at goes
    cases st with
    | done => cases goes
    | timeout => cases goes
    | settling =>
      obtain ⟨same, counted, waits⟩ := settle_goes verdict
      exact ⟨settle, rfl, same, counted, waits⟩

theorem dispatchTrajectory_timed (tickable : Tickable cfg.tick) (rolling : s.health.mode = .trajectory)
    (timed : s.reel.Timed cfg) (goes : s.dispatchTrajectory.2.health.mode = .trajectory) :
    s.dispatchTrajectory.2.reel.Timed cfg ∧
      s.dispatchTrajectory.2.reel.ticksLeft cfg.tick + 1 ≤ s.reel.ticksLeft cfg.tick := by
  have settings : s.cfg = cfg := timed.settings
  have period : s.itp = cfg.tick.itpS := congrArg (fun c : RtCoreConfig R => c.tick.itpS) settings
  have settles : s.playback.motionTickCfg = s.splice.capturedTarget.settleCfg cfg.tick := timed.settles
  have clocked : s.splice.capturedTarget.Clocked cfg.tick := timed.clocked
  have forward := clocked.forward
  have fits := clocked.fits
  have ticks := tickable.period
  have short := tickable.short
  have ramp := tickable.blend
  have limit : kInt64Max = 2 ^ 63 - 1 := rfl
  have mode : s.reel.mode = .trajectory := rolling
  cases timed.paced with
  | splicing spliced _ _ _ _ => exact Mode.noConfusion (spliced.symm.trans mode)
  | playing _ phase ends early room =>
    have playing : s.playback.trajPhase = .playing := phase
    have early : 0 ≤ s.playback.tauNs := early
    have room : s.playback.tauNs < s.splice.capturedTarget.endTauNs ∨
      s.playback.tauNs ≤ 2 * itpNs cfg.tick.itpS := room
    have ends : s.playback.trajEndTauNs = s.splice.capturedTarget.endTauNs := ends
    have next : wrapInt64 (s.playback.tauNs + itpNs s.itp) =
        s.playback.tauNs + itpNs cfg.tick.itpS := by
      rw [period]
      exact wrapInt64_fits (by simp only [kInt64Min]; omega) (by omega)
    have rest : wrapInt64 (s.playback.tauNs + itpNs cfg.tick.itpS -
        s.splice.capturedTarget.endTauNs) =
        s.playback.tauNs + itpNs cfg.tick.itpS - s.splice.capturedTarget.endTauNs :=
      wrapInt64_fits (by simp only [kInt64Min]; omega) (by omega)
    have now : s.reel.ticksLeft cfg.tick =
        ticksUntil (itpNs cfg.tick.itpS) s.splice.capturedTarget.endTauNs s.playback.tauNs +
          blendTicks cfg.tick + s.splice.capturedTarget.settleTicks cfg.tick :=
      Reel.ticksLeft_playing mode phase
    have positive : 1 ≤ ticksUntil (itpNs cfg.tick.itpS) s.splice.capturedTarget.endTauNs
      s.playback.tauNs := Nat.le_add_left _ _
    rw [dispatchTrajectory_playing playing next, ends, settings, period, rest, now]
    by_cases beyond : s.splice.capturedTarget.endTauNs ≤ s.playback.tauNs + itpNs cfg.tick.itpS
    · rw [if_pos beyond]
      split
      · have length := plan_durNs_le tickable s.playback.sampler.qLast s.playback.qdEndWire
        refine ⟨⟨settings, clocked, settles,
          .blending mode rfl length (sub_nonneg.mpr beyond) (.inr ?_)⟩, ?_⟩
        · simp only
          omega
        · have blend : ticksUntil (itpNs cfg.tick.itpS) (QdEndBlend.plan s.playback.sampler.qLast
              s.playback.qdEndWire cfg.tick.qdEndBlendMinS cfg.tick.itpS).durNs
              (s.playback.tauNs + itpNs cfg.tick.itpS - s.splice.capturedTarget.endTauNs) ≤
              blendTicks cfg.tick := ticksUntil_mono ticks length (sub_nonneg.mpr beyond)
          rw [Reel.ticksLeft_blending]
          · simp only [reel]
            omega
          · exact mode
          · rfl
      · refine ⟨⟨settings, clocked, settles, .settling mode rfl settles⟩, ?_⟩
        rw [Reel.ticksLeft_settling]
        · simp only [reel]
          omega
        · exact mode
        · rfl
    · rw [if_neg beyond]
      have inside := not_le.mp beyond
      refine ⟨⟨settings, clocked, settles, .playing mode phase ends (by simp only; omega)
        (.inl inside)⟩, ?_⟩
      have fewer := ticksUntil_next ticks inside
      rw [Reel.ticksLeft_playing]
      · simp only [reel]
        omega
      · exact mode
      · exact phase
  | blending _ phase length early room =>
    have blending : s.playback.trajPhase = .endBlend := phase
    have length : s.qdBlend.durNs ≤ blendNs cfg.tick := length
    have early : 0 ≤ s.playback.tauBlendNs := early
    have room : s.playback.tauBlendNs < s.qdBlend.durNs ∨
      s.playback.tauBlendNs ≤ 3 * itpNs cfg.tick.itpS := room
    have next : wrapInt64 (s.playback.tauBlendNs + itpNs s.itp) =
        s.playback.tauBlendNs + itpNs cfg.tick.itpS := by
      rw [period]
      exact wrapInt64_fits (by simp only [kInt64Min]; omega) (by omega)
    have now : s.reel.ticksLeft cfg.tick =
        ticksUntil (itpNs cfg.tick.itpS) s.qdBlend.durNs s.playback.tauBlendNs +
          s.splice.capturedTarget.settleTicks cfg.tick := Reel.ticksLeft_blending mode phase
    have positive : 1 ≤ ticksUntil (itpNs cfg.tick.itpS) s.qdBlend.durNs
      s.playback.tauBlendNs := Nat.le_add_left _ _
    rw [dispatchTrajectory_blending blending next, now]
    by_cases beyond : s.qdBlend.durNs ≤ s.playback.tauBlendNs + itpNs cfg.tick.itpS
    · rw [if_pos beyond]
      refine ⟨⟨settings, clocked, settles, .settling mode rfl settles⟩, ?_⟩
      rw [Reel.ticksLeft_settling]
      · simp only [reel]
        omega
      · exact mode
      · rfl
    · rw [if_neg beyond]
      have inside := not_le.mp beyond
      refine ⟨⟨settings, clocked, settles, .blending mode phase length (by simp only; omega)
        (.inl inside)⟩, ?_⟩
      have fewer := ticksUntil_next ticks inside
      rw [Reel.ticksLeft_blending]
      · simp only [reel]
        omega
      · exact mode
      · exact phase
  | settling _ phase watched =>
    obtain ⟨settle, moved, same, counted, waits⟩ := dispatchTrajectory_settles phase goes
    have watching : settle.cfg = s.splice.capturedTarget.settleCfg cfg.tick := same.trans watched
    have room : settle.elapsedTicks + 1 <
        s.splice.capturedTarget.settleTicks cfg.tick := by
      rw [SettleDetector.elapsedS, watching] at waits
      exact timeoutTicks_left (itp_pos ticks) waits
    rw [moved]
    refine ⟨⟨settings, clocked, settles, .settling mode phase watching⟩, ?_⟩
    rw [Reel.ticksLeft_settling mode phase, Reel.ticksLeft_settling]
    · simp only [reel]
      omega
    · exact mode
    · exact phase

omit [IsStrictOrderedRing R] in
/-- The hand-over of a splice is a playback's first tick. -/
theorem installTrajectory_timed (tickable : Tickable cfg.tick) (spliced : s.health.mode = .capture)
    (timed : s.reel.Timed cfg) :
    (s.installTrajectory s.splice.capturedTarget).reel.Timed cfg ∧
      (s.installTrajectory s.splice.capturedTarget).reel.ticksLeft cfg.tick ≤
        s.reel.ticksLeft cfg.tick := by
  have settings : s.cfg = cfg := timed.settings
  have period : s.itp = cfg.tick.itpS := congrArg (fun c : RtCoreConfig R => c.tick.itpS) settings
  have clocked : s.splice.capturedTarget.Clocked cfg.tick := timed.clocked
  have ticks := tickable.period
  have short := tickable.short
  have limit : kInt64Max = 2 ^ 63 - 1 := rfl
  have mode : s.reel.mode = .capture := spliced
  cases timed.paced with
  | playing rolls _ _ _ _ => exact Mode.noConfusion (rolls.symm.trans mode)
  | blending rolls _ _ _ _ => exact Mode.noConfusion (rolls.symm.trans mode)
  | settling rolls _ _ => exact Mode.noConfusion (rolls.symm.trans mode)
  | splicing _ scale low high _ =>
    have scale : s.playback.speedScale = s.splice.capturedTarget.speedScale := scale
    have low : 0 ≤ s.splice.capture.residueNs := low
    have high : s.splice.capture.residueNs ≤ itpNs cfg.tick.itpS := high
    have clock : wrapInt64 (itpNs s.itp + s.splice.capture.residueNs) =
        itpNs cfg.tick.itpS + s.splice.capture.residueNs := by
      rw [period]
      exact wrapInt64_fits (by simp only [kInt64Min]; omega) (by omega)
    have ends : (s.installTrajectory s.splice.capturedTarget).playback.trajEndTauNs =
        s.splice.capturedTarget.endTauNs := by
      rw [Target.endTauNs, ← scale]
      rfl
    have tau : (s.installTrajectory s.splice.capturedTarget).playback.tauNs =
        itpNs cfg.tick.itpS + s.splice.capture.residueNs := clock
    constructor
    · refine ⟨settings, clocked, timed.settles, .playing rfl rfl ends ?_ (.inr ?_)⟩
      · exact tau.symm ▸ (by omega)
      · exact tau.symm ▸ (by omega)
    · have fewer : ticksUntil (itpNs cfg.tick.itpS) s.splice.capturedTarget.endTauNs
          (itpNs cfg.tick.itpS + s.splice.capture.residueNs) ≤
          s.splice.capturedTarget.playTicks cfg.tick :=
        ticksUntil_mono ticks le_rfl (by omega)
      have before : s.reel.ticksLeft cfg.tick =
          (s.splice.capture.count - s.splice.captureIdx) +
            s.splice.capturedTarget.playTicks cfg.tick + blendTicks cfg.tick +
            s.splice.capturedTarget.settleTicks cfg.tick := Reel.ticksLeft_splicing mode
      have after : (s.installTrajectory s.splice.capturedTarget).reel.ticksLeft cfg.tick =
          ticksUntil (itpNs cfg.tick.itpS) s.splice.capturedTarget.endTauNs
            (s.installTrajectory s.splice.capturedTarget).playback.tauNs +
            blendTicks cfg.tick + s.splice.capturedTarget.settleTicks cfg.tick :=
        Reel.ticksLeft_playing rfl rfl
      rw [after, before, tau]
      omega

/-- A dispatch that leaves a motion rolling has taken one of its ticks. -/
theorem dispatchMode_timed (lib : External R) (tickable : Tickable cfg.tick)
    (timed : s.reel.rolls → s.reel.Timed cfg) (goes : (s.dispatchMode lib).2.reel.rolls) :
    (s.dispatchMode lib).2.reel.Timed cfg ∧
      (s.dispatchMode lib).2.reel.ticksLeft cfg.tick + 1 ≤ s.reel.ticksLeft cfg.tick := by
  have rolls : s.reel.rolls := by
    by_contra idle
    exact dispatchMode_idle lib idle goes
  have sound := timed rolls
  unfold dispatchMode at goes ⊢
  rcases rolls with mode | mode
  · have spliced : s.health.mode = .capture := mode
    simp only [spliced] at goes ⊢
    cases knot : s.splice.capture.knots[s.splice.captureIdx]? with
    | some knot' =>
      have room : s.splice.captureIdx < s.splice.capture.count :=
        (List.getElem?_eq_some_iff.mp knot).1
      cases sound.paced with
      | playing rolls _ _ _ _ => exact Mode.noConfusion (rolls.symm.trans mode)
      | blending rolls _ _ _ _ => exact Mode.noConfusion (rolls.symm.trans mode)
      | settling rolls _ _ => exact Mode.noConfusion (rolls.symm.trans mode)
      | splicing _ scale low high fits =>
        refine ⟨⟨sound.settings, sound.clocked, sound.settles,
          .splicing mode scale low high fits⟩, ?_⟩
        rw [Reel.ticksLeft_splicing mode, Reel.ticksLeft_splicing]
        · simp only [reel]
          omega
        · exact mode
    | none =>
      simp only [knot] at goes ⊢
      obtain ⟨installed, fewer⟩ := installTrajectory_timed tickable spliced sound
      have rolling : (s.installTrajectory s.splice.capturedTarget).health.mode = .trajectory := rfl
      have played := (dispatchTrajectory_mode _).resolve_right fun held => by
        rcases goes with mode | mode
        · exact Mode.noConfusion (mode.symm.trans held)
        · exact Mode.noConfusion (mode.symm.trans held)
      obtain ⟨next, taken⟩ := dispatchTrajectory_timed tickable rolling installed played
      exact ⟨next, taken.trans fewer⟩
  · have rolling : s.health.mode = .trajectory := mode
    simp only [rolling] at goes ⊢
    have played := (dispatchTrajectory_mode s).resolve_right fun held => by
      rcases goes with mode | mode
      · exact Mode.noConfusion (mode.symm.trans held)
      · exact Mode.noConfusion (mode.symm.trans held)
    exact dispatchTrajectory_timed tickable rolling sound (played.trans rolling)

/-- An accepted trajectory starts its splice. -/
theorem splicedReel_timed (lib : External R) (tickable : Tickable cfg.tick) {t : Target R}
    (settings : s.cfg = cfg) (clocked : t.Clocked cfg.tick) : (s.splicedReel lib t).Timed cfg := by
  subst settings
  have residue := generateCapturePath_residue lib s.anchor.qCmd s.anchor.qdCmd t.q0 t.qd0
    tickable.period
  refine ⟨rfl, clocked, rfl, .splicing rfl rfl residue.1 residue.2 ?_⟩
  exact generateCapturePath_count lib s.anchor.qCmd s.anchor.qdCmd t.q0 t.qd0 s.cfg.tick

end TickCore

end Left

end AiroFanuc.RtCore
