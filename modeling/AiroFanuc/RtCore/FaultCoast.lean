import AiroFanuc.Library.Coasting
import AiroFanuc.RtCore.Handover
import AiroFanuc.RtCore.SeamTiming

/-! How far a fault lets the arm coast, however many further faults restart its ramp. -/

namespace AiroFanuc.RtCore

open TickEngine Library

variable {R : Type} [Field R] [LinearOrder R] [FloorRing R]

/-- How many periods a fault's ramp lasts. -/
def RtCoreConfig.rampTicks (cfg : RtCoreConfig R) : ℕ :=
  (QdEndBlend.ticks (cfg.rxSilenceQdRampMs / 1000) cfg.tick.itpS).toNat

/-- The ramp's duration. -/
def RtCoreConfig.rampS (cfg : RtCoreConfig R) : R := cfg.rampTicks * cfg.tick.itpS

/-- A clock that counts whole nanoseconds without rounding, and holds a ramp. -/
structure ExactClock (cfg : RtCoreConfig R) : Prop where
  exact : (itpNs cfg.tick.itpS : R) = cfg.tick.itpS * 10 ^ 9
  ticks : 0 < itpNs cfg.tick.itpS
  fits : (cfg.rampTicks + 1) * itpNs cfg.tick.itpS ≤ kInt64Max

theorem rampTicks_cast (cfg : RtCoreConfig R) : (cfg.rampTicks : ℤ) =
    QdEndBlend.ticks (cfg.rxSilenceQdRampMs / 1000) cfg.tick.itpS :=
  Int.toNat_of_nonneg (zero_le_one.trans QdEndBlend.ticks_pos)

theorem rampTicks_pos (cfg : RtCoreConfig R) : 1 ≤ cfg.rampTicks := by
  have low : (1 : ℤ) ≤ cfg.rampTicks := (rampTicks_cast cfg).symm ▸ QdEndBlend.ticks_pos
  exact_mod_cast low

/-! ### The samples of one ramp -/

/-- The ramp a fault plans from a pose and a velocity. -/
def ramp (cfg : RtCoreConfig R) (q qd : Vec6 R) : QdEndBlend R :=
  .plan q qd (cfg.rxSilenceQdRampMs / 1000) cfg.tick.itpS

section Sample

variable [IsStrictOrderedRing R] {cfg : RtCoreConfig R} {q qd : Vec6 R}

theorem ramp_moving (clock : ExactClock cfg) (moving : 0 < maxAbs qd) :
    (ramp cfg q qd).active = true ∧ (ramp cfg q qd).qEnd = q ∧ (ramp cfg q qd).qdEnd = qd ∧
      (ramp cfg q qd).qCoast = (fun j => q j + 1 / 2 * cfg.rampS * qd j) ∧
      (ramp cfg q qd).durNs = cfg.rampTicks * itpNs cfg.tick.itpS := by
  have dur := QdEndBlend.plan_exact q (cfg.rxSilenceQdRampMs / 1000) clock.exact clock.ticks moving
  rw [← rampTicks_cast cfg] at dur
  refine ⟨?_, ?_, ?_, ?_, dur⟩
  all_goals simp only [ramp, QdEndBlend.plan, if_neg moving.not_ge]
  rw [← rampTicks_cast cfg, Int.cast_natCast]
  rfl

theorem ramp_still (still : ¬ 0 < maxAbs qd) :
    qd = 0 ∧ (ramp cfg q qd).active = false ∧ (ramp cfg q qd).qCoast = q ∧
      (ramp cfg q qd).durNs = 0 := by
  refine ⟨?_, ?_⟩
  · funext j
    have small := (maxAbs_le.mp (not_lt.mp still)).2 j
    exact abs_eq_zero.mp (le_antisymm small (abs_nonneg _))
  · simp only [ramp, QdEndBlend.plan, if_pos (not_lt.mp still), and_self]

/-- The `k`-th sample of a ramp: on the parabola, with its share of the velocity left. -/
theorem ramp_sample (q qd : Vec6 R) (clock : ExactClock cfg) {k : ℕ} (first : 1 ≤ k)
    (last : k ≤ cfg.rampTicks) (j : Fin kNumJoints) :
    ((ramp cfg q qd).sample (k * itpNs cfg.tick.itpS)).q j =
        q j + qd j * cfg.tick.itpS * glide R cfg.rampTicks k ∧
      ((ramp cfg q qd).sample (k * itpNs cfg.tick.itpS)).qd j =
        qd j * share R cfg.rampTicks k := by
  by_cases moving : 0 < maxAbs qd
  · obtain ⟨active, begins, enters, coast, dur⟩ := ramp_moving (q := q) clock moving
    have positive := itp_pos clock.ticks
    have whole : (0 : R) < cfg.rampTicks := by exact_mod_cast rampTicks_pos cfg
    rw [QdEndBlend.sample, active, dur]
    by_cases beyond : k = cfg.rampTicks
    · rw [beyond, if_pos (.inr le_rfl)]
      simp only [HermiteSample.atRest, coast, RtCoreConfig.rampS, glide, share, Pi.zero_apply]
      constructor
      · field_simp
        ring
      · rw [div_self whole.ne', sub_self, mul_zero]
    · have less : k < cfg.rampTicks := lt_of_le_of_ne last beyond
      have early : (k : ℤ) * itpNs cfg.tick.itpS < cfg.rampTicks * itpNs cfg.tick.itpS :=
        mul_lt_mul_of_pos_right (by exact_mod_cast less) clock.ticks
      have begun : 0 < (k : ℤ) * itpNs cfg.tick.itpS :=
        mul_pos (by exact_mod_cast first) clock.ticks
      have room := clock.fits
      have length : (cfg.rampTicks : ℤ) * itpNs cfg.tick.itpS ≤ kInt64Max := by
        rw [add_mul] at room
        linarith [clock.ticks]
      have low : kInt64Min ≤ 0 := by decide
      have fits {n : ℤ} (nonneg : 0 ≤ n) (high : n ≤ cfg.rampTicks * itpNs cfg.tick.itpS) :
          wrapInt64 n = n := wrapInt64_fits (low.trans nonneg) (high.trans length)
      rw [if_neg (by simpa using early), if_neg (by omega), hermiteAtNs, sub_zero, sub_zero,
        fits (begun.trans early).le le_rfl, fits begun.le early.le, if_neg (by omega), begins, enters,
        coast]
      have period : ((cfg.rampTicks * itpNs cfg.tick.itpS : ℤ) : R) =
          cfg.rampTicks * (cfg.tick.itpS * 10 ^ 9) := by
        push_cast
        rw [clock.exact]
      have reached : ((k * itpNs cfg.tick.itpS : ℤ) : R) = k * (cfg.tick.itpS * 10 ^ 9) := by
        push_cast
        rw [clock.exact]
      rw [period, reached]
      simp only [hermiteEval, RtCoreConfig.rampS, glide, share, Pi.zero_apply]
      constructor
      · field_simp
        ring
      · field_simp
        ring
  · have still : qd = 0 ∧ (ramp cfg q qd).active = false ∧ (ramp cfg q qd).qCoast = q ∧
        (ramp cfg q qd).durNs = 0 := ramp_still moving
    rw [QdEndBlend.sample, if_pos (.inl still.2.1), still.2.2.1, still.1]
    simp [HermiteSample.atRest]

end Sample

namespace TickCore

/-! ### One tick of the ramp -/

/-- Neither the clamp nor the limiter changed what the mode wanted. -/
def Unclipped (lib : External R) (s : TickCore R) (rx : Option (RxSample R))
    (pending : Option (Target R)) (superseded : Bool) : Prop :=
  (s.tick lib rx pending superseded).2.anchor.qCmd =
    ((s.dispatched lib rx pending superseded).dispatchMode lib).1

/-- The tick enters a fault and leaves the core following. -/
def entersRamp (lib : External R) (s : TickCore R) (rx : Option (RxSample R))
    (pending : Option (Target R)) (superseded : Bool) : Prop :=
  (s.tick lib rx pending superseded).2.health.mode = .safeFollow ∧
    s.health.epoch < (s.tick lib rx pending superseded).2.health.epoch

/-- The core goes on in the ramp, whatever faults restart it. -/
def coasts (lib : External R) (s : TickCore R) : Input R → Prop
  | .tick rx pending superseded =>
    (s.dispatched lib rx pending superseded).health.mode = .safeFollow ∧
      (s.dispatched lib rx pending superseded).follow.phase = .ramp ∧
      s.Unclipped lib rx pending superseded
  | .beginStreaming _ => False
  | .requestStop | .requestHold | .requestRecover | .kick | .heartbeat => True

omit [FloorRing R] in
/-- Sending moves the commanded position and no more of the pose. -/
theorem sendCommand_wake (s : TickCore R) (qDesired : Vec6 R) :
    (s.sendCommand qDesired).2.wake =
      { s.wake with anchor.qCmd := (s.sendCommand qDesired).2.anchor.qCmd } := by
  simp only [sendCommand]
  split
  · rfl
  · split <;> rfl

theorem tick_wake (lib : External R) (s : TickCore R) (rx : Option (RxSample R))
    (pending : Option (Target R)) (superseded : Bool) :
    (s.tick lib rx pending superseded).2.wake =
      { ((s.dispatched lib rx pending superseded).dispatchMode lib).2.wake with
        anchor.qCmd := (s.tick lib rx pending superseded).2.anchor.qCmd } := sendCommand_wake _ _

/-- A sample of the ramp a core is in: the `m`-th of a ramp planned at `q` and `qd`, with the
clock already at the next. -/
structure Sampled (cfg : RtCoreConfig R) (m : ℕ) (q qd : Vec6 R) (s : TickCore R) : Prop where
  planned : s.qdBlend = ramp cfg q qd
  clock : s.follow.tauNs = (m + 1 : ℕ) * itpNs cfg.tick.itpS
  more : s.follow.phase = .ramp → m + 1 ≤ cfg.rampTicks
  place : ∀ j, s.anchor.qCmd j = q j + qd j * cfg.tick.itpS * glide R cfg.rampTicks m
  speed : ∀ j, s.anchor.qdCmd j = qd j * share R cfg.rampTicks m
  within : m ≤ cfg.rampTicks

section Ramp

variable [IsStrictOrderedRing R] {lib : External R} {cfg : RtCoreConfig R} {s : TickCore R}
  {rx : Option (RxSample R)} {pending : Option (Target R)} {superseded : Bool}

omit [IsStrictOrderedRing R] in
/-- Planned, but not yet sampled. -/
theorem Restarted.sampled {c : TickCore R} (settings : c.cfg = cfg)
    (restarted : c.Restarted) : Sampled cfg 0 c.anchor.qCmd c.anchor.qdCmd c := by
  obtain ⟨entered, planned⟩ := restarted
  rw [itp, settings] at entered planned
  constructor
  · exact planned
  · rw [entered]
    simp
  · exact fun _ => rampTicks_pos cfg
  · intro j
    rw [glide_zero, mul_zero, add_zero]
  · intro j
    rw [share_zero, mul_one]
  · exact Nat.zero_le _

/-- Dispatching the ramp takes its next sample. -/
theorem Sampled.dispatch {c : TickCore R} {m : ℕ} {q qd : Vec6 R} (clock : ExactClock cfg)
    (settings : c.cfg = cfg) (following : c.health.mode = .safeFollow)
    (ramping : c.follow.phase = .ramp) (sampled : Sampled cfg m q qd c) :
    (c.dispatchMode lib).1 =
        (fun j => q j + qd j * cfg.tick.itpS * glide R cfg.rampTicks (m + 1)) ∧
      Sampled cfg (m + 1) q qd
        { (c.dispatchMode lib).2 with anchor.qCmd := (c.dispatchMode lib).1 } := by
  have more := sampled.more ramping
  have sample (j : Fin kNumJoints) := ramp_sample q qd clock (Nat.le_add_left 1 m) more j
  have room : ((m + 1 : ℕ) + 1 : ℤ) * itpNs cfg.tick.itpS ≤ kInt64Max :=
    (mul_le_mul_of_nonneg_right (by exact_mod_cast Nat.succ_le_succ more) clock.ticks.le).trans
      clock.fits
  have onward : wrapInt64 ((m + 1 : ℕ) * itpNs cfg.tick.itpS + itpNs cfg.tick.itpS) =
      (m + 1 + 1 : ℕ) * itpNs cfg.tick.itpS := by
    rw [← add_one_mul]
    have low : kInt64Min ≤ 0 := by decide
    have nonneg : (0 : ℤ) ≤ ((m + 1 : ℕ) + 1) * itpNs cfg.tick.itpS :=
      mul_nonneg (by positivity) clock.ticks.le
    rw [wrapInt64_fits (low.trans nonneg) room]
    push_cast
    rfl
  have goal : (c.dispatchMode lib).1 =
      (fun j => q j + qd j * cfg.tick.itpS * glide R cfg.rampTicks (m + 1)) := by
    funext j
    simp only [dispatchMode, following, dispatchSafeFollow, ramping, sampled.planned, sampled.clock]
    exact (sample j).1
  refine ⟨goal, ?_⟩
  constructor
  · simp only [dispatchMode, following, dispatchSafeFollow, ramping]
    exact sampled.planned
  · simp only [dispatchMode, following, dispatchSafeFollow, ramping, sampled.clock, itp, settings]
    exact onward
  · simp only [dispatchMode, following, dispatchSafeFollow, ramping, sampled.clock, itp, settings,
      sampled.planned, onward]
    intro still
    split at still
    · cases still
    rename_i early
    by_cases moving : 0 < maxAbs qd
    · rw [(ramp_moving clock moving).2.2.2.2, not_le] at early
      have less : ((m + 1 + 1 : ℕ) : ℤ) < cfg.rampTicks := lt_of_mul_lt_mul_right early clock.ticks.le
      exact_mod_cast less.le
    · have still : (ramp cfg q qd).durNs = 0 := (ramp_still moving).2.2.2
      rw [still] at early
      exact absurd (mul_nonneg (by positivity) clock.ticks.le) early
  · intro j
    exact congrFun goal j
  · intro j
    simp only [dispatchMode, following, dispatchSafeFollow, ramping, sampled.planned, sampled.clock]
    exact (sample j).2
  · exact more

omit [IsStrictOrderedRing R] in
/-- A fault raised by the mode itself repeats the last command and plans the ramp from it. -/
theorem dispatch_faults (lib : External R) {c : TickCore R} (before : c.health.mode ≠ .safeFollow) :
    (c.dispatchMode lib).2.health.mode ≠ .safeFollow ∨
      (c.dispatchMode lib).1 = c.anchor.qCmd ∧ (c.dispatchMode lib).2.anchor = c.anchor ∧
        (c.dispatchMode lib).2.Restarted := by
  have faulted (d : TickCore R) (kept : d.anchor = c.anchor) :
      (d.enterFault .internal .faultEntry .faulted).anchor.qCmd = c.anchor.qCmd ∧
        (d.enterFault .internal .faultEntry .faulted).anchor = c.anchor ∧
        (d.enterFault .internal .faultEntry .faulted).Restarted := by
    have same := (enterFault_handover d .internal .faultEntry .faulted).anchor.trans kept
    exact ⟨congrArg Anchor.qCmd same, same, rfl, rfl⟩
  have played (d : TickCore R) (mode : d.health.mode = .trajectory) :
      d.dispatchTrajectory.2.health.mode ≠ .safeFollow := by
    rcases dispatchTrajectory_mode d with same | held
    · rw [same, mode]
      simp
    · rw [held]
      simp
  unfold dispatchMode
  cases mode : c.health.mode with
  | safeFollow => exact absurd mode before
  | streamDown | preroll | rxSilent | hold =>
    left
    simp only [mode]
    simp
  | capture =>
    left
    simp only
    split
    · simp only [mode]
      simp
    · exact played _ rfl
  | trajectory => exact .inl (played c mode)
  | servo =>
    have reissued : c.reissueServo.health.mode = .servo ∧ c.reissueServo.anchor = c.anchor := by
      simp only [reissueServo]
      split <;> exact ⟨mode, rfl⟩
    simp only [dispatchServo]
    split
    · exact .inr (faulted _ reissued.2)
    · left
      simp only [reissued.1]
      simp
  | brake =>
    simp only [dispatchBrake]
    split
    · exact .inr (faulted _ rfl)
    · left
      split
      · rintro ⟨⟩
      · simp only [mode]
        simp

omit [IsStrictOrderedRing R] in
/-- Only what a stop is played from makes a sample. -/
theorem Sampled.of_wake {s t : TickCore R} {m : ℕ} {q qd : Vec6 R} (sampled : Sampled cfg m q qd s)
    (same : t.wake = s.wake) : Sampled cfg m q qd t := by
  have anchor : t.anchor = s.anchor := congrArg Wake.anchor same
  have follow : t.follow = s.follow := congrArg Wake.follow same
  constructor
  · exact (congrArg Wake.qdBlend same).trans sampled.planned
  · rw [follow]
    exact sampled.clock
  · rw [follow]
    exact sampled.more
  · rw [anchor]
    exact sampled.place
  · rw [anchor]
    exact sampled.speed
  · exact sampled.within

omit [IsStrictOrderedRing R] in
theorem dispatchSafeFollow_health (c : TickCore R) : c.dispatchSafeFollow.2.health = c.health := by
  unfold dispatchSafeFollow
  cases c.follow.phase with
  | ramp => rfl
  | reanchor =>
    simp only
    split
    · rfl
    · split <;> rfl

omit [IsStrictOrderedRing R] in
theorem tick_epoch (following : (s.dispatched lib rx pending superseded).health.mode = .safeFollow) :
    (s.tick lib rx pending superseded).2.health.epoch =
      (s.dispatched lib rx pending superseded).health.epoch := by
  have epoch : (s.tick lib rx pending superseded).2.health.epoch =
      ((s.dispatched lib rx pending superseded).dispatchMode lib).2.health.epoch :=
    congrArg Wake.epoch (tick_wake lib s rx pending superseded)
  rw [epoch]
  simp only [dispatchMode, following, dispatchSafeFollow_health]

/-- An unclipped tick of the ramp commands its next sample. -/
theorem Sampled.tick {m : ℕ} {q qd : Vec6 R} (clock : ExactClock cfg)
    (settings : (s.dispatched lib rx pending superseded).cfg = cfg)
    (following : (s.dispatched lib rx pending superseded).health.mode = .safeFollow)
    (ramping : (s.dispatched lib rx pending superseded).follow.phase = .ramp)
    (unclipped : s.Unclipped lib rx pending superseded)
    (sampled : Sampled cfg m q qd (s.dispatched lib rx pending superseded)) :
    Sampled cfg (m + 1) q qd (s.tick lib rx pending superseded).2 := by
  apply (sampled.dispatch clock settings following ramping).2.of_wake
  rw [tick_wake lib s rx pending superseded, unclipped]
  rfl

/-! ### The coast since a fault -/

/-- The core since the fault that found it at `q0` with the velocity `v` and left `epoch`. -/
structure Glides (cfg : RtCoreConfig R) (q0 v : Vec6 R) (epoch : ℕ) (s : TickCore R) : Prop where
  settings : s.cfg = cfg
  later : epoch ≤ s.health.epoch
  spent : ∀ j, Spent cfg.rampS (q0 j) (v j) (s.anchor.qCmd j) (s.anchor.qdCmd j)
  sampled : ∃ m q qd, Sampled cfg m q qd s ∧ (s.health.epoch = epoch → q = q0 ∧ qd = v)

/-- Two samples of one ramp in a row. -/
theorem Sampled.coasts {s t : TickCore R} {m : ℕ} {q qd : Vec6 R} (clock : ExactClock cfg)
    (here : Sampled cfg m q qd s) (next : Sampled cfg (m + 1) q qd t) (j : Fin kNumJoints) :
    Coasts cfg.tick.itpS cfg.rampS (s.anchor.qCmd j) (s.anchor.qdCmd j) (t.anchor.qCmd j)
      (t.anchor.qdCmd j) := by
  rw [here.place, here.speed, next.place, next.speed]
  exact glide_step (itp_pos clock.ticks).le next.within

/-- A fault that leaves the core following begins a coast where it found the core. -/
theorem glides_of_entry (clock : ExactClock cfg) (settings : s.cfg = cfg)
    (faulted : s.entersRamp lib rx pending superseded)
    (unclipped : s.Unclipped lib rx pending superseded) :
    Glides cfg (s.dispatched lib rx pending superseded).anchor.qCmd
      (s.dispatched lib rx pending superseded).anchor.qdCmd
      (s.tick lib rx pending superseded).2.health.epoch (s.tick lib rx pending superseded).2 := by
  have settled : (s.dispatched lib rx pending superseded).cfg = cfg :=
    (consumePending_cfg lib s rx pending superseded).trans settings
  have settings' : (s.tick lib rx pending superseded).2.cfg = cfg :=
    (tick_cfg lib s rx pending superseded).trans settings
  by_cases following : (s.dispatched lib rx pending superseded).health.mode = .safeFollow
  · have handed := dispatched_handover lib (following_waits following) pending superseded
    have epoch := tick_epoch following
    have bumped := faulted.2
    rcases handed.follows following with ⟨fresh, -⟩ | ⟨-, -, -, same⟩
    · have here := fresh.sampled settled
      have ramping : (s.dispatched lib rx pending superseded).follow.phase = .ramp :=
        congrArg Follow.phase fresh.1
      have next := here.tick clock settled following ramping unclipped
      constructor
      · exact settings'
      · exact le_rfl
      · exact fun j => (Spent.start _ _ _).step (here.coasts clock next j)
      · exact ⟨1, _, _, next, fun _ => ⟨rfl, rfl⟩⟩
    · omega
  · have sent := tick_wake lib s rx pending superseded
    have entered : ((s.dispatched lib rx pending superseded).dispatchMode lib).2.health.mode =
        .safeFollow := (congrArg Wake.mode sent).symm.trans faulted.1
    rcases dispatch_faults lib following with never | ⟨desired, anchor, fresh⟩
    · exact absurd entered never
    have place : (s.tick lib rx pending superseded).2.anchor =
        (s.dispatched lib rx pending superseded).anchor := by
      calc (s.tick lib rx pending superseded).2.anchor
          = { ((s.dispatched lib rx pending superseded).dispatchMode lib).2.anchor with
              qCmd := (s.tick lib rx pending superseded).2.anchor.qCmd } := congrArg Wake.anchor sent
        _ = (s.dispatched lib rx pending superseded).anchor := by
          rw [unclipped.trans desired, anchor]
    have planned : (s.tick lib rx pending superseded).2.Restarted := by
      have cfgs : (s.tick lib rx pending superseded).2.cfg =
          ((s.dispatched lib rx pending superseded).dispatchMode lib).2.cfg :=
        congrArg Wake.cfg sent
      obtain ⟨follow, blend⟩ := fresh
      constructor
      · rw [itp, cfgs]
        exact (congrArg Wake.follow sent).trans follow
      · rw [itp, cfgs, place, ← anchor]
        exact (congrArg Wake.qdBlend sent).trans blend
    constructor
    · exact settings'
    · exact le_rfl
    · intro j
      rw [place]
      exact Spent.start _ _ _
    · refine ⟨0, _, _, planned.sampled settings', fun _ => ?_⟩
      rw [place]
      exact ⟨rfl, rfl⟩

/-- Every tick of the ramp coasts on, and none outruns what the fault's speed allows. -/
theorem Glides.coast {q0 v : Vec6 R} {epoch : ℕ} (clock : ExactClock cfg)
    (glides : Glides cfg q0 v epoch s) (coasting : s.coasts lib (.tick rx pending superseded)) :
    (∀ j, Coasts cfg.tick.itpS cfg.rampS (s.anchor.qCmd j) (s.anchor.qdCmd j)
        ((s.tick lib rx pending superseded).2.anchor.qCmd j)
        ((s.tick lib rx pending superseded).2.anchor.qdCmd j)) ∧
      Glides cfg q0 v epoch (s.tick lib rx pending superseded).2 := by
  obtain ⟨following, ramping, unclipped⟩ := coasting
  have handed := dispatched_handover lib (following_waits following) pending superseded
  have settings := handed.cfg.trans glides.settings
  have anchor : s.anchor = (s.dispatched lib rx pending superseded).anchor := handed.anchor.symm
  have onward : ∃ m q qd, Sampled cfg m q qd (s.dispatched lib rx pending superseded) ∧
      ((s.dispatched lib rx pending superseded).health.epoch = epoch → q = q0 ∧ qd = v) := by
    rcases handed.follows following with ⟨fresh, later⟩ | ⟨-, follow, blend, same⟩
    · refine ⟨0, _, _, fresh.sampled settings, ?_⟩
      intro unchanged
      have before := glides.later
      omega
    · obtain ⟨m, q, qd, sampled, single⟩ := glides.sampled
      refine ⟨m, q, qd, ?_, fun unchanged => single (same.symm.trans unchanged)⟩
      constructor
      · exact blend.trans sampled.planned
      · rw [follow]
        exact sampled.clock
      · rw [follow]
        exact sampled.more
      · rw [← anchor]
        exact sampled.place
      · rw [← anchor]
        exact sampled.speed
      · exact sampled.within
  obtain ⟨m, q, qd, sampled, single⟩ := onward
  have next := sampled.tick clock settings following ramping unclipped
  have epoch' := tick_epoch following
  have coasted (j : Fin kNumJoints) := sampled.coasts clock next j
  rw [← anchor] at coasted
  refine ⟨coasted, ?_⟩
  constructor
  · exact (tick_cfg lib s rx pending superseded).trans glides.settings
  · rw [epoch']
    exact glides.later.trans handed.epoch
  · exact fun j => (glides.spent j).step (coasted j)
  · refine ⟨m + 1, q, qd, next, ?_⟩
    rw [epoch']
    exact single

theorem Glides.apply {q0 v : Vec6 R} {epoch : ℕ} {i : Input R} (clock : ExactClock cfg)
    (glides : Glides cfg q0 v epoch s) (coasting : s.coasts lib i) :
    Glides cfg q0 v epoch (s.apply lib i) := by
  cases i with
  | tick rx pending superseded => exact (glides.coast clock coasting).2
  | beginStreaming q => exact absurd coasting id
  | requestRecover =>
    have same : s.requestRecover.wake = s.wake := by
      simp only [requestRecover]
      split <;> rfl
    obtain ⟨m, q, qd, sampled, single⟩ := glides.sampled
    have anchor : s.requestRecover.anchor = s.anchor := congrArg Wake.anchor same
    have epoch' : s.requestRecover.health.epoch = s.health.epoch := congrArg Wake.epoch same
    simp only [TickCore.apply]
    constructor
    · exact (congrArg Wake.cfg same).trans glides.settings
    · rw [epoch']
      exact glides.later
    · rw [anchor]
      exact glides.spent
    · refine ⟨m, q, qd, sampled.of_wake same, ?_⟩
      rw [epoch']
      exact single
  | requestStop | requestHold | kick | heartbeat =>
    obtain ⟨m, q, qd, sampled, single⟩ := glides.sampled
    exact ⟨glides.settings, glides.later, glides.spent, m, q, qd, sampled.of_wake rfl, single⟩

/-- Where a joint stands, since a fault that found it at `q0` with the velocity `v`. -/
structure Coasted (cfg : RtCoreConfig R) (q0 v q w : R) : Prop where
  slower : |w| ≤ |v|
  sameSign : 0 ≤ w * v
  onward : 0 ≤ (q - q0) * v
  bounded : |q - q0| ≤ |v| * cfg.rampS

theorem Glides.coasted {q0 v : Vec6 R} {epoch : ℕ} (clock : ExactClock cfg)
    (glides : Glides cfg q0 v epoch s) (j : Fin kNumJoints) :
    Coasted cfg (q0 j) (v j) (s.anchor.qCmd j) (s.anchor.qdCmd j) := by
  have nonneg : 0 ≤ cfg.rampS := mul_nonneg (Nat.cast_nonneg _) (itp_pos clock.ticks).le
  have spent := glides.spent j
  constructor
  · exact spent.slows
  · exact spent.keeps
  · exact spent.forth
  · exact spent.distance nonneg

/-- With no fault after the first the coast is one ramp, which covers half that distance. -/
theorem Glides.single {q0 v : Vec6 R} {epoch : ℕ} (clock : ExactClock cfg)
    (glides : Glides cfg q0 v epoch s) (alone : s.health.epoch = epoch) (j : Fin kNumJoints) :
    |s.anchor.qCmd j - q0 j| ≤ |v j| * cfg.rampS / 2 := by
  obtain ⟨m, q, qd, sampled, single⟩ := glides.sampled
  obtain ⟨rfl, rfl⟩ := single alone
  have period : 0 ≤ cfg.tick.itpS := (itp_pos clock.ticks).le
  have far : glide R cfg.rampTicks m ≤ cfg.rampTicks / 2 := glide_le _ _ (rampTicks_pos cfg)
  have along : 0 ≤ glide R cfg.rampTicks m := glide_nonneg sampled.within
  rw [sampled.place, add_sub_cancel_left, abs_mul, abs_mul, abs_of_nonneg period, abs_of_nonneg along]
  calc |qd j| * cfg.tick.itpS * glide R cfg.rampTicks m
      ≤ |qd j| * cfg.tick.itpS * (cfg.rampTicks / 2) :=
        mul_le_mul_of_nonneg_left far (mul_nonneg (abs_nonneg _) period)
    _ = |qd j| * cfg.rampS / 2 := by
      rw [RtCoreConfig.rampS]
      ring

/-- From a fault to the end of its ramp, whatever faults restart it on the way, no joint speeds
up, none turns round, and none goes further than its speed at the fault takes it in one ramp; a
fault that nothing restarts takes it half that far at most. The pose at the fault is the one the
last command left, or the one a recovery that ended on the same tick took up. -/
theorem fault_coast_bounded {entry t : TickCore R} (clock : ExactClock cfg)
    (reached : (machine lib cfg).Reachable (fun _ _ => True) s)
    (faulted : s.entersRamp lib rx pending superseded)
    (unclipped : s.Unclipped lib rx pending superseded)
    (entered : entry = (s.tick lib rx pending superseded).2)
    (coasting : (machine lib cfg).Reaches (TickCore.coasts lib) entry t) (j : Fin kNumJoints) :
    let found := (s.dispatched lib rx pending superseded).anchor
    Coasted cfg (found.qCmd j) (found.qdCmd j) (t.anchor.qCmd j) (t.anchor.qdCmd j) ∧
      (t.health.epoch = entry.health.epoch →
        |t.anchor.qCmd j - found.qCmd j| ≤ |found.qdCmd j| * cfg.rampS / 2) ∧
      ∀ rx pending superseded, t.coasts lib (.tick rx pending superseded) →
        Coasts cfg.tick.itpS cfg.rampS (t.anchor.qCmd j) (t.anchor.qdCmd j)
          ((t.tick lib rx pending superseded).2.anchor.qCmd j)
          ((t.tick lib rx pending superseded).2.anchor.qdCmd j) := by
  subst entered
  have settings := cfg_of_reachable reached
  have glides : Glides cfg (s.dispatched lib rx pending superseded).anchor.qCmd
      (s.dispatched lib rx pending superseded).anchor.qdCmd
      (s.tick lib rx pending superseded).2.health.epoch t := by
    refine coasting.invariant (glides_of_entry clock settings faulted unclipped) ?_
    rintro a b i gliding onward ⟨⟩
    exact gliding.apply clock onward
  constructor
  · exact glides.coasted clock j
  · exact ⟨fun alone => glides.single clock alone j,
      fun rx pending superseded onward => (glides.coast clock onward).1 j⟩

end Ramp

/-! ### A pendant enabled in mid-trajectory, and an emergency stop on the next tick -/

instance (lib : External R) (s : TickCore R) (rx : Option (RxSample R))
    (pending : Option (Target R)) (superseded : Bool) :
    Decidable (s.Unclipped lib rx pending superseded) :=
  inferInstanceAs (Decidable (_ = _))

instance (lib : External R) (s : TickCore R) (rx : Option (RxSample R))
    (pending : Option (Target R)) (superseded : Bool) :
    Decidable (s.entersRamp lib rx pending superseded) :=
  inferInstanceAs (Decidable (_ ∧ _))

instance (lib : External R) (s : TickCore R) (i : Input R) : Decidable (s.coasts lib i) :=
  match i with
  | .tick _ _ _ => inferInstanceAs (Decidable (_ ∧ _ ∧ _))
  | .beginStreaming _ => inferInstanceAs (Decidable False)
  | .requestStop | .requestHold | .requestRecover | .kick | .heartbeat =>
    inferInstanceAs (Decidable True)

def pendantRx : RxSample ℚ := benchRx pendantGates 0

def eStopRx : RxSample ℚ := benchRx { pendantGates with eStopped := true } 0

theorem fault_coast_bounded_restarted : ∃ s entry t : TickCore ℚ,
    entry = (s.tick PlayWatch.spliceExternal (some pendantRx) none false).2 ∧
      entry.health.epoch < t.health.epoch ∧ s.anchor.qdCmd 0 ≠ 0 ∧
      Coasted defaultRtCoreConfig
        ((s.dispatched PlayWatch.spliceExternal (some pendantRx) none false).anchor.qCmd 0)
        ((s.dispatched PlayWatch.spliceExternal (some pendantRx) none false).anchor.qdCmd 0)
        (t.anchor.qCmd 0) (t.anchor.qdCmd 0) := by
  have clock : ExactClock (defaultRtCoreConfig : RtCoreConfig ℚ) := by
    constructor <;> decide +kernel
  obtain ⟨s, reached, tested⟩ := Machine.reachable_of_run
    (machine PlayWatch.spliceExternal defaultRtCoreConfig)
    [.beginStreaming 0, benchTick (some (PlayWatch.launch [0, 100000000])), benchTick none]
    (fun s : TickCore ℚ =>
      let entry := (s.tick PlayWatch.spliceExternal (some pendantRx) none false).2
      decide (s.entersRamp PlayWatch.spliceExternal (some pendantRx) none false) &&
        decide (s.Unclipped PlayWatch.spliceExternal (some pendantRx) none false) &&
        decide (entry.coasts PlayWatch.spliceExternal (.tick (some eStopRx) none false)) &&
        decide (entry.health.epoch <
          (entry.tick PlayWatch.spliceExternal (some eStopRx) none false).2.health.epoch) &&
        decide (s.anchor.qdCmd 0 ≠ 0))
    (by decide +kernel)
  simp only [Bool.and_eq_true, decide_eq_true_eq] at tested
  obtain ⟨⟨⟨⟨enters, unclipped⟩, coasting⟩, restarted⟩, moving⟩ := tested
  obtain ⟨entry, entered⟩ : ∃ e, e =
    (s.tick PlayWatch.spliceExternal (some pendantRx) none false).2 := ⟨_, rfl⟩
  rw [← entered] at coasting restarted
  have onward : (machine PlayWatch.spliceExternal defaultRtCoreConfig).Reaches
      (TickCore.coasts PlayWatch.spliceExternal) entry
      (entry.tick PlayWatch.spliceExternal (some eStopRx) none false).2 :=
    Machine.Reaches.refl.step coasting rfl
  have coasted := fault_coast_bounded clock reached enters unclipped entered onward 0
  exact ⟨s, entry, _, entered, restarted, moving, coasted.1⟩

end TickCore

end AiroFanuc.RtCore
