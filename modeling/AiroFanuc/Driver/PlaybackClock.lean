import AiroFanuc.Driver.TrajectoryCheck
import AiroFanuc.Library.Rounding
import AiroFanuc.RtCore.SeamTiming

/-! The 64-bit clocks a checked trajectory is played on, against the times they stand for. Here the
core's operations on doubles that hold a time are rounded. -/

namespace AiroFanuc.RtCore.TickCore

open TickEngine
open Library (double)

/-! ### A tick in doubles -/

section Rounded

variable {R : Type} [Field R] [LinearOrder R] [FloorRing R]

/-- `install_trajectory`: the end is a quotient of doubles before it is a number of nanoseconds. -/
def installRounded (s : TickCore R) (t : Target R) : TickCore R :=
  let dur := t.view.durationNs
  { s.installTrajectory t with
    playback.trajEndTauNs :=
      if 0 < s.playback.speedScale then
        truncInt64 (double (double (dur : R) / s.playback.speedScale))
      else dur }

def dispatchRounded (lib : External R) (s : TickCore R) : Vec6 R × TickCore R :=
  match s.health.mode, s.splice.capture.knots[s.splice.captureIdx]? with
  | .capture, none => (s.installRounded s.splice.capturedTarget).dispatchTrajectory
  | _, _ => s.dispatchMode lib

def tickRounded (lib : External R) (s : TickCore R) (rx : Option (RxSample R))
    (pending : Option (Target R)) (consumeSuperseded : Bool) : Command R × TickCore R :=
  let s := s.beforeConsume lib rx
  let s := s.consumePending lib pending consumeSuperseded
  let (qDesired, s) := s.dispatchRounded lib
  s.sendCommand qDesired

/-- Unscaled, a duration of up to 2⁵³ nanoseconds is installed as it is. -/
theorem installRounded_eq [IsStrictOrderedRing R] {s : TickCore R} {t : Target R}
    (unscaled : s.playback.speedScale = 1) (short : |t.view.durationNs| ≤ 2 ^ 53) :
    s.installRounded t = s.installTrajectory t := by
  have whole : double (t.view.durationNs : R) = t.view.durationNs :=
    Library.nearest_eq (.intCast short)
  simp only [installRounded, unscaled, div_one, whole]
  simp only [installTrajectory, unscaled, div_one]
  rfl

theorem dispatchRounded_eq {lib : External R} {s : TickCore R}
    (installed : s.installRounded s.splice.capturedTarget =
      s.installTrajectory s.splice.capturedTarget) :
    s.dispatchRounded lib = s.dispatchMode lib := by
  unfold dispatchRounded
  split
  · rename_i mode knot
    simp only [dispatchMode, mode, knot, installed]
  · rfl

/-- Only the end of a trajectory it installs tells it from a tick without rounding. -/
theorem tickRounded_eq {lib : External R} {s c : TickCore R} {rx : Option (RxSample R)}
    {pending : Option (Target R)} {consumeSuperseded : Bool}
    (reached : c = (s.beforeConsume lib rx).consumePending lib pending consumeSuperseded)
    (installed : c.installRounded c.splice.capturedTarget =
      c.installTrajectory c.splice.capturedTarget) :
    s.tickRounded lib rx pending consumeSuperseded = s.tick lib rx pending consumeSuperseded := by
  subst reached
  simp only [tickRounded, tick, dispatchRounded_eq installed]

/-- Until a splice is over nothing is installed. -/
theorem dispatchRounded_goes {lib : External R} {s : TickCore R}
    (goes : s.health.mode ≠ .capture ∨ s.splice.capture.knots[s.splice.captureIdx]? ≠ none) :
    s.dispatchRounded lib = s.dispatchMode lib := by
  unfold dispatchRounded
  split
  · rename_i mode knot
    exact (goes.elim (· mode) (· knot)).elim
  · rfl

theorem dispatchRounded_frame (lib : External R) (s : TickCore R) :
    (s.dispatchRounded lib).2.frame = s.frame := by
  unfold dispatchRounded
  split
  · exact dispatchTrajectory_frame (s.installRounded s.splice.capturedTarget)
  · exact dispatchMode_frame lib s

theorem tickRounded_cfg (lib : External R) (s : TickCore R) (rx : Option (RxSample R))
    (pending : Option (Target R)) (consumeSuperseded : Bool) :
    (s.tickRounded lib rx pending consumeSuperseded).2.cfg = s.cfg := by
  have sent := sendCommand_frame
    (((s.beforeConsume lib rx).consumePending lib pending consumeSuperseded).dispatchRounded lib).2
    (((s.beforeConsume lib rx).consumePending lib pending consumeSuperseded).dispatchRounded lib).1
  rw [dispatchRounded_frame] at sent
  exact (congrArg Frame.cfg sent).trans (consumePending_cfg lib s rx pending consumeSuperseded)

end Rounded

end AiroFanuc.RtCore.TickCore

namespace AiroFanuc.Driver

open TickEngine RtCore Library

/-! ### Wrapping and rounding -/

theorem wrapInt64_eq_iff {n : Int} (nonneg : 0 ≤ n) : wrapInt64 n = n ↔ n ≤ kInt64Max := by
  constructor
  · intro same
    have below := Int.bmod_lt (x := n) (m := 2 ^ 64) (by norm_num)
    rw [wrapInt64] at same
    rw [same] at below
    simp only [kInt64Max]
    omega
  · intro fits
    exact wrapInt64_fits (by simp only [kInt64Min]; omega) fits

theorem wrapInt64_add (a b : Int) : wrapInt64 (wrapInt64 a + b) = wrapInt64 (a + b) :=
  Int.bmod_add_bmod ..

/-- A time keeps its value through a double and back exactly if it is a double: past the range the
conversion is negative. -/
theorem truncInt64_double_iff {R : Type} [Field R] [LinearOrder R] [IsStrictOrderedRing R]
    [FloorRing R] {n : Int} (nonneg : 0 ≤ n) (fits : n ≤ kInt64Max) :
    truncInt64 (double (n : R)) = n ↔ double (n : R) = n := by
  constructor
  · intro same
    obtain ⟨m, whole⟩ : ∃ m : Int, double (n : R) = m := nearest_integer 52 n
    rw [whole, truncInt64_whole] at same
    rw [whole]
    split at same
    · rw [same]
    · simp only [kInt64Min] at same
      omega
  · intro whole
    rw [whole]
    exact truncInt64_intCast (by simp only [kInt64Min]; omega) fits

theorem getElem?_concat_cases {xs : List Int} {x v : Int} {k : Nat}
    (found : (xs ++ [x])[k]? = some v) : xs[k]? = some v ∨ k = xs.length ∧ v = x := by
  rcases Nat.lt_trichotomy k xs.length with inside | rfl | outside
  · exact .inl ((List.getElem?_append_left inside).symm.trans found)
  · exact .inr ⟨rfl, Option.some.inj (found.symm.trans List.getElem?_concat_length)⟩
  · have none : (xs ++ [x])[k]? = none := by
      rw [List.getElem?_eq_none_iff, List.length_append]
      exact outside
    exact absurd (none.symm.trans found) (by simp)

/-! ### What the driver submits -/

section Submitted

variable {R : Type} [Field R] [LinearOrder R] [FloorRing R]

/-- A target that carries arrays the check let through, at the pinned speed scale. -/
def Submitted (vlim : Vec6 R) (t : Target R) : Prop :=
  t.speedScale = 1 ∧ ∃ timesNs q qd, t.timesNs = some timesNs ∧ t.q = some q ∧ t.qd = some qd ∧
    t.n = q.length ∧
    ∃ times rows speeds, validateTrajectory vlim times rows speeds = .ok (timesNs, q, qd)

theorem Submitted.valid {vlim : Vec6 R} {t : Target R} (submitted : Submitted vlim t) :
    t.view.Valid := by
  obtain ⟨-, timesNs, q, qd, hasTimes, hasQ, hasQd, count, times, rows, speeds, passed⟩ := submitted
  have accepted := validateTrajectory_accepted passed
  have length : t.view.n = q.length := count
  have stamps : t.view.times = timesNs := by
    simp only [Target.view, TrajectorySampler.bind, hasTimes, Option.getD_some]
  constructor
  · rw [length]
    exact accepted.many
  · rw [stamps, length]
    exact accepted.timed
  · rw [stamps]
    exact List.isChain_iff_pairwise.mp accepted.increasing
  · intro time member
    rw [stamps] at member
    have inside := accepted.range time member
    simp only [kInt64Min, kInt64Max] at inside ⊢
    omega

/-- Arrays that were let through would be let through as they are. -/
theorem submitted_iff [IsStrictOrderedRing R] {vlim : Vec6 R} {t : Target R} :
    Submitted vlim t ↔ t.speedScale = 1 ∧ t.timesNs.isSome ∧ t.q.isSome ∧ t.qd.isSome ∧
      t.n = (t.q.getD []).length ∧
      Accepted vlim (t.timesNs.getD []) (t.q.getD []) (t.qd.getD []) := by
  constructor
  · rintro ⟨scale, timesNs, q, qd, hasTimes, hasQ, hasQd, count, times, rows, speeds, passed⟩
    rw [hasTimes, hasQ, hasQd]
    exact ⟨scale, rfl, rfl, rfl, count, validateTrajectory_accepted passed⟩
  · rintro ⟨scale, hasTimes, hasQ, hasQd, count, accepted⟩
    obtain ⟨timesNs, same⟩ := Option.isSome_iff_exists.mp hasTimes
    obtain ⟨q, same'⟩ := Option.isSome_iff_exists.mp hasQ
    obtain ⟨qd, same''⟩ := Option.isSome_iff_exists.mp hasQd
    rw [same, same', same''] at accepted
    rw [same'] at count
    exact ⟨scale, timesNs, q, qd, same, same', same'', count, _, _, _, accepted.passes⟩

instance [IsStrictOrderedRing R] (vlim : Vec6 R) (t : Target R) : Decidable (Submitted vlim t) :=
  decidable_of_iff _ submitted_iff.symm

end Submitted

/-! ### A playback and its clocks -/

/-- A trajectory since its hand-finished: the clock values it was sampled at, and the one its end
blend was started at. -/
structure Playing (R : Type) where
  target : Target R
  residueNs : Int
  taus : List Int
  blendStart : Option Int

namespace Playing

variable {R : Type} [Field R] [LinearOrder R] [FloorRing R]

/-- The time the clock stands for after `k` ticks. -/
def reading (p : Playing R) (cfg : RtCoreConfig R) (k : Nat) : Int :=
  p.residueNs + (k + 1) * itpNs cfg.tick.itpS

/-- The time a clock value is sampled at, in doubles. -/
def query (p : Playing R) (tau : Int) : R :=
  double (double (p.target.view.time 0 : R) + double (p.target.speedScale * double (tau : R)))

/-- The sampler finds it behind the first knot and before the last. -/
def Inside (p : Playing R) (tau : Int) : Prop :=
  double (p.target.view.time 0 : R) < p.query tau ∧
    p.query tau < double (p.target.view.time (p.target.view.n - 1) : R)

instance (p : Playing R) (tau : Int) : Decidable (p.Inside tau) :=
  inferInstanceAs (Decidable (_ ∧ _))

/-- Every 64-bit value computed from the times is the true one, some sample was inside, and
the end is not declared before the last knot's time. -/
structure TrueClocks (cfg : RtCoreConfig R) (p : Playing R) (b : Playback R) : Prop where
  duration : p.target.view.durationNs = p.target.view.spanNs ∧ 0 < p.target.view.durationNs
  endTau : b.trajEndTauNs = p.target.view.spanNs
  segments : ∀ i, i + 1 < p.target.view.n →
    wrapInt64 (p.target.view.time (i + 1) - p.target.view.time i) =
      p.target.view.time (i + 1) - p.target.view.time i
  advance : ∀ k tau, (p.taus ++ [b.tauNs])[k]? = some tau → tau = p.reading cfg k
  blendStart : ∀ ns ∈ p.blendStart, ns = p.reading cfg p.taus.length - p.target.view.spanNs
  visits : ∃ tau ∈ p.taus, p.Inside tau
  finishes : b.trajPhase ≠ .playing → p.target.view.spanNs ≤ p.reading cfg p.taus.length

/-- The span fits in 64 bits, and in the digits of a double. -/
def Whole (p : Playing R) : Prop :=
  p.target.view.spanNs ≤ kInt64Max ∧ double (p.target.view.spanNs : R) = p.target.view.spanNs

instance (p : Playing R) : Decidable p.Whole := inferInstanceAs (Decidable (_ ∧ _))

/-- So does the time now, and one of the times played lies between the knots. -/
def Fits (cfg : RtCoreConfig R) (p : Playing R) : Prop :=
  p.Whole ∧ p.reading cfg p.taus.length ≤ kInt64Max ∧
    ∃ k < p.taus.length, p.Inside (p.reading cfg k)

instance (cfg : RtCoreConfig R) (p : Playing R) : Decidable (p.Fits cfg) :=
  inferInstanceAs (Decidable (_ ∧ _ ∧ _))

/-- The clocks as they are, wrapped and rounded or not. -/
structure Tracks (cfg : RtCoreConfig R) (p : Playing R) (b : Playback R) : Prop where
  valid : p.target.view.Valid
  residue : 0 ≤ p.residueNs
  sampler : b.sampler = p.target.view
  scale : b.speedScale = 1
  endTau : b.trajEndTauNs = truncInt64 (double (wrapInt64 p.target.view.spanNs : R))
  clock : b.tauNs = wrapInt64 (p.reading cfg p.taus.length)
  taus : ∀ k tau, p.taus[k]? = some tau → tau = wrapInt64 (p.reading cfg k)
  playing : b.trajPhase = .playing → p.blendStart = none
  finished : b.trajPhase ≠ .playing →
    p.Whole → p.reading cfg p.taus.length ≤ kInt64Max →
      p.target.view.spanNs ≤ p.reading cfg p.taus.length ∧
        ∀ ns ∈ p.blendStart, ns = p.reading cfg p.taus.length - p.target.view.spanNs

variable {cfg : RtCoreConfig R} {p : Playing R} {b : Playback R}

theorem reading_mono (ticks : 0 < itpNs cfg.tick.itpS) {i k : Nat} (le : i ≤ k) :
    p.reading cfg i ≤ p.reading cfg k := by
  have more : ((i : Int) + 1) * itpNs cfg.tick.itpS ≤ (k + 1) * itpNs cfg.tick.itpS := by
    apply Int.mul_le_mul_of_nonneg_right _ ticks.le
    exact_mod_cast Nat.succ_le_succ le
  exact Int.add_le_add_left more _

theorem reading_pos (ticks : 0 < itpNs cfg.tick.itpS) (residue : 0 ≤ p.residueNs) (k : Nat) :
    0 < p.reading cfg k := by
  have first := reading_mono (p := p) ticks (Nat.zero_le k)
  simp only [reading, Nat.cast_zero, zero_add, one_mul] at first ⊢
  omega

theorem Tracks.segment_fits (tracks : p.Tracks cfg b) (fits : p.target.view.spanNs ≤ kInt64Max)
    {i : Nat} (bound : i + 1 < p.target.view.n) :
    wrapInt64 (p.target.view.time (i + 1) - p.target.view.time i) =
      p.target.view.time (i + 1) - p.target.view.time i := by
  have valid := tracks.valid
  have step : p.target.view.time i < p.target.view.time (i + 1) :=
    valid.time_lt (Nat.lt_succ_self i) bound
  have head : p.target.view.time 0 ≤ p.target.view.time i := by
    rcases Nat.eq_zero_or_pos i with rfl | positive
    · exact le_rfl
    · exact (valid.time_lt positive (by omega)).le
  have tail : p.target.view.time (i + 1) ≤ p.target.view.time (p.target.view.n - 1) := by
    rcases Nat.lt_or_ge (i + 1) (p.target.view.n - 1) with less | more
    · exact (valid.time_lt less (by omega)).le
    · rw [Nat.le_antisymm (by omega : i + 1 ≤ p.target.view.n - 1) more]
  rw [TrajectorySampler.spanNs] at fits
  exact (wrapInt64_eq_iff (by omega)).mpr (by omega)

/-- A whole span is the end of the playback. -/
theorem Whole.endTau [IsStrictOrderedRing R] (whole : p.Whole) (valid : p.target.view.Valid) :
    truncInt64 (double (wrapInt64 p.target.view.spanNs : R)) = p.target.view.spanNs := by
  have spans := valid.span_pos
  rw [(wrapInt64_eq_iff spans.le).mpr whole.1]
  exact (truncInt64_double_iff spans.le whole.1).mpr whole.2

/-- The clocks are true exactly where nothing wraps and nothing is rounded off. -/
theorem Tracks.trueClocks_iff [IsStrictOrderedRing R] (tracks : p.Tracks cfg b)
    (ticks : 0 < itpNs cfg.tick.itpS) : p.TrueClocks cfg b ↔ p.Fits cfg := by
  have two := tracks.valid.two
  have spans := tracks.valid.span_pos
  have now := reading_pos (p := p) ticks tracks.residue p.taus.length
  have counted : p.target.view.durationNs = wrapInt64 p.target.view.spanNs := by
    rw [TrajectorySampler.durationNs, if_neg (not_lt.mpr two)]
    rfl
  constructor
  · intro exact'
    have spanFits := (wrapInt64_eq_iff spans.le).mp (counted.symm.trans exact'.duration.1)
    have clock := exact'.advance p.taus.length b.tauNs List.getElem?_concat_length
    have nowFits := (wrapInt64_eq_iff now.le).mp (tracks.clock.symm.trans clock)
    have ending := tracks.endTau.symm.trans exact'.endTau
    rw [(wrapInt64_eq_iff spans.le).mpr spanFits, truncInt64_double_iff spans.le spanFits] at ending
    refine ⟨⟨spanFits, ending⟩, nowFits, ?_⟩
    obtain ⟨tau, member, inside⟩ := exact'.visits
    obtain ⟨k, bound, found⟩ := List.getElem_of_mem member
    have stamp := exact'.advance k tau ((List.getElem?_append_left bound).trans
      (List.getElem?_eq_some_iff.mpr ⟨bound, found⟩))
    exact ⟨k, bound, stamp ▸ inside⟩
  · rintro ⟨whole', nowFits, k, bound, inside⟩
    have spanFits := whole'.1
    have true' (k : Nat) (le : k ≤ p.taus.length) :
        wrapInt64 (p.reading cfg k) = p.reading cfg k := by
      have below := reading_mono (p := p) ticks le
      exact (wrapInt64_eq_iff (reading_pos ticks tracks.residue k).le).mpr (below.trans nowFits)
    have whole := (wrapInt64_eq_iff spans.le).mpr spanFits
    constructor
    · rw [counted, whole]
      exact ⟨rfl, spans⟩
    · exact tracks.endTau.trans (whole'.endTau tracks.valid)
    · exact fun i bound => tracks.segment_fits spanFits bound
    · intro k tau found
      rcases getElem?_concat_cases found with earlier | ⟨rfl, rfl⟩
      · have bound := (List.getElem?_eq_some_iff.mp earlier).1
        rw [tracks.taus k tau earlier, true' k bound.le]
      · rw [tracks.clock, true' _ le_rfl]
    · intro ns started
      by_cases playing : b.trajPhase = .playing
      · rw [tracks.playing playing] at started
        cases started
      · exact (tracks.finished playing whole' nowFits).2 ns started
    · have stamp := tracks.taus k p.taus[k] (List.getElem?_eq_getElem bound)
      rw [true' k bound.le] at stamp
      exact ⟨p.taus[k], List.getElem_mem bound, stamp ▸ inside⟩
    · exact fun ended => (tracks.finished ended whole' nowFits).1

/-! ### One tick of it -/

/-- Adds the sample of a playing tick, and the start of an end blend it turns to. -/
def sampled (p : Playing R) (c : TickCore R) : Playing R :=
  match c.playback.trajPhase with
  | .playing =>
    { p with
      taus := p.taus ++ [c.playback.tauNs]
      blendStart :=
        match c.dispatchTrajectory.2.playback.trajPhase with
        | .endBlend => some c.dispatchTrajectory.2.playback.tauBlendNs
        | _ => none }
  | _ => p

/-- Settling moves no clock. -/
theorem settling_playback {s : TickCore R} (settling : s.playback.trajPhase = .settling) :
    ∃ settle, s.dispatchTrajectory.2.playback = { s.playback with settle := settle } := by
  simp only [TickCore.dispatchTrajectory, settling]
  split
  · rw [TickCore.resolveActive_shape]
    exact ⟨_, rfl⟩
  · rw [TickCore.resolveActive_shape]
    exact ⟨_, rfl⟩
  · exact ⟨_, rfl⟩

theorem Tracks.stamps (tracks : p.Tracks cfg b) {k : Nat} {tau : Int}
    (found : (p.taus ++ [b.tauNs])[k]? = some tau) : tau = wrapInt64 (p.reading cfg k) := by
  rcases getElem?_concat_cases found with earlier | ⟨rfl, rfl⟩
  · exact tracks.taus k tau earlier
  · exact tracks.clock

theorem Tracks.next (tracks : p.Tracks cfg b) :
    wrapInt64 (b.tauNs + itpNs cfg.tick.itpS) = wrapInt64 (p.reading cfg (p.taus.length + 1)) := by
  rw [tracks.clock, wrapInt64_add]
  congr 1
  simp only [reading]
  push_cast
  ring

/-- A clock that does not wrap is past a whole span where the code finds it so, by as much. -/
theorem Tracks.reached [IsStrictOrderedRing R] (tracks : p.Tracks cfg b)
    (ticks : 0 < itpNs cfg.tick.itpS) {k : Nat}
    (ended : truncInt64 (double (wrapInt64 p.target.view.spanNs : R)) ≤
      wrapInt64 (p.reading cfg k))
    (whole : p.Whole) (now : p.reading cfg k ≤ kInt64Max) :
    p.target.view.spanNs ≤ p.reading cfg k ∧
      wrapInt64 (wrapInt64 (p.reading cfg k) -
        truncInt64 (double (wrapInt64 p.target.view.spanNs : R))) =
        p.reading cfg k - p.target.view.spanNs := by
  have spans := tracks.valid.span_pos
  have positive := reading_pos (p := p) ticks tracks.residue k
  rw [whole.endTau tracks.valid, (wrapInt64_eq_iff positive.le).mpr now] at ended ⊢
  exact ⟨ended, (wrapInt64_eq_iff (by omega)).mpr (by omega)⟩

/-- A playing tick takes one more sample, and may find the end. -/
theorem Tracks.sampled_playing [IsStrictOrderedRing R] {c : TickCore R}
    (tracks : p.Tracks cfg c.playback) (settings : c.cfg = cfg) (ticks : 0 < itpNs cfg.tick.itpS)
    (phase : c.playback.trajPhase = .playing) :
    (p.sampled c).Tracks cfg c.dispatchTrajectory.2.playback := by
  have period : c.itp = cfg.tick.itpS := congrArg (fun c : RtCoreConfig R => c.tick.itpS) settings
  have length : (p.taus ++ [c.playback.tauNs]).length = p.taus.length + 1 := by
    rw [List.length_append, List.length_singleton]
  have next := tracks.next
  rw [← period] at next
  have stamps (k : Nat) (tau : Int) (found : (p.taus ++ [c.playback.tauNs])[k]? = some tau) :
      tau = wrapInt64 (p.reading cfg k) := tracks.stamps found
  have clock : wrapInt64 (p.reading cfg (p.taus.length + 1)) =
      wrapInt64 (p.reading cfg (p.taus ++ [c.playback.tauNs]).length) := by
    rw [length]
  have moved : c.dispatchTrajectory.2.playback = _ :=
    congrArg Reel.playback (TickCore.dispatchTrajectory_playing phase next)
  simp only [Playing.sampled, phase]
  rw [tracks.endTau] at moved
  by_cases ended : truncInt64 (double (wrapInt64 p.target.view.spanNs : R)) ≤
      wrapInt64 (p.reading cfg (p.taus.length + 1))
  · rw [if_pos ended] at moved
    by_cases fast : c.cfg.tick.settleVelEpsRadS < maxAbs c.playback.qdEndWire
    · rw [if_pos fast] at moved
      rw [moved]
      refine { tracks with clock := clock, taus := stamps, playing := nofun, finished := ?_ }
      intro _ whole now
      rw [length] at now ⊢
      obtain ⟨past, offset⟩ := tracks.reached ticks ended whole now
      refine ⟨past, ?_⟩
      rintro ns ⟨⟩
      exact offset
    · rw [if_neg fast] at moved
      rw [moved]
      refine { tracks with clock := clock, taus := stamps, playing := nofun, finished := ?_ }
      intro _ whole now
      rw [length] at now ⊢
      exact ⟨(tracks.reached ticks ended whole now).1, nofun⟩
  · rw [if_neg ended] at moved
    rw [moved]
    refine { tracks with clock := clock, taus := stamps, playing := ?_, finished := ?_ }
    · intro _
      simp only [phase]
    · exact fun unlike => absurd phase unlike

theorem Tracks.sampled [IsStrictOrderedRing R] {c : TickCore R} (tracks : p.Tracks cfg c.playback)
    (settings : c.cfg = cfg) (ticks : 0 < itpNs cfg.tick.itpS) :
    (p.sampled c).Tracks cfg c.dispatchTrajectory.2.playback := by
  cases phase : c.playback.trajPhase with
  | playing => exact tracks.sampled_playing settings ticks phase
  | endBlend =>
    have stays : p.sampled c = p := by simp only [Playing.sampled, phase]
    have moved : c.dispatchTrajectory.2.playback = _ :=
      congrArg Reel.playback (TickCore.dispatchTrajectory_blending phase rfl)
    have finished := tracks.finished (by simp [phase])
    rw [stays, moved]
    split
    · exact { tracks with playing := nofun, finished := fun _ => finished }
    · refine { tracks with playing := ?_, finished := fun _ => finished }
      exact fun playing => TrajPhase.noConfusion (phase.symm.trans playing)
  | settling =>
    have stays : p.sampled c = p := by simp only [Playing.sampled, phase]
    obtain ⟨settle, moved⟩ := settling_playback phase
    rw [stays, moved]
    exact { tracks with }

end Playing

/-! ### Runs -/

/-- The core, and the trajectory it plays. -/
structure ClockWatch (R : Type) where
  core : TickCore R
  playing : Option (Playing R)

namespace ClockWatch

variable {R : Type} [Field R] [LinearOrder R] [FloorRing R]

/-- The playback after a dispatch: begun behind the last knot of the splice, continued from
there, ended by anything else. -/
def dispatched (playing : Option (Playing R)) (c : TickCore R) : Option (Playing R) :=
  match c.health.mode with
  | .capture =>
    if c.splice.capture.knots[c.splice.captureIdx]?.isNone then
      some (Playing.sampled ⟨c.splice.capturedTarget, c.splice.capture.residueNs, [], none⟩
        (c.installRounded c.splice.capturedTarget))
    else none
  | .trajectory => playing.map fun p => p.sampled c
  | _ => none

def step (lib : External R) (w : ClockWatch R) (i : Input R) : ClockWatch R :=
  match i with
  | .tick rx pending consumeSuperseded =>
    { core := (w.core.tickRounded lib rx pending consumeSuperseded).2
      playing := dispatched w.playing
        ((w.core.beforeConsume lib rx).consumePending lib pending consumeSuperseded) }
  | i => { w with core := w.core.apply lib i }

def machine (lib : External R) (cfg : RtCoreConfig R) : Machine (ClockWatch R) (Input R) where
  start := ⟨.new cfg, none⟩
  step := fun w i => some (w.step lib i)

/-- Every trajectory comes through the driver's check. -/
def checked (vlim : Vec6 R) (_ : ClockWatch R) : Input R → Prop
  | .tick _ (some t) _ => t.kind = .trajectory → Submitted vlim t
  | _ => True

/-- A splice under way to a trajectory that was let through. -/
structure Spliced (vlim : Vec6 R) (cfg : RtCoreConfig R) (r : Reel R) : Prop where
  submitted : Submitted vlim r.captured
  scale : r.playback.speedScale = 1
  residue : 0 ≤ r.capture.residueNs

structure Sound (vlim : Vec6 R) (cfg : RtCoreConfig R) (w : ClockWatch R) : Prop where
  settings : w.core.cfg = cfg
  spliced : w.core.reel.mode = .capture → Spliced vlim cfg w.core.reel
  played : w.core.reel.mode = .trajectory → w.playing.isSome
  tracks : ∀ p ∈ w.playing, p.Tracks cfg w.core.playback

section Step

variable [IsStrictOrderedRing R] {lib : External R} {cfg : RtCoreConfig R} {vlim : Vec6 R}

/-- Behind its splice a trajectory is at its first clock value. -/
theorem installRounded_tracks {s : TickCore R} (settings : s.cfg = cfg)
    (spliced : Spliced vlim cfg s.reel) :
    Playing.Tracks cfg ⟨s.splice.capturedTarget, s.splice.capture.residueNs, [], none⟩
      (s.installRounded s.splice.capturedTarget).playback := by
  have submitted : Submitted vlim s.splice.capturedTarget := spliced.submitted
  have scale : s.playback.speedScale = 1 := spliced.scale
  have two := submitted.valid.two
  constructor
  · exact submitted.valid
  · exact spliced.residue
  · rfl
  · exact scale
  · have counted : s.splice.capturedTarget.view.durationNs =
        wrapInt64 s.splice.capturedTarget.view.spanNs := by
      rw [TrajectorySampler.durationNs, if_neg (not_lt.mpr two)]
      rfl
    show (if 0 < s.playback.speedScale then truncInt64 (double
      (double (s.splice.capturedTarget.view.durationNs : R) / s.playback.speedScale))
      else s.splice.capturedTarget.view.durationNs) = _
    rw [scale, if_pos one_pos, div_one, counted, double_double]
  · show wrapInt64 (itpNs s.itp + s.splice.capture.residueNs) = _
    rw [TickCore.itp, settings, Playing.reading]
    congr 1
    simp only [List.length_nil, Nat.cast_zero, zero_add, one_mul]
    ring
  · simp
  · exact fun _ => rfl
  · exact fun unlike => absurd rfl unlike

omit [IsStrictOrderedRing R] in
/-- The splice goes on. -/
theorem capturing_sound {playing : Option (Playing R)} {c after : TickCore R}
    {next : HermiteSample R} (mode : c.health.mode = .capture)
    (knot : c.splice.capture.knots[c.splice.captureIdx]? = some next)
    (loaded : Spliced vlim cfg c.reel) (same : after.reel = (c.dispatchRounded lib).2.reel)
    (kept : after.cfg = cfg) : Sound vlim cfg ⟨after, dispatched playing c⟩ := by
  have waits : dispatched playing c = none := by
    simp only [dispatched, mode, knot, Option.isNone_some, Bool.false_eq_true, if_false]
  have moved : (c.dispatchRounded lib).2.reel =
      { c.reel with captureIdx := c.splice.captureIdx + 1 } := by
    rw [TickCore.dispatchRounded_goes (.inr (by simp [knot]))]
    simp only [TickCore.dispatchMode, mode, knot]
    simp only [TickCore.reel, mode]
  rw [moved] at same
  rw [waits]
  refine ⟨kept, ?_, ?_, fun p member => absurd member (Option.not_mem_none p)⟩
  · intro _
    rw [same]
    exact { loaded with }
  · intro plays
    rw [same] at plays
    exact Mode.noConfusion (plays.symm.trans mode)

/-- Behind the last knot the playback begins. -/
theorem installed_sound {playing : Option (Playing R)} {c after : TickCore R}
    (ticks : 0 < itpNs cfg.tick.itpS) (settings : c.cfg = cfg) (mode : c.health.mode = .capture)
    (knot : c.splice.capture.knots[c.splice.captureIdx]? = none)
    (loaded : Spliced vlim cfg c.reel) (same : after.reel = (c.dispatchRounded lib).2.reel)
    (kept : after.cfg = cfg) : Sound vlim cfg ⟨after, dispatched playing c⟩ := by
  have begun : dispatched playing c =
      some (Playing.sampled ⟨c.splice.capturedTarget, c.splice.capture.residueNs, [], none⟩
        (c.installRounded c.splice.capturedTarget)) := by
    simp only [dispatched, mode, knot, Option.isNone_none, if_true]
  have dispatch : c.dispatchRounded lib =
      (c.installRounded c.splice.capturedTarget).dispatchTrajectory := by
    simp only [TickCore.dispatchRounded, mode, knot]
  have installed := (installRounded_tracks settings loaded).sampled settings ticks
  rw [begun]
  rw [dispatch] at same
  have playback : after.playback = _ := congrArg Reel.playback same
  refine ⟨kept, ?_, fun _ => rfl, ?_⟩
  · intro again
    rw [same] at again
    rcases TickCore.dispatchTrajectory_mode (c.installRounded c.splice.capturedTarget) with
      still | held
    · exact Mode.noConfusion (again.symm.trans still)
    · exact Mode.noConfusion (again.symm.trans held)
  · rintro _ ⟨⟩
    rw [playback]
    exact installed

theorem playing_sound {playing : Option (Playing R)} {c after : TickCore R}
    (ticks : 0 < itpNs cfg.tick.itpS) (settings : c.cfg = cfg) (mode : c.health.mode = .trajectory)
    (played : playing.isSome) (tracks : ∀ p ∈ playing, p.Tracks cfg c.playback)
    (same : after.reel = (c.dispatchRounded lib).2.reel) (kept : after.cfg = cfg) :
    Sound vlim cfg ⟨after, dispatched playing c⟩ := by
  have continued : dispatched playing c = playing.map fun p => p.sampled c := by
    simp only [dispatched, mode]
  have dispatch : c.dispatchRounded lib = c.dispatchTrajectory := by
    rw [TickCore.dispatchRounded_goes (.inl (by simp [mode]))]
    simp only [TickCore.dispatchMode, mode]
  rw [continued]
  rw [dispatch] at same
  have playback : after.playback = _ := congrArg Reel.playback same
  refine ⟨kept, ?_, ?_, ?_⟩
  · intro spliced
    rw [same] at spliced
    rcases TickCore.dispatchTrajectory_mode c with still | held
    · exact Mode.noConfusion ((spliced.symm.trans still).trans mode)
    · exact Mode.noConfusion (spliced.symm.trans held)
  · intro _
    rw [Option.isSome_map]
    exact played
  · intro q found
    obtain ⟨p, member, rfl⟩ := Option.mem_map.mp found
    rw [playback]
    exact (tracks p member).sampled settings ticks

theorem dispatched_sound {playing : Option (Playing R)} {c : TickCore R}
    (ticks : 0 < itpNs cfg.tick.itpS) (settings : c.cfg = cfg)
    (spliced : c.reel.mode = .capture → Spliced vlim cfg c.reel)
    (played : c.reel.mode = .trajectory → playing.isSome)
    (tracks : c.reel.mode = .trajectory →
      ∀ p ∈ playing, p.Tracks cfg c.playback)
    {after : TickCore R} (same : after.reel = (c.dispatchRounded lib).2.reel)
    (kept : after.cfg = cfg) :
    Sound vlim cfg ⟨after, dispatched playing c⟩ := by
  cases mode : c.health.mode with
  | capture =>
    cases knot : c.splice.capture.knots[c.splice.captureIdx]? with
    | some next => exact capturing_sound mode knot (spliced mode) same kept
    | none => exact installed_sound ticks settings mode knot (spliced mode) same kept
  | trajectory => exact playing_sound ticks settings mode (played mode) (tracks mode) same kept
  | streamDown | preroll | hold | servo | brake | safeFollow | rxSilent =>
    have idle : ¬ (c.dispatchRounded lib).2.reel.rolls := by
      rw [TickCore.dispatchRounded_goes (.inl (by simp [mode]))]
      apply TickCore.dispatchMode_idle lib
      rintro (rolls | rolls) <;> exact Mode.noConfusion (mode.symm.trans rolls)
    have ended : dispatched playing c = none := by simp only [dispatched, mode]
    rw [← same] at idle
    rw [ended]
    exact ⟨kept, fun mode => absurd (.inl mode) idle, fun mode => absurd (.inr mode) idle,
      fun p member => absurd member (Option.not_mem_none p)⟩

theorem tick_sound {w : ClockWatch R} (sound : w.Sound vlim cfg) (ticks : 0 < itpNs cfg.tick.itpS)
    (rx : Option (RxSample R)) (pending : Option (Target R)) (consumeSuperseded : Bool)
    (submitted : ∀ t ∈ pending, t.kind = .trajectory → Submitted vlim t) :
    (w.step lib (.tick rx pending consumeSuperseded)).Sound vlim cfg := by
  have before := (TickCore.beforeConsume_cfg lib w.core rx).trans sound.settings
  have after :=
    (TickCore.tickRounded_cfg lib w.core rx pending consumeSuperseded).trans sound.settings
  have settings :=
    (TickCore.consumePending_cfg lib w.core rx pending consumeSuperseded).trans sound.settings
  have rolled := TickCore.consumePending_reel lib w.core rx pending consumeSuperseded
  have sent : (w.core.tickRounded lib rx pending consumeSuperseded).2.reel = _ :=
    TickCore.sendCommand_reel _ _
  refine dispatched_sound ticks settings ?_ ?_ ?_ sent after
  · intro mode
    rcases rolled (.inl mode) with same | ⟨t, member, kind, taken⟩
    · rw [same] at mode ⊢
      exact sound.spliced mode
    · have residue := generateCapturePath_residue lib (w.core.beforeConsume lib rx).anchor.qCmd
        (w.core.beforeConsume lib rx).anchor.qdCmd t.q0 t.qd0
        (before ▸ ticks : 0 < itpNs (w.core.beforeConsume lib rx).cfg.tick.itpS)
      rw [taken]
      exact ⟨submitted t member kind, (submitted t member kind).1, residue.1⟩
  · intro mode
    rcases rolled (.inr mode) with same | ⟨t, member, kind, taken⟩
    · rw [same] at mode
      exact sound.played mode
    · rw [taken] at mode
      cases mode
  · intro mode p member
    rcases rolled (.inr mode) with same | ⟨t, pending', kind, taken⟩
    · have playback := congrArg Reel.playback same
      change ((w.core.beforeConsume lib rx).consumePending lib pending consumeSuperseded).playback =
        w.core.playback at playback
      rw [playback]
      exact sound.tracks p member
    · rw [taken] at mode
      cases mode

theorem step_sound {w : ClockWatch R} {i : Input R} (sound : w.Sound vlim cfg)
    (ticks : 0 < itpNs cfg.tick.itpS) (legal : checked vlim w i) :
    (w.step lib i).Sound vlim cfg := by
  cases i with
  | tick rx pending consumeSuperseded =>
    apply tick_sound sound ticks
    rintro t ⟨⟩ kind
    exact legal kind
  | beginStreaming qMeas => exact ⟨sound.settings, nofun, nofun, sound.tracks⟩
  | requestRecover =>
    simp only [step, TickCore.apply, TickCore.requestRecover]
    split
    · exact ⟨sound.settings, sound.spliced, sound.played, sound.tracks⟩
    · exact sound
  | requestStop | requestHold | kick | heartbeat =>
    exact ⟨sound.settings, sound.spliced, sound.played, sound.tracks⟩

theorem reachable_sound (ticks : 0 < itpNs cfg.tick.itpS) {w : ClockWatch R}
    (reached : (machine lib cfg).Reachable (checked vlim) w) : w.Sound vlim cfg := by
  apply reached.invariant
  · exact ⟨rfl, nofun, nofun, fun p member => absurd member (Option.not_mem_none p)⟩
  · intro a b i sound legal moved
    cases moved
    exact step_sound sound ticks legal

/-- Whatever happens around it, a checked trajectory is played on true clocks, through its
inside and to its end, exactly if the times it reaches fit in 64 bits. -/
theorem checked_playback_clocks_iff (lib : External R) (cfg : RtCoreConfig R) (vlim : Vec6 R)
    (ticks : 0 < itpNs cfg.tick.itpS) (w : ClockWatch R)
    (reached : (machine lib cfg).Reachable (checked vlim) w) :
    (w.core.health.mode = .trajectory → w.playing.isSome) ∧
      ∀ p ∈ w.playing, p.TrueClocks cfg w.core.playback ↔ p.Fits cfg := by
  have sound := reachable_sound ticks reached
  refine ⟨sound.played, ?_⟩
  intro p member
  exact (sound.tracks p member).trueClocks_iff ticks

end Step

/-- Every checked trajectory of every run is played on true clocks. -/
def KeepsTrueClocks (lib : External R) (cfg : RtCoreConfig R) (vlim : Vec6 R) : Prop :=
  ∀ w, (machine lib cfg).Reachable (checked vlim) w →
    ∀ p ∈ w.playing, p.TrueClocks cfg w.core.playback

instance [IsStrictOrderedRing R] (vlim : Vec6 R) (w : ClockWatch R) (i : Input R) :
    Decidable (checked vlim w i) :=
  match i with
  | .tick _ (some t) _ => inferInstanceAs (Decidable (t.kind = .trajectory → Submitted vlim t))
  | .tick _ none _ | .requestStop | .requestHold | .requestRecover | .kick | .heartbeat
  | .beginStreaming _ => inferInstanceAs (Decidable True)

/-- From rest at zero to rest at one radian. -/
def stride (times : List Int) : Target ℚ :=
  { benchTrajectory 1 0 0 with timesNs := some times, q := some [0, 1] }

theorem checked_playback_clocks_iff_second : ∃ w : ClockWatch ℚ, ∃ p ∈ w.playing,
    p.TrueClocks defaultRtCoreConfig w.core.playback ∧ p.taus.length = 3 := by
  obtain ⟨w, reached, tested⟩ := Machine.reachable_of_test
    (machine benchExternal defaultRtCoreConfig) (checked fun _ => 2)
    [.beginStreaming 0, benchTick (some (stride [0, 1000000000])), benchTick none, benchTick none,
      benchTick none]
    (fun w : ClockWatch ℚ => w.playing.any fun p : Playing ℚ =>
      decide (p.Fits defaultRtCoreConfig) && decide (p.taus.length = 3))
    (by decide +kernel) (by decide +kernel)
  obtain ⟨p, playing, checked⟩ := (Option.any_eq_true _ _).mp tested
  simp only [Bool.and_eq_true, decide_eq_true_eq] at checked
  have verdict := (checked_playback_clocks_iff benchExternal defaultRtCoreConfig (fun _ => 2)
    (by decide +kernel) w reached).2 p playing
  exact ⟨w, p, playing, verdict.mpr checked.1, checked.2⟩

/-- From one end of the range to the other the duration wraps to minus two nanoseconds, and
the first sample is the last. -/
theorem whole_range_ends_at_once :
    ¬ KeepsTrueClocks benchExternal defaultRtCoreConfig fun _ => 2 := by
  intro keeps
  obtain ⟨w, reached, tested⟩ := Machine.reachable_of_test
    (machine benchExternal defaultRtCoreConfig) (checked fun _ => 2)
    [.beginStreaming 0, benchTick (some (stride [-kInt64Max, kInt64Max])), benchTick none]
    (fun w : ClockWatch ℚ => w.playing.any fun p : Playing ℚ =>
      decide (w.core.playback.trajPhase = .settling) &&
        decide (p.reading defaultRtCoreConfig p.taus.length < p.target.view.spanNs))
    (by decide +kernel) (by decide +kernel)
  obtain ⟨p, playing, checked⟩ := (Option.any_eq_true _ _).mp tested
  simp only [Bool.and_eq_true, decide_eq_true_eq] at checked
  have finished := (keeps w reached p playing).finishes (by rw [checked.1]; nofun)
  exact absurd checked.2 (not_lt.mpr finished)

end ClockWatch

end AiroFanuc.Driver
