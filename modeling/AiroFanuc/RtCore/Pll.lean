import AiroFanuc.Library.Descent
import Mathlib.Data.Rat.Floor
import Mathlib.Data.Set.Card
import Mathlib.Order.Interval.Set.Nat
import Mathlib.Tactic.FieldSimp
import Mathlib.Tactic.Push
import Mathlib.Tactic.SplitIfs

/-! The phase servo of the transmit timer: deadlines, the sends that follow them, and the lock
onto the arrival of the status packets. -/

namespace AiroFanuc.RtCore

open Library

/-- The cast of a floating-point number to an integer. -/
def truncate (x : ℚ) : ℤ := if 0 ≤ x then ⌊x⌋ else ⌈x⌉

def clampI64 (v lo hi : ℤ) : ℤ := if v < lo then lo else if v > hi then hi else v

structure Pll where
  rxLeadNs : ℤ
  /-- `kp_` times an error, as the cast to an integer leaves it. -/
  proportional : ℤ → ℤ
  tickNs : ℤ
  capNs : ℤ

/-- The deadline, and the two diagnostics of the last `next_tick`. -/
structure PllTick where
  next : ℤ
  lastCorrectionNs : ℤ
  lastSkippedWindows : ℤ
  deriving DecidableEq, Repr

namespace Pll

variable (pll : Pll)

def correction (scheduledTick : ℤ) (haveFreshRx : Bool) (lastRxMono : ℤ) : ℤ :=
  if haveFreshRx then
    clampI64 (pll.proportional (scheduledTick - (lastRxMono + pll.rxLeadNs))) (-pll.capNs) pll.capNs
  else 0

/-- The deadline before it is compared with the clock. -/
def computed (scheduledTick : ℤ) (haveFreshRx : Bool) (lastRxMono : ℤ) : ℤ :=
  let next := scheduledTick + pll.tickNs - pll.correction scheduledTick haveFreshRx lastRxMono
  if next ≤ scheduledTick then scheduledTick + 1 else next

def nextTick (scheduledTick : ℤ) (haveFreshRx : Bool) (lastRxMono nowMono : ℤ) : PllTick :=
  let corr := pll.correction scheduledTick haveFreshRx lastRxMono
  let next := pll.computed scheduledTick haveFreshRx lastRxMono
  if next ≤ nowMono then
    -- a whole window late: the windows that went by are dropped
    ⟨nowMono + pll.tickNs, corr, (nowMono - next).tdiv pll.tickNs + 1⟩
  else ⟨next, corr, 0⟩

/-- The servo with its gain in exact arithmetic. -/
def exact (rxLeadNs : ℤ) (kp : ℚ) (tickNs capNs : ℤ) : Pll :=
  ⟨rxLeadNs, fun err => truncate (kp * err), tickNs, capNs⟩

/-- What a run of the loop meets: the first deadline, and for each tick whether a status packet
came in, its arrival, and how long after its deadline the loop wakes up. -/
structure Run where
  start : ℤ
  fresh : ℕ → Bool
  rx : ℕ → ℤ
  latency : ℕ → ℤ

namespace Run

variable (run : Run)

def deadline : ℕ → ℤ
  | 0 => run.start
  | n + 1 =>
    (pll.nextTick (deadline n) (run.fresh n) (run.rx n) (deadline n + run.latency n)).next

/-- The clock as `next_tick` gets it, which is also when the tick sends. -/
def now (n : ℕ) : ℤ := run.deadline pll n + run.latency n

def tick (n : ℕ) : PllTick :=
  pll.nextTick (run.deadline pll n) (run.fresh n) (run.rx n) (run.now pll n)

def correction (n : ℕ) : ℤ := pll.correction (run.deadline pll n) (run.fresh n) (run.rx n)

def computed (n : ℕ) : ℤ := pll.computed (run.deadline pll n) (run.fresh n) (run.rx n)

/-- The computed deadline is already behind the clock. -/
def Rebases (n : ℕ) : Prop := run.computed pll n ≤ run.now pll n

/-- How far a deadline is ahead of where the arrival puts it. -/
def phaseError (n : ℕ) : ℤ := run.deadline pll n - (run.rx n + pll.rxLeadNs)

/-- A packet in every tick, one window apart, and no wake-up a window late. -/
def Steady : Prop :=
  ∀ n, run.fresh n = true ∧ run.rx n = run.rx 0 + n * pll.tickNs ∧ ¬run.Rebases pll n

end Run

end Pll

theorem clamp_mem {v lo hi : ℤ} (span : lo ≤ hi) : lo ≤ clampI64 v lo hi ∧ clampI64 v lo hi ≤ hi := by
  unfold clampI64
  split_ifs <;> omega

theorem clamp_between {v hi : ℤ} (span : 0 ≤ hi) :
    (0 ≤ v → 0 ≤ clampI64 v (-hi) hi ∧ clampI64 v (-hi) hi ≤ v) ∧
      (v ≤ 0 → v ≤ clampI64 v (-hi) hi ∧ clampI64 v (-hi) hi ≤ 0) := by
  unfold clampI64
  constructor <;> intro side <;> split_ifs <;> omega

theorem clamp_ne_zero {v hi : ℤ} (span : 0 < hi) (moves : v ≠ 0) : clampI64 v (-hi) hi ≠ 0 := by
  unfold clampI64
  split_ifs <;> omega

theorem truncate_nonneg {x : ℚ} (up : 0 ≤ x) : 0 ≤ truncate x ∧ (truncate x : ℚ) ≤ x := by
  rw [truncate, if_pos up]
  exact ⟨Int.floor_nonneg.mpr up, Int.floor_le x⟩

theorem truncate_nonpos {x : ℚ} (down : x ≤ 0) : x ≤ (truncate x : ℚ) ∧ truncate x ≤ 0 := by
  rcases down.lt_or_eq with neg | rfl
  · rw [truncate, if_neg (not_le.mpr neg)]
    exact ⟨Int.le_ceil x, Int.ceil_le.mpr (by exact_mod_cast down)⟩
  · rw [truncate, if_pos le_rfl, Int.floor_zero]
    exact ⟨by norm_num, le_rfl⟩

/-- What the cast takes to zero is less than one. -/
theorem abs_lt_one_of_truncate {x : ℚ} (lost : truncate x = 0) : |x| < 1 := by
  rcases le_or_gt 0 x with up | down
  · rw [truncate, if_pos up, Int.floor_eq_zero_iff] at lost
    rw [abs_of_nonneg up]
    exact lost.2
  · rw [truncate, if_neg (not_le.mpr down), Int.ceil_eq_zero_iff] at lost
    rw [abs_of_neg down]
    linarith [lost.1]

namespace Pll

variable {pll : Pll}

theorem correction_mem (cap : 0 ≤ pll.capNs) (scheduledTick : ℤ) (haveFreshRx : Bool)
    (lastRxMono : ℤ) :
    -pll.capNs ≤ pll.correction scheduledTick haveFreshRx lastRxMono ∧
      pll.correction scheduledTick haveFreshRx lastRxMono ≤ pll.capNs := by
  unfold correction
  split
  · exact clamp_mem (by omega)
  · exact ⟨by omega, cap⟩

variable {scheduledTick lastRxMono nowMono : ℤ} {haveFreshRx : Bool}

/-- The guard behind the correction has nothing to do while the cap is below a window. -/
theorem computed_eq (cap : 0 ≤ pll.capNs) (window : pll.capNs < pll.tickNs) :
    pll.computed scheduledTick haveFreshRx lastRxMono =
      scheduledTick + pll.tickNs - pll.correction scheduledTick haveFreshRx lastRxMono := by
  have bound := (correction_mem cap scheduledTick haveFreshRx lastRxMono).2
  rw [computed, if_neg (by omega)]

theorem scheduled_lt_computed (pll : Pll) (scheduledTick : ℤ) (haveFreshRx : Bool)
    (lastRxMono : ℤ) : scheduledTick < pll.computed scheduledTick haveFreshRx lastRxMono := by
  simp only [computed]
  split <;> omega

theorem nextTick_of_late
    (late : pll.computed scheduledTick haveFreshRx lastRxMono ≤ nowMono) :
    (pll.nextTick scheduledTick haveFreshRx lastRxMono nowMono).next = nowMono + pll.tickNs ∧
      (pll.nextTick scheduledTick haveFreshRx lastRxMono nowMono).lastSkippedWindows =
        (nowMono - pll.computed scheduledTick haveFreshRx lastRxMono).tdiv pll.tickNs + 1 := by
  rw [nextTick, if_pos late]
  exact ⟨rfl, rfl⟩

theorem nextTick_of_early
    (early : nowMono < pll.computed scheduledTick haveFreshRx lastRxMono) :
    (pll.nextTick scheduledTick haveFreshRx lastRxMono nowMono).next =
        pll.computed scheduledTick haveFreshRx lastRxMono ∧
      (pll.nextTick scheduledTick haveFreshRx lastRxMono nowMono).lastSkippedWindows = 0 := by
  rw [nextTick, if_neg (not_le.mpr early)]
  exact ⟨rfl, rfl⟩

/-- The next deadline is ahead of the one that fired and of the clock. -/
theorem nextTick_ahead (window : 0 < pll.tickNs) :
    scheduledTick < (pll.nextTick scheduledTick haveFreshRx lastRxMono nowMono).next ∧
      nowMono < (pll.nextTick scheduledTick haveFreshRx lastRxMono nowMono).next := by
  have ahead := pll.scheduled_lt_computed scheduledTick haveFreshRx lastRxMono
  rcases le_or_gt (pll.computed scheduledTick haveFreshRx lastRxMono) nowMono with late | early
  · rw [(nextTick_of_late late).1]
    omega
  · rw [(nextTick_of_early early).1]
    exact ⟨ahead, early⟩

/-- The nominal deadlines that a clock has passed. -/
theorem passed_deadlines {due now tick : ℤ} (late : due ≤ now) (window : 0 < tick) :
    (now - due).tdiv tick + 1 = (Set.ncard {k : ℕ | due + k * tick ≤ now} : ℤ) := by
  have passed : {k : ℕ | due + k * tick ≤ now} =
      ↑(Finset.range (((now - due) / tick).toNat + 1)) := by
    ext k
    have whole : 0 ≤ (now - due) / tick := Int.ediv_nonneg (by omega) window.le
    calc
      due + k * tick ≤ now ↔ (k : ℤ) * tick ≤ now - due := by
        constructor <;> intro within <;> linarith
      _ ↔ (k : ℤ) ≤ (now - due) / tick := (Int.le_ediv_iff_mul_le window).symm
      _ ↔ k ∈ Finset.range (((now - due) / tick).toNat + 1) := by
        rw [Finset.mem_range]
        omega
  rw [passed, Set.ncard_coe_finset, Finset.card_range, Int.tdiv_eq_ediv_of_nonneg (by omega)]
  have whole : 0 ≤ (now - due) / tick := Int.ediv_nonneg (by omega) window.le
  omega

namespace Run

variable {run : Run} {n : ℕ}

/-- How far apart two sends are: a window and more after a rebase, and otherwise a window less
the correction, moved by how the lateness changes. -/
theorem now_succ (cap : 0 ≤ pll.capNs) (window : pll.capNs < pll.tickNs) :
    run.now pll (n + 1) - run.now pll n =
      if pll.tickNs ≤ run.latency n + run.correction pll n then pll.tickNs + run.latency (n + 1)
      else pll.tickNs - run.correction pll n + run.latency (n + 1) - run.latency n := by
  have due : run.computed pll n =
      run.deadline pll n + pll.tickNs - run.correction pll n := computed_eq cap window
  have clock : run.now pll n = run.deadline pll n + run.latency n := rfl
  have next : run.now pll (n + 1) = (run.tick pll n).next + run.latency (n + 1) := rfl
  rcases le_or_gt (run.computed pll n) (run.now pll n) with late | early
  · have rebased : (run.tick pll n).next = run.now pll n + pll.tickNs := (nextTick_of_late late).1
    rw [if_pos (by omega)]
    omega
  · have kept : (run.tick pll n).next = run.computed pll n := (nextTick_of_early early).1
    rw [if_neg (by omega)]
    omega

/-- Two consecutive sends keep their distance as long as no wake-up is later than the next one
by more than the correction leaves of the cap, short of a whole window. -/
theorem sends_spaced_iff (cap : 0 ≤ pll.capNs) (window : pll.capNs < pll.tickNs)
    (late : ∀ n, 0 ≤ run.latency n) :
    (∀ n, pll.tickNs - pll.capNs ≤ run.now pll (n + 1) - run.now pll n) ↔
      ∀ n, run.latency n + run.correction pll n ≤ run.latency (n + 1) + pll.capNs ∨
        pll.tickNs ≤ run.latency n + run.correction pll n := by
  refine forall_congr' fun n => ?_
  have after := late (n + 1)
  rw [now_succ cap window]
  split
  · next rebased =>
    constructor
    · exact fun _ => .inr rebased
    · intro _
      omega
  · next kept =>
    constructor
    · intro spaced
      exact .inl (by omega)
    · intro short
      rcases short with short | rebased
      · omega
      · exact absurd rebased kept

theorem phaseError_succ (cap : 0 ≤ pll.capNs) (window : pll.capNs < pll.tickNs)
    (steady : run.Steady pll) (n : ℕ) :
    run.phaseError pll (n + 1) = run.phaseError pll n - run.correction pll n := by
  obtain ⟨-, arrived, early⟩ := steady n
  have next := (steady (n + 1)).2.1
  have due : run.computed pll n =
      run.deadline pll n + pll.tickNs - run.correction pll n := computed_eq cap window
  have kept : (run.tick pll n).next = run.computed pll n :=
    (nextTick_of_early (not_le.mp early)).1
  have moved : run.deadline pll (n + 1) = (run.tick pll n).next := rfl
  have period : run.rx (n + 1) = run.rx n + pll.tickNs := by
    rw [next, arrived]
    push_cast
    ring
  unfold phaseError
  omega

section

variable {kp : ℚ} (exact_ : pll.proportional = fun err : ℤ => truncate (kp * err))
  (gain : 0 < kp) (cap : 0 < pll.capNs) (window : pll.capNs < pll.tickNs)
  (steady : run.Steady pll)

include exact_ steady in
theorem correction_steady (n : ℕ) : run.correction pll n =
    clampI64 (truncate (kp * run.phaseError pll n)) (-pll.capNs) pll.capNs := by
  rw [correction, Pll.correction, (steady n).1, exact_]
  rfl

include exact_ gain cap window steady in
/-- One tick takes a part of the error away, never more than all of it. -/
theorem phaseError_toward (full : kp ≤ 1) (n : ℕ) :
    TowardZero (run.phaseError pll n) (run.phaseError pll (n + 1)) := by
  rw [phaseError_succ cap.le window steady, correction_steady exact_ steady]
  obtain ⟨above, below⟩ := clamp_between (v := truncate (kp * run.phaseError pll n)) cap.le
  constructor
  · intro up
    have real : (0 : ℚ) ≤ run.phaseError pll n := by exact_mod_cast up
    obtain ⟨low, high⟩ := truncate_nonneg (mul_nonneg gain.le real)
    have part : (truncate (kp * run.phaseError pll n) : ℚ) ≤ run.phaseError pll n :=
      high.trans (mul_le_of_le_one_left real full)
    have whole : truncate (kp * run.phaseError pll n) ≤ run.phaseError pll n := by
      exact_mod_cast part
    have clamped := above low
    omega
  · intro down
    have real : (run.phaseError pll n : ℚ) ≤ 0 := by exact_mod_cast down
    obtain ⟨low, high⟩ := truncate_nonpos (mul_nonpos_of_nonneg_of_nonpos gain.le real)
    have part : (run.phaseError pll n : ℚ) ≤ truncate (kp * run.phaseError pll n) := by
      refine le_trans ?_ low
      nlinarith
    have whole : run.phaseError pll n ≤ truncate (kp * run.phaseError pll n) := by
      exact_mod_cast part
    have clamped := below high
    omega

include exact_ gain cap window steady in
/-- Outside the dead zone of the truncation the error moves. -/
theorem phaseError_moves (n : ℕ) (far : ¬((|run.phaseError pll n| : ℤ) : ℚ) < 1 / kp) :
    run.phaseError pll (n + 1) ≠ run.phaseError pll n := by
  rw [phaseError_succ cap.le window steady, correction_steady exact_ steady]
  intro still
  apply far
  have dead : truncate (kp * run.phaseError pll n) = 0 := by
    by_contra moves
    exact clamp_ne_zero cap moves (by omega)
  have small := abs_lt_one_of_truncate dead
  rw [abs_mul, abs_of_pos gain] at small
  rw [lt_div_iff₀ gain, mul_comm]
  push_cast
  exact small

end

/-- Without a rebase the deadlines are a window apart, give or take the cap. -/
theorem deadlines_spaced (cap : 0 ≤ pll.capNs) (window : pll.capNs < pll.tickNs)
    (kept : ¬run.Rebases pll n) :
    pll.tickNs - pll.capNs ≤ run.deadline pll (n + 1) - run.deadline pll n ∧
      run.deadline pll (n + 1) - run.deadline pll n ≤ pll.tickNs + pll.capNs := by
  have due : run.computed pll n =
      run.deadline pll n + pll.tickNs - run.correction pll n := computed_eq cap window
  have next : run.deadline pll (n + 1) = run.computed pll n :=
    (nextTick_of_early (not_le.mp kept)).1
  have bound := correction_mem cap (run.deadline pll n) (run.fresh n) (run.rx n)
  unfold correction at due
  omega

end Run

/-- The deadlines of every run, and the lock of a run with a steady arrival. -/
theorem phase_locks (rxLeadNs : ℤ) (kp : ℚ) {tickNs capNs : ℤ} (gain : 0 < kp) (full : kp ≤ 1)
    (cap : 0 < capNs) (window : capNs < tickNs) (run : Run) :
    let pll := Pll.exact rxLeadNs kp tickNs capNs
    (∀ n, run.deadline pll n < run.deadline pll (n + 1) ∧
      run.now pll n < run.deadline pll (n + 1)) ∧
    (∀ n, ¬run.Rebases pll n →
      tickNs - capNs ≤ run.deadline pll (n + 1) - run.deadline pll n ∧
        run.deadline pll (n + 1) - run.deadline pll n ≤ tickNs + capNs) ∧
    (∀ n, run.Rebases pll n → (run.tick pll n).lastSkippedWindows =
      Set.ncard {k : ℕ | run.computed pll n + k * tickNs ≤ run.now pll n}) ∧
    (run.Steady pll →
      (∀ m n, 0 ≤ run.phaseError pll m * run.phaseError pll n) ∧
      (∀ n, |run.phaseError pll (n + 1)| ≤ |run.phaseError pll n|) ∧
      ∃ n, ∀ m, n ≤ m → ((|run.phaseError pll m| : ℤ) : ℚ) < 1 / kp) := by
  intro pll
  have open_ : 0 < tickNs := cap.trans window
  refine ⟨fun n => nextTick_ahead open_, fun n => Run.deadlines_spaced cap.le window, ?_, ?_⟩
  · intro n rebases
    have counted : (run.tick pll n).lastSkippedWindows =
        (run.now pll n - run.computed pll n).tdiv tickNs + 1 := (nextTick_of_late rebases).2
    rw [counted]
    exact passed_deadlines rebases open_
  · intro steady
    have toward (n : ℕ) : TowardZero (run.phaseError pll n) (run.phaseError pll (n + 1)) :=
      Run.phaseError_toward rfl gain cap window steady full n
    refine ⟨TowardZero.same_sign toward, fun n => (toward n).abs_le, ?_⟩
    apply TowardZero.stays_near (fun e => (e : ℚ) < 1 / kp) toward
    · intro a b less near
      have cast : (b : ℚ) ≤ a := by exact_mod_cast less
      exact cast.trans_lt near
    · intro n far
      exact (toward n).abs_lt (Run.phaseError_moves rfl gain cap window steady n far)

/-- The shipped cap and gain at a window of 8 ms. -/
def shipped : Pll := .exact 300000 (1 / 5) 8000000 100000

/-- A run that begins three milliseconds off and always wakes up on time. -/
def Run.offPhase : Run := ⟨3300000, fun _ => true, fun n => n * 8000000, fun _ => 0⟩

theorem offPhase_locks :
    ∃ n, ∀ m, n ≤ m → ((|Run.offPhase.phaseError shipped m| : ℤ) : ℚ) < 1 / (1 / 5 : ℚ) := by
  have steady : Run.offPhase.Steady shipped := by
    intro n
    refine ⟨rfl, ?_, ?_⟩
    · show (n : ℤ) * 8000000 = (0 : ℕ) * 8000000 + n * 8000000
      rw [Nat.cast_zero, zero_mul, zero_add]
    · have ahead := shipped.scheduled_lt_computed (Run.offPhase.deadline shipped n) true (n * 8000000)
      apply not_le.mpr
      rwa [Run.now, show Run.offPhase.latency n = 0 from rfl, add_zero]
  exact ((phase_locks 300000 (1 / 5) (by norm_num) (by norm_num) (by norm_num) (by norm_num)
    Run.offPhase).2.2.2 steady).2.2

/-- Wake-ups that are all late by 400 µs, and no status packets. -/
theorem even_lateness_keeps_spacing : ∃ run : Run, run.latency = (fun _ => 400000) ∧
    ∀ n, 7900000 ≤ run.now shipped (n + 1) - run.now shipped n := by
  refine ⟨⟨0, fun _ => false, fun _ => 0, fun _ => 400000⟩, rfl, ?_⟩
  refine (Run.sends_spaced_iff ?_ ?_ fun _ => ?_).mpr fun m => ?_
  · decide
  · decide
  · show (0 : ℤ) ≤ 400000
    decide
  · left
    show (400000 : ℤ) + 0 ≤ 400000 + 100000
    decide

/-- One wake-up is half a window late and the next one is on time. -/
theorem late_wake_up_crowds_sends :
    ∃ run : Run, (∀ n, 0 ≤ run.latency n) ∧
      ∃ n, run.now shipped (n + 1) - run.now shipped n < shipped.tickNs - shipped.capNs := by
  refine ⟨⟨0, fun _ => false, fun _ => 0, fun n => if n = 0 then 4000000 else 0⟩, fun n => ?_, 0, ?_⟩
  · show (0 : ℤ) ≤ if n = 0 then 4000000 else 0
    split <;> decide
  · decide

end Pll

end AiroFanuc.RtCore
