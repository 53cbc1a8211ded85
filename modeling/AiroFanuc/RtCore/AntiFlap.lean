import AiroFanuc.RtCore.Entries
import AiroFanuc.RtCore.SlewSafety

/-! A recovery waits for its dwell: it completes on the first tick that ends a whole dwell of
clear ticks, all of them after the request. -/

namespace AiroFanuc.RtCore

open TickEngine Library

/-- What a tick did up to its recovery dwell. -/
structure Sign where
  killed : Bool
  faulted : Bool
  parked : Bool
  /-- Still parked, with no packet this tick. -/
  blind : Bool

def Sign.clear (sign : Sign) : Bool :=
  !sign.killed && !sign.faulted && !sign.parked && !sign.blind

/-- The last `dwell` ticks were clear, out of the `age` ticks since the request. -/
def Dwelt (dwell age : Nat) (signs : List Sign) : Prop :=
  dwell ≤ age ∧ ∀ sign ∈ signs.take dwell, sign.clear = true

/-- The newest tick is the first one that ends a dwell. -/
def FirstDwelt (dwell age : Nat) (signs : List Sign) : Prop :=
  Dwelt dwell age signs ∧ ∀ k, 0 < k → ¬ Dwelt dwell (age - k) (signs.drop k)

section Dwelt

variable {dwell age : Nat} {sign : Sign} {signs : List Sign}

theorem dwelt_zero : Dwelt 0 age signs := ⟨Nat.zero_le _, fun _ member => by cases member⟩

/-- One more tick ends a dwell if it is clear and the ticks before it were a shorter one. -/
theorem dwelt_cons : Dwelt (dwell + 1) (age + 1) (sign :: signs) ↔
    sign.clear = true ∧ Dwelt dwell age signs := by
  constructor
  · rintro ⟨long, clear⟩
    rw [List.take_succ_cons] at clear
    exact ⟨clear sign List.mem_cons_self, Nat.le_of_succ_le_succ long,
      fun older member => clear older (List.mem_cons_of_mem _ member)⟩
  · rintro ⟨now, long, clear⟩
    refine ⟨Nat.succ_le_succ long, ?_⟩
    rw [List.take_succ_cons]
    exact List.forall_mem_cons.mpr ⟨now, clear⟩

theorem not_dwelt_zero (real : 0 < dwell) : ¬ Dwelt dwell 0 signs := by
  rintro ⟨long, -⟩
  omega

end Dwelt

namespace TickCore

open Register

variable {R : Type} [Field R] [LinearOrder R] [FloorRing R]

def dwellTicks (s : TickCore R) : Nat := s.msToTicks s.cfg.antiflapDwellMs

theorem dwellTicks_pos (s : TickCore R) : 0 < s.dwellTicks := by
  simp only [dwellTicks, msToTicks]
  split <;> omega

theorem dwellTicks_congr {s u : TickCore R} (same : s.cfg = u.cfg) :
    s.dwellTicks = u.dwellTicks := by
  unfold dwellTicks msToTicks itp
  rw [same]

def sign (lib : External R) (s : TickCore R) (rx : Option (RxSample R)) : Sign where
  killed := (s.beforeDwell lib rx).health.conditions.killed
  faulted := decide (faultTotal (s.beforeDwell lib rx).health.bumpCounts ≠
    faultTotal s.health.bumpCounts)
  parked := decide (s.health.mode ≠ .rxSilent ∧ (s.beforeDwell lib rx).health.mode = .rxSilent)
  blind := decide ((s.beforeDwell lib rx).health.mode = .rxSilent ∧
    (s.beforeDwell lib rx).rxWatch.ticksSinceRx ≠ 0)

/-- A park entered this tick is one without a packet. -/
theorem parked_blind {lib : External R} {s : TickCore R} {rx : Option (RxSample R)}
    (parked : (s.sign lib rx).parked = true) : (s.sign lib rx).blind = true := by
  simp only [sign, decide_eq_true_eq] at parked ⊢
  obtain ⟨awake, parked⟩ := parked
  refine ⟨parked, ?_⟩
  cases rx with
  | none =>
    have frame := beforeDwell_frame lib s none
    rw [ingestRx_frame] at frame
    have age := congrArg Frame.ticksSinceRx frame
    exact fun fresh => Nat.succ_ne_zero _ (age.symm.trans fresh)
  | some r => exact absurd parked (beforeDwell_awake lib awake r)

theorem sign_clear {lib : External R} {s : TickCore R} {rx : Option (RxSample R)} :
    (s.sign lib rx).clear =
      (!(s.sign lib rx).faulted && (s.beforeDwell lib rx).dwellClear) := by
  have blind : (s.sign lib rx).blind = false → (s.sign lib rx).parked = false := by
    intro fresh
    by_contra parked
    rw [parked_blind (Bool.eq_true_of_not_eq_false parked)] at fresh
    cases fresh
  have clear : (s.beforeDwell lib rx).dwellClear =
      (!(s.sign lib rx).killed && !(s.sign lib rx).blind) := by
    simp only [dwellClear, sign, Bool.decide_and, decide_not, Bool.not_and, Bool.not_not]
  rw [Sign.clear, clear]
  generalize s.sign lib rx = u at *
  cases u.killed <;> cases u.faulted <;> cases parked : u.parked <;> cases fresh : u.blind <;>
    simp_all

/-- Whether this tick completes a recovery. -/
def recovers (lib : External R) (s : TickCore R) (rx : Option (RxSample R))
    (pending : Option (Target R)) (consumeSuperseded : Bool) : Bool :=
  decide ((s.tick lib rx pending consumeSuperseded).2.health.bumpCounts .recoveryComplete ≠
    s.health.bumpCounts .recoveryComplete)

theorem beforeDwell_completions (lib : External R) (s : TickCore R) (rx : Option (RxSample R)) :
    (s.beforeDwell lib rx).health.bumpCounts .recoveryComplete =
      s.health.bumpCounts .recoveryComplete :=
  (beforeDwell_entries lib s rx).counts_kept (fun cause _ => cause.bump_fault.2) (by decide)

theorem beforeConsume_completions (lib : External R) (s : TickCore R) (rx : Option (RxSample R)) :
    (s.beforeConsume lib rx).health.bumpCounts .recoveryComplete =
      s.health.bumpCounts .recoveryComplete +
        if (s.beforeDwell lib rx).dwellCompletes then 1 else 0 := by
  rw [← beforeDwell_completions lib s rx]
  simp only [beforeConsume]
  generalize s.beforeDwell lib rx = d
  cases completes : d.dwellCompletes with
  | true =>
    have counts := congrArg Register.bumpCounts (completeRecovery_register d.countDwell)
    have counted := congrFun counts .recoveryComplete
    rw [recoveryDwell_completes completes, if_pos rfl]
    simp only [complete, note, bump, bumped_apply, if_true] at counted
    exact counted
  | false =>
    rw [recoveryDwell_waits completes]
    rfl

theorem tick_completions (lib : External R) (s : TickCore R) (rx : Option (RxSample R))
    (pending : Option (Target R)) (consumeSuperseded : Bool) :
    (s.tick lib rx pending consumeSuperseded).2.health.bumpCounts .recoveryComplete =
      s.health.bumpCounts .recoveryComplete +
        if (s.beforeDwell lib rx).dwellCompletes then 1 else 0 := by
  rw [← beforeConsume_completions]
  exact (afterDwell_entries lib s rx pending consumeSuperseded).counts_kept
    (fun cause _ => cause.bump_fault.2) (by decide)

theorem recovers_iff (lib : External R) (s : TickCore R) (rx : Option (RxSample R))
    (pending : Option (Target R)) (consumeSuperseded : Bool) :
    s.recovers lib rx pending consumeSuperseded = (s.beforeDwell lib rx).dwellCompletes := by
  rw [recovers, tick_completions]
  cases (s.beforeDwell lib rx).dwellCompletes with
  | true =>
    rw [if_pos rfl]
    exact decide_eq_true (Nat.succ_ne_self _)
  | false => simp only [Bool.false_eq_true, if_false, Nat.add_zero, ne_eq, not_true_eq_false,
      decide_false]

/-- Behind a completed dwell the core is well and holding. -/
theorem recovers_well {lib : External R} {s : TickCore R} {rx : Option (RxSample R)}
    {pending : Option (Target R)} {consumeSuperseded : Bool}
    (recovers : s.recovers lib rx pending consumeSuperseded = true) :
    (s.beforeConsume lib rx).health.fault = .none ∧
      (s.beforeConsume lib rx).health.mode = .hold := by
  rw [recovers_iff] at recovers
  have control := beforeConsume_control lib s rx
  rw [if_pos recovers] at control
  exact ⟨congrArg Control.fault control, congrArg Control.mode control⟩

/-- In front of the dwell a recovery is the one the tick began with, or a fault cancelled it. -/
theorem beforeDwell_recovery (lib : External R) (s : TickCore R) (rx : Option (RxSample R)) :
    (s.beforeDwell lib rx).recovery =
      if (s.sign lib rx).faulted then ⟨false, 0⟩ else s.recovery := by
  rcases (beforeDwell_entries lib s rx).cancels with ⟨same, kept⟩ | ⟨more, cancelled⟩
  · have well : (s.sign lib rx).faulted = false := decide_eq_false fun changed => changed same
    rw [well]
    exact kept
  · have faulted : (s.sign lib rx).faulted = true := decide_eq_true more.ne'
    rw [faulted]
    exact cancelled

theorem beforeDwell_dwellTicks (lib : External R) (s : TickCore R) (rx : Option (RxSample R)) :
    (s.beforeDwell lib rx).dwellTicks = s.dwellTicks := by
  apply dwellTicks_congr
  have frame := beforeDwell_frame lib s rx
  exact (congrArg Frame.cfg frame).trans (ingestRx_cfg s.countTick rx)

theorem tick_dwellTicks (lib : External R) (s : TickCore R) (rx : Option (RxSample R))
    (pending : Option (Target R)) (consumeSuperseded : Bool) :
    (s.tick lib rx pending consumeSuperseded).2.dwellTicks = s.dwellTicks := by
  apply dwellTicks_congr
  have frame := tick_frame lib s rx pending consumeSuperseded
  exact (congrArg Frame.cfg frame).trans (ingestRx_cfg s rx)

/-- A dwell completes when one is pending, the tick is clear and it is long enough. -/
theorem dwellCompletes_iff {lib : External R} {s : TickCore R} {rx : Option (RxSample R)} :
    (s.beforeDwell lib rx).dwellCompletes = true ↔
      s.recovery.pending = true ∧ (s.sign lib rx).clear = true ∧
        s.dwellTicks ≤ s.recovery.allClearTicks + 1 := by
  have long : (s.beforeDwell lib rx).msToTicks (s.beforeDwell lib rx).cfg.antiflapDwellMs =
      s.dwellTicks := beforeDwell_dwellTicks lib s rx
  rw [dwellCompletes, long, beforeDwell_recovery, sign_clear]
  cases (s.sign lib rx).faulted with
  | true => simp
  | false => simp [and_assoc]

/-- Whether this tick enters a fault, in front of the dwell or behind it. -/
def faults (lib : External R) (s : TickCore R) (rx : Option (RxSample R))
    (pending : Option (Target R)) (consumeSuperseded : Bool) : Bool :=
  decide (faultTotal (s.tick lib rx pending consumeSuperseded).2.health.bumpCounts ≠
    faultTotal s.health.bumpCounts)

theorem recoveryDwell_faultTotal (s : TickCore R) :
    faultTotal s.recoveryDwell.health.bumpCounts = faultTotal s.health.bumpCounts := by
  cases completes : s.dwellCompletes with
  | true =>
    have counts := congrArg Register.bumpCounts (completeRecovery_register s.countDwell)
    rw [recoveryDwell_completes completes]
    exact (congrArg faultTotal counts).trans (faultTotal_bumped _ .recoveryComplete)
  | false => rw [recoveryDwell_waits completes]

theorem recoveryDwell_recovery (s : TickCore R) :
    s.recoveryDwell.recovery =
      if s.dwellCompletes then ⟨false, 0⟩
      else if s.recovery.pending then
        ⟨true, if s.dwellClear then s.recovery.allClearTicks + 1 else 0⟩
      else s.recovery := by
  cases completes : s.dwellCompletes with
  | true =>
    rw [recoveryDwell_completes completes, if_pos rfl]
    exact congrArg Register.recovery (completeRecovery_register s.countDwell)
  | false =>
    rw [recoveryDwell_waits completes, if_neg Bool.false_ne_true]
    by_cases pending : s.recovery.pending = true
    · simp only [pending, if_true]
    · simp only [if_neg pending]

/-- What a tick leaves of a recovery: nothing once it completes or a fault is entered. -/
theorem tick_recovery (lib : External R) (s : TickCore R) (rx : Option (RxSample R))
    (pending : Option (Target R)) (consumeSuperseded : Bool) :
    (s.tick lib rx pending consumeSuperseded).2.recovery =
      if s.recovers lib rx pending consumeSuperseded ∨ s.faults lib rx pending consumeSuperseded then
        ⟨false, 0⟩
      else if s.recovery.pending then
        ⟨true, if (s.sign lib rx).clear then s.recovery.allClearTicks + 1 else 0⟩
      else s.recovery := by
  have before := beforeDwell_recovery lib s rx
  have early := (beforeDwell_entries lib s rx).cancels
  have dwelt : (s.beforeConsume lib rx).recovery = _ :=
    recoveryDwell_recovery (s.beforeDwell lib rx)
  have total : faultTotal (s.beforeConsume lib rx).health.bumpCounts = _ :=
    recoveryDwell_faultTotal (s.beforeDwell lib rx)
  have late := (afterDwell_entries lib s rx pending consumeSuperseded).cancels
  simp only [register] at early late
  rw [recovers_iff]
  by_cases completes : (s.beforeDwell lib rx).dwellCompletes = true
  · rw [if_pos (.inl completes)]
    rw [if_pos completes] at dwelt
    rcases late with ⟨-, kept⟩ | ⟨-, cancelled⟩
    · exact kept.trans dwelt
    · exact cancelled
  · rw [if_neg completes] at dwelt
    by_cases faults : s.faults lib rx pending consumeSuperseded = true
    · rw [if_pos (.inr faults)]
      rcases late with ⟨same, kept⟩ | ⟨-, cancelled⟩
      · have faulted : (s.sign lib rx).faulted = true := by
          simp only [TickCore.faults, decide_eq_true_eq] at faults
          simp only [sign, decide_eq_true_eq]
          omega
        rw [before, faulted] at dwelt
        exact kept.trans dwelt
      · exact cancelled
    · have calm : (s.sign lib rx).faulted = false := by
        simp only [TickCore.faults, decide_eq_true_eq, not_not] at faults
        simp only [sign, decide_eq_false_iff_not, not_not]
        omega
      rw [if_neg (by simp [completes, faults])]
      rcases late with ⟨-, kept⟩ | ⟨more, -⟩
      · rw [kept, dwelt, before, sign_clear, calm]
        simp only [Bool.false_eq_true, if_false, Bool.not_false, Bool.true_and]
      · simp only [TickCore.faults, decide_eq_true_eq, not_not] at faults
        omega

end TickCore

/-! ### Runs -/

/-- The ticks so far, newest first, and how many of them came after the latest request that
is neither completed nor cancelled. -/
structure RecoveryWatch (R : Type) where
  core : TickCore R
  signs : List Sign
  since : Option Nat
  requests : Nat

namespace RecoveryWatch

variable {R : Type} [Field R] [LinearOrder R] [FloorRing R]

/-- Whether a request is accepted now. -/
def accepts (w : RecoveryWatch R) : Prop :=
  w.core.health.mode = .safeFollow ∨ w.core.health.mode = .rxSilent

instance (w : RecoveryWatch R) : Decidable w.accepts :=
  inferInstanceAs (Decidable (_ ∨ _))

def step (lib : External R) (w : RecoveryWatch R) (i : Input R) : RecoveryWatch R :=
  match i with
  | .tick rx pending consumeSuperseded =>
    { w with
      core := (w.core.tick lib rx pending consumeSuperseded).2
      signs := w.core.sign lib rx :: w.signs
      since :=
        if w.core.recovers lib rx pending consumeSuperseded ∨
          w.core.faults lib rx pending consumeSuperseded then none
        else w.since.map (· + 1) }
  | .requestRecover =>
    if w.accepts then
      { w with core := w.core.requestRecover, since := some 0, requests := w.requests + 1 }
    else { w with core := w.core.requestRecover }
  | i => { w with core := w.core.apply lib i }

def machine (lib : External R) (cfg : RtCoreConfig R) :
    Machine (RecoveryWatch R) (Input R) where
  start := ⟨.new cfg, [], none, 0⟩
  step := fun w i => some (w.step lib i)

/-- Any input at any moment. -/
def anyInput (_ : RecoveryWatch R) (_ : Input R) : Prop := True

/-- A request under way has ended no dwell yet. -/
structure Waiting (w : RecoveryWatch R) (age : Nat) : Prop where
  /-- The dwell counter is the length of the clear streak since the request. -/
  streak : ∀ k, k ≤ w.core.recovery.allClearTicks ↔ Dwelt k age w.signs
  early : ∀ k, ¬ Dwelt w.core.dwellTicks (age - k) (w.signs.drop k)

structure Sound (w : RecoveryWatch R) : Prop where
  pending : w.core.recovery.pending = w.since.isSome
  waiting : ∀ age ∈ w.since, w.Waiting age
  /-- Each completion used up a request of its own. -/
  spent : w.core.health.bumpCounts .recoveryComplete + (if w.since.isSome then 1 else 0) ≤ w.requests

/-- When this tick completes a recovery. -/
theorem Sound.recovers_iff {w : RecoveryWatch R} (sound : w.Sound) (lib : External R)
    (rx : Option (RxSample R)) (pending : Option (Target R)) (consumeSuperseded : Bool) :
    w.core.recovers lib rx pending consumeSuperseded = true ↔
      ∃ age ∈ w.since, FirstDwelt w.core.dwellTicks (age + 1) (w.core.sign lib rx :: w.signs) := by
  rw [TickCore.recovers_iff, TickCore.dwellCompletes_iff, sound.pending, Option.isSome_iff_exists]
  have real := w.core.dwellTicks_pos
  obtain ⟨less, ticks⟩ := Nat.exists_eq_add_one_of_ne_zero real.ne'
  constructor
  · rintro ⟨⟨age, since⟩, clear, long⟩
    have waiting := sound.waiting age since
    refine ⟨age, since, ?_, ?_⟩
    · rw [ticks] at long ⊢
      exact dwelt_cons.mpr ⟨clear, (waiting.streak less).mp (Nat.le_of_succ_le_succ long)⟩
    · intro k later
      obtain ⟨j, rfl⟩ := Nat.exists_eq_add_one_of_ne_zero later.ne'
      rw [Nat.add_sub_add_right, List.drop_succ_cons]
      exact waiting.early j
  · rintro ⟨age, since, dwelt, -⟩
    have waiting := sound.waiting age since
    rw [ticks] at dwelt ⊢
    obtain ⟨clear, older⟩ := dwelt_cons.mp dwelt
    exact ⟨⟨age, since⟩, clear, Nat.succ_le_succ ((waiting.streak less).mpr older)⟩

/-- The streak after a tick, from the streak before it. -/
theorem Waiting.streaks {w : RecoveryWatch R} {age count : Nat} {sign : Sign}
    (waiting : w.Waiting age)
    (counts : count = if sign.clear = true then w.core.recovery.allClearTicks + 1 else 0) (k : Nat) :
    k ≤ count ↔ Dwelt k (age + 1) (sign :: w.signs) := by
  cases k with
  | zero => exact iff_of_true (Nat.zero_le _) dwelt_zero
  | succ k =>
    rw [dwelt_cons, ← waiting.streak k, counts]
    by_cases clear : sign.clear = true
    · rw [if_pos clear]
      exact ⟨fun long => ⟨clear, Nat.le_of_succ_le_succ long⟩, fun h => Nat.succ_le_succ h.2⟩
    · rw [if_neg clear]
      exact iff_of_false (Nat.not_succ_le_zero k) fun h => clear h.1

theorem tick_sound (lib : External R) {w : RecoveryWatch R} (sound : w.Sound)
    (rx : Option (RxSample R)) (pending : Option (Target R)) (consumeSuperseded : Bool) :
    (w.step lib (.tick rx pending consumeSuperseded)).Sound := by
  have recovery := TickCore.tick_recovery lib w.core rx pending consumeSuperseded
  have ticks := TickCore.tick_dwellTicks lib w.core rx pending consumeSuperseded
  have counted := TickCore.tick_completions lib w.core rx pending consumeSuperseded
  have first := sound.recovers_iff lib rx pending consumeSuperseded
  have spent := sound.spent
  rw [← TickCore.recovers_iff lib w.core rx pending consumeSuperseded]
    at counted
  simp only [step]
  generalize (w.core.tick lib rx pending consumeSuperseded).2 = after at *
  by_cases ended : w.core.recovers lib rx pending consumeSuperseded = true ∨
      w.core.faults lib rx pending consumeSuperseded = true
  · rw [if_pos ended] at recovery
    simp only [if_pos ended]
    constructor
    · exact congrArg Recovery.pending recovery
    · nofun
    · show after.health.bumpCounts .recoveryComplete + 0 ≤ w.requests
      rw [counted]
      split
      · rename_i recovers
        obtain ⟨age, since, -⟩ := first.mp recovers
        rw [Option.mem_def.mp since] at spent
        exact spent
      · omega
  · rw [if_neg ended] at recovery
    obtain ⟨unrecovered, -⟩ := not_or.mp ended
    simp only [if_neg ended]
    have waits : after.recovery.pending = w.core.recovery.pending := by
      rw [recovery]
      split
      · rename_i pending
        exact pending.symm
      · rfl
    constructor
    · rw [waits, sound.pending, Option.isSome_map]
    · intro age aged
      obtain ⟨older, since, rfl⟩ := Option.mem_map.mp aged
      have waiting := sound.waiting older since
      have requested : w.core.recovery.pending = true := by
        rw [sound.pending, Option.mem_def.mp since, Option.isSome_some]
      rw [if_pos requested] at recovery
      constructor
      · exact waiting.streaks (congrArg Recovery.allClearTicks recovery)
      · intro k dwelt
        rw [ticks] at dwelt
        cases k with
        | succ j =>
          rw [Nat.add_sub_add_right, List.drop_succ_cons] at dwelt
          exact waiting.early j dwelt
        | zero =>
          apply unrecovered
          refine first.mpr ⟨older, since, dwelt, ?_⟩
          intro k later
          obtain ⟨j, rfl⟩ := Nat.exists_eq_add_one_of_ne_zero later.ne'
          rw [Nat.add_sub_add_right, List.drop_succ_cons]
          exact waiting.early j
    · rw [counted, if_neg unrecovered, Option.isSome_map]
      exact spent

theorem step_sound {lib : External R} {w : RecoveryWatch R} {i : Input R} (sound : w.Sound) :
    (w.step lib i).Sound := by
  cases i with
  | tick rx pending consumeSuperseded => exact tick_sound lib sound rx pending consumeSuperseded
  | requestRecover =>
    by_cases accepts : w.accepts
    · have requested : w.step lib .requestRecover =
          { w with
            core := { w.core with recovery := ⟨true, 0⟩ }
            since := some 0
            requests := w.requests + 1 } := by
        simp only [step, if_pos accepts, TickCore.requestRecover, if_pos (show _ ∨ _ from accepts)]
      rw [requested]
      constructor
      · rfl
      · rintro age ⟨⟩
        constructor
        · intro k
          constructor
          · intro empty
            rw [Nat.le_zero.mp empty]
            exact dwelt_zero
          · exact fun dwelt => dwelt.1
        · intro k
          rw [Nat.zero_sub]
          exact not_dwelt_zero (TickCore.dwellTicks_pos _)
      · have spent := sound.spent
        show w.core.health.bumpCounts .recoveryComplete + 1 ≤ w.requests + 1
        split at spent <;> omega
    · have ignored : w.step lib .requestRecover = w := by
        simp only [step, if_neg accepts, TickCore.requestRecover,
          if_neg (show ¬ (_ ∨ _) from accepts)]
      rw [ignored]
      exact sound
  | beginStreaming qMeas | requestStop | requestHold | kick | heartbeat =>
    exact ⟨sound.pending, fun age since => ⟨(sound.waiting age since).streak,
      (sound.waiting age since).early⟩, sound.spent⟩

theorem start_sound (lib : External R) (cfg : RtCoreConfig R) :
    (machine lib cfg).start.Sound where
  pending := rfl
  waiting := nofun
  spent := le_rfl

/-- What a reachable state promises of the tick that comes next. -/
structure AntiFlap (lib : External R) (w : RecoveryWatch R) (rx : Option (RxSample R))
    (pending : Option (Target R)) (consumeSuperseded : Bool) : Prop where
  completes : w.core.recovers lib rx pending consumeSuperseded = true ↔
    ∃ age ∈ w.since, FirstDwelt w.core.dwellTicks (age + 1) (w.core.sign lib rx :: w.signs)
  well : w.core.recovers lib rx pending consumeSuperseded = true →
    (w.core.beforeConsume lib rx).health.fault = .none ∧
      (w.core.beforeConsume lib rx).health.mode = .hold
  /-- No request completes two recoveries. -/
  spent : (w.core.tick lib rx pending consumeSuperseded).2.health.bumpCounts .recoveryComplete ≤
    w.requests
  /-- A gate that kills within every dwell lets none complete. -/
  flaps : (∃ sign ∈ (w.core.sign lib rx :: w.signs).take w.core.dwellTicks, sign.killed = true) →
    w.core.recovers lib rx pending consumeSuperseded = false

/-- Whatever the gates, the packets and the requests: a recovery completes on the first tick
that ends a whole dwell of clear ticks, all of them after a request still pending. -/
theorem recovery_completes_on_first_dwell (lib : External R) (cfg : RtCoreConfig R)
    (w : RecoveryWatch R) (reached : (machine lib cfg).Reachable anyInput w)
    (rx : Option (RxSample R)) (pending : Option (Target R)) (consumeSuperseded : Bool) :
    w.AntiFlap lib rx pending consumeSuperseded := by
  have sound : w.Sound := by
    apply reached.invariant (start_sound lib cfg)
    intro a b i sound _ moved
    cases moved
    exact step_sound sound
  have completes := sound.recovers_iff lib rx pending consumeSuperseded
  constructor
  · exact completes
  · exact TickCore.recovers_well
  · have after := (tick_sound lib sound rx pending consumeSuperseded).spent
    exact (Nat.le_add_right _ _).trans after
  · rintro ⟨sign, member, killed⟩
    rw [Bool.eq_false_iff, ne_eq, completes]
    rintro ⟨age, -, ⟨-, clear⟩, -⟩
    have calm := clear sign member
    simp only [Sign.clear, killed, Bool.not_true, Bool.false_and, Bool.false_eq_true] at calm

instance (w : RecoveryWatch R) (i : Input R) : Decidable (anyInput w i) :=
  inferInstanceAs (Decidable True)

/-- Two ticks of dwell. -/
def shortDwellConfig : RtCoreConfig ℚ :=
  { (defaultRtCoreConfig : RtCoreConfig ℚ) with antiflapDwellMs := 16 }

/-- A pendant gate, its release and a request: the second clear tick recovers. -/
theorem recovery_completes_on_first_dwell_pendant : ∃ w : RecoveryWatch ℚ,
    w.AntiFlap benchExternal (some (benchRx benchGates 0)) none false ∧
      w.core.recovers benchExternal (some (benchRx benchGates 0)) none false = true := by
  obtain ⟨w, reached, tested⟩ := Machine.reachable_of_test
    (machine benchExternal shortDwellConfig) anyInput
    [.beginStreaming 0, .tick (some (benchRx pendantGates 0)) none false, benchTick none,
      .requestRecover, benchTick none]
    (fun w : RecoveryWatch ℚ =>
      w.core.recovers benchExternal (some (benchRx benchGates 0)) none false)
    (by decide +kernel) (by decide +kernel)
  exact ⟨w, recovery_completes_on_first_dwell benchExternal shortDwellConfig w reached
    (some (benchRx benchGates 0)) none false, tested⟩

end RecoveryWatch

end AiroFanuc.RtCore
