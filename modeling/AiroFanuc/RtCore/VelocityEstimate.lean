import AiroFanuc.Library.LastWritten
import AiroFanuc.RtCore.LoopSteps

/-! The velocity that the RT loop estimates from its last packets, and what it is worth when
several of them were drained in one burst. -/

namespace AiroFanuc.RtCore

open TickEngine Library

/-- The history as the thread keeps it: `velT[i]` and `velQ[i]` are one packet's. -/
structure VelTaps (R : Type) where
  velT : ℕ → ℤ
  velQ : ℕ → Vec6 R
  velCount : ℕ
  velHead : ℕ

variable {R : Type} [Field R] [LinearOrder R] [FloorRing R]

namespace VelTaps

def new : VelTaps R := ⟨fun _ => 0, fun _ => 0, 0, 0⟩

def record (taps : VelTaps R) (rxMono : ℤ) (qMeas : Vec6 R) : VelTaps R where
  velT := Function.update taps.velT taps.velHead rxMono
  velQ := Function.update taps.velQ taps.velHead qMeas
  velCount := if taps.velCount < kVelTaps then taps.velCount + 1 else taps.velCount
  velHead := (taps.velHead + 1) % kVelTaps

/-- `slope_estimate` on the slots: the newest is behind the head, the oldest `velCount` back. -/
def slope (taps : VelTaps R) : Vec6 R :=
  if taps.velCount < 2 then 0
  else
    let newest := (taps.velHead + kVelTaps - 1) % kVelTaps
    let oldest := (taps.velHead + kVelTaps * kVelTaps - taps.velCount) % kVelTaps
    let dt : R := ((taps.velT newest - taps.velT oldest : ℤ) : R) / 10 ^ 9
    if dt ≤ 0 then 0 else fun j => (taps.velQ newest j - taps.velQ oldest j) / dt

/-- The slots hold the last of the packets, newest first. -/
structure Holds (taps : VelTaps R) (packets : List (ℤ × Vec6 R)) : Prop where
  count : taps.velCount = min kVelTaps packets.length
  head : taps.velHead = packets.length % kVelTaps
  times : Keeps kVelTaps taps.velT (packets.map Prod.fst)
  joints : Keeps kVelTaps taps.velQ (packets.map Prod.snd)

omit [LinearOrder R] [FloorRing R] in
theorem new_holds : (new : VelTaps R).Holds [] where
  count := rfl
  head := rfl
  times := keeps_nil _ _
  joints := keeps_nil _ _

variable {taps : VelTaps R} {packets : List (ℤ × Vec6 R)}

omit [Field R] [LinearOrder R] [FloorRing R] in
theorem Holds.record (held : taps.Holds packets) (rxMono : ℤ) (qMeas : Vec6 R) :
    (taps.record rxMono qMeas).Holds ((rxMono, qMeas) :: packets) := by
  constructor
  · simp only [VelTaps.record, held.count, List.length_cons, kVelTaps]
    split <;> omega
  · simp only [VelTaps.record, held.head, List.length_cons, Nat.mod_add_mod]
  · have written := held.times.write rxMono
    rw [List.length_map, ← held.head] at written
    exact written
  · have written := held.joints.write qMeas
    rw [List.length_map, ← held.head] at written
    exact written

omit [Field R] [LinearOrder R] [FloorRing R] in
/-- The slot that the packet `age` back is in. -/
theorem Holds.slot (held : taps.Holds packets) {age : ℕ} {packet : ℤ × Vec6 R}
    (kept : age < kVelTaps) (found : packets[age]? = some packet) :
    taps.velT ((packets.length - 1 - age) % kVelTaps) = packet.1 ∧
      taps.velQ ((packets.length - 1 - age) % kVelTaps) = packet.2 := by
  have time := held.times age packet.1 kept (by rw [List.getElem?_map, found]; rfl)
  have joint := held.joints age packet.2 kept (by rw [List.getElem?_map, found]; rfl)
  rw [List.length_map] at time joint
  exact ⟨time, joint⟩

end VelTaps

/-! ### The two packets of an estimate -/

/-- The oldest of the last `min kVelTaps n` packets. -/
def oldestTap (packets : List (ℤ × Vec6 R)) : Option (ℤ × Vec6 R) :=
  packets[min kVelTaps packets.length - 1]?

omit [Field R] [LinearOrder R] [FloorRing R] in
theorem getLast?_taps (packets : List (ℤ × Vec6 R)) :
    (packets.take kVelTaps).getLast? = oldestTap packets := by
  rw [List.getLast?_eq_getElem?, List.length_take, oldestTap]
  cases packets with
  | nil => rfl
  | cons packet rest =>
    rw [List.getElem?_take_of_lt]
    simp only [kVelTaps, List.length_cons]
    omega

omit [Field R] [LinearOrder R] [FloorRing R] in
theorem head?_taps (packets : List (ℤ × Vec6 R)) :
    (packets.take kVelTaps).head? = packets.head? := by
  cases packets <;> rfl

/-- Seconds from the older packet's arrival to the newer one's. -/
def elapsed (older newer : ℤ × Vec6 R) : R := ((newer.1 - older.1 : ℤ) : R) / 10 ^ 9

omit [FloorRing R] in
theorem slopeEstimate_few {packets : List (ℤ × Vec6 R)} (few : packets.length < 2) :
    slopeEstimate (packets.take kVelTaps) = 0 := by
  simp only [slopeEstimate]
  split
  · rw [if_pos]
    exact .inl (by rw [List.length_take]; omega)
  · rfl

omit [FloorRing R] in
theorem slopeEstimate_taps {packets : List (ℤ × Vec6 R)} {newer older : ℤ × Vec6 R}
    (many : 2 ≤ packets.length) (newest : packets.head? = some newer)
    (oldest : oldestTap packets = some older) :
    slopeEstimate (packets.take kVelTaps) =
      if elapsed older newer ≤ 0 then 0
      else fun j => (newer.2 j - older.2 j) / elapsed older newer := by
  have long : ¬ (packets.take kVelTaps).length < 2 := by
    rw [List.length_take, kVelTaps]
    omega
  simp only [slopeEstimate, head?_taps, getLast?_taps, newest, oldest, long, false_or]
  rfl

omit [Field R] [LinearOrder R] [FloorRing R] in
theorem oldestTap_some {packets : List (ℤ × Vec6 R)} (received : packets ≠ []) :
    ∃ older, oldestTap packets = some older := by
  have positive := List.length_pos_of_ne_nil received
  apply Option.isSome_iff_exists.mp
  rw [oldestTap, isSome_getElem?]
  simp only [kVelTaps]
  omega

omit [FloorRing R] in
/-- The slots give the slope that the list of packets does. -/
theorem VelTaps.Holds.slope {taps : VelTaps R} {packets : List (ℤ × Vec6 R)}
    (held : taps.Holds packets) : taps.slope = slopeEstimate (packets.take kVelTaps) := by
  by_cases few : packets.length < 2
  · rw [slopeEstimate_few few, VelTaps.slope, if_pos]
    rw [held.count]
    omega
  have many : 2 ≤ packets.length := not_lt.mp few
  have received : packets ≠ [] := List.ne_nil_of_length_pos (by omega)
  obtain ⟨newer, newest⟩ := Option.isSome_iff_exists.mp (List.isSome_head?.mpr received)
  obtain ⟨older, oldest⟩ := oldestTap_some received
  have newSlot : (taps.velHead + kVelTaps - 1) % kVelTaps = (packets.length - 1 - 0) % kVelTaps := by
    rw [held.head]
    simp only [kVelTaps]
    omega
  have oldSlot : (taps.velHead + kVelTaps * kVelTaps - taps.velCount) % kVelTaps =
      (packets.length - 1 - (min kVelTaps packets.length - 1)) % kVelTaps := by
    rw [held.head, held.count]
    simp only [kVelTaps]
    omega
  have new := held.slot (show 0 < kVelTaps by decide) (by rw [← newest, List.head?_eq_getElem?])
  have old := held.slot (by simp only [kVelTaps]; omega) oldest
  rw [slopeEstimate_taps many newest oldest]
  simp only [VelTaps.slope, newSlot, oldSlot, new, old]
  rw [if_neg (by rw [held.count]; simp only [kVelTaps]; omega)]
  rfl

/-- A velocity that is the difference quotient of the newest and the oldest kept packet, and that is
zero only with fewer than two packets or with equal positions in those two. -/
def Measures (packets : List (ℤ × Vec6 R)) (v : Vec6 R) : Prop :=
  ∀ newer older, packets.head? = some newer → oldestTap packets = some older →
    (∀ j, v j * elapsed older newer = newer.2 j - older.2 j) ∧
      (v = 0 → packets.length < 2 ∨ newer.2 = older.2)

/-- Time passed between the two packets of the estimate, unless there is no motion to miss. -/
def Timed (packets : List (ℤ × Vec6 R)) : Prop :=
  ∀ newer older, packets.head? = some newer → oldestTap packets = some older →
    packets.length < 2 ∨ older.1 < newer.1 ∨ newer.2 = older.2

section Ordered

variable [IsStrictOrderedRing R]

theorem elapsed_pos {older newer : ℤ × Vec6 R} : 0 < elapsed older newer ↔ older.1 < newer.1 := by
  have second : (0 : R) < 10 ^ 9 := by positivity
  rw [elapsed, div_pos_iff_of_pos_right second, Int.cast_pos]
  omega

omit [Field R] [LinearOrder R] [FloorRing R] [IsStrictOrderedRing R] in
/-- With one packet the newest is the oldest. -/
theorem oldestTap_single {packets : List (ℤ × Vec6 R)} {newer older : ℤ × Vec6 R}
    (few : packets.length < 2) (newest : packets.head? = some newer)
    (oldest : oldestTap packets = some older) : newer = older := by
  match packets, few with
  | [packet], _ =>
    cases newest
    cases oldest
    rfl

/-- The estimate from the packets is what it should be exactly when it was timed. -/
theorem measures_iff (packets : List (ℤ × Vec6 R)) :
    Measures packets (slopeEstimate (packets.take kVelTaps)) ↔ Timed packets := by
  constructor
  · intro measured newer older newest oldest
    obtain ⟨quotient, zero⟩ := measured newer older newest oldest
    by_cases few : packets.length < 2
    · exact .inl few
    by_cases later : older.1 < newer.1
    · exact .inr (.inl later)
    -- Without elapsed time the fallback is zero, which the claim allows with equal positions only.
    have still := elapsed_pos.not.mpr later
    rw [slopeEstimate_taps (not_lt.mp few) newest oldest, if_pos (not_lt.mp still)] at zero
    exact (zero rfl).imp_right .inr
  · intro timed newer older newest oldest
    by_cases few : packets.length < 2
    · have same := oldestTap_single few newest oldest
      subst same
      refine ⟨fun j => ?_, fun _ => .inl few⟩
      rw [slopeEstimate_few few, Pi.zero_apply, zero_mul, sub_self]
    rw [slopeEstimate_taps (not_lt.mp few) newest oldest]
    by_cases passed : 0 < elapsed older newer
    · rw [if_neg (not_le.mpr passed)]
      refine ⟨fun j => div_mul_cancel₀ _ passed.ne', ?_⟩
      intro none
      right
      funext j
      have quotient : (newer.2 j - older.2 j) / elapsed older newer = 0 := congrFun none j
      rw [div_eq_zero_iff, or_iff_left passed.ne'] at quotient
      exact sub_eq_zero.mp quotient
    · have same : newer.2 = older.2 := by
        rcases timed newer older newest oldest with one | later | same
        · exact absurd one few
        · exact absurd (elapsed_pos.mpr later) passed
        · exact same
      rw [if_pos (not_lt.mp passed)]
      refine ⟨fun j => ?_, fun _ => .inr same⟩
      rw [same, sub_self, Pi.zero_apply, zero_mul]

end Ordered

/-! ### What the steps of the loop do to the history -/

namespace RealtimeCore

omit [FloorRing R] in
theorem ingestPacket_history (s : RealtimeCore R) (rxMono : ℤ) (view : RobotStatusView R) :
    (s.ingestPacket rxMono view).velTaps =
        ((rxMono, view.qMeas) :: s.velTaps).take kVelTaps ∧
      (s.ingestPacket rxMono view).rx = some (view.sample s.core.cfg rxMono
        (slopeEstimate (((rxMono, view.qMeas) :: s.velTaps).take kVelTaps))) := by
  unfold ingestPacket
  dsimp only
  split
  · exact ⟨rfl, rfl⟩
  · exact ⟨rfl, rfl⟩

/-- Only a packet writes to the history; any other step keeps the sample or drops it. -/
theorem Takes.history {lib : External R} {s t : RealtimeCore R} {l : Label R}
    (taken : Takes lib s l t) (silent : ∀ rxMono view, l ≠ .packet rxMono view) :
    t.velTaps = s.velTaps ∧ (t.rx = s.rx ∨ t.rx = none) := by
  cases taken with
  | packet rxMono view phase => exact absurd rfl (silent rxMono view)
  | exit phase flagged =>
    unfold RealtimeCore.exit
    split
    · exact ⟨rfl, .inl rfl⟩
    · exact ⟨rfl, .inl rfl⟩
  | exchange op rest phase =>
    rcases exchange_shape s op with ⟨-, same⟩ | ⟨-, forwarded⟩
    · rw [same]
      exact ⟨rfl, .inl rfl⟩
    · rw [forwarded]
      exact ⟨rfl, .inl rfl⟩
  | pop last phase =>
    rcases pop_shape s last with ⟨-, same⟩ | ⟨_, _, _, _, -, popped⟩
    · rw [same]
      exact ⟨rfl, .inl rfl⟩
    · rw [popped]
      exact ⟨rfl, .inl rfl⟩
  | settle last cmd phase =>
    obtain ⟨_, _, _, _, settled⟩ := settle_shape s last cmd
    rw [settled]
    exact ⟨rfl, .inr rfl⟩
  | push t stage =>
    rcases pushMailbox_shape s t with ⟨-, pushed⟩ | ⟨-, dropped⟩
    · rw [pushed]
      exact ⟨rfl, .inl rfl⟩
    · rw [dropped]
      exact ⟨rfl, .inl rfl⟩
  | start => exact ⟨rfl, .inr rfl⟩
  | stop | join | clear | timer | check | tick | submitTrajectory | submit | name | date | stamp
  | stopBump | stopStore | request | reap | drainEvents => exact ⟨rfl, .inl rfl⟩

/-- A tick reads the velocity of its sample. -/
theorem runTick_measured (lib : External R) (s : RealtimeCore R) (last : Option (Target R))
    (consumeSuperseded : Bool) {rx : RxSample R} (fresh : s.rx = some rx) :
    (s.runTick lib last consumeSuperseded).core.measured.qdEst = rx.qdEst := by
  have frame := congrArg (fun f : Frame R => f.measured.qdEst)
    (TickCore.tick_frame lib s.core (some rx) last consumeSuperseded)
  have ticked : (s.runTick lib last consumeSuperseded).core =
      (s.core.tick lib (some rx) last consumeSuperseded).2 := by
    rw [← fresh]
    rfl
  rw [ticked]
  refine frame.trans ?_
  dsimp only
  rw [TickCore.ingestRx_frame]

end RealtimeCore

/-! ### The loop under watch -/

/-- What one tick was given: the sample's velocity, what the core then read it as, the slope the
slots gave, and the packets accepted up to then. -/
structure GivenEstimate (R : Type) where
  given : Vec6 R
  read : Vec6 R
  slope : Vec6 R
  packets : List (ℤ × Vec6 R)

/-- The loop beside the slots of its history and every packet it accepted, newest first. -/
structure EstimateWatch (R : Type) where
  rt : RealtimeCore R
  taps : VelTaps R
  packets : List (ℤ × Vec6 R)
  estimates : List (GivenEstimate R)

namespace EstimateWatch

def observe (w : EstimateWatch R) (t : RealtimeCore R) : Label R → EstimateWatch R
  | .packet rxMono view =>
    { w with
      rt := t
      taps := w.taps.record rxMono view.qMeas
      packets := (rxMono, view.qMeas) :: w.packets }
  | .tick =>
    match w.rt.rx with
    | some rx =>
      { w with
        rt := t
        estimates := ⟨rx.qdEst, t.core.measured.qdEst, w.taps.slope, w.packets⟩ :: w.estimates }
    | none => { w with rt := t }
  | _ => { w with rt := t }

def machine (lib : External R) (cfg : RtCoreConfig R) : Machine (EstimateWatch R) (Label R) where
  start := ⟨.new cfg, .new, [], []⟩
  step := fun w l => (w.rt.step lib l).map fun t => w.observe t l

/-- The slots and the loop's list hold the packets, and every estimate was theirs. -/
structure Sound (w : EstimateWatch R) : Prop where
  holds : w.taps.Holds w.packets
  history : w.rt.velTaps = w.packets.take kVelTaps
  sampled : ∀ rx, w.rt.rx = some rx → rx.qdEst = w.taps.slope
  estimates : ∀ e ∈ w.estimates, e.read = e.given ∧ e.given = e.slope ∧
    e.slope = slopeEstimate (e.packets.take kVelTaps)

omit [FloorRing R] in
theorem start_sound (cfg : RtCoreConfig R) :
    Sound (⟨.new cfg, .new, [], []⟩ : EstimateWatch R) where
  holds := VelTaps.new_holds
  history := rfl
  sampled := nofun
  estimates := nofun

variable {lib : External R} {cfg : RtCoreConfig R} {w : EstimateWatch R}

omit [FloorRing R] in
/-- A step that takes no packet and hands none to the core. -/
theorem Sound.quiet (sound : w.Sound) {t : RealtimeCore R} (history : t.velTaps = w.rt.velTaps)
    (sample : t.rx = w.rt.rx ∨ t.rx = none) : Sound { w with rt := t } where
  holds := sound.holds
  history := history.trans sound.history
  sampled := by
    intro rx fresh
    rcases sample with same | dropped
    · exact sound.sampled rx (same.symm.trans fresh)
    · cases dropped.symm.trans fresh
  estimates := sound.estimates

omit [FloorRing R] in
theorem Sound.packet (sound : w.Sound) (rxMono : ℤ) (view : RobotStatusView R) :
    Sound (w.observe (w.rt.ingestPacket rxMono view) (.packet rxMono view)) := by
  obtain ⟨history, sample⟩ := w.rt.ingestPacket_history rxMono view
  have held := sound.holds.record rxMono view.qMeas
  have kept : ((rxMono, view.qMeas) :: w.rt.velTaps).take kVelTaps =
      ((rxMono, view.qMeas) :: w.packets).take kVelTaps := by
    rw [sound.history]
    simp only [kVelTaps, List.take_succ_cons, List.take_take]
    rfl
  rw [kept] at history sample
  refine ⟨held, history, ?_, sound.estimates⟩
  intro rx fresh
  cases sample.symm.trans fresh
  exact held.slope.symm

theorem Sound.tick (sound : w.Sound) (last : Option (Target R)) (consumeSuperseded : Bool) :
    Sound (w.observe (w.rt.runTick lib last consumeSuperseded) .tick) := by
  unfold observe
  dsimp only
  cases fresh : w.rt.rx with
  | none => exact sound.quiet rfl (.inl rfl)
  | some rx =>
    refine ⟨sound.holds, sound.history, sound.sampled, ?_⟩
    intro e member
    rcases List.mem_cons.mp member with rfl | earlier
    · exact ⟨w.rt.runTick_measured lib last consumeSuperseded fresh, sound.sampled rx fresh,
        sound.holds.slope⟩
    · exact sound.estimates e earlier

theorem sound_of_step {t : EstimateWatch R} {l : Label R} (sound : w.Sound)
    (moved : (machine lib cfg).step w l = some t) : t.Sound := by
  obtain ⟨rt, stepped, rfl⟩ := Option.map_eq_some_iff.mp moved
  have taken := RealtimeCore.step_takes stepped
  cases l with
  | packet rxMono view =>
    cases taken
    exact sound.packet rxMono view
  | tick =>
    cases taken
    exact sound.tick _ _
  | _ =>
    obtain ⟨history, sample⟩ := taken.history nofun
    exact sound.quiet history sample

theorem sound_of_reachable {legal : EstimateWatch R → Label R → Prop}
    (reached : (machine lib cfg).Reachable legal w) : w.Sound :=
  reached.invariant (start_sound cfg) fun _ _ _ sound _ moved => sound_of_step sound moved

/-- Every velocity a tick is given is the slope of the slots, and it measures the motion between the
newest packet and the oldest kept one exactly when these two arrived at different times, or are
fewer than two, or stand at one pose. -/
theorem estimate_measures_iff [IsStrictOrderedRing R] {legal : EstimateWatch R → Label R → Prop}
    (reached : (machine lib cfg).Reachable legal w) {e : GivenEstimate R} (given : e ∈ w.estimates) :
    e.given = e.slope ∧ e.read = e.given ∧ (Measures e.packets e.given ↔ Timed e.packets) := by
  obtain ⟨read, slope, estimate⟩ := (sound_of_reachable reached).estimates e given
  refine ⟨slope, read, ?_⟩
  rw [slope, estimate]
  exact measures_iff e.packets

/-- An arm a degree further on with every packet, its packets at these times. -/
def benchBurst (times : List ℤ) : List (Label ℚ) :=
  times.zipIdx.map fun (t, i) => .packet t (benchView 1 0 i)

/-- Two packets 8 ms apart measure a velocity. -/
theorem estimate_measures_iff_window : ∃ (w : EstimateWatch ℚ) (e : GivenEstimate ℚ),
    e ∈ w.estimates ∧ e.packets.length = 2 ∧ e.given ≠ 0 ∧ Measures e.packets e.given := by
  obtain ⟨w, reached, tested⟩ := Machine.reachable_of_run
    (machine benchExternal defaultRtCoreConfig) ([.start] ++ benchBurst [0, 8000000] ++ benchWindow 0)
    (fun w : EstimateWatch ℚ => w.estimates.any fun e =>
      decide (e.packets.length = 2) && decide (e.given 0 ≠ 0) &&
        decide ((e.packets.map Prod.fst) = [8000000, 0]))
    (by decide +kernel)
  obtain ⟨e, given, shown⟩ := List.any_eq_true.mp tested
  simp only [Bool.and_eq_true, decide_eq_true_eq] at shown
  obtain ⟨⟨two, moving⟩, arrived⟩ := shown
  have timed : Timed e.packets := by
    intro newer older newest oldest
    refine .inr (.inl ?_)
    match packets : e.packets, two with
    | [second, first], _ =>
      rw [packets] at arrived newest oldest
      cases newest
      cases oldest
      simp only [List.map_cons, List.map_nil, List.cons.injEq] at arrived
      omega
  exact ⟨w, e, given, two, fun none => moving (congrFun none 0),
    (estimate_measures_iff reached given).2.2.mpr timed⟩

/-- After a late wake-up the five packets of one burst push out what came before them: the arm that
moved a degree with each is given to the core at rest. -/
theorem burst_reads_at_rest : ¬ ∀ w : EstimateWatch ℚ,
    (machine benchExternal defaultRtCoreConfig).Reachable (fun _ _ => True) w →
      ∀ e ∈ w.estimates, Measures e.packets e.given := by
  intro measured
  obtain ⟨w, reached, tested⟩ := Machine.reachable_of_run
    (machine benchExternal defaultRtCoreConfig)
    ([.start] ++ benchBurst [0, 50000000, 50000000, 50000000, 50000000, 50000000] ++ benchWindow 0)
    (fun w : EstimateWatch ℚ => w.estimates.any fun e =>
      decide (∀ j, e.given j = 0) && decide (e.packets.length = 6) &&
        decide ((e.packets.head?.map fun packet => packet.2 0) ≠
          (oldestTap e.packets).map fun packet => packet.2 0))
    (by decide +kernel)
  obtain ⟨e, given, shown⟩ := List.any_eq_true.mp tested
  simp only [Bool.and_eq_true, decide_eq_true_eq] at shown
  obtain ⟨⟨zero, six⟩, apart⟩ := shown
  have received : e.packets ≠ [] := List.ne_nil_of_length_pos (by omega)
  obtain ⟨newer, newest⟩ := Option.isSome_iff_exists.mp (List.isSome_head?.mpr received)
  obtain ⟨older, oldest⟩ := oldestTap_some received
  rcases (measured w reached e given newer older newest oldest).2 (funext zero) with few | same
  · omega
  · rw [newest, oldest] at apart
    exact apart (congrArg some (congrFun same 0))

end EstimateWatch

end AiroFanuc.RtCore
