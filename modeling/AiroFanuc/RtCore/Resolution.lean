import AiroFanuc.RtCore.Accounts
import AiroFanuc.RtCore.Frames
import AiroFanuc.RtCore.Run
import Mathlib.Data.List.Nodup

/-! Exactly-once resolution: a run of the core with its event ring drained into a log. -/

namespace AiroFanuc.RtCore

open TickEngine Library

/-- `taken` lists the motions the mailbox gave to `consume`; `played` is the one whose
motion the arm is executing, as an observer of the accepts and the mode tells it. -/
structure Journal (R : Type) where
  core : TickCore R
  log : List Event
  taken : List Nat
  played : Option Nat

def Input.target {R : Type} : Input R → Option (Target R)
  | .tick _ pending _ => pending
  | _ => none

def Input.takes {R : Type} (i : Input R) : List Nat :=
  match i.target with
  | some t => if t.kind = .none then [] else [t.motionId]
  | none => []

namespace Journal

variable {R : Type} [Field R] [LinearOrder R] [FloorRing R]

/-- Who plays now: the target just accepted, else the one that played before. -/
def nextPlayed (j : Journal R) (i : Input R) (core : TickCore R) : Option Nat :=
  if core.control.plays then
    match i.target with
    | none => j.played
    | some t =>
      if core.lastConsume.accepted then (if t.kind = .hold then none else some t.motionId)
      else j.played
  else none

def step (lib : External R) (j : Journal R) (i : Input R) : Journal R :=
  let core := j.core.apply lib i
  { core := { core with events := [] }
    log := j.log ++ core.events
    taken := i.takes ++ j.taken
    played := j.nextPlayed i core }

def machine (lib : External R) (cfg : RtCoreConfig R) : Machine (Journal R) (Input R) where
  start := ⟨.new cfg, [], [], none⟩
  step := fun j i => some (j.step lib i)

/-- Motion ids are non-zero and pairwise distinct. -/
def distinct (j : Journal R) (i : Input R) : Prop :=
  ∀ motionId ∈ i.takes, motionId ≠ 0 ∧ motionId ∉ j.taken

/-- No running motion is written over from outside: by a refused target, by the end of
a recovery, or by streaming beginning anew. -/
def keepsSlot (lib : External R) (j : Journal R) : Input R → Prop
  | .tick rx pending consumeSuperseded =>
    ((j.core.beforeDwell lib rx).dwellCompletes = true →
      (j.core.beforeDwell lib rx).active.status ≠ .running) ∧
    ∀ t ∈ pending, t.kind ≠ .none →
      (j.core.beforeConsume lib rx).refuses lib t consumeSuperseded = true →
      (j.core.beforeConsume lib rx).active.status ≠ .running
  | .beginStreaming _ => j.core.active.status ≠ .running
  | _ => True

/-- Every taken motion has been resolved once, the one still playing not at all. -/
def ExactlyOnce (j : Journal R) : Prop :=
  ∀ motionId ∈ j.taken, terminals j.log motionId = if j.played = some motionId then 0 else 1

/-- A running motion gives its slot to another only with its terminal event out. -/
def HandsOver (j k : Journal R) : Prop :=
  j.core.active.status = .running → k.core.active.motionId ≠ j.core.active.motionId →
    terminals k.log j.core.active.motionId = 1

structure Sound (j : Journal R) : Prop where
  drained : j.core.events = []
  ledger : ∀ motionId,
    terminals j.log motionId + owed j.core.active motionId = j.taken.count motionId
  nodup : j.taken.Nodup
  owned : j.core.control.running → j.core.control.plays
  played : j.played =
    if j.core.active.status = .running then some j.core.active.motionId else none

omit [Field R] [LinearOrder R] [FloorRing R] in
theorem Sound.owed_played {j : Journal R} (sound : j.Sound) (motionId : Nat) :
    owed j.core.active motionId = if j.played = some motionId then 1 else 0 := by
  rw [sound.played, owed]
  by_cases runs : j.core.active.status = .running
  · simp [runs]
  · simp [runs]

omit [Field R] [LinearOrder R] [FloorRing R] in
theorem Sound.exactlyOnce {j : Journal R} (sound : j.Sound) : j.ExactlyOnce := by
  intro motionId member
  have balance := sound.ledger motionId
  rw [sound.owed_played, List.count_eq_one_of_mem sound.nodup member] at balance
  split at balance
  · rename_i plays
    rw [if_pos plays]
    omega
  · rename_i rests
    rw [if_neg rests]
    omega

omit [Field R] [LinearOrder R] [FloorRing R] in
theorem Sound.running_taken {j : Journal R} (sound : j.Sound)
    (runs : j.core.active.status = .running) : j.core.active.motionId ∈ j.taken := by
  have balance := sound.ledger j.core.active.motionId
  rw [owed_running runs, fare, if_pos rfl] at balance
  exact List.count_pos_iff.mp (by omega)

omit [Field R] [LinearOrder R] [FloorRing R] in
theorem Sound.handsOver {j k : Journal R} (sound : j.Sound) (next : k.Sound)
    (kept : ∀ motionId ∈ j.taken, motionId ∈ k.taken) : j.HandsOver k := by
  intro runs other
  have resolved := next.exactlyOnce _ (kept _ (sound.running_taken runs))
  rw [resolved, if_neg]
  intro plays
  rw [next.played] at plays
  split at plays
  · exact other (Option.some.inj plays)
  · cases plays

/-! ### One tick -/

omit [Field R] [LinearOrder R] [FloorRing R] in
theorem takes_count (i : Input R) (motionId : Nat) :
    i.takes.count motionId = TickCore.tickFare i.target motionId := by
  unfold Input.takes TickCore.tickFare
  cases i.target with
  | none => rfl
  | some t =>
    simp only
    split
    · rfl
    · by_cases same : t.motionId = motionId
      · simp [fare, same]
      · simp [fare, same]

theorem tick_ledger {lib : External R} {j : Journal R} {rx : Option (RxSample R)}
    {pending : Option (Target R)} {consumeSuperseded : Bool} (sound : j.Sound)
    (legal : j.keepsSlot lib (.tick rx pending consumeSuperseded)) (motionId : Nat) :
    terminals (j.log ++ (j.core.tick lib rx pending consumeSuperseded).2.events) motionId +
        owed (j.core.tick lib rx pending consumeSuperseded).2.active motionId =
      ((Input.tick rx pending consumeSuperseded).takes ++ j.taken).count motionId := by
  have booked : motionLedger.Books 39 (TickCore.tickFare pending) j.core.books
      (j.core.tick lib rx pending consumeSuperseded).2.books := TickCore.tick_books legal.2
  have fits : (motionLedger.log j.core.books).length + 39 ≤ motionLedger.room := by
    simp [motionLedger, TickCore.books, sound.drained, kEventRoom]
  have balance := booked.balance fits motionId
  have before := sound.ledger motionId
  simp only [motionLedger, TickCore.books, sound.drained] at balance
  rw [terminals_append, List.count_append, takes_count]
  have empty : terminals [] motionId = 0 := rfl
  simp only [Input.target]
  omega

/-- The slot after `consume`: a refused or held target leaves no motion running. -/
theorem consumed_idle {lib : External R} {s : TickCore R} {t : Target R}
    {consumeSuperseded : Bool} (real : t.kind ≠ .none)
    (passed : s.refuses lib t consumeSuperseded = true ∨ t.kind = .hold) :
    ¬ (s.consume lib t consumeSuperseded).2.control.running := by
  rw [TickCore.consume_control, if_neg real]
  split
  · simp [Control.refuse]
  · rename_i admitted
    have hold := passed.resolve_left admitted
    simp [hold, Control.accept]

/-- The slot after `consume` admits a motion: it runs, under its own id. -/
theorem consumed_running {lib : External R} {s : TickCore R} {t : Target R}
    {consumeSuperseded : Bool} (real : t.kind ≠ .none) (moving : t.kind ≠ .hold)
    (admitted : s.refuses lib t consumeSuperseded = false) :
    (s.consume lib t consumeSuperseded).2.control.active = ⟨t.motionId, .running⟩ ∧
      (s.consume lib t consumeSuperseded).2.control.plays := by
  rw [TickCore.consume_control, if_neg real, if_neg (by simp [admitted])]
  cases kind : t.kind with
  | none => exact absurd kind real
  | hold => exact absurd kind moving
  | brake => exact ⟨rfl, .inr (.inr (.inr ⟨rfl, rfl⟩))⟩
  | servo => exact ⟨rfl, .inr (.inr (.inl rfl))⟩
  | trajectory => exact ⟨rfl, .inl rfl⟩

theorem beforeConsume_carries {lib : External R} {j : Journal R} {rx : Option (RxSample R)}
    (sound : j.Sound)
    (undisturbed : (j.core.beforeDwell lib rx).dwellCompletes = true →
      (j.core.beforeDwell lib rx).active.status ≠ .running) :
    Control.Carries j.core.control (j.core.beforeConsume lib rx).control := by
  have early := (TickCore.beforeDwell_moves lib j.core rx).carries sound.owned
  rw [TickCore.beforeConsume_control]
  split
  · rename_i completes
    exact early.trans (Control.recovered_carries (undisturbed completes))
  · exact early

theorem tick_accepted (lib : External R) (s : TickCore R) (rx : Option (RxSample R)) (t : Target R)
    (consumeSuperseded : Bool) :
    (s.tick lib rx (some t) consumeSuperseded).2.lastConsume.accepted =
      (decide (t.kind ≠ .none) && !(s.beforeConsume lib rx).refuses lib t consumeSuperseded) := by
  have verdict := congrArg Frame.lastConsume
    (TickCore.tick_frame lib s rx (some t) consumeSuperseded)
  simp only [TickCore.frame] at verdict
  rw [verdict, TickCore.consume_accepted]

/-- A refused target leaves nothing running and nobody new to observe. -/
theorem refused_observed {c d e : Control} {motionId : Nat} (carried : Control.Carries c d)
    (idle : ¬ d.running) (onward : Control.Carries (d.refuse motionId) e) :
    ¬ e.running ∧ (e.plays → ¬ c.running) := by
  have ended : ¬ (d.refuse motionId).running := by simp [Control.refuse]
  rcases onward with ⟨same, playing⟩ | ⟨rests, still⟩
  · refine ⟨by rwa [Control.running, same], fun plays runs => ?_⟩
    rcases carried with ⟨kept, -⟩ | ⟨-, silent⟩
    · exact idle (by rwa [Control.running, kept])
    · exact silent (playing.mp plays)
  · exact ⟨rests, fun plays => absurd plays still⟩

/-- After a tick the motion that runs is the one its observer sees playing. -/
theorem tick_played {lib : External R} {j : Journal R} {rx : Option (RxSample R)}
    {pending : Option (Target R)} {consumeSuperseded : Bool} (sound : j.Sound)
    (legal : j.keepsSlot lib (.tick rx pending consumeSuperseded)) :
    let core := (j.core.tick lib rx pending consumeSuperseded).2
    (core.control.running → core.control.plays) ∧
      j.nextPlayed (.tick rx pending consumeSuperseded) core =
        if core.active.status = .running then some core.active.motionId else none := by
  intro core
  have early := beforeConsume_carries sound legal.1
  have onward := TickCore.tick_moves lib j.core rx pending consumeSuperseded
  have played := sound.played
  rw [TickCore.consumePending_control] at onward
  simp only [nextPlayed, Input.target]
  cases pending with
  | none =>
    have carried := early.trans (onward.carries (early.played sound.owned))
    refine ⟨carried.played sound.owned, ?_⟩
    rw [played]
    exact carried.observed sound.owned
  | some t =>
    have verdict : core.lastConsume.accepted = _ :=
      tick_accepted lib j.core rx t consumeSuperseded
    by_cases absent : t.kind = .none
    · simp only [(TickCore.consume_ignored absent).2] at onward
      have carried := early.trans (onward.carries (early.played sound.owned))
      refine ⟨carried.played sound.owned, ?_⟩
      have unaccepted : core.lastConsume.accepted = false := by simp [verdict, absent]
      simp only [unaccepted, Bool.false_eq_true, if_false]
      rw [played]
      exact carried.observed sound.owned
    by_cases refusing : (j.core.beforeConsume lib rx).refuses lib t consumeSuperseded = true
    · have idle := legal.2 t rfl absent refusing
      simp only [TickCore.consume_control, if_neg absent, if_pos refusing] at onward
      obtain ⟨rests, silent⟩ := refused_observed early idle (onward.carries (by simp [Control.refuse]))
      refine ⟨fun runs => absurd runs rests, ?_⟩
      have unaccepted : core.lastConsume.accepted = false := by simp [verdict, refusing]
      simp only [unaccepted, Bool.false_eq_true, if_false]
      rw [if_neg (show ¬ core.active.status = .running from rests), played]
      by_cases plays : core.control.plays
      · rw [if_pos plays]
        exact if_neg (silent plays)
      · rw [if_neg plays]
    have admitted := Bool.eq_false_of_not_eq_true refusing
    have accepted : core.lastConsume.accepted = true := by simp [verdict, absent, admitted]
    simp only [accepted, if_true]
    by_cases hold : t.kind = .hold
    · have idle :
          ¬ ((j.core.beforeConsume lib rx).consume lib t consumeSuperseded).2.control.running :=
        consumed_idle absent (.inr hold)
      have rests : ¬ core.control.running := by
        rcases onward.carries (fun runs => absurd runs idle) with ⟨same, -⟩ | ⟨ended, -⟩
        · rwa [Control.running, same]
        · exact ended
      refine ⟨fun runs => absurd runs rests, ?_⟩
      rw [if_pos hold, ite_self]
      exact (if_neg rests).symm
    · obtain ⟨slot, plays⟩ : _ ∧ ((j.core.beforeConsume lib rx).consume lib t
          consumeSuperseded).2.control.plays := consumed_running absent hold admitted
      have carried := onward.carries fun _ => plays
      refine ⟨carried.played fun _ => plays, ?_⟩
      have observed := carried.observed fun _ => plays
      rw [slot, if_pos rfl] at observed
      rw [if_neg hold]
      exact observed

/-! ### Runs -/

omit [Field R] [LinearOrder R] [FloorRing R] in
theorem takes_nodup (i : Input R) : i.takes.Nodup := by
  unfold Input.takes
  split
  · split <;> simp
  · simp

theorem tick_sound {lib : External R} {j : Journal R} {rx : Option (RxSample R)}
    {pending : Option (Target R)} {consumeSuperseded : Bool} (sound : j.Sound)
    (fresh : j.distinct (.tick rx pending consumeSuperseded))
    (legal : j.keepsSlot lib (.tick rx pending consumeSuperseded)) :
    (j.step lib (.tick rx pending consumeSuperseded)).Sound where
  drained := rfl
  ledger := tick_ledger sound legal
  nodup := List.nodup_append'.mpr ⟨takes_nodup _, sound.nodup, fun _ new => (fresh _ new).2⟩
  owned := (tick_played sound legal).1
  played := (tick_played sound legal).2

omit [Field R] [LinearOrder R] [FloorRing R] in
/-- A call between ticks that touches neither the slot nor the mode. -/
theorem call_sound {j : Journal R} {core : TickCore R} (sound : j.Sound)
    (events : core.events = j.core.events) (active : core.active = j.core.active)
    (plays : core.control.plays ↔ j.core.control.plays) :
    (⟨{ core with events := [] }, j.log ++ core.events, [] ++ j.taken,
      if core.control.plays then j.played else none⟩ : Journal R).Sound where
  drained := rfl
  ledger := by
    intro motionId
    simp only [events, sound.drained, active, List.append_nil, List.nil_append]
    exact sound.ledger motionId
  nodup := sound.nodup
  owned := by
    intro runs
    exact plays.mpr (sound.owned (by rwa [Control.running, TickCore.control, active] at runs))
  played := by
    have owned := sound.owned
    simp only [active, sound.played]
    by_cases runs : j.core.active.status = .running
    · rw [if_pos runs, if_pos (plays.mpr (owned runs))]
    · rw [if_neg runs, ite_self]

theorem beginStreaming_sound {j : Journal R} {qMeas : Vec6 R} (sound : j.Sound)
    (idle : j.core.active.status ≠ .running) (lib : External R) :
    (j.step lib (.beginStreaming qMeas)).Sound where
  drained := rfl
  ledger := by
    intro motionId
    have balance := sound.ledger motionId
    simpa [step, TickCore.apply, TickCore.beginStreaming, sound.drained, Input.takes,
      Input.target] using balance
  nodup := sound.nodup
  owned := fun runs => absurd runs idle
  played := by
    have silent : ¬ (j.core.apply lib (.beginStreaming qMeas)).control.plays := by
      simp [TickCore.apply, TickCore.beginStreaming, TickCore.control, Control.plays]
    have rests : (j.step lib (.beginStreaming qMeas)).played = none := by
      simp only [step, nextPlayed]
      rw [if_neg silent]
    rw [rests]
    exact (if_neg idle).symm

theorem step_sound {lib : External R} {j : Journal R} {i : Input R} (sound : j.Sound)
    (fresh : j.distinct i) (legal : j.keepsSlot lib i) : (j.step lib i).Sound := by
  cases i with
  | tick rx pending consumeSuperseded => exact tick_sound sound fresh legal
  | requestStop | requestHold | kick | heartbeat => exact call_sound sound rfl rfl Iff.rfl
  | requestRecover =>
    have asked : j.core.requestRecover.events = j.core.events ∧
        j.core.requestRecover.active = j.core.active ∧
        (j.core.requestRecover.control.plays ↔ j.core.control.plays) := by
      unfold TickCore.requestRecover
      split
      · exact ⟨rfl, rfl, Iff.rfl⟩
      · exact ⟨rfl, rfl, Iff.rfl⟩
    exact call_sound sound asked.1 asked.2.1 asked.2.2
  | beginStreaming qMeas => exact beginStreaming_sound sound legal lib

theorem start_sound (lib : External R) (cfg : RtCoreConfig R) : (machine lib cfg).start.Sound where
  drained := rfl
  ledger := fun _ => rfl
  nodup := List.nodup_nil
  owned := by simp [machine, TickCore.new, TickCore.control]
  played := rfl

theorem reachable_sound {lib : External R} {cfg : RtCoreConfig R} {j : Journal R}
    (reached : (machine lib cfg).Reachable (fun j i => j.distinct i ∧ j.keepsSlot lib i) j) :
    j.Sound := by
  refine Machine.Reaches.invariant reached (start_sound lib cfg) ?_
  intro a b i sound legal moved
  cases moved
  exact step_sound sound legal.1 legal.2

/-- In every run that writes over no running motion, every motion is resolved exactly
once, and no later than it loses the slot. -/
theorem motions_resolve_exactly_once (lib : External R) (cfg : RtCoreConfig R) (j : Journal R)
    (reached : (machine lib cfg).Reachable (fun j i => j.distinct i ∧ j.keepsSlot lib i) j) :
    j.ExactlyOnce ∧
      ∀ i, j.distinct i → j.keepsSlot lib i → j.HandsOver (j.step lib i) := by
  have sound := reachable_sound reached
  refine ⟨sound.exactlyOnce, fun i fresh legal => ?_⟩
  exact sound.handsOver (step_sound sound fresh legal) fun _ member =>
    List.mem_append_right _ member

instance (j : Journal R) (i : Input R) : Decidable (j.distinct i) :=
  inferInstanceAs (Decidable (∀ motionId ∈ i.takes, motionId ≠ 0 ∧ motionId ∉ j.taken))

instance (lib : External R) (j : Journal R) (i : Input R) : Decidable (j.keepsSlot lib i) :=
  match i with
  | .tick rx pending consumeSuperseded =>
    inferInstanceAs (Decidable
      (((j.core.beforeDwell lib rx).dwellCompletes = true →
        (j.core.beforeDwell lib rx).active.status ≠ .running) ∧
      ∀ t ∈ pending, t.kind ≠ .none →
        (j.core.beforeConsume lib rx).refuses lib t consumeSuperseded = true →
        (j.core.beforeConsume lib rx).active.status ≠ .running))
  | .beginStreaming _ => inferInstanceAs (Decidable (j.core.active.status ≠ .running))
  | .requestStop | .requestHold | .requestRecover | .kick | .heartbeat =>
    inferInstanceAs (Decidable True)

/-- A servo target preempts the one before it, and a stop ends the second. -/
theorem motions_resolve_exactly_once_servoing :
    ∃ j : Journal ℚ, j.taken = [2, 1] ∧ j.played = none ∧ j.ExactlyOnce := by
  obtain ⟨j, reached, ended⟩ := Machine.reachable_of_test
    (machine benchExternal defaultRtCoreConfig)
    (fun j i => j.distinct i ∧ j.keepsSlot benchExternal i)
    [.beginStreaming 0, benchTick (some (benchServo 1 0)), benchTick (some (benchServo 2 0)),
      .requestStop, benchTick none]
    (fun j => decide (j.taken = [2, 1] ∧ j.played = none))
    (by decide +kernel) (by decide +kernel)
  obtain ⟨taken, rests⟩ := of_decide_eq_true ended
  exact ⟨j, taken, rests,
    (motions_resolve_exactly_once benchExternal defaultRtCoreConfig j reached).1⟩

/-- Whatever the run, motions resolve exactly once and hand the slot over resolved. -/
def ResolvesExactlyOnce (lib : External R) (cfg : RtCoreConfig R) : Prop :=
  ∀ j, (machine lib cfg).Reachable distinct j →
    j.ExactlyOnce ∧ ∀ i, j.distinct i → j.HandsOver (j.step lib i)

/-- A servo stream loses its slot to a trajectory refused at its start, and is then
stopped: its own terminal event never comes. -/
theorem refusal_loses_resolution :
    ¬ ResolvesExactlyOnce benchExternal defaultRtCoreConfig := by
  intro resolves
  obtain ⟨j, reached, lost⟩ := Machine.reachable_of_test
    (machine benchExternal defaultRtCoreConfig) distinct
    [.beginStreaming 0, benchTick (some (benchServo 1 0)),
      benchTick (some (benchTrajectory 2 0 (fun _ => 1))), .requestStop, benchTick none]
    (fun j => decide (1 ∈ j.taken ∧ j.played = none ∧ terminals j.log 1 = 0))
    (by decide +kernel) (by decide +kernel)
  obtain ⟨taken, rests, silent⟩ := of_decide_eq_true lost
  have once := (resolves j reached).1 1 taken
  rw [rests, silent, if_neg (by simp)] at once
  cases once

end Journal

end AiroFanuc.RtCore
