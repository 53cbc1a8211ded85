import AiroFanuc.RtCore.Run

/-! Mode, fault and motion agree: what the five fields say of one another. -/

namespace AiroFanuc.RtCore

open TickEngine Library

namespace Control

variable {c d : Control}

/-- The agreement of the fields a tick leaves behind. -/
structure Agrees (c : Control) : Prop where
  fault : c.fault = .none ↔ ¬ c.safed
  recovery : c.recoveryPending = true → c.safed
  idle : c.safed ∨ c.mode = .streamDown ∨ c.mode = .hold → ¬ c.running
  playing : c.plays ↔ c.active.motionId ≠ 0 ∧ c.running

/-- The invariant behind the agreement, move by move. -/
structure Sound (c : Control) : Prop where
  guarded : c.Guarded
  recovery : c.recoveryPending = true → c.safed
  owned : c.plays ↔ c.running
  named : c.running → c.active.motionId ≠ 0

theorem Sound.idle (sound : c.Sound) (still : ¬ c.plays) : ¬ c.running :=
  fun runs => still (sound.owned.mpr runs)

theorem Sound.agrees (sound : c.Sound) : c.Agrees where
  fault := sound.guarded.fault
  recovery := sound.recovery
  idle := by
    intro resting
    refine sound.idle ?_
    rcases resting with (mode | mode) | mode | mode <;> simp [plays, mode]
  playing :=
    ⟨fun playing => ⟨sound.named (sound.owned.mp playing), sound.owned.mp playing⟩,
      fun tracked => sound.owned.mpr tracked.2⟩

theorem Move.sound (move : Move c d) (sound : c.Sound) : d.Sound := by
  have carried := move.carries sound.owned.mpr
  refine ⟨move.guarded sound.guarded, ?_, ?_, ?_⟩
  · have kept := sound.recovery
    have clear := sound.guarded.guard
    cases move with
    | fault cause st real ended => simp [faulted]
    | park => exact fun _ => .inr rfl
    | brake st armed ended =>
      intro pending
      have waiting : c.safed := kept (by simpa [braking] using pending)
      rcases armed with free | armed
      · exact absurd waiting free
      · exact absurd waiting (clear armed)
    | halt mode =>
      intro pending
      have waiting : c.safed := kept (by simpa [halted] using pending)
      simp [safed, mode] at waiting
    | play mode =>
      intro pending
      have waiting : c.safed := kept pending
      simp [safed, mode] at waiting
    | finish st playing ended =>
      intro pending
      have waiting : c.safed := kept (by simpa [rested] using pending)
      rcases playing with mode | mode | mode | ⟨mode, -⟩ <;> simp [safed, mode] at waiting
    | rest mode own =>
      intro pending
      have waiting : c.safed := kept (by simpa [rested] using pending)
      simp [safed, mode] at waiting
  · rcases carried with ⟨same, playing⟩ | ⟨ended, still⟩
    · rw [playing, sound.owned, running, running, same]
    · exact iff_of_false still ended
  · intro runs
    rcases carried with ⟨same, -⟩ | ⟨ended, -⟩
    · rw [same]
      rw [running, same] at runs
      exact sound.named runs
    · exact absurd runs ended

theorem Moves.sound (moved : Moves c d) (sound : c.Sound) : d.Sound :=
  Moves.invariant moved sound fun _ _ kept move => move.sound kept

/-- Recovery waits in a safed mode, where nothing runs. -/
theorem Sound.waiting_idle (sound : c.Sound) (pending : c.recoveryPending = true) :
    ¬ c.running := by
  refine sound.idle ?_
  rcases sound.recovery pending with mode | mode <;> simp [plays, mode]

theorem Sound.recovered (sound : c.Sound) (pending : c.recoveryPending = true) :
    c.recovered.Sound := by
  have idle := sound.waiting_idle pending
  refine ⟨⟨by simp [Control.recovered, rested], by simp [Control.recovered, rested]⟩,
    by simp [Control.recovered], ?_, fun runs => absurd runs idle⟩
  exact iff_of_false (by simp [plays, Control.recovered, rested]) idle

theorem Sound.refuse (sound : c.Sound) (idle : ¬ c.running) (motionId : Nat) :
    (c.refuse motionId).Sound := by
  have still : ¬ c.plays := fun playing => idle (sound.owned.mp playing)
  exact ⟨⟨sound.guarded.fault, sound.guarded.guard⟩, sound.recovery,
    iff_of_false still (by simp [Control.refuse]), by simp [Control.refuse]⟩

/-- Accepting a motion out of an unfaulted core, or a hold over no submitted brake. -/
theorem Sound.accept (sound : c.Sound) {kind : TargetKind} {motionId : Nat} (guard : Bool)
    (real : kind ≠ .none) (named : motionId ≠ 0) (free : kind ≠ .hold → ¬ c.safed)
    (brake : kind = .hold → ¬ (c.mode = .brake ∧ c.brakeIsMotion = true)) :
    (c.accept kind motionId guard).Sound := by
  have clear (moving : kind ≠ .hold) : c.fault = .none := sound.guarded.fault.mpr (free moving)
  have settled (moving : kind ≠ .hold) : c.recoveryPending = false := by
    by_contra pending
    exact free moving (sound.recovery (by simpa using pending))
  cases kind with
  | none => exact absurd rfl real
  | hold =>
    by_cases moving : c.mode = .capture ∨ c.mode = .trajectory ∨ c.mode = .servo
    · have unsafed : ¬ c.safed := by rcases moving with mode | mode | mode <;> simp [safed, mode]
      have braked : (c.braking .preempted).Sound :=
        (Move.brake c .preempted (.inl unsafed) (by decide)).sound sound
      simp only [Control.accept, moving, if_true]
      exact ⟨⟨braked.guarded.fault, braked.guarded.guard⟩, braked.recovery,
        iff_of_false (by simp [plays, braking]) (by simp), by simp⟩
    · simp only [Control.accept, moving, if_false]
      refine ⟨⟨sound.guarded.fault, sound.guarded.guard⟩, sound.recovery,
        iff_of_false ?_ (by simp), by simp⟩
      rintro (mode | mode | mode | submitted)
      · exact moving (.inl mode)
      · exact moving (.inr (.inl mode))
      · exact moving (.inr (.inr mode))
      · exact brake rfl submitted
  | trajectory | servo | brake =>
    have fault := clear (by decide)
    have quiet := settled (by decide)
    simp only [Control.accept]
    exact ⟨⟨by simp [fault], by simp⟩, by simp [quiet], by simp [plays], by simp [named]⟩

end Control

namespace TickCore

variable {R : Type} [Field R] [LinearOrder R] [FloorRing R]

/-- Submitted motions have non-zero ids. -/
def namesMotions (_ : TickCore R) : Input R → Prop
  | .tick _ (some t) _ => t.kind = .none ∨ t.motionId ≠ 0
  | _ => True

/-- The inputs after which the fields cannot come apart: no target is refused while a
motion runs, no hold is laid over a submitted brake, and streaming begins with neither
a motion running nor a recovery pending. -/
def keepsAgreement (lib : External R) (s : TickCore R) : Input R → Prop
  | .tick rx (some t) consumeSuperseded =>
    let s := s.beforeConsume lib rx
    if s.refuses lib t consumeSuperseded then t.kind ≠ .none → s.active.status ≠ .running
    else t.kind = .hold → ¬ (s.health.mode = .brake ∧ s.brake.isMotion = true)
  | .beginStreaming _ => s.active.status ≠ .running ∧ s.recovery.pending = false
  | _ => True

instance (s : TickCore R) (i : Input R) : Decidable (s.namesMotions i) :=
  match i with
  | .tick _ (some t) _ => inferInstanceAs (Decidable (t.kind = .none ∨ t.motionId ≠ 0))
  | .tick _ none _ | .requestStop | .requestHold | .requestRecover | .kick | .heartbeat
  | .beginStreaming _ => inferInstanceAs (Decidable True)

instance (lib : External R) (s : TickCore R) (i : Input R) : Decidable (s.keepsAgreement lib i) :=
  match i with
  | .tick rx (some t) consumeSuperseded =>
    let s := s.beforeConsume lib rx
    if refusing : s.refuses lib t consumeSuperseded = true then
      decidable_of_iff (t.kind ≠ .none → s.active.status ≠ .running)
        (by simp only [keepsAgreement, s, if_pos refusing])
    else
      decidable_of_iff (t.kind = .hold → ¬ (s.health.mode = .brake ∧ s.brake.isMotion = true))
        (by simp only [keepsAgreement, s, if_neg refusing])
  | .beginStreaming _ =>
    inferInstanceAs (Decidable (s.active.status ≠ .running ∧ s.recovery.pending = false))
  | .tick _ none _ | .requestStop | .requestHold | .requestRecover | .kick | .heartbeat =>
    inferInstanceAs (Decidable True)

omit [LinearOrder R] [FloorRing R] in
theorem new_sound (cfg : RtCoreConfig R) : (new cfg).control.Sound :=
  ⟨⟨by simp [control, new], by simp [control, new]⟩, by simp [control, new],
    iff_of_false (by simp [control, new]) (by simp [control, new]), by simp [control, new]⟩

omit [Field R] [LinearOrder R] [FloorRing R] in
theorem refusesMotion_of_safed {s : TickCore R} (safed : s.control.safed) :
    s.refusesMotion = true := by
  simp only [refusesMotion, decide_eq_true_eq]
  exact .inr safed

theorem consumePending_sound {lib : External R} {s : TickCore R} {t : Target R}
    {consumeSuperseded : Bool} (named : t.kind = .none ∨ t.motionId ≠ 0)
    (refused : s.refuses lib t consumeSuperseded = true → t.kind ≠ .none →
      s.active.status ≠ .running)
    (held : s.refuses lib t consumeSuperseded = false → t.kind = .hold →
      ¬ (s.health.mode = .brake ∧ s.brake.isMotion = true))
    (sound : s.control.Sound) :
    (s.consumePending lib (some t) consumeSuperseded).control.Sound := by
  rw [consumePending_control]
  simp only [consume_control]
  by_cases absent : t.kind = .none
  · rw [if_pos absent]
    exact sound
  rw [if_neg absent]
  by_cases refusing : s.refuses lib t consumeSuperseded = true
  · rw [if_pos refusing]
    exact sound.refuse (refused refusing absent) t.motionId
  · rw [if_neg refusing]
    refine sound.accept _ absent (named.resolve_left absent) (fun moving safed => ?_)
      (held (Bool.eq_false_of_not_eq_true refusing))
    exact refusing (refuses_of_refusesMotion moving (refusesMotion_of_safed safed))

theorem tick_sound {lib : External R} {s : TickCore R} {rx : Option (RxSample R)}
    {pending : Option (Target R)} {consumeSuperseded : Bool}
    (named : s.namesMotions (.tick rx pending consumeSuperseded))
    (legal : s.keepsAgreement lib (.tick rx pending consumeSuperseded))
    (sound : s.control.Sound) : (s.tick lib rx pending consumeSuperseded).2.control.Sound := by
  refine tick_invariant (fun c d kept moved => moved.sound kept) ?_ ?_ sound
  · intro completes kept
    refine kept.recovered ?_
    simp only [dwellCompletes, Bool.and_eq_true] at completes
    exact completes.1.1
  · intro kept
    cases pending with
    | none => exact kept
    | some t =>
      simp only [keepsAgreement] at legal
      refine consumePending_sound named (fun refusing => ?_) (fun accepted => ?_) kept
      · rwa [if_pos refusing] at legal
      · rwa [if_neg (by simp [accepted])] at legal

omit [Field R] [LinearOrder R] [FloorRing R] in
theorem requestRecover_sound {s : TickCore R} (sound : s.control.Sound) :
    s.requestRecover.control.Sound := by
  unfold requestRecover
  split
  · rename_i safed
    exact ⟨⟨sound.guarded.fault, sound.guarded.guard⟩, fun _ => safed, sound.owned, sound.named⟩
  · exact sound

omit [LinearOrder R] [FloorRing R] in
theorem beginStreaming_sound {s : TickCore R} {qMeas : Vec6 R}
    (idle : s.active.status ≠ .running) (settled : s.recovery.pending = false)
    (sound : s.control.Sound) : (s.beginStreaming qMeas).control.Sound :=
  ⟨⟨by simp [beginStreaming, control], by simp [beginStreaming, control]⟩,
    by simp [beginStreaming, control, settled],
    iff_of_false (by simp [beginStreaming, control]) idle, sound.named⟩

theorem apply_sound {lib : External R} {s : TickCore R} {i : Input R}
    (named : s.namesMotions i) (legal : s.keepsAgreement lib i) (sound : s.control.Sound) :
    (s.apply lib i).control.Sound := by
  cases i with
  | tick rx pending consumeSuperseded => exact tick_sound named legal sound
  | requestStop | requestHold | kick | heartbeat => exact sound
  | requestRecover => exact requestRecover_sound sound
  | beginStreaming qMeas => exact beginStreaming_sound legal.1 legal.2 sound

theorem reachable_sound {lib : External R} {cfg : RtCoreConfig R} {s : TickCore R}
    (reached : (machine lib cfg).Reachable
      (fun s i => s.namesMotions i ∧ s.keepsAgreement lib i) s) : s.control.Sound := by
  refine reached.invariant (I := fun s : TickCore R => s.control.Sound) (new_sound cfg) ?_
  intro a b i sound legal moved
  cases moved
  exact apply_sound legal.1 legal.2 sound

/-- In every run whose inputs keep to the condition, the fields agree after every input,
and no recovery ends while a motion plays. -/
theorem mode_fault_and_motion_agree (lib : External R) (cfg : RtCoreConfig R) (s : TickCore R)
    (reached : (machine lib cfg).Reachable
      (fun s i => s.namesMotions i ∧ s.keepsAgreement lib i) s) :
    s.control.Agrees ∧ ∀ rx, (s.beforeDwell lib rx).dwellCompletes = true →
      (s.beforeDwell lib rx).active.status ≠ .running := by
  have sound := reachable_sound reached
  refine ⟨sound.agrees, fun rx completes => ?_⟩
  have early := (beforeDwell_moves lib s rx).sound sound
  refine early.waiting_idle ?_
  simp only [dwellCompletes, Bool.and_eq_true] at completes
  exact completes.1.1

/-- A servo stream on the bench. -/
def servoRun : List (Input ℚ) := [.beginStreaming 0, benchTick (some (benchServo 1 0))]

theorem mode_fault_and_motion_agree_servoing :
    ∃ s : TickCore ℚ, s.active = ⟨1, .running⟩ ∧ s.control.Agrees := by
  obtain ⟨s, reached, playing⟩ := Machine.reachable_of_test (machine benchExternal defaultRtCoreConfig)
    (fun s i => s.namesMotions i ∧ s.keepsAgreement benchExternal i) servoRun
    (fun s => decide (s.active = ⟨1, .running⟩))
    (by decide +kernel) (by decide +kernel)
  exact ⟨s, of_decide_eq_true playing,
    (mode_fault_and_motion_agree benchExternal defaultRtCoreConfig s reached).1⟩

/-- After every tick of every run the fields agree, and no recovery ends in a motion. -/
def FieldsAgree (lib : External R) (cfg : RtCoreConfig R) : Prop :=
  ∀ s, (machine lib cfg).Reachable namesMotions s → ∀ rx pending consumeSuperseded,
    s.namesMotions (.tick rx pending consumeSuperseded) →
    (s.tick lib rx pending consumeSuperseded).2.control.Agrees ∧
    ((s.beforeDwell lib rx).dwellCompletes = true → (s.beforeDwell lib rx).active.status ≠ .running)

/-- A trajectory refused at its start takes the slot of the servo stream that plays on. -/
theorem fields_disagree_after_refusal : ¬ FieldsAgree benchExternal defaultRtCoreConfig := by
  intro agree
  obtain ⟨s, reached, streams⟩ := Machine.reachable_of_test
    (machine benchExternal defaultRtCoreConfig) namesMotions servoRun (fun s =>
      let after := (s.tick benchExternal (some (benchRx benchGates 0))
        (some (benchTrajectory 2 0 (fun _ => 1))) false).2.control
      decide (after.mode = .servo ∧ after.active.status = .rejected))
    (by decide +kernel) (by decide +kernel)
  have named : s.namesMotions (.tick (some (benchRx benchGates 0))
      (some (benchTrajectory 2 0 (fun _ => 1))) false) := .inr (by decide)
  obtain ⟨agrees, -⟩ := agree s reached _ _ _ named
  obtain ⟨mode, refused⟩ := of_decide_eq_true streams
  have runs := (agrees.playing.mp (.inr (.inr (.inl mode)))).2
  rw [Control.running, refused] at runs
  cases runs

end TickCore

end AiroFanuc.RtCore
