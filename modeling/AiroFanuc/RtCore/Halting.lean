import AiroFanuc.RtCore.Handover
import AiroFanuc.RtCore.GuardScope

/-! A brake under way: nothing a tick does before its mailbox starts it over, and only a
target or a request puts the core back into motion. -/

namespace AiroFanuc.RtCore

open TickEngine

/-- The brake, and the guard that could seed it again. -/
structure Halt (R : Type) where
  mode : Mode
  brake : Brake R
  armed : Bool

namespace Halt

variable {R : Type} {a b c : Halt R}

/-- Braking or safed, with no guard armed. -/
def stopping (a : Halt R) : Prop :=
  a.armed = false ∧ (a.mode = .brake ∨ a.mode = .safeFollow ∨ a.mode = .rxSilent)

/-- A brake that still runs runs on from where it was. -/
def Keeps (a b : Halt R) : Prop := a.stopping → b.stopping ∧ (b.mode = .brake → b = a)

theorem Keeps.refl (a : Halt R) : a.Keeps a := fun stops => ⟨stops, fun _ => rfl⟩

theorem Keeps.of_eq (same : b = a) : a.Keeps b := by
  rw [same]
  exact .refl a

theorem Keeps.trans (first : a.Keeps b) (second : b.Keeps c) : a.Keeps c := by
  intro stops
  have middle := first stops
  have last := second middle.1
  refine ⟨last.1, ?_⟩
  intro braking
  have same := last.2 braking
  rw [same] at braking ⊢
  exact middle.2 braking

/-- A fault or the park takes the brake over. -/
theorem Keeps.safed (disarmed : b.armed = false) (mode : b.mode = .safeFollow ∨ b.mode = .rxSilent) :
    a.Keeps b := by
  refine fun _ => ⟨⟨disarmed, .inr mode⟩, ?_⟩
  intro braking
  rcases mode with follow | park
  · exact Mode.noConfusion (braking.symm.trans follow)
  · exact Mode.noConfusion (braking.symm.trans park)

end Halt

namespace TickCore

variable {R : Type} [Field R] [LinearOrder R] [FloorRing R]

def halt (s : TickCore R) : Halt R := ⟨s.health.mode, s.brake.brake, s.forceGuard.armed⟩

omit [Field R] [LinearOrder R] [FloorRing R] in
theorem resolveActive_halt (s : TickCore R) (st : MotionStatus) :
    (s.resolveActive st).halt = s.halt := by
  rw [resolveActive_shape]
  rfl

theorem ingestRx_halts (s : TickCore R) (rx : Option (RxSample R)) :
    s.halt.Keeps (s.ingestRx rx).halt := by
  cases rx with
  | none => exact .refl _
  | some r =>
    have observed : ((s.takeRx r).observeGates r.gates).halt = s.halt := by
      simp only [observeGates, gateEvents_shape]
      rfl
    simp only [ingestRx, processGates]
    split
    · split
      · exact .of_eq observed
      · exact .safed rfl (.inl rfl)
    · exact .of_eq observed

omit [FloorRing R] in
theorem answerStop_halts (s : TickCore R) : s.halt.Keeps s.answerStop.halt := by
  unfold answerStop
  split
  · cases mode : s.health.mode with
    | hold | capture | trajectory | servo =>
      rintro ⟨-, stops⟩
      simp [halt, mode] at stops
    | brake =>
      simp only [mode]
      exact .of_eq (resolveActive_halt { s with ops.stopRequested := false } .stopped)
    | streamDown | preroll | safeFollow | rxSilent =>
      simp only [mode]
      exact .refl _
  · exact .refl _

omit [FloorRing R] in
theorem answerHold_halts (s : TickCore R) : s.halt.Keeps s.answerHold.halt := by
  unfold answerHold
  split
  · cases mode : s.health.mode with
    | capture | trajectory | servo =>
      rintro ⟨-, stops⟩
      simp [halt, mode] at stops
    | hold | brake | streamDown | preroll | safeFollow | rxSilent =>
      simp only [mode]
      exact .refl _
  · exact .refl _

omit [Field R] [LinearOrder R] [FloorRing R] in
theorem answerKick_halt (s : TickCore R) : s.answerKick.halt = s.halt := by
  unfold answerKick
  split <;> rfl

omit [Field R] [LinearOrder R] [FloorRing R] in
theorem answerHeartbeat_halt (s : TickCore R) : s.answerHeartbeat.halt = s.halt := by
  unfold answerHeartbeat
  split <;> rfl

theorem handleRxSilence_halts (s : TickCore R) : s.halt.Keeps s.handleRxSilence.halt := by
  simp only [handleRxSilence]
  split
  · exact .refl _
  · split
    · exact .refl _
    · split
      · exact .safed rfl (.inr rfl)
      · split
        · exact .safed rfl (.inl rfl)
        · exact .refl _

theorem handleDeadman_halts (s : TickCore R) : s.halt.Keeps s.handleDeadman.halt := by
  simp only [handleDeadman]
  split
  · exact .refl _
  · split
    · exact .safed rfl (.inl rfl)
    · exact .refl _

theorem handleSupervisorLiveness_halts (s : TickCore R) :
    s.halt.Keeps s.handleSupervisorLiveness.halt := by
  simp only [handleSupervisorLiveness]
  split
  · exact .refl _
  · split
    · exact .refl _
    · split
      · exact .safed rfl (.inl rfl)
      · exact .refl _

omit [FloorRing R] in
/-- An unarmed guard does not trip. -/
theorem handleForceGuard_halts (lib : External R) (s : TickCore R) (rx : RxSample R) :
    s.halt.Keeps (s.handleForceGuard lib rx).halt := by
  intro stops
  have disarmed : s.forceGuard.armed = false := stops.1
  rw [handleForceGuard, if_pos (.inl disarmed)]
  exact ⟨stops, fun _ => rfl⟩

theorem beforeDwell_halts (lib : External R) (s : TickCore R) (rx : Option (RxSample R)) :
    s.halt.Keeps (s.beforeDwell lib rx).halt := by
  have ingested : s.halt.Keeps (s.countTick.ingestRx rx).halt := ingestRx_halts s.countTick rx
  simp only [beforeDwell]
  generalize s.countTick.ingestRx rx = a at *
  have answered : a.halt.Keeps a.answerStop.answerHold.answerKick.answerHeartbeat.halt := by
    rw [answerHeartbeat_halt, answerKick_halt]
    exact (answerStop_halts a).trans (answerHold_halts _)
  generalize a.answerStop.answerHold.answerKick.answerHeartbeat = b at *
  have watched : b.halt.Keeps b.handleRxSilence.handleDeadman.handleSupervisorLiveness.halt :=
    ((handleRxSilence_halts b).trans (handleDeadman_halts _)).trans
      (handleSupervisorLiveness_halts _)
  have early := (ingested.trans answered).trans watched
  cases rx with
  | none => exact early
  | some r => exact early.trans (handleForceGuard_halts lib _ r)

/-- Behind the dwell a brake that runs is the one that ran before the tick. -/
theorem beforeConsume_halts (lib : External R) {s : TickCore R} {rx : Option (RxSample R)}
    (stops : s.halt.stopping) (braking : (s.beforeConsume lib rx).health.mode = .brake) :
    s.health.mode = .brake ∧ (s.beforeConsume lib rx).brake.brake = s.brake.brake := by
  have waits : (s.beforeDwell lib rx).dwellCompletes = false := by
    by_contra completes
    have dwelt := beforeConsume_control lib s rx
    rw [if_pos (by simpa using completes)] at dwelt
    have held : (s.beforeConsume lib rx).health.mode = .hold := congrArg Control.mode dwelt
    exact Mode.noConfusion (held.symm.trans braking)
  have dwell : (s.beforeConsume lib rx).halt = (s.beforeDwell lib rx).halt := by
    rw [beforeConsume, recoveryDwell_waits waits]
    split
    · split <;> rfl
    · rfl
  have same := (beforeDwell_halts lib s rx stops).2 ((congrArg Halt.mode dwell).symm.trans braking)
  constructor
  · exact (congrArg Halt.mode same).symm.trans ((congrArg Halt.mode dwell).symm.trans braking)
  · exact (congrArg Halt.brake dwell).trans (congrArg Halt.brake same)

/-! ### In motion -/

/-- A motion is played, or a brake runs. -/
def inMotion (s : TickCore R) : Prop :=
  s.health.mode = .capture ∨ s.health.mode = .trajectory ∨ s.health.mode = .brake

instance (s : TickCore R) : Decidable s.inMotion := inferInstanceAs (Decidable (_ ∨ _ ∨ _))

/-- A dispatch never starts a motion. -/
theorem dispatchMode_rests (lib : External R) {s : TickCore R} (rests : ¬ s.inMotion) :
    ¬ (s.dispatchMode lib).2.inMotion := by
  have unrolled : ¬ s.reel.rolls := by
    rintro (capture | trajectory)
    · exact rests (.inl capture)
    · exact rests (.inr (.inl trajectory))
  have idle := dispatchMode_idle lib unrolled
  rintro (capture | trajectory | braking)
  · exact idle (.inl capture)
  · exact idle (.inr trajectory)
  unfold dispatchMode at braking
  cases mode : s.health.mode with
  | capture => exact rests (.inl mode)
  | trajectory => exact rests (.inr (.inl mode))
  | brake => exact rests (.inr (.inr mode))
  | streamDown | preroll | rxSilent | hold =>
    simp only [mode] at braking
    cases braking
  | servo =>
    have still : s.reissueServo.health.mode = .servo := congrArg Control.mode
      (reissueServo_control s) |>.trans mode
    simp only [mode, dispatchServo] at braking
    split at braking
    · cases braking
    · exact Mode.noConfusion (still.symm.trans braking)
  | safeFollow =>
    have still := congrArg Control.mode (dispatchSafeFollow_control s)
    simp only [mode] at braking
    exact Mode.noConfusion (mode.symm.trans (still.symm.trans braking))

/-- A brake is never entered with the guard still armed. -/
theorem brake_disarmed {lib : External R} {cfg : RtCoreConfig R}
    {legal : TickCore R → Input R → Prop} {s : TickCore R}
    (reached : (machine lib cfg).Reachable legal s) (braking : s.health.mode = .brake) :
    s.forceGuard.armed = false := by
  have guarded : s.control.forceArmed = true → s.control.guards := by
    refine reached.invariant (I := fun a => a.control.forceArmed = true → a.control.guards) nofun ?_
    intro a b i kept _ moved
    cases moved
    cases i with
    | tick rx pending superseded =>
      apply tick_invariant (I := fun c => c.forceArmed = true → c.guards) _ _ _ kept
      · exact fun c d guarded moves => moves.guards guarded
      · exact fun _ _ _ => .inr rfl
      · intro before
        rw [consumePending_control]
        cases pending with
        | none => exact before
        | some t =>
          simp only [consume_control]
          split
          · exact before
          · split
            · exact before
            · exact Control.accept_guards before
    | beginStreaming qMeas => exact fun _ => .inr rfl
    | requestRecover =>
      simp only [TickCore.apply, requestRecover]
      split <;> exact kept
    | requestStop | requestHold | kick | heartbeat => exact kept
  by_contra armed
  have guards := guarded (by simpa [control] using armed)
  simp [Control.guards, control, braking] at guards

end TickCore

end AiroFanuc.RtCore
