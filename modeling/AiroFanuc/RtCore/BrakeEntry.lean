import AiroFanuc.RtCore.FaultCoast
import AiroFanuc.RtCore.StandingGates
import AiroFanuc.TickEngine.Passage

/-! What a brake is entered with: the state in which the path that produced the last command was
left, except behind the end of a trajectory too short for its first command, in the nanosecond
before a knot that is looked up too early, and out of a fault's ramp. -/

namespace AiroFanuc.RtCore

open TickEngine Library

section Profile

variable {R : Type} [Field R] [LinearOrder R] [FloorRing R]

/-- What Ruckig puts out on a call that does not fail: the value of the profile it computed at the
call's instant, and its first two derivatives there. -/
structure Profiled (lib : External R) (itpS : R) (history : List (InputParameter R))
    (inp : InputParameter R) (x : HermiteSample R) : Prop where
  works : ∀ code, (lib.ruckig itpS history inp).1 ≠ .error code
  state : x = ⟨(lib.ruckig itpS history inp).2.newPosition,
    (lib.ruckig itpS history inp).2.newVelocity, (lib.ruckig itpS history inp).2.newAcceleration⟩

/-- Every knot the generator's loop adds is such a state. -/
theorem captureLoop_profiled (lib : External R) (itpS : R) (room : Nat)
    (history : List (InputParameter R)) (inp : InputParameter R) (out : CapturePath R) :
    ∃ added, (captureLoop lib itpS room history inp out).knots = out.knots ++ added ∧
      ∀ x ∈ added, ∃ history inp, Profiled lib itpS history inp x := by
  induction room generalizing history inp out with
  | zero => exact ⟨[], (List.append_nil _).symm, nofun⟩
  | succ room ih =>
    have sound (works : ∀ code, (lib.ruckig itpS history inp).1 ≠ .error code) :
        ∃ history' inp', Profiled lib itpS history' inp'
          ⟨(lib.ruckig itpS history inp).2.newPosition, (lib.ruckig itpS history inp).2.newVelocity,
            (lib.ruckig itpS history inp).2.newAcceleration⟩ := ⟨history, inp, works, rfl⟩
    simp only [captureLoop]
    split
    · exact ⟨[], (List.append_nil _).symm, nofun⟩
    · rename_i finished
      refine ⟨[_], rfl, ?_⟩
      intro x member
      rw [List.mem_singleton.mp member]
      exact sound fun code failed => by cases finished.symm.trans failed
    · rename_i working
      obtain ⟨added, knots, profiled⟩ := ih (history ++ [inp])
        ((lib.ruckig itpS history inp).2.passToInput inp)
        { out with
          result := .working
          knots := out.knots ++ [⟨(lib.ruckig itpS history inp).2.newPosition,
            (lib.ruckig itpS history inp).2.newVelocity,
            (lib.ruckig itpS history inp).2.newAcceleration⟩] }
      refine ⟨_ :: added, knots.trans (List.append_assoc _ _ _), ?_⟩
      intro x member
      rcases List.mem_cons.mp member with rfl | later
      · exact sound fun code failed => by cases working.symm.trans failed
      · exact profiled x later

/-- Only the first knot of a splice is not one. -/
theorem generateCapturePath_profiled (lib : External R) (qCmd qdCmd q0 qd0 : Vec6 R)
    (cfg : TickEngineConfig R) {k : Nat} {x : HermiteSample R} (later : 1 ≤ k)
    (found : (generateCapturePath lib qCmd qdCmd q0 qd0 cfg).knots[k]? = some x) :
    ∃ history inp, Profiled lib cfg.itpS history inp x := by
  obtain ⟨added, knots, profiled⟩ := captureLoop_profiled lib cfg.itpS (CapturePath.kMaxKnots - 1)
    [] (captureInput qCmd qdCmd q0 qd0 cfg)
    { (CapturePath.cleared : CapturePath R) with
      knots := [⟨qCmd, qdCmd, (captureInput qCmd qdCmd q0 qd0 cfg).currentAcceleration⟩] }
  obtain ⟨i, rfl⟩ : ∃ i, k = i + 1 := ⟨k - 1, by omega⟩
  have behind : (generateCapturePath lib qCmd qdCmd q0 qd0 cfg).knots[i + 1]? = added[i]? := by
    rw [generateCapturePath, knots]
    rfl
  exact profiled x (List.mem_of_getElem? (behind.symm.trans found))

end Profile

/-! ### The path a tick plays -/

namespace TickCore

variable {R : Type} [Field R] [LinearOrder R] [FloorRing R]

/-- A splice that is used up hands over to its trajectory before it is dispatched. -/
def playing (c : TickCore R) : TickCore R :=
  match c.health.mode with
  | .capture =>
    match c.splice.capture.knots[c.splice.captureIdx]? with
    | some _ => c
    | none => c.installTrajectory c.splice.capturedTarget
  | _ => c

/-- The state in which the playback passes its clock. -/
def Plays (d : TickCore R) (x : HermiteSample R) : Prop :=
  match d.playback.trajPhase with
  | .playing => d.playback.sampler.Passes d.playback.speedScale d.playback.tauNs x
  | .endBlend => d.qdBlend.Passes d.playback.tauBlendNs x
  | .settling => x = .atRest d.playback.qHold

/-- The state in which the path that a dispatch plays passes the instant it commands. Off the
stream and in the re-anchor phase there is no path: the arm rests where it is put. -/
def Rides (lib : External R) (c : TickCore R) (x : HermiteSample R) : Prop :=
  match c.playing.health.mode with
  | .streamDown | .preroll | .rxSilent => x.qd = 0 ∧ x.qdd = 0
  | .hold => x = .atRest c.anchor.qCmd
  | .capture => ∃ history inp, Profiled lib c.itp history inp x
  | .trajectory => c.playing.Plays x
  | .servo =>
    Profiled lib c.reissueServo.servo.servo.cfg.itpS c.reissueServo.servo.servo.history
      c.reissueServo.servo.servo.inp x
  | .brake => Profiled lib c.brake.brake.cfg.itpS c.brake.brake.history c.brake.brake.inp x
  | .safeFollow =>
    match c.follow.phase with
    | .ramp => c.qdBlend.Passes c.follow.tauNs x
    | .reanchor => x.qd = 0 ∧ x.qdd = 0

/-- The state a dispatch leaves behind it. -/
def played (lib : External R) (c : TickCore R) : HermiteSample R :=
  ⟨(c.dispatchMode lib).1, (c.dispatchMode lib).2.anchor.qdCmd,
    (c.dispatchMode lib).2.anchor.qddCmd⟩

end TickCore

end AiroFanuc.RtCore
