import AiroFanuc.RtCore.Config
import Mathlib.Logic.Relation

/-! The core as a state machine over six fields: what its mode, fault, active slot,
brake flag, pending recovery and armed force guard may do, whatever the arm does. -/

namespace AiroFanuc.RtCore

structure ActiveMotion where
  motionId : Nat
  status : MotionStatus
  deriving DecidableEq, Repr

structure Control where
  mode : Mode
  fault : FaultReason
  active : ActiveMotion
  brakeIsMotion : Bool
  recoveryPending : Bool
  forceArmed : Bool
  deriving DecidableEq, Repr

namespace Control

variable {c d e : Control}

abbrev running (c : Control) : Prop := c.active.status = .running

/-- The modes that play a submitted motion. -/
abbrev plays (c : Control) : Prop :=
  c.mode = .capture ∨ c.mode = .trajectory ∨ c.mode = .servo ∨
    (c.mode = .brake ∧ c.brakeIsMotion = true)

/-- Following the measured pose after a fault, or parked. -/
abbrev safed (c : Control) : Prop := c.mode = .safeFollow ∨ c.mode = .rxSilent

def resolve (c : Control) (st : MotionStatus) : Control :=
  if c.active.status = .running then { c with active := { c.active with status := st } } else c

def braking (c : Control) (st : MotionStatus) : Control :=
  { c.resolve st with mode := .brake, brakeIsMotion := false, forceArmed := false }

def halted (c : Control) : Control := { c.resolve .stopped with brakeIsMotion := false }

def rested (c : Control) : Control := { c with mode := .hold, brakeIsMotion := false }

def faulted (c : Control) (cause : FaultReason) (st : MotionStatus) : Control :=
  { c.resolve st with
    fault := cause
    mode := .safeFollow
    recoveryPending := false
    forceArmed := false }

def parked (c : Control) : Control :=
  { c.resolve .faulted with fault := .rxSilent, mode := .rxSilent, forceArmed := false }

def recovered (c : Control) : Control :=
  { c.rested with fault := .none, recoveryPending := false }

def refuse (c : Control) (motionId : Nat) : Control := { c with active := ⟨motionId, .rejected⟩ }

/-- An accepted target takes the slot; a hold that meets a motion brakes it. -/
def accept (c : Control) (kind : TargetKind) (motionId : Nat) (guard : Bool) : Control :=
  match kind with
  | .none => c
  | .hold =>
    let c := if c.mode = .capture ∨ c.mode = .trajectory ∨ c.mode = .servo then
      c.braking .preempted else c
    { c with active := ⟨motionId, .done⟩ }
  | .brake =>
    { c with
      active := ⟨motionId, .running⟩
      mode := .brake
      brakeIsMotion := true
      forceArmed := false }
  | .servo => { c with active := ⟨motionId, .running⟩, mode := .servo, forceArmed := false }
  | .trajectory =>
    { c with active := ⟨motionId, .running⟩, mode := .capture, forceArmed := guard }

/-- What one stage of a tick can do to the core, the dwell and the mailbox apart. -/
inductive Move : Control → Control → Prop
  | fault (c : Control) (cause : FaultReason) (st : MotionStatus) :
      cause ≠ .none → st ≠ .running → Move c (c.faulted cause st)
  | park (c : Control) : Move c c.parked
  | brake (c : Control) (st : MotionStatus) : ¬ c.safed ∨ c.forceArmed = true → st ≠ .running →
      Move c (c.braking st)
  | halt (c : Control) : c.mode = .brake → Move c c.halted
  | play (c : Control) : c.mode = .capture → Move c { c with mode := .trajectory }
  | finish (c : Control) (st : MotionStatus) : c.plays → st ≠ .running →
      Move c (c.resolve st).rested
  | rest (c : Control) : c.mode = .brake → c.brakeIsMotion = false → Move c c.rested

abbrev Moves : Control → Control → Prop := Relation.ReflTransGen Move

/-- What a chain of moves preserves, move by move. -/
theorem Moves.invariant {I : Control → Prop} (moved : Moves c d) (initial : I c)
    (preserved : ∀ ⦃a b⦄, I a → Move a b → I b) : I d := by
  induction moved with
  | refl => exact initial
  | tail _ last ih => exact preserved ih last

theorem resolve_not_running {st : MotionStatus} (ended : st ≠ .running) :
    ¬ (c.resolve st).running := by
  unfold resolve
  split
  · exact ended
  · assumption

@[simp] theorem resolve_mode (c : Control) (st : MotionStatus) : (c.resolve st).mode = c.mode := by
  unfold resolve; split <;> rfl

@[simp] theorem resolve_fault (c : Control) (st : MotionStatus) :
    (c.resolve st).fault = c.fault := by
  unfold resolve; split <;> rfl

@[simp] theorem resolve_brakeIsMotion (c : Control) (st : MotionStatus) :
    (c.resolve st).brakeIsMotion = c.brakeIsMotion := by
  unfold resolve; split <;> rfl

@[simp] theorem resolve_recoveryPending (c : Control) (st : MotionStatus) :
    (c.resolve st).recoveryPending = c.recoveryPending := by
  unfold resolve; split <;> rfl

@[simp] theorem resolve_forceArmed (c : Control) (st : MotionStatus) :
    (c.resolve st).forceArmed = c.forceArmed := by
  unfold resolve; split <;> rfl

@[simp] theorem resolve_motionId (c : Control) (st : MotionStatus) :
    (c.resolve st).active.motionId = c.active.motionId := by
  unfold resolve; split <;> rfl

/-- Accepting a target never clears or raises a fault. -/
theorem accept_fault (c : Control) (kind : TargetKind) (motionId : Nat) (guard : Bool) :
    (c.accept kind motionId guard).fault = c.fault := by
  cases kind with
  | hold =>
    simp only [accept]
    split
    · simp [braking]
    · rfl
  | none | trajectory | servo | brake => rfl

theorem Move.idle (move : Move c d) (still : ¬ c.running) : ¬ d.running := by
  cases move with
  | fault cause st real ended => exact resolve_not_running ended
  | park => exact resolve_not_running (by decide)
  | brake st armed ended => exact resolve_not_running ended
  | halt mode => exact resolve_not_running (by decide)
  | play mode => exact still
  | finish st playing ended => exact resolve_not_running ended
  | rest mode own => exact still

/-- No stage of a tick starts a motion; only the mailbox does. -/
theorem Moves.idle (moved : Moves c d) (still : ¬ c.running) : ¬ d.running :=
  Moves.invariant moved still fun _ _ kept move => move.idle kept

theorem Move.motionId (move : Move c d) : d.active.motionId = c.active.motionId := by
  cases move with
  | fault cause st real ended => exact resolve_motionId c st
  | park => exact resolve_motionId c .faulted
  | brake st armed ended => exact resolve_motionId c st
  | halt mode => exact resolve_motionId c .stopped
  | play mode => rfl
  | finish st playing ended => exact resolve_motionId c st
  | rest mode own => rfl

theorem Moves.motionId (moved : Moves c d) : d.active.motionId = c.active.motionId := by
  induction moved with
  | refl => rfl
  | tail _ last ih => exact last.motionId.trans ih

/-! ### The fault and the mode -/

/-- A fault is latched exactly in the two safed modes, and neither keeps a guard armed. -/
structure Guarded (c : Control) : Prop where
  fault : c.fault = .none ↔ ¬ c.safed
  guard : c.forceArmed = true → ¬ c.safed

theorem Move.guarded (move : Move c d) (guarded : c.Guarded) : d.Guarded := by
  cases move with
  | fault cause st real ended => exact ⟨by simp [faulted, real], by simp [faulted]⟩
  | park => exact ⟨by simp [parked], by simp [parked]⟩
  | brake st armed ended =>
    have clear : c.fault = .none := guarded.fault.mpr (armed.elim id guarded.guard)
    exact ⟨by simp [braking, clear], by simp [braking]⟩
  | halt mode =>
    have clear : c.fault = .none := guarded.fault.mpr (by simp [safed, mode])
    exact ⟨by simp [halted, clear, mode], by simp [halted, mode]⟩
  | play mode =>
    have clear : c.fault = .none := guarded.fault.mpr (by simp [safed, mode])
    exact ⟨by simp [clear], by simp⟩
  | finish st playing ended =>
    have clear : c.fault = .none := guarded.fault.mpr (by
      rcases playing with mode | mode | mode | ⟨mode, -⟩ <;> simp [safed, mode])
    exact ⟨by simp [rested, clear], by simp [rested]⟩
  | rest mode _ =>
    have clear : c.fault = .none := guarded.fault.mpr (by simp [safed, mode])
    exact ⟨by simp [rested, clear], by simp [rested]⟩

/-! ### The active slot and the mode -/

/-- Between two states of one motion: still the same motion, played as before, or no
motion at all. -/
def Carries (c d : Control) : Prop :=
  (d.active = c.active ∧ (d.plays ↔ c.plays)) ∨ (¬ d.running ∧ ¬ d.plays)

theorem Carries.refl (c : Control) : Carries c c := .inl ⟨rfl, Iff.rfl⟩

theorem Carries.trans (first : Carries c d) (second : Carries d e) : Carries c e := by
  rcases second with ⟨same, playing⟩ | idle
  · rcases first with ⟨same', playing'⟩ | ⟨ended, still⟩
    · exact .inl ⟨same.trans same', playing.trans playing'⟩
    · refine .inr ⟨?_, fun plays => still (playing.mp plays)⟩
      rwa [running, same]
  · exact .inr idle

theorem Carries.played (carried : Carries c d) (owned : c.running → c.plays) :
    d.running → d.plays := by
  rcases carried with ⟨same, playing⟩ | ⟨ended, -⟩
  · intro runs
    rw [running, same] at runs
    exact playing.mpr (owned runs)
  · exact fun runs => absurd runs ended

/-- An observer who keeps the motion for as long as the mode plays keeps the running one. -/
theorem Carries.observed (carried : Carries c d) (owned : c.running → c.plays) :
    (if d.plays then if c.active.status = .running then some c.active.motionId else none
      else none) = if d.active.status = .running then some d.active.motionId else none := by
  rcases carried with ⟨same, playing⟩ | ⟨ended, still⟩
  · rw [same]
    by_cases runs : c.active.status = .running
    · rw [if_pos (playing.mpr (owned runs))]
    · rw [if_neg runs, ite_self]
  · rw [if_neg still, if_neg ended]

theorem Move.carries (move : Move c d) (owned : c.running → c.plays) : Carries c d := by
  cases move with
  | fault cause st real ended => exact .inr ⟨resolve_not_running ended, by simp [plays, faulted]⟩
  | park => exact .inr ⟨resolve_not_running (by decide), by simp [plays, parked]⟩
  | brake st armed ended => exact .inr ⟨resolve_not_running ended, by simp [plays, braking]⟩
  | halt mode => exact .inr ⟨resolve_not_running (by decide), by simp [plays, halted, mode]⟩
  | play mode => exact .inl ⟨rfl, by simp [plays, mode]⟩
  | finish st playing ended => exact .inr ⟨resolve_not_running ended, by simp [plays, rested]⟩
  | rest mode own =>
    refine .inr ⟨fun runs => ?_, by simp [plays, rested]⟩
    have playing := owned runs
    simp [plays, mode, own] at playing

theorem Moves.carries (moved : Moves c d) (owned : c.running → c.plays) : Carries c d := by
  induction moved with
  | refl => exact Carries.refl c
  | tail _ last ih => exact ih.trans (last.carries (ih.played owned))

/-- The dwell ends a recovery; with no motion running, nothing is carried over it. -/
theorem recovered_carries (idle : ¬ c.running) : Carries c c.recovered :=
  .inr ⟨idle, by simp [plays, recovered, rested]⟩

end Control

end AiroFanuc.RtCore
