import Mathlib.Logic.Relation

/-! Runs of a deterministic machine whose labels its environment chooses. A step is
partial: a label that is not enabled leads nowhere. -/

namespace AiroFanuc.Library

structure Machine (σ ι : Type) where
  start : σ
  step : σ → ι → Option σ

namespace Machine

variable {σ ι : Type} (M : Machine σ ι)

/-- The states `s` leads to by steps that are all legal. -/
inductive Reaches (legal : σ → ι → Prop) (s : σ) : σ → Prop
  | refl : Reaches legal s s
  | step {t u : σ} {i : ι} :
      Reaches legal s t → legal t i → M.step t i = some u → Reaches legal s u

def Reachable (legal : σ → ι → Prop) (t : σ) : Prop := M.Reaches legal M.start t

def run (s : σ) : List ι → Option σ
  | [] => some s
  | i :: rest => (M.step s i).bind fun t => run t rest

/-- Whether every step of a run is enabled and legal. -/
def legalRun (legal : σ → ι → Prop) [∀ s i, Decidable (legal s i)] (s : σ) : List ι → Bool
  | [] => true
  | i :: rest =>
    decide (legal s i) && (M.step s i).any fun t => legalRun legal t rest

variable {M} {legal : σ → ι → Prop} {s t u : σ}

/-- What a legal step preserves, a legal run preserves. -/
theorem Reaches.invariant {I : σ → Prop} (reached : M.Reaches legal s t) (initial : I s)
    (preserved : ∀ ⦃a b : σ⦄ ⦃i : ι⦄, I a → legal a i → M.step a i = some b → I b) : I t := by
  induction reached with
  | refl => exact initial
  | step _ allowed moved ih => exact preserved ih allowed moved

theorem Reaches.mono {wider : σ → ι → Prop} (reached : M.Reaches legal s t)
    (weaker : ∀ ⦃a : σ⦄ ⦃i : ι⦄, legal a i → wider a i) : M.Reaches wider s t := by
  induction reached with
  | refl => exact .refl
  | step _ allowed moved ih => exact ih.step (weaker allowed) moved

theorem Reaches.head {i : ι} (allowed : legal s i) (moved : M.step s i = some t)
    (reached : M.Reaches legal t u) : M.Reaches legal s u := by
  induction reached with
  | refl => exact Reaches.refl.step allowed moved
  | step _ next stepped ih => exact ih.step next stepped

/-- A run that was checked step by step reaches its last state. -/
theorem reaches_of_run [∀ s i, Decidable (legal s i)] {labels : List ι}
    (checked : M.legalRun legal s labels = true) (ran : M.run s labels = some t) :
    M.Reaches legal s t := by
  induction labels generalizing s with
  | nil =>
    cases ran
    exact .refl
  | cons i rest ih =>
    obtain ⟨middle, moved, onward⟩ := Option.bind_eq_some_iff.mp ran
    simp only [legalRun, moved, Option.any_some, Bool.and_eq_true, decide_eq_true_eq] at checked
    exact Reaches.head checked.1 moved (ih checked.2 onward)

variable (M) (legal) in
/-- A checked run ends in a state that the test accepts. -/
theorem reachable_of_test [∀ s i, Decidable (legal s i)] (labels : List ι) (test : σ → Bool)
    (checked : M.legalRun legal M.start labels = true)
    (tested : (M.run M.start labels).any test = true) :
    ∃ t, M.Reachable legal t ∧ test t = true := by
  obtain ⟨last, ran, accepted⟩ := (Option.any_eq_true _ _).mp tested
  exact ⟨last, reaches_of_run checked ran, accepted⟩

theorem reaches_of_any_run {labels : List ι} (ran : M.run s labels = some t) :
    M.Reaches (fun _ _ => True) s t := by
  induction labels generalizing s with
  | nil =>
    cases ran
    exact .refl
  | cons i rest ih =>
    obtain ⟨middle, moved, onward⟩ := Option.bind_eq_some_iff.mp ran
    exact Reaches.head trivial moved (ih onward)

variable (M) in
/-- With every step legal, a run only has to get to its end. -/
theorem reachable_of_run (labels : List ι) (test : σ → Bool)
    (tested : (M.run M.start labels).any test = true) :
    ∃ t, M.Reachable (fun _ _ => True) t ∧ test t = true := by
  obtain ⟨last, ran, accepted⟩ := (Option.any_eq_true _ _).mp tested
  exact ⟨last, reaches_of_any_run ran, accepted⟩

end Machine

end AiroFanuc.Library
