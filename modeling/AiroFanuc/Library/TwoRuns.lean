import Mathlib.Data.List.Basic

/-! Two runs of one machine compared through a view of its state: a machine that is blind
to what the view leaves out answers two runs alike as soon as their views agree once. -/

namespace AiroFanuc.Library

structure Reactive (σ ι ο : Type) where
  step : σ → ι → σ
  answer : σ → ι → Option ο

namespace Reactive

variable {σ ι ο ν : Type} (M : Reactive σ ι ο) (view : σ → ν)

def run (s : σ) (inputs : List ι) : σ := inputs.foldl M.step s

/-- The answers along a run; an input may have none. -/
def answers (s : σ) : List ι → List ο
  | [] => []
  | i :: rest => (M.answer s i).toList ++ answers (M.step s i) rest

/-- Neither the answer nor the next view depends on what the view leaves out. -/
structure Blind : Prop where
  step : ∀ ⦃s t : σ⦄ (i : ι), view s = view t → view (M.step s i) = view (M.step t i)
  answer : ∀ ⦃s t : σ⦄ (i : ι), view s = view t → M.answer s i = M.answer t i

variable {M view} {s t : σ}

theorem answers_append (s : σ) (first second : List ι) :
    M.answers s (first ++ second) = M.answers s first ++ M.answers (M.run s first) second := by
  induction first generalizing s with
  | nil => rfl
  | cons i rest ih =>
    rw [List.cons_append, answers, ih, answers, List.append_assoc]
    rfl

theorem run_append (s : σ) (first second : List ι) :
    M.run s (first ++ second) = M.run (M.run s first) second := List.foldl_append

theorem Blind.run (blind : M.Blind view) (same : view s = view t) (inputs : List ι) :
    view (M.run s inputs) = view (M.run t inputs) := by
  induction inputs generalizing s t with
  | nil => exact same
  | cons i rest ih => exact ih (blind.step i same)

theorem Blind.answers (blind : M.Blind view) (same : view s = view t) (inputs : List ι) :
    M.answers s inputs = M.answers t inputs := by
  induction inputs generalizing s t with
  | nil => rfl
  | cons i rest ih =>
    rw [Reactive.answers, Reactive.answers, blind.answer i same, ih (blind.step i same)]

/-- An input may be replaced by one with the same answer and the same view after it. -/
theorem Blind.replace (blind : M.Blind view) {i j : ι} (before : List ι)
    (answer : M.answer (M.run s before) i = M.answer (M.run s before) j)
    (after : view (M.step (M.run s before) i) = view (M.step (M.run s before) j))
    (further : List ι) :
    M.answers s (before ++ i :: further) = M.answers s (before ++ j :: further) ∧
      view (M.run s (before ++ i :: further)) = view (M.run s (before ++ j :: further)) := by
  constructor
  · rw [answers_append, answers_append, Reactive.answers, Reactive.answers, answer,
      blind.answers after further]
  · rw [run_append, run_append]
    exact blind.run after further

end Reactive

end AiroFanuc.Library
