import Mathlib.Data.List.Basic

/-! A bounded first-in first-out queue as its users see it: what goes in, what comes out, and
when either is refused. -/

namespace AiroFanuc.Library

variable {α : Type}

/-- What a step of an implementation reports. -/
inductive FifoEvent (α : Type) where
  | silent
  | enqueued (v : α)
  | dequeued (v : α)
  | full
  | empty

namespace Fifo

/-- A queue of at most `cap` values. -/
inductive Step (cap : ℕ) : List α → FifoEvent α → List α → Prop
  | silent (q : List α) : Step cap q .silent q
  | enqueued (q : List α) (v : α) : q.length < cap → Step cap q (.enqueued v) (q ++ [v])
  | dequeued (v : α) (q : List α) : Step cap (v :: q) (.dequeued v) q
  | full (q : List α) : q.length = cap → Step cap q .full q
  | empty : Step cap [] .empty []

/-- What the events so far put in. -/
def given : List (FifoEvent α) → List α
  | [] => []
  | .enqueued v :: rest => v :: given rest
  | _ :: rest => given rest

/-- What they took out. -/
def taken : List (FifoEvent α) → List α
  | [] => []
  | .dequeued v :: rest => v :: taken rest
  | _ :: rest => taken rest

theorem given_append (first second : List (FifoEvent α)) :
    given (first ++ second) = given first ++ given second := by
  induction first with
  | nil => rfl
  | cons e rest ih => cases e <;> simp only [List.cons_append, given, ih]

theorem taken_append (first second : List (FifoEvent α)) :
    taken (first ++ second) = taken first ++ taken second := by
  induction first with
  | nil => rfl
  | cons e rest ih => cases e <;> simp only [List.cons_append, taken, ih]

variable {cap : ℕ} {q q' : List α} {e : FifoEvent α} {events : List (FifoEvent α)}

theorem Step.bounded (step : Step cap q e q') (bound : q.length ≤ cap) : q'.length ≤ cap := by
  cases step with
  | silent => exact bound
  | enqueued v room =>
    rw [List.length_append, List.length_singleton]
    omega
  | dequeued v =>
    rw [List.length_cons] at bound
    omega
  | full whole => exact bound
  | empty => exact bound

/-- What was put in is what came out, followed by what is still in. -/
theorem Step.conserves (step : Step cap q e q') (before : given events = taken events ++ q) :
    given (events ++ [e]) = taken (events ++ [e]) ++ q' := by
  rw [given_append, taken_append, before]
  cases step with
  | silent | full | empty => simp only [given, taken, List.append_nil]
  | enqueued v room => simp only [given, taken, List.append_nil, List.append_assoc]
  | dequeued v => simp only [given, taken, List.append_nil, List.append_assoc, List.singleton_append]

end Fifo

end AiroFanuc.Library
