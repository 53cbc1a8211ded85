import Mathlib.Order.Defs.PartialOrder

/-! A party that holds what it hears to rules, at the end of a channel that keeps the order and may
lose some of the messages. Its states are ordered: one below another allows more. -/

namespace AiroFanuc.Library

structure Listener (V M : Type) where
  after : V → M → V
  Allows : V → M → Prop

namespace Listener

variable {V M : Type} (L : Listener V M)

/-- Every message of a flight is allowed when its turn comes. -/
def Accepts (v : V) : List M → Prop
  | [] => True
  | m :: rest => L.Allows v m ∧ Accepts (L.after v m) rest

def hears (v : V) (flight : List M) : V := flight.foldl L.after v

/-- A lower state allows what a higher one does, and stays lower. -/
structure Easing [Preorder V] : Prop where
  allows {v w : V} {m : M} : v ≤ w → L.Allows w m → L.Allows v m
  after {v w : V} (m : M) : v ≤ w → L.after v m ≤ L.after w m

/-- A message that only asks for more: without it what follows is still allowed. -/
def Dispensable [Preorder V] (m : M) : Prop := ∀ ⦃v : V⦄, L.Allows v m → v ≤ L.after v m

variable {L} {v w : V} {flight : List M} {m : M}

theorem accepts_append {more : List M} :
    L.Accepts v (flight ++ more) ↔ L.Accepts v flight ∧ L.Accepts (L.hears v flight) more := by
  induction flight generalizing v with
  | nil => exact (iff_of_eq (true_and _)).symm
  | cons m rest ih =>
      have tail := ih (v := L.after v m)
      exact ⟨fun ⟨first, later⟩ => ⟨⟨first, (tail.mp later).1⟩, (tail.mp later).2⟩,
        fun ⟨⟨first, later⟩, last⟩ => ⟨first, tail.mpr ⟨later, last⟩⟩⟩

theorem hears_append {more : List M} :
    L.hears v (flight ++ more) = L.hears (L.hears v flight) more := List.foldl_append

variable [Preorder V]

theorem Easing.hears (easing : L.Easing) (below : v ≤ w) :
    L.hears v flight ≤ L.hears w flight := by
  induction flight generalizing v w with
  | nil => exact below
  | cons m rest ih => exact ih (easing.after m below)

theorem Easing.accepts (easing : L.Easing) (below : v ≤ w) (accepts : L.Accepts w flight) :
    L.Accepts v flight := by
  induction flight generalizing v w with
  | nil => trivial
  | cons m rest ih =>
      exact ⟨easing.allows below accepts.1, ih (easing.after m below) accepts.2⟩

variable (L) in
/-- What the sender may rely on: all that is under way is allowed, and leaves the listener where
the sender takes it to be, or lower. -/
structure Abreast (v : V) (flight : List M) (bound : V) : Prop where
  accepts : L.Accepts v flight
  below : L.hears v flight ≤ bound

variable {bound : V}

theorem Abreast.send (abreast : L.Abreast v flight bound) (easing : L.Easing) {more : List M}
    (accepts : L.Accepts bound more) : L.Abreast v (flight ++ more) (L.hears bound more) where
  accepts := accepts_append.mpr ⟨abreast.accepts, easing.accepts abreast.below accepts⟩
  below := by
    rw [hears_append]
    exact easing.hears abreast.below

theorem Abreast.mono (abreast : L.Abreast v flight bound) (below : bound ≤ w) :
    L.Abreast v flight w := ⟨abreast.accepts, le_trans abreast.below below⟩

theorem Abreast.deliver (abreast : L.Abreast v (m :: flight) bound) :
    L.Allows v m ∧ L.Abreast (L.after v m) flight bound :=
  ⟨abreast.accepts.1, abreast.accepts.2, abreast.below⟩

theorem Abreast.lose (abreast : L.Abreast v (m :: flight) bound) (easing : L.Easing)
    (dispensable : L.Dispensable m) : L.Abreast v flight bound := by
  have below := dispensable abreast.accepts.1
  exact ⟨easing.accepts below abreast.accepts.2, le_trans (easing.hears below) abreast.below⟩

end Listener

end AiroFanuc.Library
