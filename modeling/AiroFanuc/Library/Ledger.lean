import Mathlib.Data.List.Basic
import Mathlib.Tactic.Linarith

/-! Bookkeeping over a bounded log. A ledger gives every account a balance (what it was
paid and what it is still owed); a change only appends to the log, books at most so many
entries and, as long as they fit, moves every balance by exactly its charge. -/

namespace AiroFanuc.Library

structure Ledger (σ ε κ : Type) where
  room : Nat
  log : σ → List ε
  balance : σ → κ → Nat

namespace Ledger

variable {σ ε κ : Type} (L : Ledger σ ε κ)

structure Books (entries : Nat) (charge : κ → Nat) (s t : σ) : Prop where
  grows : L.log s <+: L.log t
  load : (L.log t).length ≤ (L.log s).length + entries
  balance : (L.log s).length + entries ≤ L.room → ∀ account, L.balance t account =
    L.balance s account + charge account

/-- Nothing is charged: what is still owed is owed, or has just been paid. -/
abbrev Conserves (entries : Nat) (s t : σ) : Prop := L.Books entries (fun _ => 0) s t

variable {L} {entries more : Nat} {charge further : κ → Nat} {s t u : σ}

theorem Conserves.refl (s : σ) : L.Conserves 0 s s := ⟨List.prefix_rfl, le_rfl, fun _ _ => rfl⟩

theorem Books.trans (first : L.Books entries charge s t) (second : L.Books more further t u) :
    L.Books (entries + more) (fun account => charge account + further account) s u := by
  have loads := first.load
  have loads' := second.load
  constructor
  · exact first.grows.trans second.grows
  · omega
  · intro fits account
    rw [second.balance (by omega) account, first.balance (by omega) account, Nat.add_assoc]

theorem Conserves.trans (first : L.Conserves entries s t) (second : L.Conserves more t u) :
    L.Conserves (entries + more) s u := Books.trans first second

theorem Books.conserves (first : L.Books entries charge s t) (second : L.Conserves more t u) :
    L.Books (entries + more) charge s u := Books.trans first second

theorem Conserves.books (first : L.Conserves entries s t) (second : L.Books more charge t u) :
    L.Books (entries + more) charge s u := by
  simpa only [Nat.zero_add] using Books.trans first second

theorem Books.mono (booked : L.Books entries charge s t) (wider : entries ≤ more) :
    L.Books more charge s t :=
  ⟨booked.grows, booked.load.trans (by omega), fun fits => booked.balance (by omega)⟩

/-- What was in the log stays in it. -/
theorem Books.kept (booked : L.Books entries charge s t) {e : ε} (member : e ∈ L.log s) :
    e ∈ L.log t := booked.grows.subset member

end Ledger

end AiroFanuc.Library
