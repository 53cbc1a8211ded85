import Mathlib.Data.List.Basic
import Mathlib.Data.Nat.ModEq
import Mathlib.Logic.Function.Basic

/-! A circular array under its writes: the one numbered `n` goes to slot `n % cap`. -/

namespace AiroFanuc.Library

variable {α : Type} {cap : ℕ} {slots : ℕ → α} {written : List α}

/-- The slots hold the last `cap` of the values written; `written` is newest first. -/
def Keeps (cap : ℕ) (slots : ℕ → α) (written : List α) : Prop :=
  ∀ (age : ℕ) (v : α), age < cap → written[age]? = some v →
    slots ((written.length - 1 - age) % cap) = v

theorem keeps_nil (cap : ℕ) (slots : ℕ → α) : Keeps cap slots [] := nofun

/-- A write that is still kept has a slot other than the next one. -/
theorem slot_ne {n age : ℕ} (kept : age + 1 < cap) (old : age < n) :
    (n - 1 - age) % cap ≠ n % cap := by
  intro same
  have apart : cap ∣ n - (n - 1 - age) := (Nat.modEq_iff_dvd' (by omega)).mp same
  have width : n - (n - 1 - age) = age + 1 := by omega
  rw [width] at apart
  have far := Nat.le_of_dvd (by omega) apart
  omega

theorem Keeps.write (held : Keeps cap slots written) (v : α) :
    Keeps cap (Function.update slots (written.length % cap) v) (v :: written) := by
  intro age u kept found
  cases age with
  | zero =>
    cases found
    exact Function.update_self _ _ _
  | succ age =>
    rw [List.getElem?_cons_succ] at found
    have old : age < written.length := (List.getElem?_eq_some_iff.mp found).1
    have slot : (v :: written).length - 1 - (age + 1) = written.length - 1 - age := by
      rw [List.length_cons]
      omega
    rw [slot, Function.update_of_ne (slot_ne kept old)]
    exact held age u (by omega) found

end AiroFanuc.Library
