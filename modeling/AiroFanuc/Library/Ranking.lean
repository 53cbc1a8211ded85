import AiroFanuc.Library.Machine

/-! How long a machine can stay busy: a rank that no step raises and every counted step
lowers, for as long as the machine is busy, bounds the counted steps of the busy stretch. -/

namespace AiroFanuc.Library

structure Ranking {σ ι : Type} (M : Machine σ ι) (legal : ι → Prop) (counted : ι → Bool) where
  inv : σ → Prop
  busy : σ → Prop
  rank : σ → Nat
  keeps : ∀ ⦃s t i⦄, inv s → legal i → M.step s i = some t → inv t
  raises : ∀ ⦃s t i⦄, inv s → busy s → legal i → M.step s i = some t → busy t →
    rank t + (if counted i then 1 else 0) ≤ rank s

namespace Ranking

variable {σ ι : Type} {M : Machine σ ι} {legal : ι → Prop} {counted : ι → Bool}

/-- A run with more counted steps than its first state's rank leaves the busy states on the
way. -/
theorem leaves (W : Ranking M legal counted) {labels : List ι} {s t : σ}
    (allowed : ∀ i ∈ labels, legal i) (sound : W.inv s) (ran : M.run s labels = some t)
    (many : W.rank s < labels.countP counted) :
    ∃ front back u, labels = front ++ back ∧ M.run s front = some u ∧
      M.run u back = some t ∧ W.inv u ∧ ¬ W.busy u := by
  induction labels generalizing s with
  | nil => exact absurd many (by simp)
  | cons i rest ih =>
    by_cases idle : W.busy s
    · obtain ⟨next, moved, onward⟩ := Option.bind_eq_some_iff.mp ran
      have first := allowed i List.mem_cons_self
      have kept := W.keeps sound first moved
      by_cases still : W.busy next
      · have lower := W.raises sound idle first moved still
        rw [List.countP_cons] at many
        obtain ⟨front, back, u, split, before, after, inv, rests⟩ :=
          ih (fun j member => allowed j (List.mem_cons_of_mem i member)) kept onward (by omega)
        refine ⟨i :: front, back, u, by rw [split, List.cons_append], ?_, after, inv, rests⟩
        rw [Machine.run, moved]
        exact before
      · refine ⟨[i], rest, next, rfl, ?_, onward, kept, still⟩
        rw [Machine.run, moved]
        rfl
    · exact ⟨[], i :: rest, s, rfl, rfl, ran, sound, idle⟩

end Ranking

end AiroFanuc.Library
