import Mathlib.Algebra.BigOperators.Group.List.Basic
import Mathlib.Algebra.Ring.Nat
import Mathlib.Data.List.Sort
import Mathlib.Order.Lattice

/-! Order statistics by counting, and where a tally over classes in order finds them. -/

namespace AiroFanuc.Library

variable {α : Type}

/-- The `k`-th smallest, counted from one: fewer than `k` are below it, and `k` reach no further. -/
structure IsRank [LinearOrder α] (vs : List α) (k : Nat) (x : α) : Prop where
  below : vs.countP (fun v => decide (v < x)) < k
  upto : k ≤ vs.countP fun v => decide (v ≤ x)

theorem IsRank.perm [LinearOrder α] {vs ws : List α} {k : Nat} {x : α} (same : vs.Perm ws)
    (ranked : IsRank vs k x) : IsRank ws k x where
  below := same.countP_eq _ ▸ ranked.below
  upto := same.countP_eq _ ▸ ranked.upto

theorem exists_rank_sorted [LinearOrder α] {vs : List α} (sorted : vs.Pairwise (· ≤ ·)) {k : Nat}
    (inside : k < vs.length) : ∃ x ∈ vs, IsRank vs (k + 1) x := by
  induction vs generalizing k with
  | nil => cases inside
  | cons a rest ih =>
      obtain ⟨least, tail⟩ := List.pairwise_cons.mp sorted
      cases k with
      | zero =>
          refine ⟨a, List.mem_cons_self, ?_, ?_⟩
          · have none : (a :: rest).countP (fun v => decide (v < a)) = 0 := by
              rw [List.countP_eq_zero]
              intro v member
              rcases List.mem_cons.mp member with rfl | later
              · simp
              · simpa using least v later
            omega
          · exact List.countP_pos_iff.mpr ⟨a, List.mem_cons_self, by simp⟩
      | succ k =>
          obtain ⟨x, member, ranked⟩ := ih tail (k := k) (by simpa using inside)
          refine ⟨x, List.mem_cons_of_mem a member, ?_, ?_⟩
          · have most := ranked.below
            rw [List.countP_cons]
            split <;> omega
          · have most := ranked.upto
            rw [List.countP_cons_of_pos (by simpa using least x member)]
            omega

theorem exists_rank [LinearOrder α] {vs : List α} {k : Nat} (positive : 0 < k)
    (inside : k ≤ vs.length) : ∃ x ∈ vs, IsRank vs k x := by
  have same := List.mergeSort_perm vs fun a b => decide (a ≤ b)
  have sorted : (vs.mergeSort fun a b => decide (a ≤ b)).Pairwise (· ≤ ·) := by
    have pairs : (vs.mergeSort fun a b => decide (a ≤ b)).Pairwise
        fun a b => decide (a ≤ b) = true :=
      List.pairwise_mergeSort (by simpa using fun a b c => le_trans) (by simpa using le_total) vs
    exact pairs.imp (by simp)
  obtain ⟨k, rfl⟩ := Nat.exists_eq_succ_of_ne_zero positive.ne'
  obtain ⟨x, member, ranked⟩ := exists_rank_sorted sorted (k := k) (by rw [same.length_eq]; omega)
  exact ⟨x, same.mem_iff.mp member, ranked.perm same⟩

/-! ### Tallies -/

/-- One count for each class, of those that fall in it. -/
def tally (b : α → Nat) (counts : List Nat) (v : α) : List Nat := counts.modify (b v) (· + 1)

/-- The first place at which the counts so far reach the target. -/
def reaching (target : Nat) : Nat → List Nat → Option Nat
  | _, [] => none
  | seen, c :: rest =>
    if target ≤ seen + c then some 0 else (reaching target (seen + c) rest).map (· + 1)

theorem reaching_eq {target seen j : Nat} {counts : List Nat} (inside : j < counts.length)
    (reached : target ≤ seen + (counts.take (j + 1)).sum)
    (early : 0 < j → seen + (counts.take j).sum < target) :
    reaching target seen counts = some j := by
  induction counts generalizing seen j with
  | nil => cases inside
  | cons c rest ih =>
      cases j with
      | zero =>
          simp only [List.take_succ_cons, List.take_zero, List.sum_cons, List.sum_nil] at reached
          rw [reaching, if_pos (by omega)]
      | succ j =>
          have before := early (Nat.succ_pos j)
          simp only [List.take_succ_cons, List.sum_cons] at before reached
          rw [reaching, if_neg (by omega), ih (by simpa using inside) (by omega) (fun _ => by omega)]
          rfl

variable {b : α → Nat} {vs : List α}

theorem tally_length (counts : List Nat) :
    (vs.foldl (tally b) counts).length = counts.length := by
  induction vs generalizing counts with
  | nil => rfl
  | cons v rest ih => rw [List.foldl_cons, ih, tally, List.length_modify]

theorem tally_getElem? (counts : List Nat) (i : Nat) :
    (vs.foldl (tally b) counts)[i]? =
      counts[i]?.map (· + vs.countP fun v => decide (b v = i)) := by
  induction vs generalizing counts with
  | nil => simp
  | cons v rest ih =>
      rw [List.foldl_cons, ih, tally, List.getElem?_modify, List.countP_cons]
      by_cases here : b v = i
      · simp [here, Option.map_map, Function.comp_def, Nat.add_assoc, Nat.add_comm 1]
      · simp [here]

/-- The first classes together hold what is in a class below them. -/
theorem sum_take_tally {n m : Nat} (inside : m ≤ n) :
    ((vs.foldl (tally b) (List.replicate n 0)).take m).sum =
      vs.countP fun v => decide (b v < m) := by
  induction m with
  | zero => simp
  | succ m ih =>
      have entry : (vs.foldl (tally b) (List.replicate n 0))[m]? =
          some (vs.countP fun v => decide (b v = m)) := by
        rw [tally_getElem?, List.getElem?_replicate, if_pos (by omega)]
        simp
      rw [List.take_add_one, entry, List.sum_append, ih (by omega)]
      simp only [Option.toList_some, List.sum_singleton]
      clear entry ih
      induction vs with
      | nil => rfl
      | cons v rest ih =>
          rw [List.countP_cons, List.countP_cons, List.countP_cons]
          have split : (if decide (b v < m) = true then 1 else 0) +
              (if decide (b v = m) = true then 1 else 0) =
              if decide (b v < m + 1) = true then 1 else 0 := by
            simp only [decide_eq_true_eq]
            split_ifs <;> omega
          omega

/-- Classes that go with the order are left at the class of the `k`-th smallest. -/
theorem reaching_tally [LinearOrder α] {n k : Nat} {x : α} (monotone : ∀ v w, v ≤ w → b v ≤ b w)
    (inside : b x < n) (ranked : IsRank vs k x) :
    reaching k 0 (vs.foldl (tally b) (List.replicate n 0)) = some (b x) := by
  apply reaching_eq
  · rw [tally_length, List.length_replicate]
    exact inside
  · rw [sum_take_tally (by omega), Nat.zero_add]
    refine ranked.upto.trans (List.countP_mono_left fun v _ upto => ?_)
    have upto : v ≤ x := by simpa using upto
    have class_le := monotone v x upto
    exact decide_eq_true (by omega)
  · intro _
    rw [sum_take_tally inside.le, Nat.zero_add]
    refine lt_of_le_of_lt (List.countP_mono_left fun v _ lower => ?_) ranked.below
    have lower : b v < b x := by simpa using lower
    by_contra above
    have above : x ≤ v := by simpa using above
    have class_le := monotone x v above
    omega

end AiroFanuc.Library
