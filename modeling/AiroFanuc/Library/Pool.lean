import Mathlib.Data.List.Nodup
import Mathlib.Tactic.Linarith

/-! A pool that frees by key: with distinct keys, freeing an item takes it and nothing
else. An observer who only compares the pool before and after every step can keep the
books of what was taken in and what was freed. -/

namespace AiroFanuc.Library.Pool

variable {α κ : Type} [DecidableEq α] [DecidableEq κ] (key : α → κ)

/-- Frees the first held item that has the key of `a`. -/
def release (held : List α) (a : α) : List α := held.eraseP fun b => key b = key a

variable {key} {held ring : List α} {a : α}

theorem release_eq_erase (distinct : (held.map key).Nodup) (member : a ∈ held) :
    release key held a = held.erase a := by
  induction held with
  | nil => cases member
  | cons b rest ih =>
    simp only [List.map_cons, List.nodup_cons, List.mem_map, not_exists, not_and] at distinct
    by_cases same : b = a
    · subst same
      simp [release]
    · have later : a ∈ rest := by
        rcases List.mem_cons.mp member with head | later
        · exact absurd head.symm same
        · exact later
      have other : key b ≠ key a := fun equal => distinct.1 a later equal.symm
      have onward := ih distinct.2 later
      rw [release] at onward
      rw [release, List.eraseP_cons_of_neg (by simpa using other), onward,
        List.erase_cons_tail (by simpa using same)]

omit [DecidableEq α] in
theorem release_sublist (held : List α) (a : α) : (release key held a).Sublist held :=
  List.eraseP_sublist

omit [DecidableEq α] in
theorem releaseAll_sublist (ring held : List α) :
    (ring.foldl (release key) held).Sublist held := by
  induction ring generalizing held with
  | nil => exact List.Sublist.refl held
  | cons a rest ih => exact (ih _).trans (release_sublist held a)

omit [DecidableEq α] [DecidableEq κ] in
theorem distinct_sublist {kept : List α} (sub : kept.Sublist held)
    (distinct : (held.map key).Nodup) : (kept.map key).Nodup :=
  distinct.sublist (sub.map key)

theorem release_count (distinct : (held.map key).Nodup) (member : a ∈ held) (b : α) :
    (release key held a).count b + [a].count b = held.count b := by
  rw [release_eq_erase distinct member]
  by_cases same : b = a
  · subst same
    have held_once : 0 < held.count b := List.count_pos_iff.mpr member
    rw [List.count_erase_self, List.count_singleton_self]
    omega
  · rw [List.count_erase_of_ne same, List.count_singleton]
    have other : (a == b) = false := by simpa using fun equal => same equal.symm
    simp [other]

/-- Freeing a whole ring of held items takes exactly those. -/
theorem releaseAll_count (distinct : (held.map key).Nodup)
    (owned : ∀ b, ring.count b ≤ held.count b) (b : α) :
    (ring.foldl (release key) held).count b + ring.count b = held.count b := by
  induction ring generalizing held with
  | nil => simp
  | cons a rest ih =>
    have member : a ∈ held := by
      apply List.count_pos_iff.mp
      have first := owned a
      rw [List.count_cons_self] at first
      omega
    have taken := release_count distinct member
    have split (c : α) : (a :: rest).count c = rest.count c + [a].count c := by
      rw [List.count_cons, List.count_singleton]
    have smaller : ∀ c, rest.count c ≤ (release key held a).count c := by
      intro c
      have before := owned c
      have freed := taken c
      rw [split] at before
      omega
    have onward := ih (distinct_sublist (release_sublist held a) distinct) smaller
    have freed := taken b
    rw [List.foldl_cons, split]
    omega

/-! ### Observing a pool -/

/-- What a step took in. -/
def arrivals (held after : List α) : List α := after.filter fun a => a ∉ held

/-- What a step let go. -/
def departures (held after : List α) : List α := held.filter fun a => a ∉ after

theorem count_filter_notMem (l other : List α) (a : α) :
    (l.filter fun b => b ∉ other).count a = if a ∈ other then 0 else l.count a := by
  by_cases member : a ∈ other
  · rw [if_pos member, List.count_eq_zero]
    simp [member]
  · rw [if_neg member]
    exact List.count_filter (by simpa using member)

/-- An observer's books balance: all that arrived is held or has departed. -/
theorem observed_balance {after arrived departed : List α} (before : held.Nodup)
    (later : after.Nodup) (balance : ∀ a, arrived.count a = held.count a + departed.count a)
    (a : α) : (arrived ++ arrivals held after).count a =
      after.count a + (departed ++ departures held after).count a := by
  have even := balance a
  rw [List.count_append, List.count_append, arrivals, departures, count_filter_notMem,
    count_filter_notMem]
  by_cases was : a ∈ held
  · have once := List.count_eq_one_of_mem before was
    by_cases is : a ∈ after
    · have still := List.count_eq_one_of_mem later is
      rw [if_pos was, if_pos is]
      omega
    · have gone := List.count_eq_zero.mpr is
      rw [if_pos was, if_neg is]
      omega
  · have absent := List.count_eq_zero.mpr was
    by_cases is : a ∈ after
    · rw [if_neg was, if_pos is]
      omega
    · have gone := List.count_eq_zero.mpr is
      rw [if_neg was, if_neg is]
      omega

end AiroFanuc.Library.Pool
