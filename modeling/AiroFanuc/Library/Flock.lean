import Mathlib.Data.List.Basic

/-! The advisory lock on a file as a Unix kernel keeps it: it belongs to an open file description,
which a fork shares, and it ends with the last descriptor of that description. -/

namespace AiroFanuc.Library

/-- Which process has which description of the file open, and the description that is locked. -/
structure Flock (π : Type) where
  fresh : Nat
  opens : List (π × Nat)
  lock : Option Nat

namespace Flock

variable {π : Type}

def new : Flock π := ⟨0, [], none⟩

def isOpen (k : Flock π) (d : Nat) : Bool := k.opens.any fun o => o.2 = d

/-- A description that no process has open any more loses the lock. -/
def settle (k : Flock π) : Flock π := { k with lock := k.lock.filter k.isOpen }

def openFile (k : Flock π) (p : π) : Flock π :=
  { k with fresh := k.fresh + 1, opens := k.opens ++ [(p, k.fresh)] }

/-- `flock(LOCK_EX | LOCK_NB)`. -/
def flock (k : Flock π) (d : Nat) : Option (Flock π) :=
  if k.lock = none ∨ k.lock = some d then some { k with lock := some d } else none

/-- `flock(LOCK_UN)`. -/
def unlock (k : Flock π) (d : Nat) : Flock π :=
  if k.lock = some d then { k with lock := none } else k

variable [DecidableEq π]

def close (k : Flock π) (p : π) (d : Nat) : Flock π :=
  settle { k with opens := k.opens.filter fun o => o ≠ (p, d) }

/-- The child shares every description its parent has open. -/
def fork (k : Flock π) (p c : π) : Flock π :=
  { k with opens := k.opens ++ (k.opens.filter fun o => o.1 = p).map fun o => (c, o.2) }

/-- The process ends, or executes another program over descriptors that close on it. -/
def drop (k : Flock π) (p : π) : Flock π :=
  settle { k with opens := k.opens.filter fun o => o.1 ≠ p }

/-- Descriptions are numbered in the order of their opens, and a locked one is open. -/
structure Sound (k : Flock π) : Prop where
  known : ∀ o ∈ k.opens, o.2 < k.fresh
  held : ∀ d, k.lock = some d → ∃ p, (p, d) ∈ k.opens

variable {k l : Flock π} {p c q : π} {d e : Nat}

omit [DecidableEq π] in
theorem settle_lock : k.settle.lock = some d ↔ k.lock = some d ∧ ∃ p, (p, d) ∈ k.opens := by
  have opened : k.isOpen d = true ↔ ∃ p, (p, d) ∈ k.opens := by
    rw [isOpen, List.any_eq_true]
    constructor
    · rintro ⟨⟨p, e⟩, member, same⟩
      obtain rfl : e = d := by simpa using same
      exact ⟨p, member⟩
    · rintro ⟨p, member⟩
      exact ⟨(p, d), member, by simp⟩
  rw [settle, Option.filter_eq_some_iff, opened]

omit [DecidableEq π] in
/-- What is closed loses only what nobody else has open. -/
theorem settle_sound (known : ∀ o ∈ k.opens, o.2 < k.fresh) : k.settle.Sound :=
  ⟨known, fun _ locked => (settle_lock.mp locked).2⟩

omit [DecidableEq π] in
theorem new_sound : (new : Flock π).Sound := ⟨by simp [new], by simp [new]⟩

omit [DecidableEq π] in
theorem Sound.openFile (sound : k.Sound) (p : π) : (k.openFile p).Sound := by
  constructor
  · intro o member
    rcases List.mem_append.mp member with early | late
    · exact Nat.lt_succ_of_lt (sound.known o early)
    · rw [List.mem_singleton.mp late]
      exact Nat.lt_succ_self _
  · intro d locked
    obtain ⟨q, member⟩ := sound.held d locked
    exact ⟨q, List.mem_append_left _ member⟩

omit [DecidableEq π] in
theorem flock_some (taken : k.flock d = some l) : l = { k with lock := some d } ∧
    (k.lock = none ∨ k.lock = some d) := by
  unfold flock at taken
  split at taken
  · cases taken
    exact ⟨rfl, ‹_›⟩
  · cases taken

theorem Sound.fork (sound : k.Sound) (p c : π) : (k.fork p c).Sound := by
  constructor
  · intro o member
    rcases List.mem_append.mp member with early | late
    · exact sound.known o early
    · obtain ⟨o', parent, rfl⟩ := List.mem_map.mp late
      exact sound.known o' (List.mem_of_mem_filter parent)
  · intro d locked
    obtain ⟨q, member⟩ := sound.held d locked
    exact ⟨q, List.mem_append_left _ member⟩

theorem Sound.close (sound : k.Sound) (p : π) (d : Nat) : (k.close p d).Sound :=
  settle_sound fun o member => sound.known o (List.mem_of_mem_filter member)

theorem Sound.drop (sound : k.Sound) (p : π) : (k.drop p).Sound :=
  settle_sound fun o member => sound.known o (List.mem_of_mem_filter member)

omit [DecidableEq π] in
theorem Sound.unlock (sound : k.Sound) (d : Nat) : (k.unlock d).Sound := by
  unfold Flock.unlock
  split
  · exact ⟨sound.known, by simp⟩
  · exact sound

theorem mem_close : (q, e) ∈ (k.close p d).opens ↔ (q, e) ∈ k.opens ∧ ¬ (q = p ∧ e = d) := by
  simp only [Flock.close, settle, List.mem_filter, decide_eq_true_eq, ne_eq, Prod.mk.injEq]

theorem mem_drop : (q, e) ∈ (k.drop p).opens ↔ (q, e) ∈ k.opens ∧ q ≠ p := by
  simp [Flock.drop, settle]

theorem mem_fork : (q, e) ∈ (k.fork p c).opens ↔
    (q, e) ∈ k.opens ∨ q = c ∧ (p, e) ∈ k.opens := by
  simp only [Flock.fork, List.mem_append, List.mem_map, List.mem_filter, decide_eq_true_eq]
  constructor
  · rintro (early | ⟨⟨p', e'⟩, ⟨member, rfl⟩, same⟩)
    · exact .inl early
    · cases same
      exact .inr ⟨rfl, member⟩
  · rintro (early | ⟨rfl, member⟩)
    · exact .inl early
    · exact .inr ⟨(p, e), ⟨member, rfl⟩, rfl⟩

omit [DecidableEq π] in
theorem unlock_lock : (k.unlock d).lock = some e ↔ k.lock = some e ∧ e ≠ d := by
  unfold Flock.unlock
  split
  · rename_i locked
    simp [locked]
    exact fun same => same.symm
  · rename_i other
    constructor
    · exact fun locked => ⟨locked, fun same => other (same ▸ locked)⟩
    · exact fun both => both.1

end Flock

end AiroFanuc.Library
