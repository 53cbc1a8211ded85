import AiroFanuc.Library.Machine
import AiroFanuc.TickEngine.Playback
import Mathlib.Algebra.Order.Ring.Abs
import Mathlib.Algebra.Order.Ring.Int
import Mathlib.Data.Nat.Bitwise

/-! The ring of measured joints that readers look a camera timestamp up in: one writer, any number
of readers, every load and store a step of its own in any interleaving. -/

namespace AiroFanuc.RtCore

open TickEngine Library

namespace JointsAtRing

variable {α : Type}

abbrev kCap : ℕ := 256

structure Entry (α : Type) where
  monoNs : ℤ
  q : Vec6 α

/-- The slots, whose counters are 64 bits wide, and the writer's index and count. -/
structure Slots (α : Type) where
  seq : ℕ → ℕ
  monoNs : ℕ → ℤ
  q : ℕ → Vec6 α
  writeIdx : ℕ
  count : ℕ

/-- `push`: the counter loaded, stored odd, the timestamp stored, the joints stored one by one,
the counter stored even, and at last the count. -/
inductive Writer (α : Type) where
  | idle
  | called (e : Entry α)
  | loaded (e : Entry α) (i s : ℕ)
  | opened (e : Entry α) (i s : ℕ)
  | storing (e : Entry α) (i s : ℕ) (rest : List (Fin kNumJoints))
  | published

/-- A slot that a scan did not get: `begun` pushes had begun when it gave the slot up, `done` were
done when it came to it. -/
structure Miss where
  slot : ℕ
  done : ℕ
  begun : ℕ

/-- A call of `nearest`: what it has loaded and found. An observer adds how many pushes were done
when it began, and the slots it missed. -/
structure Scan (α : Type) where
  queryNs : ℤ
  n : ℕ
  bestDt : ℤ
  best : Option (Vec6 α)
  since : ℕ
  missed : List Miss

/-- A reader: in `read_slot` for the slot `k` it holds the counter it loaded, and how many pushes
were done then. A call that returned notes how many had begun. -/
inductive Reader (α : Type) where
  | idle
  | called (queryNs : ℤ)
  | scanning (c : Scan α) (k : ℕ)
  | opened (c : Scan α) (k s1 done : ℕ)
  | loading (c : Scan α) (k s1 done : ℕ) (monoNs : ℤ) (q : Vec6 α) (rest : List (Fin kNumJoints))
  | returned (c : Scan α) (begun : ℕ)

/-- The observer's log holds the pushes that have begun, and `done` counts those that are done. -/
structure Run (α : Type) where
  slots : Slots α
  writer : Writer α
  readers : ℕ → Reader α
  log : List (Entry α)
  done : ℕ

inductive Label (α : Type) where
  | push (e : Entry α)
  | writerStep
  | nearest (reader : ℕ) (queryNs : ℤ)
  | readerStep (reader : ℕ) (junk : Vec6 α)

/-- The next step of a `push`. -/
def Run.pushStep (r : Run α) : Option (Run α) :=
  match r.writer with
  | .idle => none
  | .called e =>
    let i := r.slots.writeIdx &&& (kCap - 1)
    some { r with writer := .loaded e i (r.slots.seq i) }
  | .loaded e i s => some { r with
      slots.seq := Function.update r.slots.seq i ((s + 1) % 2 ^ 64)
      log := r.log ++ [e]
      writer := .opened e i s }
  | .opened e i s => some { r with
      slots.monoNs := Function.update r.slots.monoNs i e.monoNs
      writer := .storing e i s (List.finRange kNumJoints) }
  | .storing e i s (j :: rest) => some { r with
      slots.q := Function.update r.slots.q i (Function.update (r.slots.q i) j (e.q j))
      writer := .storing e i s rest }
  | .storing _ i s [] => some { r with
      slots.seq := Function.update r.slots.seq i ((s + 2) % 2 ^ 64)
      writer := .published }
  | .published =>
    let writeIdx := (r.slots.writeIdx + 1) % 2 ^ 64
    some { r with
      slots.writeIdx := writeIdx
      slots.count := if writeIdx < kCap then writeIdx else kCap
      done := r.done + 1
      writer := .idle }

/-- The distance of a timestamp, in 64 bits. -/
def distance (queryNs monoNs : ℤ) : ℤ :=
  if queryNs < monoNs then wrapInt64 (monoNs - queryNs) else wrapInt64 (queryNs - monoNs)

/-- A slot that was read whole. -/
def Scan.take (c : Scan α) (monoNs : ℤ) (q : Vec6 α) : Scan α :=
  let dt := distance c.queryNs monoNs
  if dt < c.bestDt then { c with bestDt := dt, best := some q } else c

def Scan.miss (c : Scan α) (m : Miss) : Scan α := { c with missed := c.missed ++ [m] }

/-- The next step of a `nearest`, whose copy of the joints holds `junk` at first. -/
def Run.readStep (r : Run α) (junk : Vec6 α) : Reader α → Option (Reader α)
  | .idle | .returned _ _ => none
  | .called queryNs =>
    some (.scanning ⟨queryNs, r.slots.count, kInt64Max, none, r.done, []⟩ 0)
  | .scanning c k =>
    if k < c.n then
      let i := k &&& (kCap - 1)
      let s1 := r.slots.seq i
      if s1 &&& 1 = 1 then some (.scanning (c.miss ⟨k, r.done, r.log.length⟩) (k + 1))
      else some (.opened c k s1 r.done)
    else some (.returned c r.log.length)
  | .opened c k s1 done =>
    let i := k &&& (kCap - 1)
    some (.loading c k s1 done (r.slots.monoNs i) junk (List.finRange kNumJoints))
  | .loading c k s1 done monoNs q (j :: rest) =>
    let i := k &&& (kCap - 1)
    some (.loading c k s1 done monoNs (Function.update q j (r.slots.q i j)) rest)
  | .loading c k s1 done monoNs q [] =>
    let i := k &&& (kCap - 1)
    if r.slots.seq i = s1 then some (.scanning (c.take monoNs q) (k + 1))
    else some (.scanning (c.miss ⟨k, done, r.log.length⟩) (k + 1))

def Run.advance (r : Run α) : Label α → Option (Run α)
  | .push e =>
    match r.writer with
    | .idle => some { r with writer := .called e }
    | _ => none
  | .writerStep => r.pushStep
  | .nearest reader queryNs =>
    match r.readers reader with
    | .idle | .returned _ _ =>
      some { r with readers := Function.update r.readers reader (.called queryNs) }
    | _ => none
  | .readerStep reader junk =>
    (r.readStep junk (r.readers reader)).map fun next =>
      { r with readers := Function.update r.readers reader next }

/-- Before the first push: `blank` is what the slots are initialised with. -/
def Run.new (blank : α) : Run α where
  slots := ⟨fun _ => 0, fun _ => 0, fun _ _ => blank, 0, 0⟩
  writer := .idle
  readers := fun _ => .idle
  log := []
  done := 0

def machine (blank : α) : Machine (Run α) (Label α) := ⟨.new blank, Run.advance⟩

/-! ### The memory against the log -/

/-- How many of the first `x` pushes went to the slot `i`. -/
def laps (x i : ℕ) : ℕ := (x + 255 - i) / 256

/-- How many pushes the counters show. -/
def Run.stored (r : Run α) : ℕ :=
  match r.writer with
  | .published => r.done + 1
  | _ => r.done

/-- Whether the counter of a slot is odd. -/
def Run.odd (r : Run α) (k : ℕ) : ℕ :=
  match r.writer with
  | .opened _ i _ | .storing _ i _ _ => if k = i then 1 else 0
  | _ => 0

/-- What a push has done so far. -/
def Run.Pushing (r : Run α) : Prop :=
  match r.writer with
  | .idle | .called _ => r.log.length = r.done
  | .loaded _ i s => r.log.length = r.done ∧ i = r.done % 256 ∧ s = r.slots.seq i
  | .opened e i s => r.log.length = r.done + 1 ∧ i = r.done % 256 ∧ s = 2 * laps r.done i ∧
      r.log[r.done]? = some e
  | .storing e i s rest => r.log.length = r.done + 1 ∧ i = r.done % 256 ∧ s = 2 * laps r.done i ∧
      r.log[r.done]? = some e ∧ r.slots.monoNs i = e.monoNs ∧
      ∀ j, j ∉ rest → r.slots.q i j = e.q j
  | .published => r.log.length = r.done + 1

/-- One while a push is under way. -/
def Run.busy (r : Run α) : ℕ :=
  match r.writer with
  | .idle => 0
  | _ => 1

/-- Every counter counts its slot's pushes, and every slot holds its latest one unless it is being
written. -/
structure Run.Kept (r : Run α) : Prop where
  small : r.done + r.busy < 2 ^ 64
  idx : r.slots.writeIdx = r.done
  count : r.slots.count = min r.done 256
  pushing : r.Pushing
  seq : ∀ k, k < 256 → r.slots.seq k = 2 * laps r.stored k + r.odd k
  content : ∀ p e, p < r.stored → r.log.length ≤ p + 256 → r.log[p]? = some e →
    r.slots.monoNs (p % 256) = e.monoNs ∧ r.slots.q (p % 256) = e.q

section Kept

variable {r : Run α}

theorem Run.Kept.stored_le (kept : r.Kept) :
    r.stored ≤ r.log.length ∧ r.log.length ≤ r.stored + 1 ∧ r.done ≤ r.stored := by
  have pushing := kept.pushing
  unfold Run.Pushing at pushing
  unfold Run.stored
  cases writer : r.writer with
  | idle | called e | published =>
    simp only [writer] at pushing ⊢
    omega
  | loaded e i s | opened e i s | storing e i s rest =>
    simp only [writer] at pushing ⊢
    omega

/-- A counter that is odd is the writer's, in the slot of the push in progress. -/
theorem Run.Kept.odd_cases (kept : r.Kept) (k : ℕ) :
    r.odd k = 0 ∧ (r.log.length = r.stored ∨ k ≠ r.stored % 256) ∨
      r.odd k = 1 ∧ k = r.stored % 256 ∧ r.log.length = r.stored + 1 ∧ r.stored = r.done := by
  have pushing := kept.pushing
  unfold Run.Pushing at pushing
  unfold Run.stored Run.odd
  cases writer : r.writer with
  | idle | called e | published =>
    simp only [writer] at pushing ⊢
    exact .inl ⟨trivial, .inl pushing⟩
  | loaded e i s =>
    simp only [writer] at pushing ⊢
    exact .inl ⟨trivial, .inl pushing.1⟩
  | opened e i s | storing e i s rest =>
    simp only [writer] at pushing ⊢
    obtain ⟨length, slot, -⟩ := pushing
    by_cases here : k = i
    · rw [if_pos here]
      exact .inr ⟨rfl, here.trans slot, length, trivial⟩
    · rw [if_neg here]
      exact .inl ⟨rfl, .inr fun same => here (same.trans slot.symm)⟩

/-- A counter that shows `m` pushes: the last of them is stored, and no later one has begun. -/
theorem Run.Kept.stable (kept : r.Kept) {k m : ℕ} (bound : k < 256) (lap : 1 ≤ m)
    (shown : r.slots.seq k = 2 * m) :
    (m - 1) * 256 + k < r.stored ∧ r.log.length ≤ m * 256 + k := by
  have seq := kept.seq k bound
  have length := kept.stored_le
  rw [shown, laps] at seq
  rcases kept.odd_cases k with ⟨even, free⟩ | ⟨odd, -⟩
  · rcases free with idle | other
    · omega
    · omega
  · omega

/-- A counter that shows more: the push after the `m`-th has begun. -/
theorem Run.Kept.moved (kept : r.Kept) {k m : ℕ} (bound : k < 256) (least : 2 * m ≤ r.slots.seq k)
    (changed : r.slots.seq k ≠ 2 * m) : m * 256 + k < r.log.length := by
  have seq := kept.seq k bound
  have length := kept.stored_le
  rw [laps] at seq
  rcases kept.odd_cases k with ⟨even, -⟩ | ⟨odd, slot, begun, -⟩
  · omega
  · omega

/-- What the readers rely on: the log, the count of pushes and the counters only grow. -/
structure Grows (r t : Run α) : Prop where
  log : r.log <+: t.log
  done : r.done ≤ t.done
  seq : ∀ k, k < 256 → r.slots.seq k ≤ t.slots.seq k

theorem Grows.refl (r : Run α) : Grows r r := ⟨List.prefix_rfl, le_rfl, fun _ _ => le_rfl⟩

variable {e : Entry α} {i s : ℕ} {rest : List (Fin kNumJoints)}

theorem slot_eq (n : ℕ) : n &&& (kCap - 1) = n % 256 := Nat.and_two_pow_sub_one_eq_mod n 8

theorem Run.Kept.load (kept : r.Kept) (writer : r.writer = .called e) :
    ({ r with
        writer := .loaded e (r.slots.writeIdx &&& (kCap - 1))
          (r.slots.seq (r.slots.writeIdx &&& (kCap - 1))) } : Run α).Kept := by
  have pushing := kept.pushing
  have small := kept.small
  have seq := kept.seq
  have content := kept.content
  simp only [Run.Pushing, Run.busy, Run.stored, Run.odd, writer] at pushing small seq content
  constructor
  · exact small
  · exact kept.idx
  · exact kept.count
  · exact ⟨pushing, by rw [slot_eq, kept.idx], rfl⟩
  · exact seq
  · exact content

theorem Run.Kept.open (kept : r.Kept) (writer : r.writer = .loaded e i s) :
    ({ r with
        slots.seq := Function.update r.slots.seq i ((s + 1) % 2 ^ 64)
        log := r.log ++ [e]
        writer := .opened e i s } : Run α).Kept ∧
      (s + 1) % 2 ^ 64 = r.slots.seq i + 1 := by
  have pushing := kept.pushing
  have small := kept.small
  have seq := kept.seq
  have content := kept.content
  simp only [Run.Pushing, Run.busy, Run.stored, Run.odd, writer] at pushing small seq content
  obtain ⟨length, rfl, rfl⟩ := pushing
  have here := seq (r.done % 256) (Nat.mod_lt _ (by decide))
  have fits : (r.slots.seq (r.done % 256) + 1) % 2 ^ 64 = r.slots.seq (r.done % 256) + 1 := by
    rw [here, laps]
    omega
  refine ⟨?_, fits⟩
  constructor
  · exact small
  · exact kept.idx
  · exact kept.count
  · refine ⟨?_, rfl, here, ?_⟩
    · simp only [List.length_append, List.length_singleton, length]
    · rw [← length]
      exact List.getElem?_concat_length
  · intro k bound
    simp only [Run.stored, Run.odd]
    by_cases same : k = r.done % 256
    · rw [same, Function.update_self, fits, if_pos rfl, here]
    · rw [Function.update_of_ne same, if_neg same]
      exact seq k bound
  · intro p e' stored latest found
    rw [List.length_append] at latest
    simp only [Run.stored] at stored
    rw [List.getElem?_append_left (by omega)] at found
    exact content p e' stored (by omega) found

/-- The slot of a push in progress is none that a push before it still stands in. -/
theorem slot_apart {d p : ℕ} (stored : p < d) (latest : d + 1 ≤ p + 256) : p % 256 ≠ d % 256 := by
  omega

theorem Run.Kept.stamp (kept : r.Kept) (writer : r.writer = .opened e i s) :
    ({ r with
        slots.monoNs := Function.update r.slots.monoNs i e.monoNs
        writer := .storing e i s (List.finRange kNumJoints) } : Run α).Kept := by
  have pushing := kept.pushing
  have small := kept.small
  have seq := kept.seq
  have content := kept.content
  simp only [Run.Pushing, Run.busy, Run.stored, Run.odd, writer] at pushing small seq content
  obtain ⟨length, rfl, rfl, own⟩ := pushing
  constructor
  · exact small
  · exact kept.idx
  · exact kept.count
  · refine ⟨length, rfl, rfl, own, Function.update_self .., ?_⟩
    intro j absent
    exact absurd (List.mem_finRange j) absent
  · exact seq
  · intro p e' stored latest found
    simp only [Run.stored] at stored latest
    rw [length] at latest
    simp only [Function.update_of_ne (slot_apart stored latest)]
    exact content p e' stored (length ▸ latest) found

theorem Run.Kept.store {j : Fin kNumJoints} (kept : r.Kept)
    (writer : r.writer = .storing e i s (j :: rest)) :
    ({ r with
        slots.q := Function.update r.slots.q i (Function.update (r.slots.q i) j (e.q j))
        writer := .storing e i s rest } : Run α).Kept := by
  have pushing := kept.pushing
  have small := kept.small
  have seq := kept.seq
  have content := kept.content
  simp only [Run.Pushing, Run.busy, Run.stored, Run.odd, writer] at pushing small seq content
  obtain ⟨length, rfl, rfl, own, stamped, joints⟩ := pushing
  constructor
  · exact small
  · exact kept.idx
  · exact kept.count
  · refine ⟨length, rfl, rfl, own, stamped, ?_⟩
    intro l absent
    simp only [Function.update_self]
    by_cases same : l = j
    · rw [same, Function.update_self]
    · rw [Function.update_of_ne same]
      apply joints
      rw [List.mem_cons]
      rintro (head | tail)
      · exact same head
      · exact absent tail
  · exact seq
  · intro p e' stored latest found
    simp only [Run.stored] at stored latest
    rw [length] at latest
    simp only [Function.update_of_ne (slot_apart stored latest)]
    exact content p e' stored (length ▸ latest) found

theorem Run.Kept.close (kept : r.Kept) (writer : r.writer = .storing e i s []) :
    ({ r with
        slots.seq := Function.update r.slots.seq i ((s + 2) % 2 ^ 64)
        writer := .published } : Run α).Kept ∧
      (s + 2) % 2 ^ 64 = r.slots.seq i + 1 := by
  have pushing := kept.pushing
  have small := kept.small
  have seq := kept.seq
  have content := kept.content
  simp only [Run.Pushing, Run.busy, Run.stored, Run.odd, writer] at pushing small seq content
  obtain ⟨length, rfl, rfl, own, stamped, joints⟩ := pushing
  have here := seq (r.done % 256) (Nat.mod_lt _ (by decide))
  rw [if_pos rfl] at here
  have fits : (2 * laps r.done (r.done % 256) + 2) % 2 ^ 64 =
      2 * laps r.done (r.done % 256) + 2 := by
    rw [laps]
    omega
  refine ⟨?_, by rw [fits, here]⟩
  constructor
  · exact small
  · exact kept.idx
  · exact kept.count
  · exact length
  · intro k bound
    simp only [Run.stored, Run.odd]
    by_cases same : k = r.done % 256
    · rw [same, Function.update_self, fits, laps, laps]
      omega
    · rw [Function.update_of_ne same, seq k bound, if_neg same, laps, laps]
      omega
  · intro p e' stored latest found
    simp only [Run.stored] at stored latest
    rw [length] at latest
    rcases Nat.lt_succ_iff_lt_or_eq.mp stored with earlier | rfl
    · exact content p e' earlier (length ▸ latest) found
    · cases own.symm.trans found
      exact ⟨stamped, funext fun j => joints j List.not_mem_nil⟩

theorem Run.Kept.finish (kept : r.Kept) (writer : r.writer = .published) :
    ({ r with
        slots.writeIdx := (r.slots.writeIdx + 1) % 2 ^ 64
        slots.count := if (r.slots.writeIdx + 1) % 2 ^ 64 < kCap
          then (r.slots.writeIdx + 1) % 2 ^ 64 else kCap
        done := r.done + 1
        writer := .idle } : Run α).Kept := by
  have pushing := kept.pushing
  have small := kept.small
  have seq := kept.seq
  have content := kept.content
  simp only [Run.Pushing, Run.busy, Run.stored, Run.odd, writer] at pushing small seq content
  have fits : (r.slots.writeIdx + 1) % 2 ^ 64 = r.done + 1 := by
    rw [kept.idx]
    omega
  constructor
  · exact small
  · exact fits
  · simp only [fits, kCap]
    split <;> omega
  · exact pushing
  · exact seq
  · exact content

/-- A step of a push keeps the memory in order, and nothing shrinks. -/
theorem Run.Kept.pushStep {t : Run α} (kept : r.Kept) (moved : r.pushStep = some t) :
    t.Kept ∧ Grows r t := by
  unfold Run.pushStep at moved
  cases writer : r.writer with
  | idle =>
    rw [writer] at moved
    cases moved
  | called e =>
    rw [writer] at moved
    cases moved
    exact ⟨kept.load writer, List.prefix_rfl, le_rfl, fun _ _ => le_rfl⟩
  | loaded e i s =>
    rw [writer] at moved
    cases moved
    obtain ⟨next, counted⟩ := kept.open writer
    refine ⟨next, List.prefix_append _ _, le_rfl, ?_⟩
    intro k _
    by_cases same : k = i
    · simp only [same, Function.update_self, counted]
      omega
    · simp only [Function.update_of_ne same, le_refl]
  | opened e i s =>
    rw [writer] at moved
    cases moved
    exact ⟨kept.stamp writer, List.prefix_rfl, le_rfl, fun _ _ => le_rfl⟩
  | storing e i s rest =>
    rw [writer] at moved
    cases rest with
    | cons j rest =>
      cases moved
      exact ⟨kept.store writer, List.prefix_rfl, le_rfl, fun _ _ => le_rfl⟩
    | nil =>
      cases moved
      obtain ⟨next, counted⟩ := kept.close writer
      refine ⟨next, List.prefix_rfl, le_rfl, ?_⟩
      intro k _
      by_cases same : k = i
      · simp only [same, Function.update_self, counted]
        omega
      · simp only [Function.update_of_ne same, le_refl]
  | published =>
    rw [writer] at moved
    cases moved
    exact ⟨kept.finish writer, List.prefix_rfl, Nat.le_succ _, fun _ _ => le_rfl⟩

end Kept

/-! ### The readers -/

/-- How far a pushed timestamp is from the one that is looked up. -/
def Entry.gap (e : Entry α) (queryNs : ℤ) : ℤ := |e.monoNs - queryNs|

theorem distance_gap {e : Entry α} {queryNs : ℤ} (fits : e.gap queryNs < kInt64Max) :
    distance queryNs e.monoNs = e.gap queryNs := by
  have low : kInt64Min ≤ 0 := by decide
  unfold distance
  unfold Entry.gap at fits ⊢
  split
  · rename_i later
    have ahead : 0 ≤ e.monoNs - queryNs := by omega
    rw [abs_of_nonneg ahead] at fits ⊢
    exact wrapInt64_fits (low.trans ahead) fits.le
  · rename_i earlier
    have behind : e.monoNs - queryNs ≤ 0 := by omega
    rw [abs_of_nonpos behind, neg_sub] at fits ⊢
    exact wrapInt64_fits (by omega) fits.le

/-- While the slot was read a push into it was under way. -/
def Miss.Overwritten (m : Miss) : Prop := ∃ p, p % 256 = m.slot ∧ m.done ≤ p ∧ p < m.begun

/-- A scan that has the first `k` slots behind it: what it found was pushed whole, and is as near
as every push that was done when it began and still stands in one of these slots. -/
structure Scan.Sound (r : Run α) (c : Scan α) (k : ℕ) : Prop where
  size : c.n = min c.since 256
  since : c.since ≤ r.done
  found : ∀ out ∈ c.best, ∃ p e, r.log[p]? = some e ∧ c.since ≤ p + 256 ∧ out = e.q ∧
    c.bestDt = e.gap c.queryNs
  unset : c.best = none → c.bestDt = kInt64Max
  near : ∀ p e, r.log[p]? = some e → p < c.since → p % 256 < k → r.log.length ≤ p + 256 →
    c.best ≠ none ∧ c.bestDt ≤ e.gap c.queryNs
  missed : c.best = none → ∀ j, j < k → ∃ m ∈ c.missed, m.slot = j ∧ m.Overwritten

/-- The counter a reader holds showed `m` pushes to its slot, and may have moved on. -/
structure Held (r : Run α) (c : Scan α) (k s1 done m : ℕ) : Prop where
  bound : k < c.n
  lap : 1 ≤ m
  even : s1 = 2 * m
  since : c.since ≤ done
  next : done ≤ m * 256 + k
  least : 2 * m ≤ r.slots.seq k

/-- What a finished call answers. -/
structure Answered (log : List (Entry α)) (c : Scan α) (begun : ℕ) : Prop where
  whole : ∀ out ∈ c.best, ∃ p e, log[p]? = some e ∧ p < begun ∧ c.since ≤ p + 256 ∧ out = e.q ∧
    ∀ p' e', log[p']? = some e' → p' < c.since → begun ≤ p' + 256 →
      e.gap c.queryNs ≤ e'.gap c.queryNs
  missing : c.best = none → (∀ p, p < c.since → p + 256 < begun) ∧
    ∀ j, j < min c.since 256 → ∃ m ∈ c.missed, m.slot = j ∧ m.Overwritten

def Reader.Sound (Q : Set ℤ) (r : Run α) : Reader α → Prop
  | .idle => True
  | .called queryNs => queryNs ∈ Q
  | .scanning c k => c.queryNs ∈ Q ∧ c.Sound r k ∧ k ≤ c.n
  | .opened c k s1 done => c.queryNs ∈ Q ∧ c.Sound r k ∧ ∃ m, Held r c k s1 done m
  | .loading c k s1 done monoNs q rest => c.queryNs ∈ Q ∧ c.Sound r k ∧ ∃ m, Held r c k s1 done m ∧
      (r.slots.seq k = s1 → ∀ e, r.log[(m - 1) * 256 + k]? = some e →
        monoNs = e.monoNs ∧ ∀ j, j ∉ rest → q j = e.q j)
  | .returned c begun => c.since ≤ begun ∧ begun ≤ r.log.length ∧ Answered r.log c begun

section Grow

variable {r t : Run α} {c : Scan α} {k s1 done m : ℕ} {Q : Set ℤ}

theorem Grows.lookup (grows : Grows r t) {p : ℕ} (bound : p < r.log.length) :
    t.log[p]? = r.log[p]? := by
  obtain ⟨more, log⟩ := grows.log
  rw [← log, List.getElem?_append_left bound]

theorem Grows.length (grows : Grows r t) : r.log.length ≤ t.log.length := grows.log.length_le

theorem Scan.Sound.grows (sound : c.Sound r k) (grows : Grows r t)
    (order : r.done ≤ r.log.length) : c.Sound t k := by
  have longer := grows.length
  constructor
  · exact sound.size
  · exact sound.since.trans grows.done
  · intro out member
    obtain ⟨p, e, found, rest⟩ := sound.found out member
    refine ⟨p, e, ?_, rest⟩
    rw [grows.lookup (List.getElem?_eq_some_iff.mp found).1]
    exact found
  · exact sound.unset
  · intro p e found before behind latest
    have since := sound.since
    rw [grows.lookup (by omega)] at found
    exact sound.near p e found before behind (by omega)
  · exact sound.missed

theorem Held.grows (held : Held r c k s1 done m) (size : c.n ≤ 256) (grows : Grows r t) :
    Held t c k s1 done m := by
  have slot := held.bound
  exact ⟨held.bound, held.lap, held.even, held.since, held.next,
    held.least.trans (grows.seq k (by omega))⟩

theorem Answered.grows {begun : ℕ} (answered : Answered r.log c begun) (since : c.since ≤ begun)
    (within : begun ≤ r.log.length) (grows : Grows r t) : Answered t.log c begun := by
  constructor
  · intro out member
    obtain ⟨p, e, found, before, near, same, nearest⟩ := answered.whole out member
    refine ⟨p, e, ?_, before, near, same, ?_⟩
    · rw [grows.lookup (by omega)]
      exact found
    · intro p' e' found' early late
      rw [grows.lookup (by omega)] at found'
      exact nearest p' e' found' early late
  · exact answered.missing

/-- What the others do takes nothing from a reader. -/
theorem Reader.Sound.grows {reader : Reader α} (sound : reader.Sound Q r) (kept : r.Kept)
    (grows : Grows r t) : reader.Sound Q t := by
  have order : r.done ≤ r.log.length := by
    have stored := kept.stored_le
    omega
  cases reader with
  | idle => trivial
  | called queryNs => exact sound
  | scanning c k =>
    obtain ⟨asked, scan, bound⟩ := sound
    exact ⟨asked, scan.grows grows order, bound⟩
  | opened c k s1 done =>
    obtain ⟨asked, scan, m, held⟩ := sound
    have size : c.n ≤ 256 := scan.size.trans_le (min_le_right _ _)
    exact ⟨asked, scan.grows grows order, m, held.grows size grows⟩
  | loading c k s1 done monoNs q rest =>
    obtain ⟨asked, scan, m, held, loaded⟩ := sound
    have size : c.n ≤ 256 := scan.size.trans_le (min_le_right _ _)
    refine ⟨asked, scan.grows grows order, m, held.grows size grows, ?_⟩
    intro still e found
    -- A counter that only grows and is back at its old value has not moved.
    have slot : k < 256 := held.bound.trans_le size
    have same : r.slots.seq k = s1 := by
      have more := grows.seq k slot
      have least := held.least
      have even := held.even
      omega
    have stable := kept.stable slot held.lap (same.trans held.even)
    have stored := kept.stored_le
    rw [grows.lookup (by omega)] at found
    exact loaded same e found
  | returned c begun =>
    obtain ⟨since, within, answered⟩ := sound
    exact ⟨since, within.trans grows.length, answered.grows since within grows⟩

end Grow

section Read

variable {r : Run α} {c : Scan α} {k : ℕ} {Q : Set ℤ}

/-- A slot that was being overwritten held nothing that could stay. -/
theorem Scan.Sound.miss (sound : c.Sound r k) {done begun : ℕ}
    (passed : Miss.Overwritten ⟨k, done, begun⟩)
    (gone : ∀ p, p < c.since → p % 256 = k → p + 256 < r.log.length) :
    (c.miss ⟨k, done, begun⟩).Sound r (k + 1) := by
  constructor
  · exact sound.size
  · exact sound.since
  · exact sound.found
  · exact sound.unset
  · intro p e found before behind latest
    by_cases here : p % 256 = k
    · have left := gone p before here
      omega
    · exact sound.near p e found before (by omega) latest
  · intro empty j before
    by_cases here : j = k
    · exact ⟨_, List.mem_append_right _ (List.mem_singleton_self _), here.symm, passed⟩
    · obtain ⟨m, member, slot, overwritten⟩ := sound.missed empty j (by omega)
      exact ⟨m, List.mem_append_left _ member, slot, overwritten⟩

/-- A slot that was read whole is taken if it is nearer than what was found before. -/
theorem Scan.Sound.take (sound : c.Sound r k) {p : ℕ} {e : Entry α} (found : r.log[p]? = some e)
    (since : c.since ≤ p + 256)
    (only : ∀ p', p' < c.since → p' % 256 = k → r.log.length ≤ p' + 256 → p' = p)
    (fits : e.gap c.queryNs < kInt64Max) : (c.take e.monoNs e.q).Sound r (k + 1) := by
  unfold Scan.take
  rw [distance_gap fits]
  simp only
  split
  · rename_i nearer
    constructor
    · exact sound.size
    · exact sound.since
    · rintro out ⟨⟩
      exact ⟨p, e, found, since, rfl, rfl⟩
    · nofun
    · intro p' e' found' before behind latest
      refine ⟨nofun, ?_⟩
      by_cases here : p' % 256 = k
      · obtain rfl := only p' before here latest
        cases found.symm.trans found'
        exact le_rfl
      · exact nearer.le.trans (sound.near p' e' found' before (by omega) latest).2
    · nofun
  · rename_i farther
    have set : c.best ≠ none := by
      intro empty
      rw [sound.unset empty] at farther
      exact farther fits
    constructor
    · exact sound.size
    · exact sound.since
    · exact sound.found
    · exact sound.unset
    · intro p' e' found' before behind latest
      by_cases here : p' % 256 = k
      · obtain rfl := only p' before here latest
        cases found.symm.trans found'
        exact ⟨set, not_lt.mp farther⟩
      · exact sound.near p' e' found' before (by omega) latest
    · exact fun empty => absurd empty set

/-- With every slot behind it a scan answers. -/
theorem Scan.Sound.answers (sound : c.Sound r k) (scanned : c.n ≤ k) (kept : r.Kept) :
    Answered r.log c r.log.length := by
  have size := sound.size
  have since := sound.since
  have stored := kept.stored_le
  have slot (p : ℕ) (before : p < c.since) : p % 256 < k := by omega
  constructor
  · intro out member
    obtain ⟨p, e, found, near, same, distance⟩ := sound.found out member
    refine ⟨p, e, found, (List.getElem?_eq_some_iff.mp found).1, near, same, ?_⟩
    intro p' e' found' before latest
    rw [← distance]
    exact (sound.near p' e' found' before (slot p' before) latest).2
  · intro empty
    constructor
    · intro p before
      by_contra latest
      have bound : p < r.log.length := by omega
      exact (sound.near p _ (List.getElem?_eq_getElem bound) before (slot p before)
        (by omega)).1 empty
    · intro j bound
      exact sound.missed empty j (by omega)

/-- A step of a `nearest` keeps its reader in order. -/
theorem Reader.Sound.readStep {reader next : Reader α} {junk : Vec6 α} (kept : r.Kept)
    (fits : ∀ e ∈ r.log, ∀ queryNs ∈ Q, e.gap queryNs < kInt64Max) (sound : reader.Sound Q r)
    (moved : r.readStep junk reader = some next) : next.Sound Q r := by
  have stored := kept.stored_le
  cases reader with
  | idle | returned c begun => cases moved
  | called queryNs =>
    cases moved
    refine ⟨sound, ?_, Nat.zero_le _⟩
    constructor
    · exact kept.count
    · exact le_rfl
    · nofun
    · exact fun _ => rfl
    · intro p e found before behind
      exact absurd behind (Nat.not_lt_zero _)
    · intro _ j before
      exact absurd before (Nat.not_lt_zero _)
  | scanning c k =>
    obtain ⟨asked, scan, bound⟩ := sound
    have size := scan.size
    have since := scan.since
    simp only [Run.readStep] at moved
    split at moved
    · rename_i inside
      have slot : k < 256 := by omega
      have index : k &&& (kCap - 1) = k := (slot_eq k).trans (Nat.mod_eq_of_lt slot)
      have counter := kept.seq k slot
      rw [index, Nat.and_one_is_mod] at moved
      split at moved
      · rename_i writing
        cases moved
        rcases kept.odd_cases k with ⟨even, -⟩ | ⟨odd, here, begun, held⟩
        · omega
        refine ⟨asked, scan.miss ⟨r.done, ?_, le_rfl, ?_⟩ ?_, inside⟩
        · rw [here, held]
        · simp only
          omega
        · intro p before same
          omega
      · rename_i stable
        cases moved
        refine ⟨asked, scan, r.slots.seq k / 2, inside, ?_, by omega, since, ?_, by omega⟩
        · rw [laps] at counter
          omega
        · rw [laps] at counter
          rcases kept.odd_cases k with ⟨even, free⟩ | ⟨odd, -⟩
          · omega
          · omega
    · rename_i scanned
      cases moved
      exact ⟨by omega, le_rfl, scan.answers (not_lt.mp scanned) kept⟩
  | opened c k s1 done =>
    obtain ⟨asked, scan, m, held⟩ := sound
    have size := scan.size
    have inside := held.bound
    have slot : k < 256 := by omega
    have index : k &&& (kCap - 1) = k := (slot_eq k).trans (Nat.mod_eq_of_lt slot)
    simp only [Run.readStep, index] at moved
    cases moved
    refine ⟨asked, scan, m, held, ?_⟩
    intro still e found
    have stable := kept.stable slot held.lap (still.trans held.even)
    have lap := held.lap
    have content := kept.content _ e stable.1 (by omega) found
    have place : ((m - 1) * 256 + k) % 256 = k := by omega
    rw [place] at content
    refine ⟨content.1, ?_⟩
    intro j absent
    exact absurd (List.mem_finRange j) absent
  | loading c k s1 done monoNs q rest =>
    obtain ⟨asked, scan, m, held, loaded⟩ := sound
    have size := scan.size
    have inside := held.bound
    have lap := held.lap
    have slot : k < 256 := by omega
    have index : k &&& (kCap - 1) = k := (slot_eq k).trans (Nat.mod_eq_of_lt slot)
    have place : ((m - 1) * 256 + k) % 256 = k := by omega
    cases rest with
    | cons j rest =>
      simp only [Run.readStep, index] at moved
      cases moved
      refine ⟨asked, scan, m, held, ?_⟩
      intro still e found
      have stable := kept.stable slot lap (still.trans held.even)
      have content := kept.content _ e stable.1 (by omega) found
      rw [place] at content
      obtain ⟨stamp, joints⟩ := loaded still e found
      refine ⟨stamp, ?_⟩
      intro l absent
      by_cases here : l = j
      · rw [here, Function.update_self, content.2]
      · rw [Function.update_of_ne here]
        apply joints
        rw [List.mem_cons]
        rintro (head | tail)
        · exact here head
        · exact absent tail
    | nil =>
      simp only [Run.readStep, index] at moved
      have next := held.next
      have since := held.since
      split at moved
      · rename_i still
        cases moved
        have stable := kept.stable slot lap (still.trans held.even)
        have bound : (m - 1) * 256 + k < r.log.length := by omega
        have found := List.getElem?_eq_getElem bound
        obtain ⟨stamp, joints⟩ := loaded still _ found
        have whole : q = (r.log[(m - 1) * 256 + k]).q := funext fun j => joints j List.not_mem_nil
        rw [stamp, whole]
        refine ⟨?_, scan.take found (by omega) ?_ (fits _ (List.getElem_mem _) _ asked), ?_⟩
        · unfold Scan.take
          simp only
          split <;> exact asked
        · intro p' before same latest
          omega
        · unfold Scan.take
          simp only
          split <;> exact inside
      · rename_i changed
        cases moved
        rw [held.even] at changed
        have moved := kept.moved slot held.least changed
        have here : (m * 256 + k) % 256 = k := by
          rw [mul_comm, Nat.mul_add_mod, Nat.mod_eq_of_lt slot]
        have passed : Miss.Overwritten ⟨k, done, r.log.length⟩ := ⟨m * 256 + k, here, next, moved⟩
        refine ⟨asked, scan.miss passed ?_, inside⟩
        · intro p before same
          omega

end Read

/-! ### Runs -/

section Runs

variable {M Q : Set ℤ} {r : Run α}

/-- Pushes are stamped from `M`, readers look up timestamps from `Q`, and the writer's index does
not wrap. -/
def legal (M Q : Set ℤ) (r : Run α) : Label α → Prop
  | .push e => e.monoNs ∈ M ∧ r.done + 1 < 2 ^ 64
  | .nearest _ queryNs => queryNs ∈ Q
  | .writerStep | .readerStep _ _ => True

instance (r : Run α) (l : Label α) [DecidablePred (· ∈ M)] [DecidablePred (· ∈ Q)] :
    Decidable (legal M Q r l) :=
  match l with
  | .push e => inferInstanceAs (Decidable (e.monoNs ∈ M ∧ r.done + 1 < 2 ^ 64))
  | .nearest _ queryNs => inferInstanceAs (Decidable (queryNs ∈ Q))
  | .writerStep | .readerStep _ _ => inferInstanceAs (Decidable True)

/-- The push that has not begun yet. -/
def Writer.pending : Writer α → Option (Entry α)
  | .called e | .loaded e _ _ => some e
  | _ => none

structure Run.Sound (M Q : Set ℤ) (r : Run α) : Prop where
  kept : r.Kept
  logged : ∀ e ∈ r.log, e.monoNs ∈ M
  pending : ∀ e ∈ r.writer.pending, e.monoNs ∈ M
  readers : ∀ i, (r.readers i).Sound Q r

theorem pushStep_readers {t : Run α} (moved : r.pushStep = some t) : t.readers = r.readers := by
  unfold Run.pushStep at moved
  split at moved <;> cases moved <;> rfl

theorem Run.Sound.pushStep {t : Run α} (sound : r.Sound M Q) (moved : r.pushStep = some t) :
    t.Sound M Q := by
  obtain ⟨kept, grows⟩ := sound.kept.pushStep moved
  have stamped := sound.pending
  have logged := sound.logged
  have noted : (∀ e ∈ t.log, e.monoNs ∈ M) ∧ ∀ e ∈ t.writer.pending, e.monoNs ∈ M := by
    unfold Run.pushStep at moved
    cases writer : r.writer with
    | idle =>
      rw [writer] at moved
      cases moved
    | called e =>
      rw [writer] at moved stamped
      cases moved
      exact ⟨logged, stamped⟩
    | loaded e i s =>
      rw [writer] at moved stamped
      cases moved
      refine ⟨?_, nofun⟩
      intro e' member
      rcases List.mem_append.mp member with older | new
      · exact logged e' older
      · rw [List.mem_singleton.mp new]
        exact stamped e rfl
    | opened e i s | published =>
      rw [writer] at moved
      cases moved
      exact ⟨logged, nofun⟩
    | storing e i s rest =>
      rw [writer] at moved
      cases rest with
      | nil | cons j rest =>
        cases moved
        exact ⟨logged, nofun⟩
  constructor
  · exact kept
  · exact noted.1
  · exact noted.2
  · intro i
    rw [pushStep_readers moved]
    exact (sound.readers i).grows sound.kept grows

theorem Run.Sound.reader (sound : r.Sound M Q) (i : ℕ) {next : Reader α} (good : next.Sound Q r) :
    ({ r with readers := Function.update r.readers i next } : Run α).Sound M Q := by
  have same : Grows r { r with readers := Function.update r.readers i next } :=
    ⟨List.prefix_rfl, le_rfl, fun _ _ => le_rfl⟩
  constructor
  · exact ⟨sound.kept.small, sound.kept.idx, sound.kept.count, sound.kept.pushing, sound.kept.seq,
      sound.kept.content⟩
  · exact sound.logged
  · exact sound.pending
  · intro j
    by_cases here : j = i
    · rw [here]
      simp only [Function.update_self]
      exact good.grows sound.kept same
    · simp only [Function.update_of_ne here]
      exact (sound.readers j).grows sound.kept same

theorem Run.Sound.advance {t : Run α} {l : Label α} (sound : r.Sound M Q)
    (near : ∀ m ∈ M, ∀ queryNs ∈ Q, |m - queryNs| < kInt64Max) (allowed : legal M Q r l)
    (moved : r.advance l = some t) : t.Sound M Q := by
  cases l with
  | writerStep => exact sound.pushStep moved
  | push e =>
    simp only [Run.advance] at moved
    split at moved
    · rename_i idle
      cases moved
      have kept := sound.kept
      have pushing := kept.pushing
      have seq := kept.seq
      have content := kept.content
      simp only [Run.Pushing, Run.stored, Run.odd, idle] at pushing seq content
      have called : ({ r with writer := .called e } : Run α).Kept :=
        ⟨allowed.2, kept.idx, kept.count, pushing, seq, content⟩
      have grows : Grows r { r with writer := .called e } :=
        ⟨List.prefix_rfl, le_rfl, fun _ _ => le_rfl⟩
      refine ⟨called, sound.logged, ?_, fun i => (sound.readers i).grows kept grows⟩
      rintro e' ⟨⟩
      exact allowed.1
    · cases moved
  | nearest i queryNs =>
    simp only [Run.advance] at moved
    split at moved
    · cases moved
      exact sound.reader i allowed
    · cases moved
      exact sound.reader i allowed
    · cases moved
  | readerStep i junk =>
    obtain ⟨next, stepped, rfl⟩ := Option.map_eq_some_iff.mp moved
    exact sound.reader i ((sound.readers i).readStep sound.kept
      (fun e member queryNs asked => near _ (sound.logged e member) _ asked) stepped)

theorem sound_of_reachable {blank : α}
    (near : ∀ m ∈ M, ∀ queryNs ∈ Q, |m - queryNs| < kInt64Max)
    (reached : (machine blank).Reachable (legal M Q) r) : r.Sound M Q := by
  refine reached.invariant ?_ fun a b l sound allowed moved => sound.advance near allowed moved
  constructor
  · constructor
    · simp only [machine, Run.new]
      norm_num [Run.busy]
    · rfl
    · rfl
    · rfl
    · intro k bound
      simp only [machine, Run.new, Run.stored, Run.odd, laps]
      omega
    · intro p e stored
      exact absurd stored (Nat.not_lt_zero _)
  · nofun
  · nofun
  · exact fun _ => trivial

/-- Three pushes, and a lookup that a fourth one begins under and outlasts. -/
def lookedUpDuringPush : List (Label ℕ) :=
  [(5, 7), (20, 8), (40, 9)].flatMap (fun (monoNs, q) =>
    .push ⟨monoNs, fun _ => q⟩ :: List.replicate 11 .writerStep) ++
    .nearest 0 18 :: List.replicate 4 (.readerStep 0 fun _ => 1) ++
    .push ⟨60, fun _ => 10⟩ :: List.replicate 5 .writerStep ++
    List.replicate 25 (.readerStep 0 fun _ => 1)

/-- One push, and one lookup behind it. -/
def lookedUp (monoNs queryNs : ℤ) : List (Label ℕ) :=
  .push ⟨monoNs, fun _ => 7⟩ :: List.replicate 11 .writerStep ++
    .nearest 0 queryNs :: List.replicate 11 (.readerStep 0 fun _ => 1)

end Runs

end JointsAtRing

end AiroFanuc.RtCore
