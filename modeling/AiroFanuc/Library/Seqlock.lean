import AiroFanuc.Library.Machine
import Mathlib.Algebra.Ring.Nat
import Mathlib.Logic.Function.Basic

/-! A sequence lock over a value of many words: one writer, any number of readers, every load and
every store of a word a step of its own, in any order, and a counter of 64 bits that wraps. -/

namespace AiroFanuc.Library

/-- What a list holds, a longer one holds at the same place. -/
theorem prefix_getElem? {α : Type} {xs ys : List α} (longer : xs <+: ys) {i : Nat} {x : α}
    (found : xs[i]? = some x) : ys[i]? = some x := by
  obtain ⟨rest, rfl⟩ := longer
  rw [List.getElem?_append_left (List.getElem?_eq_some_iff.mp found).1]
  exact found

theorem Machine.run_append {σ ι : Type} (M : Machine σ ι) (s : σ) (first second : List ι) :
    M.run s (first ++ second) = (M.run s first).bind fun t => M.run t second := by
  induction first generalizing s with
  | nil => rfl
  | cons i rest ih =>
    rw [List.cons_append, run, run, Option.bind_assoc]
    exact congrArg _ (funext fun t => ih t)

namespace Seqlock

variable {W A : Type}

/-- `write`: the counter loaded, stored odd, the words stored one by one, the counter stored even. -/
inductive Writer (W A : Type) where
  | idle
  | called (v : W → A)
  | loaded (v : W → A) (s : Nat)
  | storing (v : W → A) (s : Nat) (rest : List W)

/-- `read`: spinning for an even counter, then copying. An observer adds how many writes were done
at the call, and how many had begun when the counter was loaded. -/
inductive Reader (W A : Type) where
  | idle
  | spinning (since : Nat) (out : W → A)
  | copying (since seen s1 : Nat) (out : W → A) (rest : List W)

/-- A read that returned: the writes done at its call, and those begun at its return. -/
structure Read (W A : Type) where
  reader : Nat
  since : Nat
  begun : Nat
  out : W → A

/-- The observer's log holds the writes that have begun, `done` counts those that are done, and
`reads` the reads in the order of their returns. -/
structure Run (W A : Type) where
  seq : Nat
  value : W → A
  writer : Writer W A
  readers : Nat → Reader W A
  log : List (W → A)
  done : Nat
  reads : List (Read W A)

inductive Label (W A : Type) where
  | write (v : W → A)
  | writerStep
  | read (reader : Nat) (junk : W → A)
  | readerStep (reader : Nat)

namespace Run

/-- Whether a write is between its two stores of the counter. -/
def storing (r : Run W A) : Prop :=
  match r.writer with
  | .storing _ _ _ => True
  | _ => False

variable [DecidableEq W]

/-- The next step of a `write` that copies the words in the order of `words`. -/
def writeStep (words : List W) (r : Run W A) : Option (Run W A) :=
  match r.writer with
  | .idle => none
  | .called v => some { r with writer := .loaded v r.seq }
  | .loaded v s => some { r with
      seq := (s + 1) % 2 ^ 64
      log := r.log ++ [v]
      writer := .storing v s words }
  | .storing v s (w :: rest) => some { r with
      value := Function.update r.value w (v w)
      writer := .storing v s rest }
  | .storing _ s [] => some { r with
      seq := (s + 2) % 2 ^ 64
      done := r.done + 1
      writer := .idle }

def setReader (r : Run W A) (k : Nat) (reader : Reader W A) : Run W A :=
  { r with readers := Function.update r.readers k reader }

/-- The next step of a `read`. -/
def readStep (words : List W) (r : Run W A) (k : Nat) : Option (Run W A) :=
  match r.readers k with
  | .idle => none
  | .spinning since out =>
    if r.seq % 2 = 1 then some r
    else some (r.setReader k (.copying since r.log.length r.seq out words))
  | .copying since seen s1 out (w :: rest) =>
    some (r.setReader k (.copying since seen s1 (Function.update out w (r.value w)) rest))
  | .copying since _ s1 out [] =>
    if r.seq = s1 then
      some { r.setReader k .idle with reads := r.reads ++ [⟨k, since, r.log.length, out⟩] }
    else some (r.setReader k (.spinning since out))

def step (words : List W) (r : Run W A) : Label W A → Option (Run W A)
  | .write v =>
    match r.writer with
    | .idle => some { r with writer := .called v }
    | _ => none
  | .writerStep => r.writeStep words
  | .read k junk =>
    match r.readers k with
    | .idle => some (r.setReader k (.spinning r.done junk))
    | _ => none
  | .readerStep k => r.readStep words k

def new (blank : W → A) : Run W A where
  seq := 0
  value := blank
  writer := .idle
  readers := fun _ => .idle
  log := []
  done := 0
  reads := []

/-- A copy overlaps with fewer writes than bring the counter round. -/
def brief (r : Run W A) : Label W A → Prop
  | .readerStep k =>
    match r.readers k with
    | .copying _ seen _ _ [] => r.log.length < seen + 2 ^ 63
    | _ => True
  | _ => True

end Run

/-- The machine over words that are copied in the order of `words`. -/
def machine [DecidableEq W] (words : List W) (blank : W → A) : Machine (Run W A) (Label W A) :=
  ⟨.new blank, Run.step words⟩

/-! ### The memory against the log -/

variable {blank : W → A} {r t : Run W A}

/-- The values in the order of their writes, the first one never written. -/
def Run.values (blank : W → A) (r : Run W A) : List (W → A) := blank :: r.log

/-- What a write has done so far. -/
def Run.Writing (blank : W → A) (r : Run W A) : Prop :=
  match r.writer with
  | .idle | .called _ =>
    r.log.length = r.done ∧ r.seq = 2 * r.done % 2 ^ 64 ∧ (r.values blank)[r.done]? = some r.value
  | .loaded _ s =>
    r.log.length = r.done ∧ r.seq = 2 * r.done % 2 ^ 64 ∧
      (r.values blank)[r.done]? = some r.value ∧ s = r.seq
  | .storing v s rest =>
    r.log.length = r.done + 1 ∧ r.seq = (2 * r.done + 1) % 2 ^ 64 ∧ s = 2 * r.done % 2 ^ 64 ∧
      (r.values blank)[r.done + 1]? = some v ∧ ∀ w, w ∉ rest → r.value w = v w

/-- What a read relies on: if no write has begun since it loaded the counter, it has copied the
value of the last one. -/
def Run.Reading (blank : W → A) (r : Run W A) : Reader W A → Prop
  | .idle => True
  | .spinning since _ => since ≤ r.done
  | .copying since seen s1 out rest =>
    since ≤ seen ∧ seen ≤ r.done ∧ s1 = 2 * seen % 2 ^ 64 ∧
      (r.log.length = seen →
        ∀ v ∈ (r.values blank)[seen]?, ∀ w, w ∉ rest → out w = v w)

/-- What a read has returned: the value of the last write that had begun, and none before the
call. -/
structure Run.Returned (blank : W → A) (r : Run W A) (x : Read W A) : Prop where
  since : x.since ≤ x.begun
  done : x.begun ≤ r.done
  whole : (r.values blank)[x.begun]? = some x.out

structure Run.Kept (blank : W → A) (r : Run W A) : Prop where
  writing : r.Writing blank
  reading : ∀ k, r.Reading blank (r.readers k)
  returned : ∀ x ∈ r.reads, r.Returned blank x
  ordered : r.reads.Pairwise fun x y => x.begun ≤ y.begun

/-! ### The writer -/

/-- What the readers rely on: the log and the count of writes done only grow. -/
structure Grows (r t : Run W A) : Prop where
  log : r.log <+: t.log
  done : r.done ≤ t.done

theorem Grows.values (grows : Grows r t) {n : Nat} {v : W → A}
    (found : (r.values blank)[n]? = some v) : (t.values blank)[n]? = some v :=
  prefix_getElem? (List.cons_prefix_cons.mpr ⟨rfl, grows.log⟩) found

theorem Run.Writing.length (writing : r.Writing blank) :
    r.done ≤ r.log.length ∧ r.log.length ≤ r.done + 1 := by
  unfold Run.Writing at writing
  cases writer : r.writer with
  | idle | called v | loaded v s | storing v s rest =>
    simp only [writer] at writing
    omega

theorem Run.Reading.mono (grows : Grows r t) (length : r.done ≤ r.log.length) {x : Reader W A}
    (reading : r.Reading blank x) : t.Reading blank x := by
  cases x with
  | idle => trivial
  | spinning since out => exact Nat.le_trans reading grows.done
  | copying since seen s1 out rest =>
    obtain ⟨first, second, counter, copied⟩ := reading
    refine ⟨first, Nat.le_trans second grows.done, counter, fun still => ?_⟩
    have same : r.log = t.log := grows.log.eq_of_length_le (by omega)
    have values : t.values blank = r.values blank := by rw [Run.values, Run.values, same]
    rw [values]
    exact copied (by rw [same]; exact still)

theorem Run.Returned.mono (grows : Grows r t) {x : Read W A} (returned : r.Returned blank x) :
    t.Returned blank x where
  since := returned.since
  done := Nat.le_trans returned.done grows.done
  whole := grows.values returned.whole

/-- A step of the writer keeps what it grows. -/
theorem Run.Kept.grown (kept : r.Kept blank) (grows : Grows r t) (readers : t.readers = r.readers)
    (reads : t.reads = r.reads) (writing : t.Writing blank) : t.Kept blank where
  writing := writing
  reading := by
    intro k
    rw [readers]
    exact (kept.reading k).mono grows kept.writing.length.1
  returned := by
    rw [reads]
    exact fun x member => (kept.returned x member).mono grows
  ordered := by
    rw [reads]
    exact kept.ordered

variable [DecidableEq W] {words : List W}

theorem Run.Kept.writeStep (kept : r.Kept blank) (whole : ∀ w, w ∈ words)
    (moved : r.writeStep words = some t) : t.Kept blank := by
  have writing := kept.writing
  unfold Run.writeStep at moved
  unfold Run.Writing at writing
  cases writer : r.writer with
  | idle => simp [writer] at moved
  | called v =>
    simp only [writer, Option.some.injEq] at moved writing
    subst moved
    exact kept.grown ⟨List.prefix_rfl, Nat.le_refl _⟩ rfl rfl
      ⟨writing.1, writing.2.1, writing.2.2, rfl⟩
  | loaded v s =>
    simp only [writer, Option.some.injEq] at moved writing
    obtain ⟨length, seq, -, rfl⟩ := writing
    subst moved
    refine kept.grown ⟨List.prefix_append r.log [v], Nat.le_refl _⟩ rfl rfl ⟨?_, ?_, seq, ?_, ?_⟩
    · rw [List.length_append, length, List.length_singleton]
    · show (r.seq + 1) % 2 ^ 64 = (2 * r.done + 1) % 2 ^ 64
      omega
    · rw [Run.values, List.getElem?_cons_succ, ← length]
      exact List.getElem?_concat_length
    · exact fun w absent => absurd (whole w) absent
  | storing v s rest =>
    obtain ⟨length, seq, counter, own, stored⟩ := by simpa only [writer] using writing
    cases rest with
    | cons w rest =>
      simp only [writer, Option.some.injEq] at moved
      subst moved
      refine kept.grown ⟨List.prefix_rfl, Nat.le_refl _⟩ rfl rfl ⟨length, seq, counter, own, ?_⟩
      intro l absent
      show Function.update r.value w (v w) l = v l
      by_cases same : l = w
      · rw [same, Function.update_self]
      · rw [Function.update_of_ne same]
        apply stored
        rw [List.mem_cons]
        rintro (head | tail)
        · exact same head
        · exact absent tail
    | nil =>
      simp only [writer, Option.some.injEq] at moved
      subst moved
      refine kept.grown ⟨List.prefix_rfl, Nat.le_succ _⟩ rfl rfl ⟨length, ?_, ?_⟩
      · show (s + 2) % 2 ^ 64 = 2 * (r.done + 1) % 2 ^ 64
        omega
      · show (r.values blank)[r.done + 1]? = some r.value
        rw [own]
        exact congrArg some (funext fun w => (stored w List.not_mem_nil).symm)

/-! ### The readers -/

omit [DecidableEq W] in
theorem Run.Kept.setReader (kept : r.Kept blank) {k : Nat} {x : Reader W A}
    (reading : r.Reading blank x) : (r.setReader k x).Kept blank where
  writing := kept.writing
  reading := by
    intro l
    show r.Reading blank (Function.update r.readers k x l)
    by_cases same : l = k
    · rw [same, Function.update_self]
      exact reading
    · rw [Function.update_of_ne same]
      exact kept.reading l
  returned := by
    have same : Grows r (r.setReader k x) := ⟨List.prefix_rfl, Nat.le_refl _⟩
    exact fun y member => (kept.returned y member).mono same
  ordered := kept.ordered

omit [DecidableEq W] in
/-- An even counter is that of a value that stands. -/
theorem Run.Writing.even (writing : r.Writing blank) (even : r.seq % 2 ≠ 1) :
    r.log.length = r.done ∧ r.seq = 2 * r.done % 2 ^ 64 ∧
      (r.values blank)[r.done]? = some r.value := by
  unfold Run.Writing at writing
  cases writer : r.writer with
  | idle | called v =>
    simp only [writer] at writing
    exact writing
  | loaded v s =>
    simp only [writer] at writing
    exact ⟨writing.1, writing.2.1, writing.2.2.1⟩
  | storing v s rest =>
    simp only [writer] at writing
    omega

omit [DecidableEq W] in
/-- While no further write has begun, the words are those of the last value. -/
theorem Run.Writing.word (writing : r.Writing blank) (still : r.log.length = r.done) :
    (r.values blank)[r.done]? = some r.value := by
  refine (writing.even ?_).2.2
  unfold Run.Writing at writing
  cases writer : r.writer with
  | idle | called v | loaded v s | storing v s rest =>
    simp only [writer] at writing
    omega

theorem Run.Kept.readStep (kept : r.Kept blank) (whole : ∀ w, w ∈ words) {k : Nat}
    (brief : r.brief (.readerStep k)) (moved : r.readStep words k = some t) : t.Kept blank := by
  have reading := kept.reading k
  have length := kept.writing.length
  unfold Run.readStep at moved
  unfold Run.brief at brief
  cases reader : r.readers k with
  | idle => simp [reader] at moved
  | spinning since out =>
    simp only [reader] at moved reading
    by_cases odd : r.seq % 2 = 1
    · rw [if_pos odd, Option.some.injEq] at moved
      exact moved ▸ kept
    · rw [if_neg odd, Option.some.injEq] at moved
      obtain ⟨stands, seq, -⟩ := kept.writing.even odd
      subst moved
      refine kept.setReader ⟨?_, ?_, ?_, ?_⟩
      · exact stands ▸ reading
      · exact Nat.le_of_eq stands
      · rw [stands]
        exact seq
      · exact fun _ v _ w absent => absurd (whole w) absent
  | copying since seen s1 out rest =>
    rw [reader] at reading
    obtain ⟨first, second, counter, copied⟩ := reading
    cases rest with
    | cons w rest =>
      simp only [reader, Option.some.injEq] at moved
      subst moved
      refine kept.setReader ⟨first, second, counter, fun still v found l absent => ?_⟩
      have now : r.done = seen := by omega
      have word := kept.writing.word (still.trans now.symm)
      by_cases same : l = w
      · rw [same, Function.update_self]
        rw [now, Option.mem_def.mp found, Option.some.injEq] at word
        rw [word]
      · rw [Function.update_of_ne same]
        refine copied still v found l ?_
        rw [List.mem_cons]
        rintro (head | tail)
        · exact same head
        · exact absent tail
    | nil =>
      simp only [reader] at moved brief
      by_cases unchanged : r.seq = s1
      · rw [if_pos unchanged, Option.some.injEq] at moved
        have even : r.seq % 2 ≠ 1 := by omega
        obtain ⟨stands, seq, value⟩ := kept.writing.even even
        have same : r.log.length = seen := by omega
        have now : r.done = seen := by omega
        have out' : out = r.value := by
          rw [now] at value
          exact funext fun w => copied same r.value value w List.not_mem_nil
        subst moved
        have quiet : (r.setReader k .idle).Kept blank := kept.setReader trivial
        refine ⟨quiet.writing, quiet.reading, ?_, ?_⟩
        · intro x member
          rcases List.mem_append.mp member with before | last
          · have before' := quiet.returned x before
            exact ⟨before'.since, before'.done, before'.whole⟩
          · rw [List.mem_singleton.mp last]
            refine ⟨?_, Nat.le_of_eq stands, ?_⟩
            · exact same ▸ first
            · show (r.values blank)[r.log.length]? = some out
              rw [stands, out']
              exact value
        · refine List.pairwise_append.mpr ⟨kept.ordered, List.pairwise_singleton _ _, ?_⟩
          intro x before y last
          rw [List.mem_singleton.mp last]
          exact Nat.le_trans (kept.returned x before).done length.1
      · rw [if_neg unchanged, Option.some.injEq] at moved
        subst moved
        exact kept.setReader (Nat.le_trans first second)

theorem Run.Kept.step (kept : r.Kept blank) (whole : ∀ w, w ∈ words) {l : Label W A}
    (brief : r.brief l) (moved : r.step words l = some t) : t.Kept blank := by
  cases l with
  | write v =>
    have writing := kept.writing
    unfold Run.Writing at writing
    unfold Run.step at moved
    cases writer : r.writer with
    | idle =>
      simp only [writer, Option.some.injEq] at moved writing
      subst moved
      exact kept.grown ⟨List.prefix_rfl, Nat.le_refl _⟩ rfl rfl writing
    | called v | loaded v s | storing v s rest => simp [writer] at moved
  | writerStep => exact kept.writeStep whole moved
  | read k junk =>
    unfold Run.step at moved
    cases reader : r.readers k with
    | idle =>
      simp only [reader, Option.some.injEq] at moved
      subst moved
      exact kept.setReader (Nat.le_refl _)
    | spinning since out => simp [reader] at moved
    | copying since seen s1 out rest => simp [reader] at moved
  | readerStep k => exact kept.readStep whole brief moved

omit [DecidableEq W] in
theorem new_kept (blank : W → A) : (Run.new blank).Kept blank where
  writing := ⟨rfl, rfl, rfl⟩
  reading := fun _ => trivial
  returned := nofun
  ordered := .nil

/-- In every interleaving the reads are those of one atomic value: each returns the write last
begun at its return, whole, and none of them one older than a read before it. -/
theorem kept_of_reachable (whole : ∀ w, w ∈ words)
    (reached : (machine words blank).Reachable Run.brief r) : r.Kept blank := by
  refine reached.invariant (new_kept blank) ?_
  intro a b l kept brief moved
  exact kept.step whole brief moved

/-! ### A read alone -/

omit [DecidableEq W] in
theorem setReader_twice (r : Run W A) (k : Nat) (x y : Reader W A) :
    (r.setReader k x).setReader k y = r.setReader k y := by
  simp only [Run.setReader, Function.update_idem]

omit [DecidableEq W] in
theorem setReader_self (r : Run W A) (k : Nat) (x : Reader W A) : (r.setReader k x).readers k = x :=
  Function.update_self ..

/-- A copy that nobody disturbs comes to its last word. -/
theorem copies (blank : W → A) (words : List W) (r : Run W A) (k since seen s1 : Nat)
    (out : W → A) (rest : List W) :
    ∃ out', (machine words blank).run (r.setReader k (.copying since seen s1 out rest))
      (List.replicate rest.length (.readerStep k)) =
        some (r.setReader k (.copying since seen s1 out' [])) := by
  induction rest generalizing out with
  | nil => exact ⟨out, rfl⟩
  | cons w rest ih =>
    have moved : (machine words blank).step (r.setReader k (.copying since seen s1 out (w :: rest)))
        (.readerStep k) =
        some (r.setReader k (.copying since seen s1 (Function.update out w (r.value w)) rest)) := by
      simp only [machine, Run.step, Run.readStep, setReader_self, setReader_twice]
      rfl
    obtain ⟨out', ran⟩ := ih (Function.update out w (r.value w))
    refine ⟨out', ?_⟩
    rw [List.length_cons, List.replicate_succ, Machine.run, moved]
    exact ran

/-- While no write is between its stores, a read that runs alone returns in as many steps as there
are words, and two more. -/
theorem read_alone (blank : W → A) (words : List W) (r : Run W A) {k since : Nat} {out : W → A}
    (even : r.seq % 2 ≠ 1)
    (called : r.readers k = .spinning since out) :
    ∃ out' t, (machine words blank).run r (List.replicate (words.length + 2) (.readerStep k)) =
      some t ∧ t.reads = r.reads ++ [⟨k, since, r.log.length, out'⟩] := by
  have opened : (machine words blank).step r (.readerStep k) =
      some (r.setReader k (.copying since r.log.length r.seq out words)) := by
    simp only [machine, Run.step, Run.readStep, called, if_neg even]
  obtain ⟨out', ran⟩ := copies blank words r k since r.log.length r.seq out words
  have closed : (machine words blank).step
      (r.setReader k (.copying since r.log.length r.seq out' [])) (.readerStep k) =
      some { r.setReader k .idle with reads := r.reads ++ [⟨k, since, r.log.length, out'⟩] } := by
    simp only [machine, Run.step, Run.readStep, setReader_self, setReader_twice]
    exact if_pos rfl
  refine ⟨out', { r.setReader k .idle with
    reads := r.reads ++ [⟨k, since, r.log.length, out'⟩] }, ?_, rfl⟩
  rw [List.replicate_succ, Machine.run, opened, Option.bind_some, List.replicate_succ',
    Machine.run_append, ran, Option.bind_some, Machine.run, closed]
  rfl

end Seqlock

end AiroFanuc.Library
