import AiroFanuc.Library.Fifo
import AiroFanuc.Library.Machine
import Mathlib.Data.Nat.Bitwise
import Mathlib.Tactic.Ring

/-! The single-producer single-consumer ring, step by step: each load, each half of a slot access
and each index store is a step of its own, in any interleaving. -/

namespace AiroFanuc.RtCore

open Library

structure SpscRing (α : Type) where
  buf : ℕ → α
  head : ℕ
  tail : ℕ

namespace SpscRing

variable {α : Type}

/-- The index after `i` in a ring of `cap` slots, a power of two. -/
def next (cap i : ℕ) : ℕ := (i + 1) &&& (cap - 1)

/-- `push`: called, its own index loaded, the other's loaded and compared, the slot accessed from
one step to another. -/
inductive Producer (α : Type) where
  | idle
  | called (v : α)
  | loaded (v : α) (tail : ℕ)
  | room (v : α) (tail next : ℕ)
  | writing (v : α) (tail next : ℕ)
  | written (v : α) (tail next : ℕ)

/-- `pop`, likewise. -/
inductive Consumer (α : Type) where
  | idle
  | called
  | loaded (head : ℕ)
  | ready (head : ℕ)
  | reading (head : ℕ)
  | read (head : ℕ) (v : α)

/-- The ring, its two threads, and what their calls have reported. -/
structure Run (α : Type) where
  ring : SpscRing α
  producer : Producer α
  consumer : Consumer α
  events : List (FifoEvent α)

/-- Half-written, a slot holds `junk`. -/
inductive Label (α : Type) where
  | push (v : α)
  | producerStep (junk : α)
  | pop
  | consumerStep

def Run.report (r : Run α) (e : FifoEvent α) : Run α := { r with events := r.events ++ [e] }

/-- The next step of a `push`. -/
def Run.pushStep (cap : ℕ) (r : Run α) (junk : α) : Option (FifoEvent α × Run α) :=
  match r.producer with
  | .idle => none
  | .called v => some (.silent, { r with producer := .loaded v r.ring.tail })
  | .loaded v tail =>
    if next cap tail = r.ring.head then some (.full, { r with producer := .idle })
    else some (.silent, { r with producer := .room v tail (next cap tail) })
  | .room v tail next => some (.silent, { r with
      ring.buf := Function.update r.ring.buf tail junk
      producer := .writing v tail next })
  | .writing v tail next => some (.silent, { r with
      ring.buf := Function.update r.ring.buf tail v
      producer := .written v tail next })
  | .written v _ next => some (.enqueued v, { r with ring.tail := next, producer := .idle })

/-- The next step of a `pop`. -/
def Run.popStep (cap : ℕ) (r : Run α) : Option (FifoEvent α × Run α) :=
  match r.consumer with
  | .idle => none
  | .called => some (.silent, { r with consumer := .loaded r.ring.head })
  | .loaded head =>
    if head = r.ring.tail then some (.empty, { r with consumer := .idle })
    else some (.silent, { r with consumer := .ready head })
  | .ready head => some (.silent, { r with consumer := .reading head })
  | .reading head => some (.silent, { r with consumer := .read head (r.ring.buf head) })
  | .read head v => some (.dequeued v, { r with ring.head := next cap head, consumer := .idle })

/-- What a step reports, and what it leaves. -/
def Run.advance (cap : ℕ) (r : Run α) : Label α → Option (FifoEvent α × Run α)
  | .push v =>
    match r.producer with
    | .idle => some (.silent, { r with producer := .called v })
    | _ => none
  | .producerStep junk => r.pushStep cap junk
  | .pop =>
    match r.consumer with
    | .idle => some (.silent, { r with consumer := .called })
    | _ => none
  | .consumerStep => r.popStep cap

def machine (cap : ℕ) (blank : α) : Machine (Run α) (Label α) where
  start := ⟨⟨fun _ => blank, 0, 0⟩, .idle, .idle, []⟩
  step := fun r l => (r.advance cap l).map fun (e, t) => t.report e

/-- What the ring holds: what was put in and has not come out. -/
def Run.queue (r : Run α) : List α :=
  (Fifo.given r.events).drop (Fifo.taken r.events).length

/-- The consumer is in the slot that the producer is in. -/
def Run.Torn (r : Run α) : Prop :=
  ∃ v tail next head, r.producer = .writing v tail next ∧ r.consumer = .reading head ∧ head = tail

/-! ### The indices -/

section Index

variable {k : ℕ}

theorem next_mod (k i : ℕ) : next (2 ^ k) i = (i + 1) % 2 ^ k := by
  rw [next, Nat.and_two_pow_sub_one_eq_mod]

/-- Counts less than a whole ring apart share a slot only if they are equal. -/
theorem slot_injective {cap i j : ℕ} (le : i ≤ j) (near : j < i + cap)
    (same : i % cap = j % cap) : i = j := by
  have multiple : cap ∣ j - i := Nat.dvd_of_mod_eq_zero (Nat.sub_mod_eq_zero_of_mod_eq same.symm)
  have zero : j - i = 0 := Nat.eq_zero_of_dvd_of_lt multiple (by omega)
  omega

theorem next_eq_iff {cap i j : ℕ} (le : j ≤ i) (near : i + 1 ≤ j + cap) :
    (i + 1) % cap = j % cap ↔ i + 1 = j + cap := by
  constructor
  · intro same
    by_contra short
    have below : j ≤ i + 1 := by omega
    have equal := slot_injective below (by omega) same.symm
    omega
  · intro whole
    rw [whole, Nat.add_mod_right]

end Index

/-! ### The ring against the counts of what went in and came out -/

section Sound

variable {k : ℕ} {ring : SpscRing α} {xs : List α} {n : ℕ}

/-- After `xs` went in and `n` of them came out. -/
structure Agrees (cap : ℕ) (ring : SpscRing α) (xs : List α) (n : ℕ) : Prop where
  head : ring.head = n % cap
  tail : ring.tail = xs.length % cap
  order : n ≤ xs.length
  room : xs.length < n + cap
  slots : ∀ i v, n ≤ i → xs[i]? = some v → ring.buf (i % cap) = v

def Producer.Sound (cap : ℕ) (ring : SpscRing α) (xs : List α) (n : ℕ) : Producer α → Prop
  | .idle | .called _ => True
  | .loaded _ tail => tail = ring.tail
  | .room _ tail next | .writing _ tail next =>
    tail = ring.tail ∧ next = (xs.length + 1) % cap ∧ xs.length + 1 < n + cap
  | .written v tail next =>
    tail = ring.tail ∧ next = (xs.length + 1) % cap ∧ xs.length + 1 < n + cap ∧ ring.buf tail = v

def Consumer.Sound (ring : SpscRing α) (xs : List α) (n : ℕ) : Consumer α → Prop
  | .idle | .called => True
  | .loaded head => head = ring.head
  | .ready head | .reading head => head = ring.head ∧ n < xs.length
  | .read head v => head = ring.head ∧ xs[n]? = some v

/-- The slot behind the last value is none of those that are still in. -/
theorem Agrees.apart (agrees : Agrees (2 ^ k) ring xs n) {i : ℕ} (held : n ≤ i)
    (bound : i < xs.length) : i % 2 ^ k ≠ ring.tail := by
  rw [agrees.tail]
  intro same
  have equal := slot_injective bound.le (by have room := agrees.room; omega) same
  omega

/-- What is written there disturbs none of them. -/
theorem Agrees.touch (agrees : Agrees (2 ^ k) ring xs n) (v : α) :
    Agrees (2 ^ k) { ring with buf := Function.update ring.buf ring.tail v } xs n := by
  constructor
  · exact agrees.head
  · exact agrees.tail
  · exact agrees.order
  · exact agrees.room
  · intro i w held found
    have bound := (List.getElem?_eq_some_iff.mp found).1
    simp only [Function.update_of_ne (agrees.apart held bound)]
    exact agrees.slots i w held found

theorem Agrees.enqueue (agrees : Agrees (2 ^ k) ring xs n) {v : α}
    (space : xs.length + 1 < n + 2 ^ k) (stored : ring.buf ring.tail = v) :
    Agrees (2 ^ k) { ring with tail := (xs.length + 1) % 2 ^ k } (xs ++ [v]) n := by
  have order := agrees.order
  constructor
  · exact agrees.head
  · rw [List.length_append, List.length_singleton]
  · rw [List.length_append]
    omega
  · rw [List.length_append, List.length_singleton]
    exact space
  · intro i w held found
    by_cases older : i < xs.length
    · rw [List.getElem?_append_left older] at found
      exact agrees.slots i w held found
    · have bound := (List.getElem?_eq_some_iff.mp found).1
      rw [List.length_append, List.length_singleton] at bound
      obtain rfl : i = xs.length := by omega
      rw [List.getElem?_concat_length] at found
      cases found
      rw [← agrees.tail]
      exact stored

theorem Agrees.dequeue (agrees : Agrees (2 ^ k) ring xs n) (held : n < xs.length) :
    Agrees (2 ^ k) { ring with head := next (2 ^ k) ring.head } xs (n + 1) := by
  constructor
  · rw [next_mod, agrees.head, Nat.mod_add_mod]
  · exact agrees.tail
  · exact held
  · have room := agrees.room
    omega
  · intro i v later found
    exact agrees.slots i v (by omega) found

theorem Agrees.full_iff (agrees : Agrees (2 ^ k) ring xs n) :
    next (2 ^ k) ring.tail = ring.head ↔ xs.length + 1 = n + 2 ^ k := by
  have order := agrees.order
  have room := agrees.room
  rw [next_mod, agrees.tail, agrees.head, Nat.mod_add_mod]
  exact next_eq_iff order (by omega)

theorem Agrees.empty_iff (agrees : Agrees (2 ^ k) ring xs n) :
    ring.head = ring.tail ↔ n = xs.length := by
  rw [agrees.head, agrees.tail]
  constructor
  · exact fun same => slot_injective agrees.order agrees.room same
  · rintro rfl
    rfl

end Sound

/-! ### The steps -/

section Steps

variable {k : ℕ} {r t : Run α} {e : FifoEvent α}

/-- Every value that came out is the one that went in as long before it. -/
structure Run.Sound (cap : ℕ) (r : Run α) : Prop where
  agrees : Agrees cap r.ring (Fifo.given r.events) (Fifo.taken r.events).length
  ordered : Fifo.taken r.events = (Fifo.given r.events).take (Fifo.taken r.events).length
  producer : r.producer.Sound cap r.ring (Fifo.given r.events) (Fifo.taken r.events).length
  consumer : r.consumer.Sound r.ring (Fifo.given r.events) (Fifo.taken r.events).length

/-- A step that reports nothing put in or taken out. -/
theorem Run.Sound.quiet (sound : r.Sound (2 ^ k)) (events : t.events = r.events)
    (still : Fifo.given [e] = [] ∧ Fifo.taken [e] = [])
    (agrees : Agrees (2 ^ k) t.ring (Fifo.given r.events) (Fifo.taken r.events).length)
    (producer : t.producer.Sound (2 ^ k) t.ring (Fifo.given r.events) (Fifo.taken r.events).length)
    (consumer : t.consumer.Sound t.ring (Fifo.given r.events) (Fifo.taken r.events).length) :
    (t.report e).Sound (2 ^ k) ∧ (t.report e).queue = r.queue := by
  have given : Fifo.given (t.report e).events = Fifo.given r.events := by
    rw [Run.report, events, Fifo.given_append, still.1, List.append_nil]
  have taken : Fifo.taken (t.report e).events = Fifo.taken r.events := by
    rw [Run.report, events, Fifo.taken_append, still.2, List.append_nil]
  constructor
  · constructor
    · rw [given, taken]
      exact agrees
    · rw [given, taken]
      exact sound.ordered
    · rw [given, taken]
      exact producer
    · rw [given, taken]
      exact consumer
  · rw [Run.queue, Run.queue, given, taken]

theorem Run.queue_length (r : Run α) :
    r.queue.length = (Fifo.given r.events).length - (Fifo.taken r.events).length := by
  rw [Run.queue, List.length_drop]

theorem Consumer.Sound.touched {c : Consumer α} {ring : SpscRing α} {xs : List α} {n : ℕ}
    (sound : c.Sound ring xs n) (buf : ℕ → α) : c.Sound { ring with buf := buf } xs n := by
  cases c with
  | idle | called => trivial
  | loaded head | ready head | reading head | read head v => exact sound

theorem Consumer.Sound.enqueued {c : Consumer α} {ring : SpscRing α} {xs : List α} {n : ℕ}
    (sound : c.Sound ring xs n) (tail : ℕ) (v : α) :
    c.Sound { ring with tail := tail } (xs ++ [v]) n := by
  cases c with
  | idle | called => trivial
  | loaded head => exact sound
  | ready head | reading head =>
    refine ⟨sound.1, ?_⟩
    have held := sound.2
    rw [List.length_append]
    omega
  | read head w =>
    have bound := (List.getElem?_eq_some_iff.mp sound.2).1
    exact ⟨sound.1, (List.getElem?_append_left bound).trans sound.2⟩

theorem Producer.Sound.dequeued {p : Producer α} {cap : ℕ} {ring : SpscRing α} {xs : List α} {n : ℕ}
    (sound : p.Sound cap ring xs n) (head : ℕ) :
    p.Sound cap { ring with head := head } xs (n + 1) := by
  cases p with
  | idle | called => trivial
  | loaded v tail => exact sound
  | room v tail next | writing v tail next =>
    obtain ⟨own, after, space⟩ := sound
    exact ⟨own, after, by omega⟩
  | written v tail next =>
    obtain ⟨own, after, space, stored⟩ := sound
    exact ⟨own, after, by omega, stored⟩

/-- A step of the producer is one of the queue. -/
theorem Run.Sound.pushStep (sound : r.Sound (2 ^ k)) {junk : α}
    (moved : r.pushStep (2 ^ k) junk = some (e, t)) :
    (t.report e).Sound (2 ^ k) ∧ Fifo.Step (2 ^ k - 1) r.queue e (t.report e).queue := by
  have agrees := sound.agrees
  have phase := sound.producer
  unfold Run.pushStep at moved
  cases producer : r.producer with
  | idle =>
    rw [producer] at moved
    cases moved
  | called v =>
    rw [producer] at moved
    cases moved
    obtain ⟨next, same⟩ := sound.quiet (t := { r with producer := .loaded v r.ring.tail })
      (e := .silent) rfl ⟨rfl, rfl⟩ agrees rfl sound.consumer
    rw [same]
    exact ⟨next, .silent _⟩
  | loaded v tail =>
    rw [producer] at moved phase
    have own : tail = r.ring.tail := phase
    simp only at moved
    split at moved
    · rename_i full
      cases moved
      rw [own, agrees.full_iff] at full
      obtain ⟨next, same⟩ := sound.quiet (t := { r with producer := .idle }) (e := .full) rfl
        ⟨rfl, rfl⟩ agrees trivial sound.consumer
      rw [same]
      refine ⟨next, .full _ ?_⟩
      rw [r.queue_length]
      omega
    · rename_i free
      cases moved
      rw [own, agrees.full_iff] at free
      have room := agrees.room
      obtain ⟨next, same⟩ := sound.quiet
        (t := { r with producer := .room v tail (SpscRing.next (2 ^ k) tail) }) (e := .silent) rfl
        ⟨rfl, rfl⟩ agrees ⟨own, by rw [own, next_mod, agrees.tail, Nat.mod_add_mod], by omega⟩
        sound.consumer
      rw [same]
      exact ⟨next, .silent _⟩
  | room v tail next =>
    rw [producer] at moved phase
    obtain ⟨own, after, space⟩ := phase
    cases moved
    rw [own]
    obtain ⟨later, same⟩ := sound.quiet
      (t := { r with
        ring.buf := Function.update r.ring.buf r.ring.tail junk
        producer := .writing v r.ring.tail next }) (e := .silent) rfl ⟨rfl, rfl⟩
      (agrees.touch junk) ⟨rfl, after, space⟩ (sound.consumer.touched _)
    rw [same]
    exact ⟨later, .silent _⟩
  | writing v tail next =>
    rw [producer] at moved phase
    obtain ⟨own, after, space⟩ := phase
    cases moved
    rw [own]
    obtain ⟨later, same⟩ := sound.quiet
      (t := { r with
        ring.buf := Function.update r.ring.buf r.ring.tail v
        producer := .written v r.ring.tail next }) (e := .silent) rfl ⟨rfl, rfl⟩
      (agrees.touch v) ⟨rfl, after, space, Function.update_self ..⟩ (sound.consumer.touched _)
    rw [same]
    exact ⟨later, .silent _⟩
  | written v tail next =>
    rw [producer] at moved phase
    obtain ⟨own, after, space, stored⟩ := phase
    cases moved
    rw [own] at stored
    have given : Fifo.given (r.events ++ [.enqueued v]) = Fifo.given r.events ++ [v] :=
      Fifo.given_append _ _
    have taken : Fifo.taken (r.events ++ [.enqueued v]) = Fifo.taken r.events := by
      rw [Fifo.taken_append]
      exact List.append_nil _
    have order := agrees.order
    constructor
    · constructor
      · simp only [Run.report, given, taken, after]
        exact agrees.enqueue space stored
      · simp only [Run.report, given, taken]
        rw [List.take_append_of_le_length order]
        exact sound.ordered
      · trivial
      · simp only [Run.report, given, taken]
        exact sound.consumer.enqueued _ v
    · have longer : (({ r with ring.tail := next, producer := .idle } : Run α).report
          (.enqueued v)).queue = r.queue ++ [v] := by
        simp only [Run.queue, Run.report, given, taken]
        exact List.drop_append_of_le_length order
      rw [longer]
      apply Fifo.Step.enqueued
      rw [r.queue_length]
      omega

/-- A step of the consumer is one of the queue. -/
theorem Run.Sound.popStep (sound : r.Sound (2 ^ k)) (moved : r.popStep (2 ^ k) = some (e, t)) :
    (t.report e).Sound (2 ^ k) ∧ Fifo.Step (2 ^ k - 1) r.queue e (t.report e).queue := by
  have agrees := sound.agrees
  have phase := sound.consumer
  unfold Run.popStep at moved
  cases consumer : r.consumer with
  | idle =>
    rw [consumer] at moved
    cases moved
  | called =>
    rw [consumer] at moved
    cases moved
    obtain ⟨next, same⟩ := sound.quiet (t := { r with consumer := .loaded r.ring.head })
      (e := .silent) rfl ⟨rfl, rfl⟩ agrees sound.producer rfl
    rw [same]
    exact ⟨next, .silent _⟩
  | loaded head =>
    rw [consumer] at moved phase
    have own : head = r.ring.head := phase
    simp only at moved
    split at moved
    · rename_i empty
      cases moved
      rw [own, agrees.empty_iff] at empty
      obtain ⟨next, same⟩ := sound.quiet (t := { r with consumer := .idle }) (e := .empty) rfl
        ⟨rfl, rfl⟩ agrees sound.producer trivial
      have nothing : r.queue = [] := by
        rw [← List.length_eq_zero_iff, r.queue_length]
        omega
      rw [same, nothing]
      exact ⟨next, .empty⟩
    · rename_i some
      cases moved
      rw [own, agrees.empty_iff] at some
      have order := agrees.order
      obtain ⟨next, same⟩ := sound.quiet (t := { r with consumer := .ready head }) (e := .silent) rfl
        ⟨rfl, rfl⟩ agrees sound.producer ⟨own, by omega⟩
      rw [same]
      exact ⟨next, .silent _⟩
  | ready head =>
    rw [consumer] at moved phase
    cases moved
    obtain ⟨next, same⟩ := sound.quiet (t := { r with consumer := .reading head }) (e := .silent) rfl
      ⟨rfl, rfl⟩ agrees sound.producer phase
    rw [same]
    exact ⟨next, .silent _⟩
  | reading head =>
    rw [consumer] at moved phase
    obtain ⟨own, held⟩ := phase
    cases moved
    have found : (Fifo.given r.events)[(Fifo.taken r.events).length]? = some (r.ring.buf head) := by
      rw [own, agrees.head]
      rw [agrees.slots _ _ le_rfl (List.getElem?_eq_getElem held)]
      exact List.getElem?_eq_getElem held
    obtain ⟨next, same⟩ := sound.quiet (t := { r with consumer := .read head (r.ring.buf head) })
      (e := .silent) rfl ⟨rfl, rfl⟩ agrees sound.producer ⟨own, found⟩
    rw [same]
    exact ⟨next, .silent _⟩
  | read head v =>
    rw [consumer] at moved phase
    obtain ⟨own, found⟩ := phase
    cases moved
    have held := (List.getElem?_eq_some_iff.mp found).1
    have given : Fifo.given (r.events ++ [.dequeued v]) = Fifo.given r.events := by
      rw [Fifo.given_append]
      exact List.append_nil _
    have taken : Fifo.taken (r.events ++ [.dequeued v]) = Fifo.taken r.events ++ [v] :=
      Fifo.taken_append _ _
    constructor
    · constructor
      · simp only [Run.report, given, taken, List.length_append, List.length_singleton, own]
        exact agrees.dequeue held
      · simp only [Run.report, given, taken, List.length_append, List.length_singleton]
        rw [List.take_add_one, found, ← sound.ordered]
        rfl
      · simp only [Run.report, given, taken, List.length_append, List.length_singleton]
        exact sound.producer.dequeued _
      · trivial
    · have first : r.queue = v :: (({ r with
          ring.head := SpscRing.next (2 ^ k) head
          consumer := .idle } : Run α).report (.dequeued v)).queue := by
        simp only [Run.queue, Run.report, given, taken, List.length_append, List.length_singleton]
        rw [List.drop_eq_getElem_cons held, (List.getElem?_eq_some_iff.mp found).2]
      rw [first]
      exact .dequeued v _

theorem Run.Sound.advance (sound : r.Sound (2 ^ k)) {l : Label α}
    (moved : r.advance (2 ^ k) l = some (e, t)) :
    (t.report e).Sound (2 ^ k) ∧ Fifo.Step (2 ^ k - 1) r.queue e (t.report e).queue := by
  cases l with
  | producerStep junk => exact sound.pushStep moved
  | consumerStep => exact sound.popStep moved
  | push v =>
    simp only [Run.advance] at moved
    split at moved
    · cases moved
      obtain ⟨next, same⟩ := sound.quiet (t := { r with producer := .called v }) (e := .silent) rfl
        ⟨rfl, rfl⟩ sound.agrees trivial sound.consumer
      rw [same]
      exact ⟨next, .silent _⟩
    · cases moved
  | pop =>
    simp only [Run.advance] at moved
    split at moved
    · cases moved
      obtain ⟨next, same⟩ := sound.quiet (t := { r with consumer := .called }) (e := .silent) rfl
        ⟨rfl, rfl⟩ sound.agrees sound.producer trivial
      rw [same]
      exact ⟨next, .silent _⟩
    · cases moved

theorem sound_of_reachable {blank : α}
    (reached : (machine (2 ^ k) blank).Reachable (fun _ _ => True) r) : r.Sound (2 ^ k) := by
  refine reached.invariant ?_ ?_
  · constructor
    · exact ⟨(Nat.zero_mod _).symm, (Nat.zero_mod _).symm, le_rfl, by simp [machine, Fifo.given,
        Fifo.taken], nofun⟩
    · rfl
    · trivial
    · trivial
  · intro a b l sound _ moved
    obtain ⟨⟨e, t⟩, advanced, rfl⟩ := Option.map_eq_some_iff.mp moved
    exact (sound.advance advanced).1

/-- The slot that is read holds a value, the one that is written holds none. -/
theorem Run.Sound.whole (sound : r.Sound (2 ^ k)) : ¬ r.Torn := by
  rintro ⟨v, tail, next, head, writing, reading, same⟩
  have writes := sound.producer
  have reads := sound.consumer
  rw [writing] at writes
  rw [reading] at reads
  apply sound.agrees.apart le_rfl reads.2
  rw [← sound.agrees.head, ← reads.1, same]
  exact writes.1

end Steps

end SpscRing

end AiroFanuc.RtCore
