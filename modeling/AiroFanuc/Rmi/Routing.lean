import AiroFanuc.Rmi.Correlation
import AiroFanuc.Rmi.Packets

/-! Where every parsed packet goes: to the waiter whose reply it is, or into the ring. -/

namespace AiroFanuc.Rmi

open Library

def Delivery.packets : Option Delivery → List Packet
  | some (.reply p) => [p]
  | _ => []

/-- What lies in the inbox of a waiter that will look into it. -/
def Holder.packets (inbox : Nat → Option Delivery) : Option Holder → List Packet
  | some ⟨_, .waiting x⟩ => Delivery.packets (inbox x.request.serial)
  | _ => []

theorem Holder.packets_congr {inbox inbox' : Nat → Option Delivery}
    (same : ∀ m, Delivery.packets (inbox' m) = Delivery.packets (inbox m))
    (holder : Option Holder) : Holder.packets inbox' holder = Holder.packets inbox holder := by
  unfold Holder.packets
  split
  · next op x => exact same x.request.serial
  · rfl

namespace State

variable (st : State)

def atWaiter : List Packet := Holder.packets st.inbox st.holder

/-- The parsed packets on their way: in the reader's hand, or in the waiter's inbox. -/
def inTransit : List Packet := st.reader.hand ++ st.atWaiter

/-- No deadline runs out between the reader's match and the waiter's `get`: neither while the
packet is in the reader's hand, nor with the waiter gone and its slot not yet cleared. -/
def Punctual : Label → Prop
  | .expire =>
    match st.reader with
    | .delivering _ _ => False
    | _ => True
  | .dispatch =>
    match st.pending, st.holder, st.reader with
    | some pending, some ⟨_, .abandoning _⟩, .parsed p => p.passesFor pending.identifier = false
    | _, _, _ => True
  | _ => True

instance (i : Label) : Decidable (st.Punctual i) := by
  unfold Punctual
  split
  · split
    · infer_instance
    · infer_instance
  · suffices decided : ∀ threads : Option Holder × Reader, Decidable
        (match st.pending, threads.1, threads.2 with
        | some pending, some ⟨_, .abandoning _⟩, .parsed p => p.passesFor pending.identifier = false
        | _, _, _ => True) from decided (st.holder, st.reader)
    intro threads
    split
    · infer_instance
    · infer_instance
  · infer_instance

theorem atWaiter_eq_nil {st : State} (away : ∀ op x, st.holder ≠ some ⟨op, .waiting x⟩) :
    st.atWaiter = [] := by
  unfold atWaiter Holder.packets
  split
  · next op x held => exact absurd held (away op x)
  · rfl

theorem atWaiter_of_stage {st : State} {op : Op} {stage : Stage}
    (held : st.holder = some ⟨op, stage⟩) (away : ∀ x, stage ≠ .waiting x) :
    st.atWaiter = [] := by
  apply atWaiter_eq_nil
  intro op' x holds
  rw [held] at holds
  cases holds
  exact away x rfl

theorem atWaiter_of_unheld {st : State} (unheld : Unheld st.holder) : st.atWaiter = [] := by
  apply atWaiter_eq_nil
  intro op x held
  exact unheld _ held

theorem atWaiter_waiting {st : State} {op : Op} {x : Exchange}
    (held : st.holder = some ⟨op, .waiting x⟩) :
    st.atWaiter = Delivery.packets (st.inbox x.serial) := by
  unfold atWaiter
  rw [held]
  rfl

end State

/-- The reader hands a reply only to a waiter that still waits, with its inbox free. -/
def Handed (st : State) : Prop :=
  ∀ p w, st.reader = .delivering p w →
    ∃ op x, st.holder = some ⟨op, .waiting x⟩ ∧ w = x.serial ∧ st.inbox w = none

/-- A waiter that was failed is out of the slot. -/
structure Unfailed (st : State) : Prop where
  reader : ∀ pending, st.pending = some pending → st.reader ≠ .notifying pending.serial
  inbox : ∀ pending, st.pending = some pending → ∀ s, st.inbox pending.serial ≠ some (.error s)
  took : ∀ op x s, st.holder = some ⟨op, .took x (.error s)⟩ → st.pending = none

theorem State.not_failed {st : State} {op : Op} {stage : Stage}
    (held : st.holder = some ⟨op, stage⟩) (other : ∀ x s, stage ≠ .took x (.error s)) (op' : Op)
    (x : Exchange) (s : Nat) : st.holder ≠ some ⟨op', .took x (.error s)⟩ := by
  intro holds
  rw [held] at holds
  cases holds
  exact other x s rfl

section Step

variable {st t : State} {i : Label}

namespace Handed

theorem at_stage {p : Packet} {w : Nat} {op : Op} {stage : Stage} (handed : Handed st)
    (hand : st.reader = .delivering p w) (held : st.holder = some ⟨op, stage⟩) :
    ∃ x, stage = .waiting x ∧ w = x.serial ∧ st.inbox w = none := by
  obtain ⟨op', x, holds, mine, empty⟩ := handed p w hand
  rw [held] at holds
  cases holds
  exact ⟨x, rfl, mine, empty⟩

theorem of_reader {reader : Reader} (at_ : t.reader = reader)
    (free : ∀ p w, reader ≠ .delivering p w) : Handed t := by
  intro p w hand
  rw [at_] at hand
  exact absurd hand (free p w)

/-- With the holder at another stage the reader hands nothing over. -/
theorem idle {op : Op} {stage : Stage} (handed : Handed st) (held : st.holder = some ⟨op, stage⟩)
    (away : ∀ x, stage ≠ .waiting x) (reader : t.reader = st.reader) : Handed t := by
  intro p w hand
  rw [reader] at hand
  obtain ⟨x, waiting, -⟩ := handed.at_stage hand held
  exact absurd waiting (away x)

/-- The match finds the waiter waiting: a claim it has already would be a second one. -/
theorem of_match {op : Op} {stage : Stage} {x : Exchange} {p : Packet} (unfailed : Unfailed st)
    (att : Attends st stage x) (waits : st.Waits op stage x) (hand : st.reader = .parsed p)
    (slot : st.pending = some x.pending) (passes : p.passesFor x.identifier = true)
    (punctual : ∀ y, stage ≠ .abandoning y) :
    stage = .waiting x ∧ st.inbox x.serial = none := by
  have engaged := att.engaged (by rw [hand]; exact nofun)
  have coming : st.awaited x = p.tag :: State.awaited { st with reader := .top } x :=
    State.awaited_release_passing (by rw [hand]; rfl) engaged passes
  have bound := att.claims.length_le
  unfold State.claims at bound
  rw [coming] at bound
  obtain ⟨held, waiting⟩ := waits
  cases stage with
  | sending y => simp [Stage.allowance] at bound
  | waiting y =>
    cases waiting
    refine ⟨rfl, ?_⟩
    cases put : st.inbox x.serial with
    | none => rfl
    | some delivery =>
      cases delivery with
      | reply q => simp [put, Delivery.tags, Stage.allowance] at bound
      | error s => exact absurd put (unfailed.inbox _ slot s)
  | took y delivery =>
    cases delivery with
    | reply q =>
      simp only [Stage.tags, Stage.allowance, List.length_append, List.length_cons,
        List.length_nil] at bound
      omega
    | error s =>
      have empty := unfailed.took op y s held
      rw [empty] at slot
      cases slot
  | abandoning y => exact absurd rfl (punctual y)
  | ensuring | opening | ready | calling | concluded | closing => cases waiting

theorem step (handed : Handed st) (owned : Owned st) (unfailed : Unfailed st)
    (attended : Attended (fun _ => true) st) (punctual : st.Punctual i) (moved : Moves st i t) :
    Handed t := by
  cases moved with
  | proceeds _ _ released _ =>
    intro p w hand
    obtain ⟨op, x, held, -⟩ := handed p w hand
    exact absurd (released _ held).1 nofun
  | opened op held | registered op command s held | numbered attempt s held | sent op x held
  | unsent op x held | called op x held | uncalled op x held | cleared op x delivery held
  | abandoned op x held | read attempt p held | reseeded pass p held | closed op held =>
    exact handed.idle held nofun rfl
  | took op x delivery held put =>
    intro p w hand
    obtain ⟨y, waiting, rfl, empty⟩ := handed.at_stage hand held
    cases waiting
    exact absurd (put.symm.trans empty) nofun
  | expired op x held empty =>
    intro p w hand
    have busy : st.reader = .delivering p w := hand
    simp only [State.Punctual, busy] at punctual
  | looked resting =>
    intro p w hand
    cases connected : st.sock.isSome <;> simp [connected] at hand
  | parsed | idled | faulted | orphaned | stashed | delivered | notified =>
    exact .of_reader rfl (by exact fun _ _ => nofun)
  | matched p pending hand slot passes =>
    intro q w delivering
    cases delivering
    obtain ⟨op, stage, x, waits, rfl⟩ := owned pending slot
    have att := attended op stage x rfl waits
    have there : ∀ y, stage ≠ .abandoning y := by
      intro y gone
      subst gone
      simp only [State.Punctual, slot, waits.1, hand] at punctual
      rw [punctual] at passes
      cases passes
    obtain ⟨waiting, empty⟩ := Handed.of_match unfailed att waits hand slot passes there
    subst waiting
    exact ⟨op, x, waits.1, rfl, empty⟩
  | dropped failing =>
    intro p w hand
    cases slot : st.pending <;> simp [slot] at hand
  | wrote | polled | received | answered | pushed | lost => exact handed

end Handed

namespace Unfailed

/-- The slot is empty. -/
theorem of_empty (empty : st.pending = none) : Unfailed st where
  reader _ slot := by
    rw [empty] at slot
    cases slot
  inbox _ slot := by
    rw [empty] at slot
    cases slot
  took _ _ _ _ := empty

/-- A step that puts no error anywhere. -/
theorem same (unfailed : Unfailed st) (pending : t.pending = st.pending)
    (reader : ∀ w, t.reader = .notifying w → st.reader = .notifying w)
    (inbox : ∀ w s, t.inbox w = some (.error s) → st.inbox w = some (.error s))
    (holder : ∀ op x s, t.holder = some ⟨op, .took x (.error s)⟩ →
      st.holder = some ⟨op, .took x (.error s)⟩) : Unfailed t where
  reader p slot notifying := by
    rw [pending] at slot
    exact unfailed.reader p slot (reader _ notifying)
  inbox p slot s put := by
    rw [pending] at slot
    exact unfailed.inbox p slot s (inbox _ s put)
  took op x s held := by
    rw [pending]
    exact unfailed.took op x s (holder op x s held)

theorem step (unfailed : Unfailed st) (owned : Owned st) (numbered : Numbered st)
    (moved : Moves st i t) : Unfailed t := by
  cases moved with
  | proceeds _ _ released _ => exact .of_empty (owned.empty fun h held => (released h held).1)
  | opened op held | numbered attempt s held | called op x held | uncalled op x held
  | read attempt p held | reseeded pass p held | closed op held =>
    exact .of_empty (owned.empty_at held rfl)
  | cleared op x delivery held => exact .of_empty (owned.cleared ⟨held, rfl⟩)
  | abandoned op x held => exact .of_empty (owned.cleared ⟨held, rfl⟩)
  | dropped failing => exact .of_empty rfl
  | registered op command s held =>
    refine ⟨?_, ?_, fun op' x r failed =>
      absurd failed (State.not_failed rfl (by exact fun _ _ => nofun) op' x r)⟩
    · intro pending slot notifying
      cases slot
      have busy : st.reader = .notifying st.serials := notifying
      have below := numbered.reader st.serials (by rw [busy]; rfl)
      exact absurd below (Nat.lt_irrefl _)
    · intro pending slot r put
      cases slot
      have fresh : st.inbox st.serials = none := numbered.inbox _ (Nat.le_refl _)
      exact absurd (fresh.symm.trans put) nofun
  | sent | unsent | expired =>
    exact unfailed.same rfl (fun _ h => h) (fun _ _ h => h) fun op x s failed =>
      absurd failed (State.not_failed rfl (by exact fun _ _ => nofun) op x s)
  | took op x delivery held put =>
    refine ⟨unfailed.reader, ?_, ?_⟩
    · intro pending slot s found
      have mine := owned.pending_eq ⟨held, rfl⟩ slot
      subst mine
      have emptied : Function.update st.inbox x.request.serial none x.request.serial = none :=
        Function.update_self ..
      exact absurd (emptied.symm.trans found) nofun
    · intro op' y s holds
      cases holds
      cases slot : st.pending with
      | none => rfl
      | some pending =>
        have mine := owned.pending_eq ⟨held, rfl⟩ slot
        subst mine
        exact absurd put (unfailed.inbox _ slot s)
  | wrote | polled | received | answered | pushed | lost =>
    exact unfailed.same rfl (fun _ h => h) (fun _ _ h => h) (fun _ _ _ h => h)
  | looked resting =>
    refine unfailed.same rfl ?_ (fun _ _ h => h) (fun _ _ _ h => h)
    intro w notifying
    cases connected : st.sock.isSome <;> simp [connected] at notifying
  | parsed | idled | faulted | matched | orphaned | stashed =>
    exact unfailed.same rfl nofun (fun _ _ h => h) (fun _ _ _ h => h)
  | delivered p waiter hand empty =>
    refine unfailed.same rfl nofun ?_ (fun _ _ _ h => h)
    intro w s put
    by_cases here : w = waiter
    · subst here
      exact absurd put (by simp)
    · simpa [Function.update_of_ne here] using put
  | notified waiter s hand cur empty =>
    refine ⟨nofun, ?_, unfailed.took⟩
    intro pending slot r put
    have other : pending.serial ≠ waiter := by
      intro same
      subst same
      exact unfailed.reader pending slot hand
    have old : st.inbox pending.serial = some (.error r) := by
      simpa [Function.update_of_ne other] using put
    exact unfailed.inbox pending slot r old

end Unfailed

end Step

end AiroFanuc.Rmi
