import AiroFanuc.Rmi.Moves

/-! The pending slot and the inboxes under every schedule: who can be in the slot, and which
inboxes the reader still writes to. -/

namespace AiroFanuc.Rmi

def Exchange.pending (x : Exchange) : Pending :=
  ⟨x.request.serial, x.request.replyIdentifier⟩

def Reader.waiter : Reader → Option Nat
  | delivering _ waiter | notifying waiter => some waiter
  | _ => none

/-- The packet the reader has parsed and not yet routed to its end. -/
def Reader.hand : Reader → List Packet
  | parsed p | stashing p | delivering p _ => [p]
  | _ => []

/-- The exchange that the lock's holder waits on. -/
def State.Waits (st : State) (op : Op) (stage : Stage) (x : Exchange) : Prop :=
  st.holder = some ⟨op, stage⟩ ∧ stage.waiter = some x

theorem State.not_waits_of_unheld {st : State} (unheld : Unheld st.holder) {op : Op}
    {stage : Stage} {x : Exchange} : ¬ st.Waits op stage x := by
  rintro ⟨held, waits⟩
  rw [(unheld _ held).waiter] at waits
  cases waits

/-- The slot holds the waiter of the exchange under way, if any. -/
def Owned (st : State) : Prop :=
  ∀ pending, st.pending = some pending → ∃ op stage x, st.Waits op stage x ∧ pending = x.pending

namespace Owned

variable {st t : State} {i : Label}

/-- Between two exchanges the slot is empty. -/
theorem empty (owned : Owned st)
    (released : ∀ h, st.holder = some h → h.stage.waiter = none) : st.pending = none := by
  cases slot : st.pending with
  | none => rfl
  | some pending =>
    obtain ⟨op, stage, x, ⟨held, waits⟩, -⟩ := owned pending slot
    rw [released _ held] at waits
    cases waits

theorem empty_at {op : Op} {stage : Stage} (owned : Owned st)
    (held : st.holder = some ⟨op, stage⟩) (silent : stage.waiter = none) :
    st.pending = none := by
  apply owned.empty
  intro h holds
  rw [held] at holds
  cases holds
  exact silent

theorem of_empty (empty : st.pending = none) : Owned st := by
  intro pending slot
  rw [empty] at slot
  cases slot

/-- The slot's waiter is the exchange the holder waits on. -/
theorem pending_eq {op : Op} {stage : Stage} {x : Exchange} {pending : Pending}
    (owned : Owned st) (waits : st.Waits op stage x) (slot : st.pending = some pending) :
    pending = x.pending := by
  obtain ⟨op', stage', y, ⟨held, waiting⟩, rfl⟩ := owned pending slot
  have same := waits.1.symm.trans held
  cases same
  rw [waits.2] at waiting
  cases waiting
  rfl

/-- A waiter that goes on to its next stage keeps the slot it has. -/
theorem onward {op : Op} {stage next : Stage} {x : Exchange} (owned : Owned st)
    (waits : st.Waits op stage x) (keeps : next.waiter = some x)
    (held : t.holder = some ⟨op, next⟩) (same : t.pending = st.pending) : Owned t := by
  intro pending slot
  rw [same] at slot
  exact ⟨op, next, x, ⟨held, keeps⟩, owned.pending_eq waits slot⟩

/-- A waiter that leaves clears its own slot. -/
theorem cleared {op : Op} {stage : Stage} {x : Exchange} (owned : Owned st)
    (waits : st.Waits op stage x) : st.clearedSlot x = none := by
  unfold State.clearedSlot
  cases slot : st.pending with
  | none => simp
  | some pending => simp [owned.pending_eq waits slot, Exchange.pending]

theorem same_slot (owned : Owned st) (holder : t.holder = st.holder)
    (same : t.pending = st.pending) : Owned t := by
  intro pending slot
  rw [same] at slot
  obtain ⟨op, stage, x, ⟨held, waits⟩, eq⟩ := owned pending slot
  exact ⟨op, stage, x, ⟨holder.trans held, waits⟩, eq⟩

end Owned

theorem owned_step {st t : State} {i : Label} (owned : Owned st) (moved : Moves st i t) :
    Owned t := by
  cases moved with
  | proceeds _ _ released _ => exact .of_empty (owned.empty fun h held => (released h held).1)
  | opened op held => exact .of_empty (owned.empty_at held rfl)
  | registered op command s held =>
    intro pending slot
    cases slot
    exact ⟨op, _, _, ⟨rfl, rfl⟩, rfl⟩
  | numbered attempt s held => exact .of_empty (owned.empty_at held rfl)
  | sent op x held => exact owned.onward ⟨held, rfl⟩ rfl rfl rfl
  | unsent op x held => exact owned.onward ⟨held, rfl⟩ rfl rfl rfl
  | called op x held => exact .of_empty (owned.empty_at held rfl)
  | uncalled op x held => exact .of_empty (owned.empty_at held rfl)
  | took op x delivery held => exact owned.onward ⟨held, rfl⟩ rfl rfl rfl
  | expired op x held => exact owned.onward ⟨held, rfl⟩ rfl rfl rfl
  | cleared op x delivery held => exact .of_empty (owned.cleared ⟨held, rfl⟩)
  | abandoned op x held => exact .of_empty (owned.cleared ⟨held, rfl⟩)
  | read attempt p held => exact .of_empty (owned.empty_at held rfl)
  | reseeded pass p held => exact .of_empty (owned.empty_at held rfl)
  | closed op held => exact .of_empty (owned.empty_at held rfl)
  | dropped failing => exact .of_empty rfl
  | wrote | polled | looked | received | parsed | idled | faulted | matched | orphaned | stashed
  | delivered | notified | answered | pushed | lost => exact owned.same_slot rfl rfl

/-- A waiter was there before the step, or the step has just registered it. -/
theorem waits_before {st t : State} {i : Label} {op : Op} {stage : Stage} {x : Exchange}
    (moved : Moves st i t) (waits : t.Waits op stage x) :
    (∃ before, st.Waits op before x ∧ st.serials = t.serials) ∨
      ∃ command s, i = .register ∧ st.holder = some ⟨op, .ready⟩ ∧ op.command = some command ∧
        st.sock = some s ∧ x = ⟨commandRequest st.serials command, s⟩ ∧ stage = .sending x ∧
        t = st.registered op command s := by
  cases moved with
  | proceeds _ _ _ unheld => exact absurd waits (State.not_waits_of_unheld unheld)
  | registered op' command s held commanded connected =>
    obtain ⟨holds, waiting⟩ := waits
    cases holds
    cases waiting
    exact .inr ⟨command, s, rfl, held, commanded, connected, rfl, rfl, rfl⟩
  | opened op held | numbered attempt s held | uncalled op held | cleared op y delivery held
  | abandoned op y held =>
    obtain ⟨holds, waiting⟩ := waits
    cases holds
    cases waiting
  | sent op' y held | unsent op' y held | expired op' y held | took op' y delivery held =>
    obtain ⟨holds, waiting⟩ := waits
    cases holds
    cases waiting
    exact .inl ⟨_, ⟨held, rfl⟩, rfl⟩
  | called op y held | read attempt p held | reseeded pass p held => cases waits.1
  | closed op held => exact absurd waits (State.not_waits_of_unheld op.retried_unheld)
  | wrote | polled | looked | received | parsed | idled | faulted | matched | orphaned | stashed
  | delivered | dropped | notified | answered | pushed | lost => exact .inl ⟨stage, waits, rfl⟩

theorem serials_mono {st t : State} {i : Label} (moved : Moves st i t) :
    st.serials ≤ t.serials := by
  cases moved with
  | registered | numbered => exact Nat.le_succ _
  | proceeds | opened | sent | unsent | called | uncalled | took | expired | cleared | abandoned
  | read | reseeded | closed | wrote | polled | looked | received | parsed | idled | faulted
  | matched | orphaned | stashed | delivered | dropped | notified | answered | pushed | lost =>
    exact Nat.le_refl st.serials

/-- Serial numbers in use lie below the next one, and a reader away from the top of its loop
has a socket. -/
structure Numbered (st : State) : Prop where
  request : ∀ op stage x, st.Waits op stage x →
    ∃ command, op.command = some command ∧ x.request = commandRequest x.request.serial command ∧
      x.request.serial < st.serials
  inbox : ∀ m, st.serials ≤ m → st.inbox m = none
  reader : ∀ w, st.reader.waiter = some w → w < st.serials
  engaged : st.reader ≠ .top → st.curSock.isSome = true

namespace Numbered

variable {st t : State} {i : Label}

theorem initial (next : Int) : Numbered (State.initial next) where
  request _ _ _ waits := absurd waits (State.not_waits_of_unheld unheld_none)
  inbox _ _ := rfl
  reader _ writes := absurd (show (none : Option Nat) = some _ from writes) nofun
  engaged busy := absurd rfl busy

theorem request_step (inv : Numbered st) (moved : Moves st i t) {op : Op} {stage : Stage}
    {x : Exchange} (waits : t.Waits op stage x) :
    ∃ command, op.command = some command ∧ x.request = commandRequest x.request.serial command ∧
      x.request.serial < t.serials := by
  rcases waits_before moved waits with
    ⟨before, waited, same⟩ | ⟨command, s, -, -, commanded, -, rfl, -, rfl⟩
  · rw [← same]
    exact inv.request op before x waited
  · exact ⟨command, commanded, rfl, Nat.lt_succ_self _⟩

theorem pending_lt (inv : Numbered st) (owned : Owned st) {pending : Pending}
    (slot : st.pending = some pending) : pending.serial < st.serials := by
  obtain ⟨op, stage, x, waits, rfl⟩ := owned pending slot
  obtain ⟨_, -, -, below⟩ := inv.request op stage x waits
  exact below

theorem inbox_update (inv : Numbered st) {w : Nat} (below : w < st.serials)
    (delivery : Option Delivery) {m : Nat} (fresh : st.serials ≤ m) :
    Function.update st.inbox w delivery m = none := by
  rw [Function.update_of_ne (by omega)]
  exact inv.inbox m fresh

theorem inbox_step (inv : Numbered st) (moved : Moves st i t) {m : Nat}
    (fresh : t.serials ≤ m) : t.inbox m = none := by
  have old : st.serials ≤ m := Nat.le_trans (serials_mono moved) fresh
  cases moved with
  | took op x delivery held =>
    obtain ⟨_, -, -, below⟩ := inv.request op _ x ⟨held, rfl⟩
    exact inv.inbox_update below none old
  | delivered p waiter hand => exact inv.inbox_update (inv.reader waiter (by rw [hand]; rfl)) _ old
  | notified waiter s hand => exact inv.inbox_update (inv.reader waiter (by rw [hand]; rfl)) _ old
  | proceeds | opened | sent | unsent | called | uncalled | expired | cleared | abandoned
  | read | reseeded | closed | wrote | polled | looked | received | parsed | idled | faulted
  | matched | orphaned | stashed | dropped | answered | pushed | lost | registered | numbered =>
    exact inv.inbox m old

theorem reader_step (inv : Numbered st) (owned : Owned st) (moved : Moves st i t) {w : Nat}
    (writes : t.reader.waiter = some w) : w < t.serials := by
  refine Nat.lt_of_lt_of_le ?_ (serials_mono moved)
  cases moved with
  | looked =>
    cases connected : st.sock.isSome <;> simp [connected, Reader.waiter] at writes
  | matched p pending hand slot =>
    cases writes
    exact inv.pending_lt owned slot
  | dropped =>
    cases slot : st.pending with
    | none => simp [slot, Reader.waiter] at writes
    | some pending =>
      simp only [slot, Reader.waiter, Option.some.injEq] at writes
      subst writes
      exact inv.pending_lt owned slot
  | parsed | idled | faulted | orphaned | stashed | delivered | notified => cases writes
  | proceeds | opened | sent | unsent | called | uncalled | expired | cleared | abandoned
  | read | reseeded | closed | wrote | polled | received | answered | pushed | lost | registered
  | numbered | took => exact inv.reader w writes

theorem engaged_step (inv : Numbered st) (moved : Moves st i t) (busy : t.reader ≠ .top) :
    t.curSock.isSome = true := by
  cases moved with
  | looked =>
    cases connected : st.sock.isSome with
    | true => rfl
    | false => simp [connected] at busy
  | parsed p rest hand | faulted hand | matched p pending hand | orphaned p hand
  | dropped hand => exact inv.engaged (by rw [hand]; exact nofun)
  | idled | stashed | delivered | notified => exact absurd rfl busy
  | proceeds | opened | sent | unsent | called | uncalled | expired | cleared | abandoned
  | read | reseeded | closed | wrote | polled | received | answered | pushed | lost | registered
  | numbered | took => exact inv.engaged busy

theorem step (inv : Numbered st) (owned : Owned st) (moved : Moves st i t) : Numbered t where
  request _ _ _ waits := inv.request_step moved waits
  inbox _ fresh := inv.inbox_step moved fresh
  reader _ writes := inv.reader_step owned moved writes
  engaged busy := inv.engaged_step moved busy

end Numbered

end AiroFanuc.Rmi
