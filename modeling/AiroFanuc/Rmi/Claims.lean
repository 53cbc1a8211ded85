import AiroFanuc.Rmi.Slot
import Mathlib.Data.List.Perm.Subperm

/-! The answers that would pass for a waiter's reply: while it waits there is at most one,
and it is its own. -/

namespace AiroFanuc.Rmi

/-- The request a packet answers and the socket it came on. -/
def Packet.tag (p : Packet) : Option Nat × Nat := (p.answers, p.socket)

namespace Exchange

def serial (x : Exchange) : Nat := x.request.serial

def identifier (x : Exchange) : Option String := x.request.replyIdentifier

/-- The tag of the packet that answers the exchange. -/
def tag (x : Exchange) : Option Nat × Nat := (some x.serial, x.socket)

end Exchange

def Delivery.tags : Option Delivery → List (Option Nat × Nat)
  | some (.reply p) => [p.tag]
  | _ => []

namespace Stage

/-- The reply the waiter has taken out of its inbox. -/
def tags : Stage → List (Option Nat × Nat)
  | took _ (.reply p) => [p.tag]
  | _ => []

/-- Before its request is out, a waiter has no answer coming. -/
def allowance (x : Exchange) : Stage → List (Option Nat × Nat)
  | sending _ => []
  | _ => [x.tag]

end Stage

namespace State

variable (st : State)

/-- What the reader holds of a socket. -/
def held (cur : Option Nat) (packets : List Packet) (s : Nat) : List Packet :=
  if cur = some s then packets else []

/-- The packets of a socket that are not yet routed to their end, oldest first. -/
def incoming (s : Nat) : List Packet :=
  held st.curSock (st.reader.hand ++ st.rxbuf) s ++ (st.conns s).wire

/-- The answers to come that would pass for the reply. -/
def awaited (x : Exchange) : List (Option Nat × Nat) :=
  ((st.incoming x.socket).filter (·.passesFor x.identifier)).map Packet.tag ++
    ((st.conns x.socket).due.filter (·.passesFor x.identifier)).map
      fun r => (some r.serial, x.socket)

/-- All that has passed or would pass for the reply of a waiter. -/
def claims (stage : Stage) (x : Exchange) : List (Option Nat × Nat) :=
  Delivery.tags (st.inbox x.serial) ++ stage.tags ++ st.awaited x

/-- The reader has let go of every earlier socket, and no answer to an earlier request of the
same command is still to come on this one. -/
def Settled (command : String) (s : Nat) : Prop :=
  (st.reader = .top ∨ st.curSock = some s) ∧
    (∀ p ∈ st.incoming s, p.passesFor (some command) = false) ∧
    ∀ r ∈ (st.conns s).due, r.passesFor (some command) = false

instance (command : String) (s : Nat) : Decidable (st.Settled command s) :=
  inferInstanceAs (Decidable (_ ∧ _ ∧ _))

/-- The requests of the operations in question go out on a settled socket. -/
def Orderly (tracked : Op → Bool) : Label → Prop
  | .register =>
    match st.holder, st.sock with
    | some ⟨op, .ready⟩, some s =>
      match op.command with
      | some command => tracked op = true → st.Settled command s
      | none => True
    | _, _ => True
  | _ => True

instance (tracked : Op → Bool) (i : Label) : Decidable (st.Orderly tracked i) := by
  unfold Orderly
  split
  · split
    · split
      · infer_instance
      · infer_instance
    · infer_instance
  · infer_instance

end State

/-- What holds of a waiter whose request went out on a settled socket. -/
structure Attends (st : State) (stage : Stage) (x : Exchange) : Prop where
  current : st.sock = some x.socket ∨ st.sock = none
  engaged : st.reader ≠ .top → st.curSock = some x.socket
  claims : (st.claims stage x).Subperm (stage.allowance x)
  matched : ∀ p, st.reader = .delivering p x.serial → p.passesFor x.identifier = true
  error : ∀ s, st.inbox x.serial = some (.error s) → s = x.socket

namespace State

variable {st t : State} {x : Exchange}

/-! How the answers to come move. -/

theorem awaited_congr (incoming : t.incoming x.socket = st.incoming x.socket)
    (due : (t.conns x.socket).due = (st.conns x.socket).due) : t.awaited x = st.awaited x := by
  unfold awaited
  rw [incoming, due]

theorem awaited_sublist (incoming : (t.incoming x.socket).Sublist (st.incoming x.socket))
    (due : (t.conns x.socket).due.Sublist (st.conns x.socket).due) :
    (t.awaited x).Sublist (st.awaited x) :=
  ((incoming.filter _).map _).append ((due.filter _).map _)

theorem incoming_congr {s : Nat} (cur : t.curSock = st.curSock)
    (hand : t.reader.hand = st.reader.hand) (rxbuf : t.rxbuf = st.rxbuf)
    (wire : (t.conns s).wire = (st.conns s).wire) : t.incoming s = st.incoming s := by
  unfold incoming
  rw [cur, hand, rxbuf, wire]

theorem closedConns_due (st : State) (s : Nat) :
    (st.closedConns s).due = (st.conns s).due := by
  unfold closedConns
  cases st.sock with
  | none => rfl
  | some r =>
    by_cases same : s = r
    · subst same
      simp only [Function.update_self]
    · simp only [Function.update_of_ne same]

theorem closedConns_wire (st : State) (s : Nat) :
    (st.closedConns s).wire = (st.conns s).wire := by
  unfold closedConns
  cases st.sock with
  | none => rfl
  | some r =>
    by_cases same : s = r
    · subst same
      simp only [Function.update_self]
    · simp only [Function.update_of_ne same]

theorem setConn_self (st : State) (s : Nat) (c : Conn) : (st.setConn s c).conns s = c := by
  simp only [setConn, Function.update_self]

theorem setConn_of_ne (st : State) {s r : Nat} (other : r ≠ s) (c : Conn) :
    (st.setConn s c).conns r = st.conns r := by
  simp only [setConn, Function.update_of_ne other]

theorem setConn_due (st : State) (s : Nat) {c : Conn} (same : c.due = (st.conns s).due)
    (r : Nat) : ((st.setConn s c).conns r).due = (st.conns r).due := by
  by_cases here : r = s
  · rw [here, setConn_self, same]
  · rw [setConn_of_ne st here]

theorem setConn_closed (st : State) (s : Nat) {c : Conn} (same : c.closed = (st.conns s).closed)
    (r : Nat) : ((st.setConn s c).conns r).closed = (st.conns r).closed := by
  by_cases here : r = s
  · rw [here, setConn_self, same]
  · rw [setConn_of_ne st here]

theorem closedConns_alive (st : State) {s : Nat} (alive : (st.closedConns s).closed = false) :
    (st.conns s).closed = false := by
  unfold closedConns at alive
  cases connected : st.sock with
  | none =>
    rw [connected] at alive
    exact alive
  | some r =>
    rw [connected] at alive
    by_cases here : s = r
    · subst here
      simp only [Function.update_self] at alive
      cases alive
    · simpa only [Function.update_of_ne here] using alive

/-- A change of one socket's connection, as the sockets see it. -/
theorem incoming_setConn (st : State) {s r : Nat} (other : r ≠ s) (c : Conn) :
    (st.setConn s c).incoming r = st.incoming r := by
  have wire : ((st.setConn s c).conns r).wire = (st.conns r).wire := by
    rw [setConn_of_ne st other]
  exact incoming_congr rfl rfl rfl wire

theorem awaited_setConn (st : State) {s : Nat} (other : x.socket ≠ s) (c : Conn) :
    (st.setConn s c).awaited x = st.awaited x := by
  apply awaited_congr (st.incoming_setConn other c)
  rw [setConn_of_ne st other]

theorem incoming_setConn_self (st : State) (s : Nat) (c : Conn) :
    (st.setConn s c).incoming s =
      held st.curSock (st.reader.hand ++ st.rxbuf) s ++ c.wire := by
  unfold incoming
  rw [setConn_self]
  rfl

theorem awaited_transmit (st : State) (x : Exchange) :
    ((st.transmit x).awaited x).Sublist (st.awaited x ++ [x.tag]) := by
  have same : (st.transmit x).incoming x.socket = st.incoming x.socket := by
    unfold transmit
    rw [incoming_setConn_self]
    rfl
  have due : ((st.transmit x).conns x.socket).due = (st.conns x.socket).due ++ [x.request] := by
    unfold transmit
    rw [setConn_self]
  unfold awaited
  rw [same, due, List.filter_append, List.map_append, List.append_assoc]
  apply List.Sublist.append (List.Sublist.refl _)
  apply List.Sublist.append (List.Sublist.refl _)
  exact (List.filter_sublist (l := [x.request])).map _

/-- The reader is done with the packet in its hand. -/
theorem incoming_release {p : Packet} {s : Nat} (hand : st.reader.hand = [p])
    (here : st.curSock = some s) :
    st.incoming s = p :: State.incoming { st with reader := .top } s := by
  have kept : State.incoming { st with reader := .top } s = st.rxbuf ++ (st.conns s).wire := by
    show held st.curSock ([] ++ st.rxbuf) s ++ _ = _
    rw [held, if_pos here]
    rfl
  rw [kept, incoming, held, if_pos here, hand]
  rfl

theorem awaited_release {p : Packet} (hand : st.reader.hand = [p])
    (here : st.curSock = some x.socket) :
    (State.awaited { st with reader := .top } x).Sublist (st.awaited x) := by
  refine awaited_sublist ?_ (List.Sublist.refl _)
  rw [incoming_release hand here]
  exact List.sublist_cons_self _ _

theorem awaited_release_passing {p : Packet} (hand : st.reader.hand = [p])
    (here : st.curSock = some x.socket) (passes : p.passesFor x.identifier = true) :
    st.awaited x = p.tag :: State.awaited { st with reader := .top } x := by
  unfold awaited
  rw [incoming_release hand here, List.filter_cons, if_pos passes]
  rfl

/-- The answer moves from the controller's queue to the wire. -/
theorem awaited_answered (st : State) (x : Exchange) (s : Nat) (errorId : Option Int)
    (r : Request) (rest : List Request) (due : (st.conns s).due = r :: rest) :
    ((st.setConn s { st.conns s with
        due := rest
        wire := (st.conns s).wire ++ [st.answerTo s r errorId] }).awaited x).Perm
      (st.awaited x) := by
  by_cases here : x.socket = s
  · subst here
    unfold awaited
    rw [incoming_setConn_self, setConn_self, due, ← List.append_assoc]
    rw [show held st.curSock (st.reader.hand ++ st.rxbuf) x.socket ++
      (st.conns x.socket).wire = st.incoming x.socket from rfl]
    rw [List.filter_append, List.map_append, List.append_assoc]
    apply List.Perm.append_left
    have echo : (st.answerTo x.socket r errorId).passesFor x.identifier =
        r.passesFor x.identifier := r.echo_passesFor _ _ _ _ _
    cases passes : r.passesFor x.identifier with
    | true =>
      simp only [List.filter_cons, echo, passes, if_true, List.filter_nil, List.map_cons,
        List.map_nil]
      exact List.Perm.refl _
    | false =>
      simp only [List.filter_cons, echo, passes, Bool.false_eq_true, if_false, List.filter_nil,
        List.map_nil]
      exact List.Perm.refl _
  · rw [st.awaited_setConn here]

theorem awaited_pushed (st : State) (x : Exchange) (s : Nat) (p : Packet)
    (push : p.isPush = true) :
    (st.setConn s { st.conns s with wire := (st.conns s).wire ++ [p] }).awaited x =
      st.awaited x := by
  by_cases here : x.socket = s
  · subst here
    unfold awaited
    rw [incoming_setConn_self, setConn_self, ← List.append_assoc]
    rw [show held st.curSock (st.reader.hand ++ st.rxbuf) x.socket ++
      (st.conns x.socket).wire = st.incoming x.socket from rfl]
    have ignored : p.passesFor x.identifier = false := by
      unfold Packet.passesFor
      rw [push]
      rfl
    simp only [List.filter_append, List.filter_cons, ignored, Bool.false_eq_true, if_false,
      List.filter_nil, List.append_nil]
  · rw [st.awaited_setConn here]

theorem awaited_lost (st : State) (x : Exchange) (s : Nat) :
    ((st.setConn s ⟨[], [], true⟩).awaited x).Sublist (st.awaited x) := by
  by_cases here : x.socket = s
  · subst here
    apply awaited_sublist
    · rw [incoming_setConn_self]
      exact List.Sublist.append (List.Sublist.refl _) (List.nil_sublist _)
    · rw [setConn_self]
      exact List.nil_sublist _
  · rw [st.awaited_setConn here]

/-- `recv` moves whole lines into the buffer. -/
theorem incoming_received (st : State) (n s : Nat) (reading : st.reader = .reading)
    (cur : st.curSock = some s) (empty : st.rxbuf = []) :
    State.incoming
      { st.setConn s { st.conns s with wire := (st.conns s).wire.drop n } with
        rxbuf := (st.conns s).wire.take n } s = st.incoming s := by
  calc
    _ = held st.curSock (st.reader.hand ++ (st.conns s).wire.take n) s ++
        ((st.setConn s { st.conns s with wire := (st.conns s).wire.drop n }).conns s).wire := rfl
    _ = (st.conns s).wire.take n ++ (st.conns s).wire.drop n := by
      rw [setConn_self, held, if_pos cur, reading]
      rfl
    _ = (st.conns s).wire := List.take_append_drop n _
    _ = st.incoming s := by
      rw [incoming, held, if_pos cur, reading, empty]
      rfl

/-- A look at the session socket keeps the buffer of this socket or drops it. -/
theorem incoming_looked (st : State) (s : Nat) (resting : st.reader = .top) :
    (State.incoming
      { st with
        curSock := st.sock
        rxbuf := if st.sock = st.curSock then st.rxbuf else []
        reader := if st.sock.isSome then .reading else .top } s).Sublist (st.incoming s) := by
  have idle : (if st.sock.isSome then Reader.reading else Reader.top).hand = [] := by
    split
    · rfl
    · rfl
  show (held st.sock (_ ++ _) s ++ (st.conns s).wire).Sublist _
  rw [idle, incoming, resting]
  apply List.Sublist.append _ (List.Sublist.refl _)
  by_cases same : st.sock = st.curSock
  · rw [if_pos same, same]
    exact List.Sublist.refl _
  · rw [if_neg same, held, List.append_nil, ite_self]
    exact List.nil_sublist _

end State

end AiroFanuc.Rmi
