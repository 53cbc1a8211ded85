import AiroFanuc.Rmi.Client

/-! What each step of the client and its controller changes, said once. -/

namespace AiroFanuc.Rmi

open Library

namespace Stage

/-- The exchange of a `_send_and_wait_locked` under way. -/
def waiter : Stage → Option Exchange
  | sending x | waiting x | took x _ | abandoning x => some x
  | _ => none

/-- Between two requests, and with no reply in hand. -/
def Idle : Stage → Prop
  | ensuring | opening | ready | closing | concluded .rmiError | concluded .osError => True
  | _ => False

theorem Idle.waiter {stage : Stage} (idle : stage.Idle) : stage.waiter = none := by
  cases stage <;> first | rfl | cases idle

end Stage

/-- The lock is free, or its holder is between two requests. -/
def Unheld (holder : Option Holder) : Prop := ∀ h, holder = some h → h.stage.Idle

theorem unheld_none : Unheld none := by
  intro h held
  cases held

theorem unheld_some {op : Op} {stage : Stage} (idle : stage.Idle) : Unheld (some ⟨op, stage⟩) := by
  intro h held
  cases held
  exact idle

theorem Op.caught_unheld (op : Op) : Unheld op.caught := by
  cases op <;> first | exact unheld_none | exact unheld_some trivial

theorem Op.retried_unheld (op : Op) : Unheld op.retried := by
  cases op with
  | exchange _ attempt | call attempt =>
    cases attempt
    · exact unheld_some trivial
    · exact unheld_none
  | prep | init | reseed => exact unheld_none

theorem Op.escalated_unheld (pass : Attempt) : Unheld (Op.escalated pass) := by
  cases pass
  · exact unheld_some trivial
  · exact unheld_none

/-- The waiter of a command is in the slot and its request is to be sent. -/
def State.registered (st : State) (op : Op) (command : String) (s : Nat) : State :=
  { st with
    pending := some ⟨st.serials, some command⟩
    serials := st.serials + 1
    holder := some ⟨op, .sending ⟨commandRequest st.serials command, s⟩⟩ }

/-- A step and all it changes. -/
inductive Moves (st : State) : Label → State → Prop
  | proceeds (i : Label) (holder : Option Holder)
      (released : ∀ h, st.holder = some h → h.stage.waiter = none ∧ ∀ x, h.stage ≠ .calling x)
      (unheld : Unheld holder) : Moves st i { st with holder := holder }
  | opened (op : Op) (held : st.holder = some ⟨op, .opening⟩) :
      Moves st (.openSession .opened)
        { st.setConn st.sockets ⟨[], [], false⟩ with
          sock := some st.sockets
          sockets := st.sockets + 1
          holder := some ⟨op, .ready⟩ }
  | registered (op : Op) (command : String) (s : Nat) (held : st.holder = some ⟨op, .ready⟩)
      (commanded : op.command = some command) (connected : st.sock = some s) :
      Moves st .register (st.registered op command s)
  | numbered (attempt : Attempt) (s : Nat) (held : st.holder = some ⟨.call attempt, .ready⟩)
      (connected : st.sock = some s) :
      Moves st .register
        { st with
          instructionSeqId := st.instructionSeqId + 1
          serials := st.serials + 1
          holder := some ⟨.call attempt,
            .calling ⟨callRequest st.serials st.instructionSeqId, s⟩⟩ }
  | sent (op : Op) (x : Exchange) (held : st.holder = some ⟨op, .sending x⟩)
      (alive : (st.conns x.socket).closed = false) :
      Moves st (.sendall true) ((st.transmit x).holding op (.waiting x))
  | unsent (op : Op) (x : Exchange) (held : st.holder = some ⟨op, .sending x⟩) :
      Moves st (.sendall false) (st.holding op (.abandoning x))
  | called (op : Op) (x : Exchange) (held : st.holder = some ⟨op, .calling x⟩)
      (alive : (st.conns x.socket).closed = false) :
      Moves st (.sendall true)
        { st.transmit x with
          holder := none
          journal := { st.journal with sent := st.journal.sent + 1 } }
  | uncalled (op : Op) (x : Exchange) (held : st.holder = some ⟨op, .calling x⟩) :
      Moves st (.sendall false)
        { st with
          holder := some ⟨op, .closing⟩
          journal := { st.journal with astray := true } }
  | took (op : Op) (x : Exchange) (delivery : Delivery)
      (held : st.holder = some ⟨op, .waiting x⟩)
      (put : st.inbox x.request.serial = some delivery) :
      Moves st .take
        { st with
          inbox := Function.update st.inbox x.request.serial none
          holder := some ⟨op, .took x delivery⟩
          journal := st.journal.took x delivery }
  | expired (op : Op) (x : Exchange) (held : st.holder = some ⟨op, .waiting x⟩)
      (empty : st.inbox x.request.serial = none) :
      Moves st .expire (st.holding op (.abandoning x))
  | cleared (op : Op) (x : Exchange) (delivery : Delivery)
      (held : st.holder = some ⟨op, .took x delivery⟩) :
      Moves st .clear
        { st with
          pending := st.clearedSlot x
          holder := some ⟨op, .concluded (State.outcome op delivery)⟩ }
  | abandoned (op : Op) (x : Exchange) (held : st.holder = some ⟨op, .abandoning x⟩) :
      Moves st .clear
        { st with
          pending := st.clearedSlot x
          holder := some ⟨op, .concluded .osError⟩ }
  | read (attempt : Attempt) (p : Packet)
      (held : st.holder = some ⟨.exchange .reseed attempt, .concluded (.reply p)⟩) :
      Moves st .conclude
        { st with
          holder := none
          statuses := st.statuses ++ [⟨p.nextSequenceId.getD 1, st.journal.sent⟩] }
  | reseeded (pass : Attempt) (p : Packet)
      (held : st.holder = some ⟨.reseed pass, .concluded (.reply p)⟩) :
      Moves st .conclude
        { st with
          holder := none
          instructionSeqId :=
            if p.nextSequenceId.getD 1 < 1 then 1 else p.nextSequenceId.getD 1
          journal := { st.journal with astray := false, initialized := true } }
  | closed (op : Op) (held : st.holder = some ⟨op, .closing⟩) :
      Moves st .close { st with sock := none, conns := st.closedConns, holder := op.retried }
  | wrote (k : Nat) (status : Status) (found : st.statuses[k]? = some status) :
      Moves st (.writeStatus k)
        { st with
          statuses := st.statuses.eraseIdx k
          instructionSeqId := status.nextSequenceId
          journal := { st.journal with astray := false } }
  | polled : Moves st .pollAsyncPackets { st with asyncPackets := [] }
  | looked (resting : st.reader = .top) :
      Moves st .look
        { st with
          curSock := st.sock
          rxbuf := if st.sock = st.curSock then st.rxbuf else []
          reader := if st.sock.isSome then .reading else .top }
  | received (n s : Nat) (reading : st.reader = .reading) (cur : st.curSock = some s)
      (empty : st.rxbuf = []) (alive : (st.conns s).closed = false) :
      Moves st (.receive n)
        { st.setConn s { st.conns s with wire := (st.conns s).wire.drop n } with
          rxbuf := (st.conns s).wire.take n }
  | parsed (p : Packet) (rest : List Packet) (reading : st.reader = .reading)
      (buffered : st.rxbuf = p :: rest) :
      Moves st .parse
        { st with
          rxbuf := rest
          reader := .parsed p
          journal := { st.journal with parsed := st.journal.parsed ++ [p] } }
  | idled (reading : st.reader = .reading) : Moves st .idle { st with reader := .top }
  | faulted (reading : st.reader = .reading) : Moves st .fault { st with reader := .failing }
  | matched (p : Packet) (pending : Pending) (hand : st.reader = .parsed p)
      (slot : st.pending = some pending) (passes : p.passesFor pending.identifier = true) :
      Moves st .dispatch { st with reader := .delivering p pending.serial }
  | orphaned (p : Packet) (hand : st.reader = .parsed p) :
      Moves st .dispatch { st with reader := .stashing p }
  | stashed (p : Packet) (hand : st.reader = .stashing p) :
      Moves st .stash
        { st with
          reader := .top
          asyncPackets :=
            (if st.asyncPackets.length = maxAsyncQueue then st.asyncPackets.tail
              else st.asyncPackets) ++ [p]
          journal := { st.journal with stashed := st.journal.stashed ++ [p] } }
  | delivered (p : Packet) (waiter : Nat) (hand : st.reader = .delivering p waiter)
      (empty : st.inbox waiter = none) :
      Moves st .deliver
        { st with
          reader := .top
          inbox := Function.update st.inbox waiter (some (.reply p)) }
  | dropped (failing : st.reader = .failing) :
      Moves st .onSocketError
        { st with
          pending := none
          sock := if st.sock = st.curSock then none else st.sock
          conns := if st.sock = st.curSock then st.closedConns else st.conns
          reader :=
            match st.pending with
            | some pending => .notifying pending.serial
            | none => .top }
  | notified (waiter s : Nat) (hand : st.reader = .notifying waiter) (cur : st.curSock = some s)
      (empty : st.inbox waiter = none) :
      Moves st .notify
        { st with
          reader := .top
          inbox := Function.update st.inbox waiter (some (.error s)) }
  | answered (s : Nat) (errorId : Option Int) (r : Request) (rest : List Request)
      (due : (st.conns s).due = r :: rest) :
      Moves st (.answer s errorId)
        { (st.setConn s { st.conns s with
            due := rest
            wire := (st.conns s).wire ++ [st.answerTo s r errorId] }).countCall r with
          emitted := st.emitted + 1 }
  | pushed (s : Nat) (packet : Packet) (push : packet.isPush = true) :
      Moves st (.push s packet)
        { st.setConn s { st.conns s with
            wire := (st.conns s).wire ++
              [{ packet with index := st.emitted, socket := s, answers := none }] } with
          emitted := st.emitted + 1 }
  | lost (s : Nat) (dead : (st.conns s).closed = true) :
      Moves st (.lose s)
        { st.setConn s ⟨[], [], true⟩ with
          journal := { st.journal with
            astray := st.journal.astray || (st.conns s).due.any Request.isCall } }

namespace State

variable {st t : State}

/-- The holder of the lock is at a stage of no request. -/
theorem released_of {op : Op} {stage : Stage} (held : st.holder = some ⟨op, stage⟩)
    (silent : stage.waiter = none ∧ ∀ x, stage ≠ .calling x) :
    ∀ h, st.holder = some h → h.stage.waiter = none ∧ ∀ x, h.stage ≠ .calling x := by
  intro h holds
  rw [held] at holds
  cases holds
  exact silent

theorem acquire_moves {job : Job} (moved : st.acquire job = some t) : Moves st (.acquire job) t := by
  unfold acquire at moved
  split at moved
  · next free =>
    cases moved
    refine .proceeds _ _ (fun h held => ?_) (unheld_some trivial)
    rw [free] at held
    cases held
  · cases moved

theorem ensureOpen_moves (moved : st.ensureOpen = some t) : Moves st .ensureOpen t := by
  unfold ensureOpen at moved
  split at moved
  · next held =>
    cases moved
    refine .proceeds _ _ (released_of held ⟨rfl, nofun⟩) (unheld_some ?_)
    split <;> trivial
  · cases moved

theorem openSession_moves {opening : Opening} (moved : st.openSession opening = some t) :
    Moves st (.openSession opening) t := by
  unfold openSession at moved
  split at moved
  · next op held =>
    cases opening with
    | opened =>
      cases moved
      exact .opened op held
    | transportError =>
      cases moved
      exact .proceeds _ _ (released_of held ⟨rfl, nofun⟩) op.caught_unheld
    | refused =>
      cases moved
      exact .proceeds _ _ (released_of held ⟨rfl, nofun⟩) unheld_none
  · cases moved

theorem register_moves (moved : st.register = some t) : Moves st .register t := by
  unfold register at moved
  split at moved
  · next op held =>
    split at moved
    · next command s commanded connected =>
      cases moved
      exact .registered op command s held commanded connected
    · cases moved
      exact .proceeds _ _ (released_of held ⟨rfl, nofun⟩) (unheld_some trivial)
    · next s commanded connected =>
      cases moved
      cases op with
      | call attempt => exact .numbered attempt s held connected
      | exchange | prep | init | reseed => cases commanded
    · cases moved
      exact .proceeds _ _ (released_of held ⟨rfl, nofun⟩) unheld_none
  · cases moved

theorem sendall_moves {arrives : Bool} (moved : st.sendall arrives = some t) :
    Moves st (.sendall arrives) t := by
  unfold sendall at moved
  split at moved
  · next op x held =>
    cases arrives with
    | false =>
      cases moved
      exact .unsent op x held
    | true =>
      cases alive : (st.conns x.socket).closed with
      | true => simp [alive] at moved
      | false =>
        simp only [alive, if_true, Bool.false_eq_true, if_false, Option.some.injEq] at moved
        subst moved
        exact .sent op x held alive
  · next op x held =>
    cases arrives with
    | false =>
      cases moved
      exact .uncalled op x held
    | true =>
      cases alive : (st.conns x.socket).closed with
      | true => simp [alive] at moved
      | false =>
        simp only [alive, if_true, Bool.false_eq_true, if_false, Option.some.injEq] at moved
        subst moved
        exact .called op x held alive
  · cases moved

theorem take_moves (moved : st.take = some t) : Moves st .take t := by
  unfold take at moved
  split at moved
  · next op x held =>
    split at moved
    · next delivery put =>
      cases moved
      exact .took op x delivery held put
    · cases moved
  · cases moved

theorem expire_moves (moved : st.expire = some t) : Moves st .expire t := by
  unfold expire at moved
  split at moved
  · next op x held =>
    split at moved
    · cases moved
    · next empty =>
      cases moved
      exact .expired op x held empty
  · cases moved

theorem clear_moves (moved : st.clear = some t) : Moves st .clear t := by
  unfold clear at moved
  split at moved
  · next op x delivery held =>
    cases moved
    exact .cleared op x delivery held
  · next op x held =>
    cases moved
    exact .abandoned op x held
  · cases moved

theorem conclude_moves (moved : st.conclude = some t) : Moves st .conclude t := by
  unfold conclude at moved
  split at moved
  · next held =>
    split at moved
    · cases moved
      exact .read _ _ held
    · cases moved
      exact .proceeds _ _ (released_of held ⟨rfl, nofun⟩) unheld_none
    · cases moved
      exact .proceeds _ _ (released_of held ⟨rfl, nofun⟩) unheld_none
    · cases moved
      exact .proceeds _ _ (released_of held ⟨rfl, nofun⟩) (unheld_some trivial)
  · next held =>
    cases moved
    exact .proceeds _ _ (released_of held ⟨rfl, nofun⟩) (unheld_some trivial)
  · next held =>
    cases moved
    exact .proceeds _ _ (released_of held ⟨rfl, nofun⟩) (unheld_some trivial)
  · next held =>
    split at moved
    · cases moved
      exact .proceeds _ _ (released_of held ⟨rfl, nofun⟩) (unheld_some trivial)
    · cases moved
      exact .proceeds _ _ (released_of held ⟨rfl, nofun⟩) (Op.escalated_unheld _)
  · next held =>
    split at moved
    · cases moved
      exact .reseeded _ _ held
    · cases moved
      exact .proceeds _ _ (released_of held ⟨rfl, nofun⟩) (Op.escalated_unheld _)
  · cases moved

theorem close_moves (moved : st.close = some t) : Moves st .close t := by
  unfold close at moved
  split at moved
  · next op held =>
    cases moved
    exact .closed op held
  · cases moved

theorem writeStatus_moves {k : Nat} (moved : st.writeStatus k = some t) :
    Moves st (.writeStatus k) t := by
  unfold writeStatus at moved
  split at moved
  · next status found =>
    cases moved
    exact .wrote k status found
  · cases moved

theorem look_moves (moved : st.look = some t) : Moves st .look t := by
  unfold look at moved
  split at moved
  · next resting =>
    cases moved
    exact .looked resting
  · cases moved

theorem receive_moves {n : Nat} (moved : st.receive n = some t) : Moves st (.receive n) t := by
  unfold receive at moved
  split at moved
  · next s reading cur empty =>
    split at moved
    · cases moved
    · next alive =>
      cases moved
      exact .received n s reading cur empty (Bool.eq_false_iff.mpr alive)
  · cases moved

theorem parse_moves (moved : st.parse = some t) : Moves st .parse t := by
  unfold parse at moved
  split at moved
  · next p rest reading buffered =>
    cases moved
    exact .parsed p rest reading buffered
  · cases moved

theorem idle_moves (moved : st.idle = some t) : Moves st .idle t := by
  unfold idle at moved
  split at moved
  · next reading _ =>
    cases moved
    exact .idled reading
  · cases moved

theorem fault_moves (moved : st.fault = some t) : Moves st .fault t := by
  unfold fault at moved
  split at moved
  · next reading _ =>
    cases moved
    exact .faulted reading
  · cases moved

theorem dispatch_moves (moved : st.dispatch = some t) : Moves st .dispatch t := by
  unfold dispatch at moved
  split at moved
  · next p hand =>
    split at moved
    · next pending slot =>
      cases passes : p.passesFor pending.identifier with
      | true =>
        simp only [passes, if_true, Option.some.injEq] at moved
        subst moved
        exact .matched p pending hand slot passes
      | false =>
        simp only [passes, Bool.false_eq_true, if_false, Option.some.injEq] at moved
        subst moved
        exact .orphaned p hand
    · cases moved
      exact .orphaned p hand
  · cases moved

theorem stash_moves (moved : st.stash = some t) : Moves st .stash t := by
  unfold stash at moved
  split at moved
  · next p hand =>
    cases moved
    exact .stashed p hand
  · cases moved

theorem deliver_moves (moved : st.deliver = some t) : Moves st .deliver t := by
  unfold deliver at moved
  split at moved
  · next p waiter hand =>
    split at moved
    · cases moved
    · next empty =>
      cases moved
      exact .delivered p waiter hand empty
  · cases moved

theorem onSocketError_moves (moved : st.onSocketError = some t) : Moves st .onSocketError t := by
  unfold onSocketError at moved
  split at moved
  · next failing =>
    cases moved
    exact .dropped failing
  · cases moved

theorem notify_moves (moved : st.notify = some t) : Moves st .notify t := by
  unfold notify at moved
  split at moved
  · next waiter s hand cur =>
    split at moved
    · cases moved
    · next empty =>
      cases moved
      exact .notified waiter s hand cur empty
  · cases moved

theorem answer_moves {s : Nat} {errorId : Option Int} (moved : st.answer s errorId = some t) :
    Moves st (.answer s errorId) t := by
  unfold answer at moved
  split at moved
  · next r rest due =>
    cases moved
    exact .answered s errorId r rest due
  · cases moved

theorem push_moves {s : Nat} {packet : Packet} (moved : st.push s packet = some t) :
    Moves st (.push s packet) t := by
  unfold push at moved
  split at moved
  · next push =>
    cases moved
    exact .pushed s packet push
  · cases moved

theorem lose_moves {s : Nat} (moved : st.lose s = some t) : Moves st (.lose s) t := by
  unfold lose at moved
  split at moved
  · next dead =>
    cases moved
    exact .lost s dead
  · cases moved

/-- Every step is one of the moves. -/
theorem step_moves {i : Label} (moved : st.step i = some t) : Moves st i t := by
  cases i with
  | acquire job => exact acquire_moves moved
  | ensureOpen => exact ensureOpen_moves moved
  | openSession opening => exact openSession_moves moved
  | register => exact register_moves moved
  | sendall arrives => exact sendall_moves moved
  | take => exact take_moves moved
  | expire => exact expire_moves moved
  | clear => exact clear_moves moved
  | conclude => exact conclude_moves moved
  | close => exact close_moves moved
  | writeStatus k => exact writeStatus_moves moved
  | pollAsyncPackets =>
    cases moved
    exact .polled
  | look => exact look_moves moved
  | receive n => exact receive_moves moved
  | parse => exact parse_moves moved
  | idle => exact idle_moves moved
  | fault => exact fault_moves moved
  | dispatch => exact dispatch_moves moved
  | stash => exact stash_moves moved
  | deliver => exact deliver_moves moved
  | onSocketError => exact onSocketError_moves moved
  | notify => exact notify_moves moved
  | answer s errorId => exact answer_moves moved
  | push s packet => exact push_moves moved
  | lose s => exact lose_moves moved

end State

end AiroFanuc.Rmi
