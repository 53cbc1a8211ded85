import AiroFanuc.Library.Machine
import AiroFanuc.Rmi.Wire

/-! The RMI client against its controller: the requests that the request lock serialises, the
thread that reads the session socket, and the sockets between them. -/

namespace AiroFanuc.Rmi

open Library

/-- `for attempt in (1, 2)`, and the two passes of the Initialize ladder. -/
inductive Attempt
  | first
  | second
  deriving DecidableEq

/-- Who calls `_exchange_with_retry`: a public method with a command of its own, or
`reseed_sequence_id_from_controller` through `get_status`. -/
inductive Purpose
  | plain (command : String)
  | reseed
  deriving DecidableEq

/-- What a caller is at while it holds the request lock. -/
inductive Op
  /-- `_exchange_with_retry`. -/
  | exchange (purpose : Purpose) (attempt : Attempt)
  /-- `program_call`. -/
  | call (attempt : Attempt)
  /-- `_send_prep_command_locked`, and the prep commands of the pass after it. -/
  | prep (pass : Attempt) (command : String) (rest : List String)
  /-- `FRC_Initialize`. -/
  | init (pass : Attempt)
  /-- `_reseed_seq_id_from_controller_locked`. -/
  | reseed (pass : Attempt)
  deriving DecidableEq

/-- What a caller asks of the client. -/
inductive Job
  | exchange (purpose : Purpose)
  | call
  | init
  deriving DecidableEq

structure Pending where
  serial : Nat
  identifier : Option String
  deriving DecidableEq

/-- What the reader puts into a waiter's inbox. -/
inductive Delivery
  | reply (packet : Packet)
  | error (socket : Nat)
  deriving DecidableEq

/-- A request and the socket it goes out on. -/
structure Exchange where
  request : Request
  socket : Nat
  deriving DecidableEq

/-- How `_send_and_wait_locked` ends. -/
inductive Outcome
  | reply (packet : Packet)
  | rmiError
  | osError
  deriving DecidableEq

inductive Stage
  | ensuring
  | opening
  | ready
  | sending (x : Exchange)
  | waiting (x : Exchange)
  | took (x : Exchange) (delivery : Delivery)
  | abandoning (x : Exchange)
  | calling (x : Exchange)
  | concluded (outcome : Outcome)
  | closing
  deriving DecidableEq

structure Holder where
  op : Op
  stage : Stage
  deriving DecidableEq

/-- Where the reader thread is. -/
inductive Reader
  | top
  | reading
  | parsed (packet : Packet)
  | stashing (packet : Packet)
  | delivering (packet : Packet) (waiter : Nat)
  | failing
  | notifying (waiter : Nat)
  deriving DecidableEq

/-- A session socket: the requests the controller has yet to answer and the packets the
client has yet to read. -/
structure Conn where
  due : List Request
  wire : List Packet
  closed : Bool
  deriving DecidableEq

/-- A `NextSequenceID` that a public reseed has read and not yet written, and how many calls
had been sent by then. -/
structure Status where
  nextSequenceId : Int
  sent : Nat
  deriving DecidableEq

/-- What happened so far. No step reads it. -/
structure Journal where
  returned : List (Exchange × Packet)
  failed : List (Exchange × Nat)
  parsed : List Packet
  stashed : List Packet
  /-- The id each `FRC_Call` carried and the controller's `NextSequenceID` when it came,
  since the first `initialize()`. -/
  calls : List (Int × Int)
  sent : Nat
  /-- An id was taken for a call that the controller does not get, and no reseed followed. -/
  astray : Bool
  initialized : Bool
  deriving DecidableEq

structure State where
  sock : Option Nat
  pending : Option Pending
  asyncPackets : List Packet
  instructionSeqId : Int
  holder : Option Holder
  inbox : Nat → Option Delivery
  statuses : List Status
  reader : Reader
  curSock : Option Nat
  rxbuf : List Packet
  conns : Nat → Conn
  sockets : Nat
  nextSequenceId : Int
  serials : Nat
  emitted : Nat
  journal : Journal

def Journal.took (j : Journal) (x : Exchange) (delivery : Delivery) : Journal :=
  { j with
    returned :=
      match delivery with
      | .reply p => j.returned ++ [(x, p)]
      | .error _ => j.returned
    failed :=
      match delivery with
      | .reply _ => j.failed
      | .error s => j.failed ++ [(x, s)] }

/-- `_MAX_ASYNC_QUEUE`. -/
def maxAsyncQueue : Nat := 64

namespace Attempt

def prep : Attempt → Op
  | first => .prep .first "FRC_GetStatus" ["FRC_Reset", "FRC_GetStatus"]
  | second => .prep .second "FRC_Abort" ["FRC_Reset", "FRC_GetStatus"]

end Attempt

def Purpose.command : Purpose → String
  | plain command => command
  | reseed => "FRC_GetStatus"

namespace Op

/-- The command of the operation's request. An `FRC_Call` is an instruction. -/
def command : Op → Option String
  | exchange purpose _ => some purpose.command
  | call _ => none
  | prep _ command _ => some command
  | init _ => some "FRC_Initialize"
  | reseed _ => some "FRC_GetStatus"

/-- `raise_on_error_id`. -/
def raisesOnErrorId : Op → Bool
  | prep _ _ _ => false
  | _ => true

/-- Where an `OSError` outside the request itself leads: the two retry loops catch it. -/
def caught : Op → Option Holder
  | exchange purpose attempt => some ⟨.exchange purpose attempt, .closing⟩
  | call attempt => some ⟨.call attempt, .closing⟩
  | _ => none

/-- The second attempt of a retry loop. -/
def retried : Op → Option Holder
  | exchange purpose .first => some ⟨.exchange purpose .second, .ensuring⟩
  | call .first => some ⟨.call .second, .ensuring⟩
  | _ => none

/-- `_initialize_with_recovery_locked` after an error of its pass. -/
def escalated : Attempt → Option Holder
  | .first => some ⟨Attempt.second.prep, .ready⟩
  | .second => none

end Op

def Job.op : Job → Op
  | exchange purpose => .exchange purpose .first
  | call => .call .first
  | init => Attempt.first.prep

/-- The client before `start()`, against a controller whose counter is at `next`. -/
def State.initial (next : Int) : State where
  sock := none
  pending := none
  asyncPackets := []
  instructionSeqId := 1
  holder := none
  inbox := fun _ => none
  statuses := []
  reader := .top
  curSock := none
  rxbuf := []
  conns := fun _ => ⟨[], [], false⟩
  sockets := 0
  nextSequenceId := next
  serials := 0
  emitted := 0
  journal := ⟨[], [], [], [], [], 0, false, false⟩

/-- How `_open_session_locked` ends. -/
inductive Opening
  | opened
  | transportError
  | refused
  deriving DecidableEq

inductive Label
  | acquire (job : Job)
  | ensureOpen
  | openSession (opening : Opening)
  | register
  | sendall (arrives : Bool)
  | take
  | expire
  | clear
  | conclude
  | close
  | writeStatus (i : Nat)
  | pollAsyncPackets
  | look
  | receive (n : Nat)
  | parse
  | idle
  | fault
  | dispatch
  | stash
  | deliver
  | onSocketError
  | notify
  | answer (s : Nat) (errorId : Option Int)
  | push (s : Nat) (packet : Packet)
  | lose (s : Nat)
  deriving DecidableEq

namespace State

variable (st : State)

def setConn (s : Nat) (c : Conn) : State := { st with conns := Function.update st.conns s c }

def holding (op : Op) (stage : Stage) : State := { st with holder := some ⟨op, stage⟩ }

/-- `_safe_close` of the session socket. -/
def closedConns : Nat → Conn :=
  match st.sock with
  | some s => Function.update st.conns s { st.conns s with closed := true }
  | none => st.conns

/-! The callers. -/

def acquire (job : Job) : Option State :=
  match st.holder with
  | none => some (st.holding job.op .ensuring)
  | some _ => none

/-- `_ensure_open_locked`. -/
def ensureOpen : Option State :=
  match st.holder with
  | some ⟨op, .ensuring⟩ => some (st.holding op (if st.sock.isSome then .ready else .opening))
  | _ => none

/-- `_open_session_locked`. -/
def openSession (opening : Opening) : Option State :=
  match st.holder with
  | some ⟨op, .opening⟩ =>
    match opening with
    | .opened =>
      some { st.setConn st.sockets ⟨[], [], false⟩ with
        sock := some st.sockets
        sockets := st.sockets + 1
        holder := some ⟨op, .ready⟩ }
    | .transportError => some { st with holder := op.caught }
    | .refused => some { st with holder := none }
  | _ => none

/-- `_send_and_wait_locked` up to the send, or the locked block of `program_call`. -/
def register : Option State :=
  match st.holder with
  | some ⟨op, .ready⟩ =>
    match op.command, st.sock with
    | some command, some s =>
      let request := commandRequest st.serials command
      some { st with
        pending := some ⟨st.serials, request.replyIdentifier⟩
        serials := st.serials + 1
        holder := some ⟨op, .sending ⟨request, s⟩⟩ }
    | some _, none => some (st.holding op (.concluded .osError))
    | none, some s =>
      some { st with
        instructionSeqId := st.instructionSeqId + 1
        serials := st.serials + 1
        holder := some ⟨op, .calling ⟨callRequest st.serials st.instructionSeqId, s⟩⟩ }
    -- `assert self._sock is not None`
    | none, none => some { st with holder := none }
  | _ => none

/-- The bytes are on their way to the controller. -/
def transmit (x : Exchange) : State :=
  st.setConn x.socket { st.conns x.socket with due := (st.conns x.socket).due ++ [x.request] }

/-- `sock.sendall`. On a closed socket it raises. -/
def sendall (arrives : Bool) : Option State :=
  match st.holder with
  | some ⟨op, .sending x⟩ =>
    if arrives then
      if (st.conns x.socket).closed then none else some ((st.transmit x).holding op (.waiting x))
    else some (st.holding op (.abandoning x))
  | some ⟨op, .calling x⟩ =>
    if arrives then
      if (st.conns x.socket).closed then none
      else some { st.transmit x with
        holder := none
        journal := { st.journal with sent := st.journal.sent + 1 } }
    else some { st with
      holder := some ⟨op, .closing⟩
      journal := { st.journal with astray := true } }
  | _ => none

/-- `inbox.get` returns. -/
def take : Option State :=
  match st.holder with
  | some ⟨op, .waiting x⟩ =>
    match st.inbox x.request.serial with
    | some delivery =>
      some { st with
        inbox := Function.update st.inbox x.request.serial none
        holder := some ⟨op, .took x delivery⟩
        journal := st.journal.took x delivery }
    | none => none
  | _ => none

/-- `inbox.get` raises `queue.Empty`. -/
def expire : Option State :=
  match st.holder with
  | some ⟨op, .waiting x⟩ =>
    match st.inbox x.request.serial with
    | some _ => none
    | none => some (st.holding op (.abandoning x))
  | _ => none

def outcome (op : Op) : Delivery → Outcome
  | .reply p => if p.refused && op.raisesOnErrorId then .rmiError else .reply p
  | .error _ => .osError

/-- `if self._pending is pending: self._pending = None`. -/
def clearedSlot (x : Exchange) : Option Pending :=
  if st.pending.map Pending.serial = some x.request.serial then none else st.pending

/-- The end of `_send_and_wait_locked`. -/
def clear : Option State :=
  match st.holder with
  | some ⟨op, .took x delivery⟩ =>
    some { st with
      pending := st.clearedSlot x
      holder := some ⟨op, .concluded (outcome op delivery)⟩ }
  | some ⟨op, .abandoning x⟩ =>
    some { st with
      pending := st.clearedSlot x
      holder := some ⟨op, .concluded .osError⟩ }
  | _ => none

/-- What the callers of `_send_and_wait_locked` make of its outcome. -/
def conclude : Option State :=
  match st.holder with
  | some ⟨.exchange purpose attempt, .concluded outcome⟩ =>
    match outcome, purpose with
    | .reply p, .reseed =>
      some { st with
        holder := none
        statuses := st.statuses ++ [⟨p.nextSequenceId.getD 1, st.journal.sent⟩] }
    | .reply _, .plain _ => some { st with holder := none }
    | .rmiError, _ => some { st with holder := none }
    | .osError, _ => some (st.holding (.exchange purpose attempt) .closing)
  | some ⟨.prep pass _ [], .concluded _⟩ => some (st.holding (.init pass) .ready)
  | some ⟨.prep pass _ (next :: rest), .concluded _⟩ => some (st.holding (.prep pass next rest) .ready)
  | some ⟨.init pass, .concluded outcome⟩ =>
    match outcome with
    | .reply _ => some (st.holding (.reseed pass) .ready)
    | _ => some { st with holder := Op.escalated pass }
  | some ⟨.reseed pass, .concluded outcome⟩ =>
    match outcome with
    | .reply p =>
      some { st with
        holder := none
        instructionSeqId :=
          if p.nextSequenceId.getD 1 < 1 then 1 else p.nextSequenceId.getD 1
        journal := { st.journal with astray := false, initialized := true } }
    | _ => some { st with holder := Op.escalated pass }
  | _ => none

/-- `_close_socket_locked` of the retry loops. -/
def close : Option State :=
  match st.holder with
  | some ⟨op, .closing⟩ =>
    some { st with sock := none, conns := st.closedConns, holder := op.retried }
  | _ => none

/-- The second critical section of `reseed_sequence_id_from_controller`. -/
def writeStatus (i : Nat) : Option State :=
  match st.statuses[i]? with
  | some status =>
    some { st with
      statuses := st.statuses.eraseIdx i
      instructionSeqId := status.nextSequenceId
      journal := { st.journal with astray := false } }
  | none => none

/-! The reader thread. -/

/-- The top of `_rx_loop`. -/
def look : Option State :=
  match st.reader with
  | .top =>
    some { st with
      curSock := st.sock
      rxbuf := if st.sock = st.curSock then st.rxbuf else []
      reader := if st.sock.isSome then .reading else .top }
  | _ => none

/-- `sock.recv` inside `_read_one_json`: no whole line is buffered. -/
def receive (n : Nat) : Option State :=
  match st.reader, st.curSock, st.rxbuf with
  | .reading, some s, [] =>
    if (st.conns s).closed then none
    else some { st.setConn s { st.conns s with wire := (st.conns s).wire.drop n } with
      rxbuf := (st.conns s).wire.take n }
  | _, _, _ => none

def parse : Option State :=
  match st.reader, st.rxbuf with
  | .reading, p :: rest =>
    some { st with
      rxbuf := rest
      reader := .parsed p
      journal := { st.journal with parsed := st.journal.parsed ++ [p] } }
  | _, _ => none

/-- `TimeoutError`. -/
def idle : Option State :=
  match st.reader, st.rxbuf with
  | .reading, [] => some { st with reader := .top }
  | _, _ => none

/-- `recv` raises `OSError`. -/
def fault : Option State :=
  match st.reader, st.rxbuf with
  | .reading, [] => some { st with reader := .failing }
  | _, _ => none

/-- `_dispatch`. -/
def dispatch : Option State :=
  match st.reader with
  | .parsed p =>
    match st.pending with
    | some pending =>
      some { st with
        reader :=
          if p.passesFor pending.identifier then .delivering p pending.serial else .stashing p }
    | none => some { st with reader := .stashing p }
  | _ => none

/-- `_stash_async_packet`: a full ring loses its oldest packet. -/
def stash : Option State :=
  match st.reader with
  | .stashing p =>
    some { st with
      reader := .top
      asyncPackets :=
        (if st.asyncPackets.length = maxAsyncQueue then st.asyncPackets.tail
          else st.asyncPackets) ++ [p]
      journal := { st.journal with stashed := st.journal.stashed ++ [p] } }
  | _ => none

/-- `pending.inbox.put((pkt, None))`. It waits while the inbox is full. -/
def deliver : Option State :=
  match st.reader with
  | .delivering p waiter =>
    match st.inbox waiter with
    | some _ => none
    | none =>
      some { st with
        reader := .top
        inbox := Function.update st.inbox waiter (some (.reply p)) }
  | _ => none

/-- The locked block of `_on_socket_error`. -/
def onSocketError : Option State :=
  match st.reader with
  | .failing =>
    some { st with
      pending := none
      sock := if st.sock = st.curSock then none else st.sock
      conns := if st.sock = st.curSock then st.closedConns else st.conns
      reader :=
        match st.pending with
        | some pending => .notifying pending.serial
        | none => .top }
  | _ => none

/-- `waiter.inbox.put((None, exc))`. -/
def notify : Option State :=
  match st.reader, st.curSock with
  | .notifying waiter, some s =>
    match st.inbox waiter with
    | some _ => none
    | none =>
      some { st with
        reader := .top
        inbox := Function.update st.inbox waiter (some (.error s)) }
  | _, _ => none

/-! The controller. -/

/-- The packet that answers a request. `FRC_GetStatus` carries `NextSequenceID`. -/
def answerTo (s : Nat) (r : Request) (errorId : Option Int) : Packet :=
  r.echo st.emitted s errorId
    (if r.command = some "FRC_GetStatus" then some st.nextSequenceId else none)

/-- The controller counts the calls it takes up, and drops one with another id. -/
def countCall (r : Request) : State :=
  { st with
    nextSequenceId :=
      if r.isCall && r.sequenceId == some st.nextSequenceId then st.nextSequenceId + 1
      else st.nextSequenceId
    journal := { st.journal with
      calls :=
        if r.isCall && st.journal.initialized then
          st.journal.calls ++ [(r.sequenceId.getD 0, st.nextSequenceId)]
        else st.journal.calls } }

/-- The controller answers the requests of a socket once and in order. -/
def answer (s : Nat) (errorId : Option Int) : Option State :=
  match (st.conns s).due with
  | r :: rest =>
    some { (st.setConn s { st.conns s with
        due := rest
        wire := (st.conns s).wire ++ [st.answerTo s r errorId] }).countCall r with
      emitted := st.emitted + 1 }
  | [] => none

def push (s : Nat) (packet : Packet) : Option State :=
  if packet.isPush then
    some { st.setConn s { st.conns s with
        wire := (st.conns s).wire ++
          [{ packet with index := st.emitted, socket := s, answers := none }] } with
      emitted := st.emitted + 1 }
  else none

/-- What a closed socket still carried is lost. -/
def lose (s : Nat) : Option State :=
  if (st.conns s).closed then
    some { st.setConn s ⟨[], [], true⟩ with
      journal := { st.journal with
        astray := st.journal.astray || (st.conns s).due.any Request.isCall } }
  else none

def step : Label → Option State
  | .acquire job => st.acquire job
  | .ensureOpen => st.ensureOpen
  | .openSession opening => st.openSession opening
  | .register => st.register
  | .sendall arrives => st.sendall arrives
  | .take => st.take
  | .expire => st.expire
  | .clear => st.clear
  | .conclude => st.conclude
  | .close => st.close
  | .writeStatus i => st.writeStatus i
  | .pollAsyncPackets => some { st with asyncPackets := [] }
  | .look => st.look
  | .receive n => st.receive n
  | .parse => st.parse
  | .idle => st.idle
  | .fault => st.fault
  | .dispatch => st.dispatch
  | .stash => st.stash
  | .deliver => st.deliver
  | .onSocketError => st.onSocketError
  | .notify => st.notify
  | .answer s errorId => st.answer s errorId
  | .push s packet => st.push s packet
  | .lose s => st.lose s

end State

/-- The client and a controller whose `NextSequenceID` starts at `next`. -/
def rmi (next : Int) : Machine State Label := ⟨State.initial next, State.step⟩

end AiroFanuc.Rmi
