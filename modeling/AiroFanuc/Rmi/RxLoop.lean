import AiroFanuc.Library.Framing
import AiroFanuc.Library.Machine
import AiroFanuc.Rmi.Wire
import Mathlib.Logic.Function.Basic

/-! The reader thread of the session socket: what it makes of the bytes, line by line. -/

namespace AiroFanuc.Rmi

open Library

/-- `_MAX_RXBUF_BYTES`. -/
def maxRxbufBytes : Nat := 64 * 1024

def newline : UInt8 := 10

def carriageReturn : UInt8 := 13

/-- How `json.loads` ends on a text: with an object, with another value, or by raising. -/
inductive Loaded (P : Type)
  | object (pkt : P)
  | other
  | valueError
  | recursionError
  deriving DecidableEq, Repr

/-- What stands under a key of an object: `None`, a string, a number or a truth value, a list or an
object. -/
inductive KeyValue
  | none
  | text (s : String)
  | scalar (truthy : Bool)
  | collection (truthy : Bool)
  deriving DecidableEq, Repr

namespace KeyValue

/-- Looking a list or an object up in a frozenset raises `TypeError`. -/
def hashable : KeyValue → Bool
  | collection _ => false
  | none | text _ | scalar _ => true

def truthy : KeyValue → Bool
  | none => false
  | text s => s ≠ ""
  | scalar truthy | collection truthy => truthy

/-- `or`. -/
def or (a b : KeyValue) : KeyValue := if a.truthy then a else b

def isPush : KeyValue → Bool
  | text s => pushPacketComms.contains s
  | none | scalar _ | collection _ => false

end KeyValue

/-- The keys of an object that `_dispatch` looks at. -/
structure RoutingKeys where
  command : KeyValue
  communication : KeyValue
  instruction : KeyValue

namespace RoutingKeys

/-- `_packet_matches_request`. -/
def matchesRequest (k : RoutingKeys) : Option String → Bool
  | Option.none => true
  | some expected => k.command = .text expected || k.communication = .text expected ||
      k.instruction = .text expected

/-- Whether `_dispatch` comes to its end: into the inbox of a request that is pending with its
identifier, or into the ring, and without a `TypeError` on the way. -/
def routes (k : RoutingKeys) (pending : Option (Option String)) : Bool :=
  k.communication.hashable &&
    (!(k.communication.isPush || k.command = .text "Unknown") && pending.any k.matchesRequest ||
      ((k.communication.or k.command).or k.instruction).hashable)

end RoutingKeys

/-- What a line carries makes its way: an object is routed, anything else is skipped. -/
def Loaded.taken {P : Type} (keys : P → RoutingKeys) (pending : Option (Option String)) :
    Loaded P → Bool
  | object pkt => (keys pkt).routes pending
  | other | valueError => true
  | recursionError => false

/-- Where the reader thread is: at the head of its loop, inside `_read_one_json`, at its end, or
ended by an exception that nothing catches. -/
inductive RxPhase
  | top
  | reading
  | stopped
  | died
  deriving DecidableEq, Repr

/-- The reader thread and the socket that the client's other threads share with it. The last four
fields are history. -/
structure RxThread (S P : Type) where
  sock : Option S
  current : Option S
  rxbuf : List UInt8
  phase : RxPhase
  opened : List S
  received : S → List UInt8
  dispatched : S → List P
  /-- The sockets that the reader gave up for the length of a line. -/
  overran : List S

/-- A line is taken while a request with an identifier of its own is pending, or none is. -/
inductive RxLabel (S : Type)
  | assign (next : Option S)
  | stop
  | loop
  | line (pending : Option (Option String))
  | chunk (bytes : List UInt8)
  | idle
  | fail
  deriving DecidableEq, Repr

section

variable {S P : Type} (loads : List UInt8 → Loaded P) (keys : P → RoutingKeys)

/-- A line without its CR. -/
def withoutReturn (raw : List UInt8) : List UInt8 :=
  if raw.getLast? = some carriageReturn then raw.dropLast else raw

/-- `json.loads` of a line that is decoded as ASCII. -/
def loadLine (raw : List UInt8) : Loaded P :=
  if (withoutReturn raw).all (· < 128) then loads (withoutReturn raw) else .valueError

/-- The packet that a line carries. -/
def packetOf (raw : List UInt8) : Option P :=
  match loadLine loads raw with
  | .object pkt => some pkt
  | .other | .valueError | .recursionError => none

/-- The packets of the complete lines of a stream. -/
def packets (stream : List UInt8) : List P :=
  (completeLines newline stream).filterMap (packetOf loads)

namespace RxThread

def initial : RxThread S P where
  sock := none
  current := none
  rxbuf := []
  phase := .top
  opened := []
  received _ := []
  dispatched _ := []
  overran := []

variable [DecidableEq S] (st : RxThread S P)

/-- `_on_socket_error`. -/
def onSocketError (s : S) : RxThread S P :=
  { st with phase := .top, sock := if st.sock = some s then none else st.sock }

/-- The head of the loop: another socket than before means a new buffer. -/
def loop : RxThread S P :=
  if st.sock = st.current then
    { st with phase := if st.sock.isSome then .reading else .top }
  else
    { st with
      current := st.sock
      rxbuf := []
      phase := if st.sock.isSome then .reading else .top }

/-- `_dispatch`: what is not an object, or cannot be routed, raises there, and the loop goes on. -/
def dispatch (s : S) (pending : Option (Option String)) (raw rest : List UInt8) : RxThread S P :=
  match loadLine loads raw with
  | .object pkt =>
    { st with
      rxbuf := rest
      phase := .top
      dispatched :=
        if (keys pkt).routes pending then
          Function.update st.dispatched s (st.dispatched s ++ [pkt])
        else st.dispatched }
  | .other | .valueError => { st with rxbuf := rest, phase := .top }
  | .recursionError => { st with rxbuf := rest, phase := .died }

/-- `_read_one_json` up to the point where it calls `recv`. -/
def line (s : S) (pending : Option (Option String)) : Option (RxThread S P) :=
  match splitLine newline st.rxbuf with
  | some (raw, rest) => some (st.dispatch loads keys s pending raw rest)
  | none =>
    if maxRxbufBytes < st.rxbuf.length then
      some { st.onSocketError s with overran := s :: st.overran }
    else none

/-- The reader waits in `recv` on a socket. -/
def waits (s : S) : Bool :=
  st.phase = .reading && st.current = some s && splitLine newline st.rxbuf = none &&
    st.rxbuf.length ≤ maxRxbufBytes

def step : RxLabel S → Option (RxThread S P)
  | .assign none => some { st with sock := none }
  | .assign (some s) =>
    if s ∈ st.opened then none
    else some { st with sock := some s, opened := s :: st.opened }
  | .stop => if st.phase = .top then some { st with phase := .stopped } else none
  | .loop => if st.phase = .top then some st.loop else none
  | .line pending =>
    if st.phase = .reading then st.current.bind fun s => st.line loads keys s pending else none
  | .chunk bytes =>
    st.current.bind fun s =>
      if st.waits s = true ∧ bytes ≠ [] ∧ bytes.length ≤ 4096 then
        some { st with
          rxbuf := st.rxbuf ++ bytes
          received := Function.update st.received s (st.received s ++ bytes) }
      else none
  | .idle =>
    st.current.bind fun s => if st.waits s then some { st with phase := .top } else none
  | .fail =>
    st.current.bind fun s => if st.waits s then some (st.onSocketError s) else none

end RxThread

/-- The reader thread among the client's threads and the controller. -/
def rxLoop (S : Type) [DecidableEq S] : Machine (RxThread S P) (RxLabel S) where
  start := .initial
  step := RxThread.step loads keys

end

end AiroFanuc.Rmi
