import Mathlib.Logic.Function.Basic
import Mathlib.Data.List.Basic

/-! What a request and a packet of the Remote Motion Interface carry, and how the client
tells whose reply a packet is. -/

namespace AiroFanuc.Rmi

/-- `_PUSH_PACKET_COMMS`. -/
def pushPacketComms : List String := ["FRC_SystemFault", "FRC_Terminate", "FRC_AsbnReady"]

/-- A request's top-level fields. The serial number tells the requests of a run apart: it
is not on the wire. -/
structure Request where
  serial : Nat
  command : Option String
  communication : Option String
  instruction : Option String
  sequenceId : Option Int
  deriving DecidableEq

/-- A packet from the controller. What it answers, the socket it came on and its place among
all packets are not on the wire. -/
structure Packet where
  index : Nat
  socket : Nat
  answers : Option Nat
  command : Option String
  communication : Option String
  instruction : Option String
  errorId : Option Int
  nextSequenceId : Option Int
  deriving DecidableEq

/-- `rmi_command_request`. -/
def commandRequest (serial : Nat) (command : String) : Request :=
  ⟨serial, some command, none, none, none⟩

/-- `rmi_call_request`. -/
def callRequest (serial : Nat) (sequenceId : Int) : Request :=
  ⟨serial, none, none, some "FRC_Call", some sequenceId⟩

namespace Request

/-- `_request_reply_identifier`: the first of the three keys that the request has. -/
def replyIdentifier (r : Request) : Option String :=
  r.command <|> r.communication <|> r.instruction

def isCall (r : Request) : Bool := r.instruction == some "FRC_Call"

/-- The controller echoes the fields of the request. -/
def echo (r : Request) (index socket : Nat) (errorId nextSequenceId : Option Int) : Packet :=
  ⟨index, socket, some r.serial, r.command, r.communication, r.instruction, errorId,
    nextSequenceId⟩

end Request

namespace Packet

def isPush (p : Packet) : Bool :=
  p.communication.any (pushPacketComms.contains ·) || p.command == some "Unknown"

/-- `_packet_matches_request`. -/
def matchesRequest (p : Packet) : Option String → Bool
  | none => true
  | some expected =>
    p.command == some expected || p.communication == some expected ||
      p.instruction == some expected

/-- A packet that `_dispatch` takes for the reply to a request of this identifier. -/
def passesFor (p : Packet) (identifier : Option String) : Bool :=
  !p.isPush && p.matchesRequest identifier

/-- `ErrorID` is there and not zero. -/
def refused (p : Packet) : Bool := p.errorId.any (· != 0)

end Packet

namespace Request

/-- A request whose answer would pass for the reply to `identifier`. -/
def passesFor (r : Request) (identifier : Option String) : Bool :=
  (r.echo 0 0 none none).passesFor identifier

theorem echo_passesFor (r : Request) (index socket : Nat) (errorId nextSequenceId : Option Int)
    (identifier : Option String) :
    (r.echo index socket errorId nextSequenceId).passesFor identifier =
      r.passesFor identifier := by
  cases identifier with
  | none => rfl
  | some expected => rfl

end Request

end AiroFanuc.Rmi
