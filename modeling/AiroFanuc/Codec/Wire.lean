import AiroFanuc.Library.Packing
import Mathlib.Data.List.Forall2

/-! `airo_fanuc.testing.wire`: the Stream Motion command and status packets as Python packs and
reads them. A float is its bit pattern: four bytes in a status packet, eight in a command. -/

namespace AiroFanuc.Codec

open AiroFanuc.Library

/-- A scalar of `w` bytes. -/
abbrev Word (w : Nat) := BitVec (8 * w)

theorem Word.toNat_lt {w : Nat} (v : Word w) : v.toNat < 256 ^ w :=
  calc v.toNat < 2 ^ (8 * w) := v.isLt
    _ = 256 ^ w := Nat.pow_mul 2 8 w

namespace Wire

inductive WireError
  | valueError (text : String)
  | structError
  deriving DecidableEq

/-- `struct.pack` with a big-endian format, given by the width of each of its fields. -/
def structPack (fmt : List Nat) (values : List Int) : Except WireError (List UInt8) :=
  if fmt.length = values.length ∧ ∀ f ∈ fmt.zip values, 0 ≤ f.2 ∧ f.2 < 256 ^ f.1 then
    .ok (pack fmt (values.map Int.toNat))
  else .error .structError

/-- `struct.unpack_from`. -/
def structUnpackFrom (fmt : List Nat) (buf : List UInt8) (offset : Nat) :
    Except WireError (List Nat) :=
  if offset + fmt.sum ≤ buf.length then .ok (unpack fmt (buf.drop offset))
  else .error .structError

def streamMotionVersion : Int := 3

def packetTypeCommand : Int := 201
def packetTypeStatusV3 : Nat := 202
def packetTypeStatus204 : Nat := 204

def maxAxes : Nat := 9
def maxIoBytes : Nat := 256

def status204PacketSize : Nat := 416
def statusV3PacketSize : Nat := 388

def commandDataStyle : Int := 0xFFFF

/-- `">III BBH 9d 256B"`. -/
def fmtCommand : List Nat :=
  [4, 4, 4, 1, 1, 2] ++ List.replicate 9 8 ++ List.replicate 256 1

/-- `">III BBBB I 9f 9f 9f f"`. -/
def fmtStatusHeader : List Nat :=
  [4, 4, 4, 1, 1, 1, 1, 4] ++ List.replicate 9 4 ++ List.replicate 9 4 ++ List.replicate 9 4 ++ [4]

/-- `">ffffff I 256B"`. -/
def fmtStatus204Tail : List Nat := [4, 4, 4, 4, 4, 4, 4] ++ List.replicate 256 1

/-- `">256B"`. -/
def fmtStatusV3Tail : List Nat := List.replicate 256 1

def statusHeaderSize : Nat := fmtStatusHeader.sum

inductive ContactStopStatus
  | none
  | safe
  | stop
  | dsbl
  | escp
  deriving DecidableEq

namespace ContactStopStatus

def code : ContactStopStatus → Nat
  | none => 0
  | safe => 1
  | stop => 2
  | dsbl => 3
  | escp => 4

/-- `ContactStopStatus.from_wire`: a code that is not known reads as `none`. -/
def fromWire : Nat → ContactStopStatus
  | 1 => safe
  | 2 => stop
  | 3 => dsbl
  | 4 => escp
  | _ => none

theorem code_fromWire : ∀ raw ≤ 4, (fromWire raw).code = raw := by decide

end ContactStopStatus

/-- The decoded packet. The force block is `none` where the layout has none. -/
structure RobotStatusPacket where
  packetType : Nat
  versionNo : Nat
  sequenceNo : Nat
  status : Nat
  robotStatus : Nat
  contactStopStatus : ContactStopStatus
  timeStamp : Nat
  positionDeg : List Nat
  jointAngleDeg : List Nat
  current : List Nat
  safetyScale : Nat
  forceX : Option Nat
  forceY : Option Nat
  forceZ : Option Nat
  momentX : Option Nat
  momentY : Option Nat
  momentZ : Option Nat
  fsType : Option Nat
  deriving DecidableEq

/-- The packet made of the header's numbers and, for a type-204 packet, the tail's. -/
def RobotStatusPacket.ofFields (packetType : Nat) (header : List Nat) (tail : Option (List Nat)) :
    RobotStatusPacket where
  packetType := packetType
  versionNo := header.getD 1 0
  sequenceNo := header.getD 2 0
  status := header.getD 3 0
  robotStatus := header.getD 4 0
  contactStopStatus := .fromWire (header.getD 5 0)
  timeStamp := header.getD 7 0
  positionDeg := (header.drop 8).take maxAxes
  jointAngleDeg := (header.drop (8 + maxAxes)).take maxAxes
  current := (header.drop (8 + 2 * maxAxes)).take maxAxes
  safetyScale := header.getD (8 + 3 * maxAxes) 0
  forceX := tail.map fun t => t.getD 0 0
  forceY := tail.map fun t => t.getD 1 0
  forceZ := tail.map fun t => t.getD 2 0
  momentX := tail.map fun t => t.getD 3 0
  momentY := tail.map fun t => t.getD 4 0
  momentZ := tail.map fun t => t.getD 5 0
  fsType := tail.map fun t => t.getD 6 0

theorem RobotStatusPacket.ofFields_safetyScale (packetType : Nat) (header : List Nat)
    (tail : Option (List Nat)) :
    (ofFields packetType header tail).safetyScale = header.getD 35 0 := rfl

/-- The patterns of a sequence of floats, as `struct.pack` takes them. -/
def patterns {w : Nat} (floats : List (Word w)) : List Int := floats.map fun v => (v.toNat : Int)

/-- `encode_command_packet`. -/
def encodeCommandPacket (sequenceNo : Int) (commandPosDeg : List (Word 8))
    (isLastCommand doMotnCtrl : Bool) (versionNo : Int) : Except WireError (List UInt8) :=
  if commandPosDeg.length ≠ maxAxes then
    .error (.valueError s!"command_pos_deg must have length 9 (got {commandPosDeg.length})")
  else if ¬(0 ≤ sequenceNo ∧ sequenceNo ≤ 0xFFFFFFFF) then
    .error (.valueError s!"sequence_no out of uint32 range: {sequenceNo}")
  else
    structPack fmtCommand
      ([packetTypeCommand, versionNo, sequenceNo % 2 ^ 32, isLastCommand.toInt, doMotnCtrl.toInt,
          commandDataStyle]
        ++ patterns commandPosDeg ++ List.replicate maxIoBytes 0)

def expectedSize (packetType : Nat) : Nat :=
  if packetType = packetTypeStatus204 then status204PacketSize else statusV3PacketSize

/-- `decode_status_packet`, once the type is read. -/
def decodeTyped (packetType : Nat) (buf : List UInt8) :
    Except WireError (Option RobotStatusPacket) := do
  if packetType ≠ packetTypeStatus204 ∧ packetType ≠ packetTypeStatusV3 then
    return none
  else if buf.length < expectedSize packetType then
    return none
  else
    let header ← structUnpackFrom fmtStatusHeader buf 0
    -- the force block is read from a type-204 packet only, its I/O bytes from neither
    if packetType = packetTypeStatus204 then
      let tail ← structUnpackFrom fmtStatus204Tail buf statusHeaderSize
      return some (.ofFields packetType header (some tail))
    else
      return some (.ofFields packetType header none)

/-- `decode_status_packet`. -/
def decodeStatusPacket (buf : List UInt8) : Except WireError (Option RobotStatusPacket) := do
  if buf.length < statusHeaderSize then
    return none
  else
    let first ← structUnpackFrom [4] buf 0
    decodeTyped (first.getD 0 0) buf

/-- The arguments that both builders have. -/
structure StatusFields where
  versionNo : Int
  sequenceNo : Int
  status : Int
  robotStatus : Int
  contactStopStatus : Int
  timeStamp : Int
  positionDeg : List (Word 4)
  jointAngleDeg : List (Word 4)
  current : List (Word 4)
  safetyScale : Word 4

/-- The arguments that `build_status_204_packet` has besides. -/
structure ForceFields where
  forceX : Word 4
  forceY : Word 4
  forceZ : Word 4
  momentX : Word 4
  momentY : Word 4
  momentZ : Word 4
  fsType : Int

def checkLength (name : String) (arr : List (Word 4)) : Except WireError Unit :=
  if arr.length ≠ maxAxes then
    .error (.valueError s!"{name} must have length 9 (got {arr.length})")
  else .ok ()

def StatusFields.headerValues (f : StatusFields) (packetType : Nat) : List Int :=
  [(packetType : Int), f.versionNo, f.sequenceNo, f.status, f.robotStatus, f.contactStopStatus, 0,
      f.timeStamp]
    ++ patterns f.positionDeg ++ patterns f.jointAngleDeg ++ patterns f.current
    ++ [(f.safetyScale.toNat : Int)]

def ForceFields.tailValues (force : ForceFields) : List Int :=
  patterns [force.forceX, force.forceY, force.forceZ, force.momentX, force.momentY, force.momentZ]
    ++ [force.fsType % 2 ^ 32] ++ List.replicate maxIoBytes 0

/-- The length checks and the header, the same in both builders. -/
def StatusFields.buildHeader (f : StatusFields) (packetType : Nat) :
    Except WireError (List UInt8) := do
  checkLength "position_deg" f.positionDeg
  checkLength "joint_angle_deg" f.jointAngleDeg
  checkLength "current" f.current
  structPack fmtStatusHeader (f.headerValues packetType)

/-- `build_status_204_packet`. -/
def buildStatus204Packet (f : StatusFields) (force : ForceFields) :
    Except WireError (List UInt8) := do
  let header ← f.buildHeader packetTypeStatus204
  let tail ← structPack fmtStatus204Tail force.tailValues
  return header ++ tail

/-- `build_status_v3_packet`. -/
def buildStatusV3Packet (f : StatusFields) : Except WireError (List UInt8) := do
  let header ← f.buildHeader packetTypeStatusV3
  let tail ← structPack fmtStatusV3Tail (List.replicate maxIoBytes 0)
  return header ++ tail

end Wire

end AiroFanuc.Codec
