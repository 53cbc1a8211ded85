import AiroFanuc.Codec.Wire

/-! `codec.cpp` and the packet dispatch of `rt_main_`: the same packets, as the C++ side copies
them into and out of packed structs in the memory order of the host. -/

namespace AiroFanuc.Codec.Native

open AiroFanuc.Library

/-- What the vendored `stream_motion` headers give: two constants and the byte-swap template,
for a scalar of any width. -/
structure StreamMotion where
  kCommandPacketType : Word 4
  kVersion : Word 4
  swapBytesIfNeeded : (w : Nat) → Word w → Bool → Word w

/-- What the codec's comments say of them. -/
structure StreamMotion.Documented (sm : StreamMotion) : Prop where
  command_type : sm.kCommandPacketType = 201
  version : sm.kVersion = 3
  swaps : ∀ w v, sm.swapBytesIfNeeded w v true = BitVec.ofNat (8 * w) (swapBytes w v.toNat)
  keeps : ∀ w v, sm.swapBytesIfNeeded w v false = v

/-- Headers that are as the comments say. -/
def StreamMotion.described : StreamMotion where
  kCommandPacketType := 201
  kVersion := 3
  swapBytesIfNeeded w v swap := if swap then BitVec.ofNat (8 * w) (swapBytes w v.toNat) else v

theorem StreamMotion.described_documented : described.Documented :=
  ⟨rfl, rfl, fun _ _ => rfl, fun _ _ => rfl⟩

/-- A member of a packed struct: `w` bytes at an offset, in the order of the host. -/
def load (host : ByteOrder) (memory : List UInt8) (offset w : Nat) : Word w :=
  BitVec.ofNat (8 * w) (host.load (slice memory offset w))

/-- An array member. -/
def loadArray (host : ByteOrder) (memory : List UInt8) (offset w : Nat) {n : Nat} (i : Fin n) :
    Word w :=
  load host memory (offset + w * i) w

def store (host : ByteOrder) {w : Nat} (v : Word w) : List UInt8 := host.store w v.toNat

def storeArray (host : ByteOrder) {w n : Nat} (vs : Fin n → Word w) : List UInt8 :=
  (List.ofFn vs).flatMap (store host)

/-- `host_is_little_endian`: the first byte in memory of a 16-bit one. -/
def hostIsLittleEndian (host : ByteOrder) : Bool :=
  (store host (1 : Word 2)).head? == some 1

def kCommandPacketSize : Nat := 344
def kStatus204PacketSize : Nat := 416
def kStatusV3PacketSize : Nat := 388

def kCommandDataStyle : Word 2 := 0xFFFF
def kRobotStatusPacketType : Word 4 := 204
def kV3RobotStatusPacketType : Word 4 := 202
def kForceSensorUnavailable : Word 4 := 0xFFFFFFFF

/-- The packed `CommandPacket`, its members in the order they are declared in. -/
structure CommandPacket where
  packetType : Word 4
  versionNo : Word 4
  sequenceNo : Word 4
  isLastCommand : Word 1
  doMotnCtrl : Word 1
  unused : Word 2
  commandPos : Fin 9 → Word 8
  ioCommand : Fin 256 → Word 1

/-- `memcpy` out of the struct. -/
def CommandPacket.bytes (host : ByteOrder) (cp : CommandPacket) : List UInt8 :=
  store host cp.packetType ++ store host cp.versionNo ++ store host cp.sequenceNo
    ++ store host cp.isLastCommand ++ store host cp.doMotnCtrl ++ store host cp.unused
    ++ storeArray host cp.commandPos ++ storeArray host cp.ioCommand

/-- The members that the packed `RobotStatusPacket` and `V3RobotStatusPacket` begin with. -/
structure StatusHeader where
  packetType : Word 4
  versionNo : Word 4
  sequenceNo : Word 4
  status : Word 1
  robotStatus : Word 1
  contactStopStatus : Word 1
  timeStamp : Word 4
  position : Fin 9 → Word 4
  jointAngle : Fin 9 → Word 4
  current : Fin 9 → Word 4
  safetyScale : Word 4

structure RobotStatusPacket extends StatusHeader where
  forceX : Word 4
  forceY : Word 4
  forceZ : Word 4
  momentX : Word 4
  momentY : Word 4
  momentZ : Word 4
  fsType : Word 4
  ioStatus : Fin 256 → Word 1

structure V3RobotStatusPacket extends StatusHeader where
  ioStatus : Fin 256 → Word 1

/-- `memcpy` into the struct: byte 15 is the member `unused`. -/
def StatusHeader.ofBytes (host : ByteOrder) (buf : List UInt8) : StatusHeader where
  packetType := load host buf 0 4
  versionNo := load host buf 4 4
  sequenceNo := load host buf 8 4
  status := load host buf 12 1
  robotStatus := load host buf 13 1
  contactStopStatus := load host buf 14 1
  timeStamp := load host buf 16 4
  position := loadArray host buf 20 4
  jointAngle := loadArray host buf 56 4
  current := loadArray host buf 92 4
  safetyScale := load host buf 128 4

def RobotStatusPacket.ofBytes (host : ByteOrder) (buf : List UInt8) : RobotStatusPacket where
  toStatusHeader := .ofBytes host buf
  forceX := load host buf 132 4
  forceY := load host buf 136 4
  forceZ := load host buf 140 4
  momentX := load host buf 144 4
  momentY := load host buf 148 4
  momentZ := load host buf 152 4
  fsType := load host buf 156 4
  ioStatus := loadArray host buf 160 1

def V3RobotStatusPacket.ofBytes (host : ByteOrder) (buf : List UInt8) : V3RobotStatusPacket where
  toStatusHeader := .ofBytes host buf
  ioStatus := loadArray host buf 132 1

/-- `codec::RobotStatusView`, whose members start at zero. -/
structure RobotStatusView where
  packetType : Word 4 := 0
  versionNo : Word 4 := 0
  sequenceNo : Word 4 := 0
  status : Word 1 := 0
  robotStatus : Word 1 := 0
  contactStopStatus : Word 1 := 0
  timeStamp : Word 4 := 0
  position : Fin 9 → Word 4 := fun _ => 0
  jointAngle : Fin 9 → Word 4 := fun _ => 0
  current : Fin 9 → Word 4 := fun _ => 0
  safetyScale : Word 4 := 0
  forceX : Word 4 := 0
  forceY : Word 4 := 0
  forceZ : Word 4 := 0
  momentX : Word 4 := 0
  momentY : Word 4 := 0
  momentZ : Word 4 := 0
  fsType : Word 4 := 0
  ioStatus : Fin 256 → Word 1 := fun _ => 0

variable (sm : StreamMotion) (host : ByteOrder)

/-- `encode_command_packet`. -/
def encodeCommandPacket (sequenceNo : Word 4) (isLastCommand : Bool) (doMotnCtrl : Word 1)
    (commandPosDeg : Fin 9 → Word 8) : List UInt8 :=
  let swap := hostIsLittleEndian host
  let cp : CommandPacket :=
    { packetType := sm.swapBytesIfNeeded 4 sm.kCommandPacketType swap
      versionNo := sm.swapBytesIfNeeded 4 sm.kVersion swap
      sequenceNo := sm.swapBytesIfNeeded 4 sequenceNo swap
      isLastCommand := if isLastCommand then 1 else 0
      doMotnCtrl := doMotnCtrl
      unused := sm.swapBytesIfNeeded 2 kCommandDataStyle swap
      commandPos := fun i => sm.swapBytesIfNeeded 8 (commandPosDeg i) swap
      ioCommand := fun _ => 0 }
  cp.bytes host

/-- What both decoders take over from the members that both structs begin with. -/
def StatusHeader.view (p : StatusHeader) : RobotStatusView :=
  let swap := hostIsLittleEndian host
  { packetType := sm.swapBytesIfNeeded 4 p.packetType swap
    versionNo := sm.swapBytesIfNeeded 4 p.versionNo swap
    sequenceNo := sm.swapBytesIfNeeded 4 p.sequenceNo swap
    status := p.status
    robotStatus := p.robotStatus
    contactStopStatus := p.contactStopStatus
    timeStamp := sm.swapBytesIfNeeded 4 p.timeStamp swap
    position := fun i => sm.swapBytesIfNeeded 4 (p.position i) swap
    jointAngle := fun i => sm.swapBytesIfNeeded 4 (p.jointAngle i) swap
    current := fun i => sm.swapBytesIfNeeded 4 (p.current i) swap
    safetyScale := sm.swapBytesIfNeeded 4 p.safetyScale swap }

def RobotStatusPacket.view (p : RobotStatusPacket) : RobotStatusView :=
  let swap := hostIsLittleEndian host
  { p.toStatusHeader.view sm host with
    forceX := sm.swapBytesIfNeeded 4 p.forceX swap
    forceY := sm.swapBytesIfNeeded 4 p.forceY swap
    forceZ := sm.swapBytesIfNeeded 4 p.forceZ swap
    momentX := sm.swapBytesIfNeeded 4 p.momentX swap
    momentY := sm.swapBytesIfNeeded 4 p.momentY swap
    momentZ := sm.swapBytesIfNeeded 4 p.momentZ swap
    fsType := sm.swapBytesIfNeeded 4 p.fsType swap
    ioStatus := p.ioStatus }

/-- No force block on the wire: the forces stay zero, the sensor is unavailable. -/
def V3RobotStatusPacket.view (p : V3RobotStatusPacket) : RobotStatusView :=
  { p.toStatusHeader.view sm host with
    fsType := kForceSensorUnavailable
    ioStatus := p.ioStatus }

/-- The checks of a decoder, the same in both. A buffer that is there is given by its `len`
bytes. -/
def decodeStatus (name : String) (size : Nat) (type : Word 4)
    (view : List UInt8 → RobotStatusView) (buf : Option (List UInt8)) :
    Except String RobotStatusView :=
  match buf with
  | none => .error s!"{name}: null buffer"
  | some buf =>
    if buf.length < size then
      .error s!"{name}: buffer too short (need {size} bytes, got {buf.length})"
    else if (view buf).packetType ≠ type then
      .error
        s!"{name}: not a type-{type.toNat} packet (got type {(view buf).packetType.toNat})"
    else .ok (view buf)

def decodeStatus204 : Option (List UInt8) → Except String RobotStatusView :=
  decodeStatus "decode_status_204" kStatus204PacketSize kRobotStatusPacketType fun buf =>
    (RobotStatusPacket.ofBytes host buf).view sm host

def decodeStatusV3 : Option (List UInt8) → Except String RobotStatusView :=
  decodeStatus "decode_status_v3" kStatusV3PacketSize kV3RobotStatusPacketType fun buf =>
    (V3RobotStatusPacket.ofBytes host buf).view sm host

/-- `be_load_u32`. -/
def beLoadU32 (p : List UInt8) : Word 4 :=
  ((p.getD 0 0).toBitVec.setWidth 32 <<< 24) ||| ((p.getD 1 0).toBitVec.setWidth 32 <<< 16) |||
    ((p.getD 2 0).toBitVec.setWidth 32 <<< 8) ||| (p.getD 3 0).toBitVec.setWidth 32

/-- `sizeof(rxbuf)`: `recv` leaves out what is beyond it. -/
def rxbufSize : Nat := 1024

/-- The packet dispatch of `rt_main_` for one datagram: a view, or `none` where the loop goes on
to the next. -/
def receive (datagram : List UInt8) : Except String (Option RobotStatusView) :=
  let rxbuf := datagram.take rxbufSize
  let rxPtype : Word 4 := if 4 ≤ rxbuf.length then beLoadU32 rxbuf else 0
  if rxPtype = 204 ∧ kStatus204PacketSize ≤ rxbuf.length then
    (decodeStatus204 sm host (some rxbuf)).map some
  else if rxPtype = 202 ∧ kStatusV3PacketSize ≤ rxbuf.length then
    (decodeStatusV3 sm host (some rxbuf)).map some
  else .ok none

end AiroFanuc.Codec.Native
