import AiroFanuc.Codec.Agreement

/-! Status packets that Python's builders pack, read back by both decoders; and with that the two
codecs as a whole. -/

namespace AiroFanuc.Codec

open AiroFanuc.Library Native Wire

/-- The arguments that the builders do not refuse. -/
structure WellFormed (f : StatusFields) : Prop where
  positions : f.positionDeg.length = 9
  joints : f.jointAngleDeg.length = 9
  currents : f.current.length = 9
  versionNo : 0 ≤ f.versionNo ∧ f.versionNo < 256 ^ 4
  sequenceNo : 0 ≤ f.sequenceNo ∧ f.sequenceNo < 256 ^ 4
  status : 0 ≤ f.status ∧ f.status < 256 ^ 1
  robotStatus : 0 ≤ f.robotStatus ∧ f.robotStatus < 256 ^ 1
  contactStopStatus : 0 ≤ f.contactStopStatus ∧ f.contactStopStatus < 256 ^ 1
  timeStamp : 0 ≤ f.timeStamp ∧ f.timeStamp < 256 ^ 4

variable {f : StatusFields} {type : Nat} {bytes rest : List UInt8}

theorem checkLength_eq_ok {name : String} {arr : List (Word 4)} {done : Unit} :
    checkLength name arr = .ok done ↔ arr.length = 9 := by
  rw [checkLength, maxAxes]
  split_ifs with other
  · constructor
    · nofun
    · intro nine
      exact absurd nine other
  · exact iff_of_true rfl (not_not.mp other)

theorem headerValues_fit (fits : type < 256 ^ 4) (well : WellFormed f) :
    List.Forall₂ (fun w (v : Int) => 0 ≤ v ∧ v < 256 ^ w) fmtStatusHeader
      (f.headerValues type) := by
  have position := patterns_fit f.positionDeg
  have joint := patterns_fit f.jointAngleDeg
  have current := patterns_fit f.current
  have scale := patterns_fit [f.safetyScale]
  rw [well.positions] at position
  rw [well.joints] at joint
  rw [well.currents] at current
  have typed : (0 : Int) ≤ type ∧ (type : Int) < 256 ^ 4 := by omega
  have scalars : List.Forall₂ (fun w (v : Int) => 0 ≤ v ∧ v < 256 ^ w) [4, 4, 4, 1, 1, 1, 1, 4]
      [(type : Int), f.versionNo, f.sequenceNo, f.status, f.robotStatus, f.contactStopStatus, 0,
        f.timeStamp] :=
    .cons typed (.cons well.versionNo (.cons well.sequenceNo (.cons well.status
      (.cons well.robotStatus (.cons well.contactStopStatus (.cons (by decide)
        (.cons well.timeStamp .nil)))))))
  exact List.rel_append (List.rel_append (List.rel_append (List.rel_append scalars position)
    joint) current) scale

theorem wellFormed_of_fit (positions : f.positionDeg.length = 9)
    (joints : f.jointAngleDeg.length = 9) (currents : f.current.length = 9)
    (fits : List.Forall₂ (fun w (v : Int) => 0 ≤ v ∧ v < 256 ^ w) fmtStatusHeader
      (f.headerValues type)) : WellFormed f := by
  simp only [fmtStatusHeader, StatusFields.headerValues, List.append_assoc, List.cons_append,
    List.nil_append, List.forall₂_cons] at fits
  obtain ⟨-, version, seq, status, robot, contact, -, stamp, -⟩ := fits
  exact ⟨positions, joints, currents, version, seq, status, robot, contact, stamp⟩

theorem buildHeader_eq_ok : f.buildHeader type = .ok bytes ↔
    WellFormed f ∧ structPack fmtStatusHeader (f.headerValues type) = .ok bytes := by
  simp only [StatusFields.buildHeader, bind_eq_ok, checkLength_eq_ok]
  constructor
  · rintro ⟨-, positions, -, joints, -, currents, packed⟩
    exact ⟨wellFormed_of_fit positions joints currents (structPack_eq_ok.mp packed).1, packed⟩
  · rintro ⟨well, packed⟩
    exact ⟨(), well.positions, (), well.joints, (), well.currents, packed⟩

theorem buildHeader_accepts (fits : type < 256 ^ 4) :
    (∃ bytes, f.buildHeader type = .ok bytes) ↔ WellFormed f := by
  constructor
  · rintro ⟨bytes, built⟩
    exact (buildHeader_eq_ok.mp built).1
  · intro well
    exact ⟨_, buildHeader_eq_ok.mpr
      ⟨well, structPack_eq_ok.mpr ⟨headerValues_fit fits well, rfl⟩⟩⟩

/-- `build_status_v3_packet` raises on no other arguments than those that do not fit. -/
theorem buildStatusV3Packet_accepts :
    (∃ bytes, buildStatusV3Packet f = .ok bytes) ↔ WellFormed f := by
  rw [← buildHeader_accepts (show packetTypeStatusV3 < 256 ^ 4 by decide)]
  constructor
  · rintro ⟨bytes, built⟩
    obtain ⟨header, head, -⟩ := bind_eq_ok.mp built
    exact ⟨header, head⟩
  · rintro ⟨header, head⟩
    have tail := structPack_eq_ok.mpr ⟨zeros_fit 256, rfl⟩
    exact ⟨_, bind_eq_ok.mpr ⟨header, head, bind_eq_ok.mpr ⟨_, tail, rfl⟩⟩⟩

theorem tailValues_fit (force : ForceFields) :
    List.Forall₂ (fun w (v : Int) => 0 ≤ v ∧ v < 256 ^ w) fmtStatus204Tail force.tailValues := by
  have floats := patterns_fit [force.forceX, force.forceY, force.forceZ, force.momentX,
    force.momentY, force.momentZ]
  have sensor : 0 ≤ force.fsType % 2 ^ 32 ∧ force.fsType % 2 ^ 32 < 256 ^ 4 := by omega
  exact List.rel_append (List.rel_append floats (.cons sensor .nil)) (zeros_fit 256)

/-- `build_status_204_packet` neither: every float and every sensor type fits. -/
theorem buildStatus204Packet_accepts {force : ForceFields} :
    (∃ bytes, buildStatus204Packet f force = .ok bytes) ↔ WellFormed f := by
  rw [← buildHeader_accepts (show packetTypeStatus204 < 256 ^ 4 by decide)]
  constructor
  · rintro ⟨bytes, built⟩
    obtain ⟨header, head, -⟩ := bind_eq_ok.mp built
    exact ⟨header, head⟩
  · rintro ⟨header, head⟩
    have tail := structPack_eq_ok.mpr ⟨tailValues_fit force, rfl⟩
    exact ⟨_, bind_eq_ok.mpr ⟨header, head, bind_eq_ok.mpr ⟨_, tail, rfl⟩⟩⟩

/-- The numbers that the header of a built packet holds. -/
def headerNumbers (f : StatusFields) (type : Nat) : List Nat :=
  [type, f.versionNo.toNat, f.sequenceNo.toNat, f.status.toNat, f.robotStatus.toNat,
      f.contactStopStatus.toNat, 0, f.timeStamp.toNat]
    ++ f.positionDeg.map BitVec.toNat ++ f.jointAngleDeg.map BitVec.toNat
    ++ f.current.map BitVec.toNat ++ [f.safetyScale.toNat]

theorem headerValues_toNat : (f.headerValues type).map Int.toNat = headerNumbers f type := by
  rw [StatusFields.headerValues, List.map_append, List.map_append, List.map_append,
    List.map_append, patterns_toNat, patterns_toNat, patterns_toNat]
  rfl

/-- A packet that holds what a builder was given; a contact-stop code that is known comes back
as that code. -/
structure Carries (f : StatusFields) (p : Wire.RobotStatusPacket) : Prop where
  versionNo : (p.versionNo : Int) = f.versionNo
  sequenceNo : (p.sequenceNo : Int) = f.sequenceNo
  status : (p.status : Int) = f.status
  robotStatus : (p.robotStatus : Int) = f.robotStatus
  contactStopStatus : f.contactStopStatus ≤ 4 →
    (p.contactStopStatus.code : Int) = f.contactStopStatus
  timeStamp : (p.timeStamp : Int) = f.timeStamp
  positionDeg : p.positionDeg = f.positionDeg.map BitVec.toNat
  jointAngleDeg : p.jointAngleDeg = f.jointAngleDeg.map BitVec.toNat
  current : p.current = f.current.map BitVec.toNat
  safetyScale : p.safetyScale = f.safetyScale.toNat

theorem carries_headerNumbers (well : WellFormed f) (tail : Option (List Nat)) :
    Carries f (.ofFields type (headerNumbers f type) tail) := by
  have positions : (f.positionDeg.map BitVec.toNat).length = 9 :=
    (List.length_map _).trans well.positions
  have joints : (f.jointAngleDeg.map BitVec.toNat).length = 9 :=
    (List.length_map _).trans well.joints
  have currents : (f.current.map BitVec.toNat).length = 9 :=
    (List.length_map _).trans well.currents
  constructor
  case versionNo => exact Int.toNat_of_nonneg well.versionNo.1
  case sequenceNo => exact Int.toNat_of_nonneg well.sequenceNo.1
  case status => exact Int.toNat_of_nonneg well.status.1
  case robotStatus => exact Int.toNat_of_nonneg well.robotStatus.1
  case contactStopStatus =>
    intro known
    have code := ContactStopStatus.code_fromWire f.contactStopStatus.toNat (by omega)
    have whole := Int.toNat_of_nonneg well.contactStopStatus.1
    rw [← code] at whole
    exact whole
  case timeStamp => exact Int.toNat_of_nonneg well.timeStamp.1
  case positionDeg =>
    change ((headerNumbers f type).drop 8).take 9 = _
    rw [headerNumbers, List.append_assoc, List.append_assoc]
    exact drop_take_middle rfl positions
  case jointAngleDeg =>
    change ((headerNumbers f type).drop 17).take 9 = _
    rw [headerNumbers, List.append_assoc]
    apply drop_take_middle _ joints
    rw [List.length_append, positions]
    rfl
  case current =>
    change ((headerNumbers f type).drop 26).take 9 = _
    rw [headerNumbers]
    apply drop_take_middle _ currents
    rw [List.length_append, List.length_append, positions, joints]
    rfl
  case safetyScale =>
    rw [Wire.RobotStatusPacket.ofFields_safetyScale, headerNumbers]
    apply getD_end
    rw [List.length_append, List.length_append, List.length_append, positions, joints, currents]
    rfl

structure CarriesForce (force : ForceFields) (p : Wire.RobotStatusPacket) : Prop where
  forceX : p.forceX = some force.forceX.toNat
  forceY : p.forceY = some force.forceY.toNat
  forceZ : p.forceZ = some force.forceZ.toNat
  momentX : p.momentX = some force.momentX.toNat
  momentY : p.momentY = some force.momentY.toNat
  momentZ : p.momentZ = some force.momentZ.toNat
  fsType : p.fsType = some (force.fsType % 2 ^ 32).toNat

theorem carries_tailValues (force : ForceFields) (header : List Nat) :
    CarriesForce force (.ofFields type header (some (force.tailValues.map Int.toNat))) :=
  ⟨rfl, rfl, rfl, rfl, rfl, rfl, rfl⟩

section Built

variable {header tail : List UInt8}

theorem read_header (packed : structPack fmtStatusHeader (f.headerValues type) = .ok header)
    (rest : List UInt8) : unpack fmtStatusHeader (header ++ rest) = headerNumbers f type := by
  rw [unpack_structPack packed, headerValues_toNat]

theorem read_type (packed : structPack fmtStatusHeader (f.headerValues type) = .ok header)
    (rest : List UInt8) : field (header ++ rest) 0 4 = type := by
  have first : (unpack fmtStatusHeader (header ++ rest)).getD 0 0 = field (header ++ rest) 0 4 :=
    unpack_field 0 (by decide) rfl rfl
  rw [← first, read_header packed]
  rfl

theorem header_length (packed : structPack fmtStatusHeader (f.headerValues type) = .ok header) :
    header.length = 132 := structPack_length packed

/-- A contact-stop code as the view has it: known or not, it is the one that was packed. -/
theorem contact_read (host : ByteOrder) (well : WellFormed f)
    (packed : structPack fmtStatusHeader (f.headerValues type) = .ok header)
    (rest : List UInt8) :
    ((load host ((header ++ rest).take rxbufSize) 14 1).toNat : Int) = f.contactStopStatus := by
  have long : 132 ≤ (header ++ rest).length := by
    rw [List.length_append, header_length packed]
    omega
  have number := header_byte host long 5 14 (by decide) rfl rfl (by decide)
  rw [read_header packed] at number
  rw [← number]
  exact Int.toNat_of_nonneg well.contactStopStatus.1

theorem io_read (host : ByteOrder) {buf : List UInt8} {start : Nat}
    (long : start + 256 ≤ buf.length) (small : start + 256 ≤ rxbufSize)
    (zeros : unpack (List.replicate 256 1) (buf.drop start) = List.replicate 256 0) (i : Fin 256) :
    loadArray host (buf.take rxbufSize) start 1 i = (0 : Word 1) := by
  have last := i.isLt
  have bytes : (fun i : Fin 256 => beValue (slice (buf.drop start) (1 * i) 1)) = fun _ => 0 := by
    apply List.ofFn_injective
    rw [← unpack_replicate, zeros, List.ofFn_const]
  have byte := congrFun bytes i
  rw [slice_drop] at byte
  rw [← BitVec.toNat_inj, loadArray, rx_load_byte (by omega) (by omega)]
  exact byte

variable {sm : StreamMotion} (host : ByteOrder) {bytes : List UInt8}

theorem read_status204 (documented : sm.Documented) {force : ForceFields}
    (built : buildStatus204Packet f force = .ok bytes) :
    ∃ v p, receive sm host bytes = .ok (some v) ∧ decodeStatusPacket bytes = .ok (some p) ∧
      p.packetType = 204 ∧ Carries f p ∧ CarriesForce force p ∧
      (v.contactStopStatus.toNat : Int) = f.contactStopStatus ∧ ∀ i, v.ioStatus i = 0 := by
  obtain ⟨header, head, rest⟩ := bind_eq_ok.mp built
  obtain ⟨tail, packedTail, whole⟩ := bind_eq_ok.mp rest
  cases whole
  obtain ⟨well, packed⟩ := buildHeader_eq_ok.mp head
  have type := read_type packed tail
  have tailSize : tail.length = 284 := by
    have size : fmtStatus204Tail.sum = 284 := by decide +kernel
    rw [structPack_length packedTail, size]
  have long : 416 ≤ (header ++ tail).length := by
    rw [List.length_append, header_length packed, tailSize]
  have force_read : unpack fmtStatus204Tail ((header ++ tail).drop 132) =
      force.tailValues.map Int.toNat := by
    rw [List.drop_left' (header_length packed)]
    have back := unpack_structPack packedTail []
    rwa [List.append_nil] at back
  have io : unpack (List.replicate 256 1) ((header ++ tail).drop 160) = List.replicate 256 0 := by
    have after : (unpack fmtStatus204Tail ((header ++ tail).drop 132)).drop 7 =
        unpack (List.replicate 256 1) ((header ++ tail).drop 160) := by
      rw [unpack_drop, List.drop_drop]
      rfl
    rw [← after, force_read, ForceFields.tailValues, List.map_append, List.drop_left' (by rfl),
      List.map_replicate]
    rfl
  have decoded := decodeStatusPacket_204 type long
  rw [read_header packed, force_read] at decoded
  exact ⟨_, _, receive_204 documented type long, decoded, rfl, carries_headerNumbers well _,
    carries_tailValues force _, contact_read host well packed tail,
    io_read host long (by decide) io⟩

theorem read_statusV3 (documented : sm.Documented) (built : buildStatusV3Packet f = .ok bytes) :
    ∃ v p, receive sm host bytes = .ok (some v) ∧ decodeStatusPacket bytes = .ok (some p) ∧
      p.packetType = 202 ∧ Carries f p ∧
      (v.contactStopStatus.toNat : Int) = f.contactStopStatus ∧ ∀ i, v.ioStatus i = 0 := by
  obtain ⟨header, head, rest⟩ := bind_eq_ok.mp built
  obtain ⟨tail, packedTail, whole⟩ := bind_eq_ok.mp rest
  cases whole
  obtain ⟨well, packed⟩ := buildHeader_eq_ok.mp head
  have type := read_type packed tail
  have tailSize : tail.length = 256 := by
    have size : fmtStatusV3Tail.sum = 256 := by decide +kernel
    rw [structPack_length packedTail, size]
  have long : 388 ≤ (header ++ tail).length := by
    rw [List.length_append, header_length packed, tailSize]
  have io : unpack (List.replicate 256 1) ((header ++ tail).drop 132) = List.replicate 256 0 := by
    rw [List.drop_left' (header_length packed)]
    have back := unpack_structPack packedTail []
    rw [List.append_nil, List.map_replicate] at back
    exact back
  have decoded := decodeStatusPacket_v3 type long
  rw [read_header packed] at decoded
  exact ⟨_, _, receive_v3 documented type long, decoded, rfl, carries_headerNumbers well _,
    contact_read host well packed tail, io_read host long (by decide) io⟩

/-- Every datagram is a status packet for both or for neither, and then with the same fields. -/
theorem both_or_neither (documented : sm.Documented) (buf : List UInt8) :
    (∃ v p, receive sm host buf = .ok (some v) ∧ decodeStatusPacket buf = .ok (some p) ∧
      SameHeader v p ∧ (p.packetType = 204 ∧ SameForce v p ∨ p.packetType = 202 ∧ NoForce v p)) ∨
    receive sm host buf = .ok none ∧ decodeStatusPacket buf = .ok none := by
  by_cases is204 : field buf 0 4 = 204 ∧ 416 ≤ buf.length
  · obtain ⟨type, long⟩ := is204
    obtain ⟨header, force⟩ := agree_204 host documented long type
    exact .inl ⟨_, _, receive_204 documented type long, decodeStatusPacket_204 type long, header,
      .inl ⟨rfl, force⟩⟩
  · by_cases isV3 : field buf 0 4 = 202 ∧ 388 ≤ buf.length
    · obtain ⟨type, long⟩ := isV3
      obtain ⟨header, none_⟩ := agree_v3 host documented long type
      exact .inl ⟨_, _, receive_v3 documented type long, decodeStatusPacket_v3 type long, header,
        .inr ⟨rfl, none_⟩⟩
    · exact .inr ⟨receive_none is204 isV3, decodeStatusPacket_none is204 isV3⟩

end Built

/-- The codecs agree on the bytes of every command and on every datagram, except that a type-202
packet has no force block; and both read back what the builders pack. -/
theorem codecs_agree (sm : StreamMotion) (host : ByteOrder) (documented : sm.Documented) :
    (∀ (sequenceNo : Word 4) (isLastCommand doMotnCtrl : Bool) (commandPosDeg : Fin 9 → Word 8),
      ∃ bytes, Wire.encodeCommandPacket sequenceNo.toNat (List.ofFn commandPosDeg) isLastCommand
          doMotnCtrl streamMotionVersion = .ok bytes ∧
        Native.encodeCommandPacket sm host sequenceNo isLastCommand (if doMotnCtrl then 1 else 0)
          commandPosDeg = bytes ∧
        bytes.length = 344 ∧ slice bytes 14 2 = [0xFF, 0xFF]) ∧
    (∀ buf,
      (∃ v p, receive sm host buf = .ok (some v) ∧ decodeStatusPacket buf = .ok (some p) ∧
        SameHeader v p ∧
          (p.packetType = 204 ∧ SameForce v p ∨ p.packetType = 202 ∧ NoForce v p)) ∨
      receive sm host buf = .ok none ∧ decodeStatusPacket buf = .ok none) ∧
    (∀ f force bytes, buildStatus204Packet f force = .ok bytes →
      ∃ v p, receive sm host bytes = .ok (some v) ∧ decodeStatusPacket bytes = .ok (some p) ∧
        p.packetType = 204 ∧ Carries f p ∧ CarriesForce force p ∧
        (v.contactStopStatus.toNat : Int) = f.contactStopStatus ∧ ∀ i, v.ioStatus i = 0) ∧
    (∀ f bytes, buildStatusV3Packet f = .ok bytes →
      ∃ v p, receive sm host bytes = .ok (some v) ∧ decodeStatusPacket bytes = .ok (some p) ∧
        p.packetType = 202 ∧ Carries f p ∧
        (v.contactStopStatus.toNat : Int) = f.contactStopStatus ∧ ∀ i, v.ioStatus i = 0) := by
  constructor
  · intro sequenceNo isLastCommand doMotnCtrl commandPosDeg
    exact ⟨_, wire_encodeCommandPacket sequenceNo isLastCommand doMotnCtrl commandPosDeg,
      native_encodeCommandPacket host documented sequenceNo isLastCommand doMotnCtrl commandPosDeg,
      command_length sequenceNo isLastCommand doMotnCtrl commandPosDeg,
      command_dataStyle sequenceNo isLastCommand doMotnCtrl commandPosDeg⟩
  constructor
  · intro buf
    exact both_or_neither host documented buf
  constructor
  · intro f force bytes built
    exact read_status204 host documented built
  · intro f bytes built
    exact read_statusV3 host documented built

/-- A type-202 packet of zeros, otherwise. -/
def bareV3 : List UInt8 := [0, 0, 0, 202] ++ List.replicate 384 0

/-- The view has values for the force block of a type-202 packet, Python has none. -/
theorem bareV3_differs : ∃ v p,
    receive .described .little bareV3 = .ok (some v) ∧ decodeStatusPacket bareV3 = .ok (some p) ∧
      ¬(SameHeader v p ∧ SameForce v p) := by
  have type : field bareV3 0 4 = 202 := by decide
  have long : 388 ≤ bareV3.length := by
    rw [bareV3, List.length_append, List.length_replicate]
    decide
  refine ⟨_, _, receive_v3 StreamMotion.described_documented type long,
    decodeStatusPacket_v3 type long, ?_⟩
  rintro ⟨-, force⟩
  cases force.fsType

/-- A status with a number of its own in every field. -/
def benchStatus : StatusFields where
  versionNo := 3
  sequenceNo := 41
  status := 15
  robotStatus := 1
  contactStopStatus := 2
  timeStamp := 123456
  positionDeg := (List.range 9).map fun i => BitVec.ofNat _ (i + 100)
  jointAngleDeg := (List.range 9).map fun i => BitVec.ofNat _ (i + 200)
  current := (List.range 9).map fun i => BitVec.ofNat _ (i + 300)
  safetyScale := 400

/-- A force, with no sensor. -/
def benchForce : ForceFields := ⟨1, 2, 3, 4, 5, 6, -1⟩

theorem benchStatus_wellFormed : WellFormed benchStatus :=
  ⟨rfl, rfl, rfl, by decide, by decide, by decide, by decide, by decide, by decide⟩

/-- On a little-endian host with headers that are as the comments say: a command, the bare type-202
packet, and a packet of either kind as built. -/
theorem described_codecs_agree :
    StreamMotion.described.Documented ∧
      (∃ bytes, Wire.encodeCommandPacket (7 : Word 4).toNat (List.ofFn fun _ : Fin 9 => 0) false true
          streamMotionVersion = .ok bytes ∧
        Native.encodeCommandPacket .described .little 7 false 1 (fun _ => 0) = bytes ∧
        bytes.length = 344 ∧ slice bytes 14 2 = [0xFF, 0xFF]) ∧
      (receive .described .little bareV3 = .ok none ↔ decodeStatusPacket bareV3 = .ok none) ∧
      (∃ bytes v p, buildStatus204Packet benchStatus benchForce = .ok bytes ∧
        receive .described .little bytes = .ok (some v) ∧ decodeStatusPacket bytes = .ok (some p) ∧
        (p.sequenceNo : Int) = 41 ∧ CarriesForce benchForce p ∧ v.contactStopStatus.toNat = 2) ∧
      ∃ bytes v p, buildStatusV3Packet benchStatus = .ok bytes ∧
        receive .described .little bytes = .ok (some v) ∧ decodeStatusPacket bytes = .ok (some p) ∧
        (p.sequenceNo : Int) = 41 ∧ v.contactStopStatus.toNat = 2 := by
  obtain ⟨written, read, read204, readV3⟩ :=
    codecs_agree .described .little StreamMotion.described_documented
  refine ⟨StreamMotion.described_documented, written 7 false true fun _ => 0, ?_, ?_, ?_⟩
  · obtain ⟨v, p, received, decoded, -⟩ | ⟨received, decoded⟩ := read bareV3
    · rw [received, decoded]
      exact iff_of_false nofun nofun
    · exact iff_of_true received decoded
  · obtain ⟨bytes, built⟩ :=
      buildStatus204Packet_accepts.mpr benchStatus_wellFormed
    obtain ⟨v, p, received, decoded, -, carries, force, contact, -⟩ := read204 _ _ bytes built
    exact ⟨bytes, v, p, built, received, decoded, carries.sequenceNo, force,
      Int.natCast_inj.mp contact⟩
  · obtain ⟨bytes, built⟩ := buildStatusV3Packet_accepts.mpr benchStatus_wellFormed
    obtain ⟨v, p, received, decoded, -, carries, contact, -⟩ := readV3 _ bytes built
    exact ⟨bytes, v, p, built, received, decoded, carries.sequenceNo, Int.natCast_inj.mp contact⟩

end AiroFanuc.Codec
