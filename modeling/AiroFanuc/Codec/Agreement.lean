import AiroFanuc.Codec.Layout

/-! The two codecs against each other: the bytes of a command, which buffers are status packets,
and what their fields are. -/

namespace AiroFanuc.Codec

open AiroFanuc.Library

/-- The fields that both layouts have. A contact-stop code that is known is the same on both
sides. -/
structure SameHeader (v : Native.RobotStatusView) (p : Wire.RobotStatusPacket) : Prop where
  packetType : p.packetType = v.packetType.toNat
  versionNo : p.versionNo = v.versionNo.toNat
  sequenceNo : p.sequenceNo = v.sequenceNo.toNat
  status : p.status = v.status.toNat
  robotStatus : p.robotStatus = v.robotStatus.toNat
  contactStopStatus :
    v.contactStopStatus.toNat ≤ 4 → p.contactStopStatus.code = v.contactStopStatus.toNat
  timeStamp : p.timeStamp = v.timeStamp.toNat
  positionDeg : p.positionDeg = List.ofFn fun i => (v.position i).toNat
  jointAngleDeg : p.jointAngleDeg = List.ofFn fun i => (v.jointAngle i).toNat
  current : p.current = List.ofFn fun i => (v.current i).toNat
  safetyScale : p.safetyScale = v.safetyScale.toNat

structure SameForce (v : Native.RobotStatusView) (p : Wire.RobotStatusPacket) : Prop where
  forceX : p.forceX = some v.forceX.toNat
  forceY : p.forceY = some v.forceY.toNat
  forceZ : p.forceZ = some v.forceZ.toNat
  momentX : p.momentX = some v.momentX.toNat
  momentY : p.momentY = some v.momentY.toNat
  momentZ : p.momentZ = some v.momentZ.toNat
  fsType : p.fsType = some v.fsType.toNat

/-- A packet without a force block: Python leaves it out, the view has zeros and a sensor that
is unavailable. -/
structure NoForce (v : Native.RobotStatusView) (p : Wire.RobotStatusPacket) : Prop where
  left_out : p.forceX = none ∧ p.forceY = none ∧ p.forceZ = none ∧ p.momentX = none ∧
    p.momentY = none ∧ p.momentZ = none ∧ p.fsType = none
  forces : v.forceX = 0 ∧ v.forceY = 0 ∧ v.forceZ = 0
  moments : v.momentX = 0 ∧ v.momentY = 0 ∧ v.momentZ = 0
  unavailable : v.fsType = 0xFFFFFFFF

variable {sm : Native.StreamMotion} (host : ByteOrder) {buf : List UInt8}

/-! ### Reading -/

section Reading

open Native Wire

theorem header_word (documented : sm.Documented) (long : 132 ≤ buf.length) (k offset : Nat)
    (inside : k < 36) (start : (fmtStatusHeader.take k).sum = offset)
    (width : fmtStatusHeader.getD k 0 = 4) (small : offset + 4 ≤ 132) :
    (unpack fmtStatusHeader buf).getD k 0 =
      (sm.swapBytesIfNeeded 4 (load host (buf.take rxbufSize) offset 4)
        (hostIsLittleEndian host)).toNat := by
  have reach : 132 ≤ rxbufSize := by decide
  have size : fmtStatusHeader.length = 36 := rfl
  rw [unpack_field k (by omega) start width, rx_load documented (by omega) (by omega)]

theorem header_byte (long : 132 ≤ buf.length) (k offset : Nat)
    (inside : k < 36) (start : (fmtStatusHeader.take k).sum = offset)
    (width : fmtStatusHeader.getD k 0 = 1) (small : offset + 1 ≤ 132) :
    (unpack fmtStatusHeader buf).getD k 0 = (load host (buf.take rxbufSize) offset 1).toNat := by
  have reach : 132 ≤ rxbufSize := by decide
  have size : fmtStatusHeader.length = 36 := rfl
  rw [unpack_field k (by omega) start width, rx_load_byte (by omega) (by omega)]

/-- An array of the header in Python is the loop over the struct's array in C++. -/
theorem header_array (documented : sm.Documented) (long : 132 ≤ buf.length) (k offset : Nat)
    (start : (fmtStatusHeader.take k).sum = offset)
    (widths : (fmtStatusHeader.drop k).take 9 = List.replicate 9 4) (small : offset + 36 ≤ 132) :
    ((unpack fmtStatusHeader buf).drop k).take 9 = List.ofFn fun i : Fin 9 =>
      (sm.swapBytesIfNeeded 4 (loadArray host (buf.take rxbufSize) offset 4 i)
        (hostIsLittleEndian host)).toNat := by
  have reach : 132 ≤ rxbufSize := by decide
  rw [unpack_fieldArray k 9 start widths, fieldArray]
  congr 1
  funext i
  have last := i.isLt
  rw [loadArray, rx_load documented (by omega) (by omega)]

/-- What both decoders take over agrees with the header that Python reads. -/
theorem sameHeader_read (documented : sm.Documented) (long : 132 ≤ buf.length) {type : Nat}
    (typed : field buf 0 4 = type) (tail : Option (List Nat)) :
    SameHeader ((StatusHeader.ofBytes host (buf.take rxbufSize)).view sm host)
      (.ofFields type (unpack fmtStatusHeader buf) tail) where
  packetType := by
    have reach : 132 ≤ rxbufSize := by decide
    exact typed.symm.trans (rx_load documented (by omega) (by omega)).symm
  versionNo := header_word host documented long 1 4 (by decide) rfl rfl (by decide)
  sequenceNo := header_word host documented long 2 8 (by decide) rfl rfl (by decide)
  status := header_byte host long 3 12 (by decide) rfl rfl (by decide)
  robotStatus := header_byte host long 4 13 (by decide) rfl rfl (by decide)
  contactStopStatus := by
    intro known
    have raw := header_byte host long 5 14 (by decide) rfl rfl (by decide)
    exact (congrArg (fun code => (ContactStopStatus.fromWire code).code) raw).trans
      (ContactStopStatus.code_fromWire _ known)
  timeStamp := header_word host documented long 7 16 (by decide) rfl rfl (by decide)
  positionDeg := header_array host documented long 8 20 rfl rfl (by decide)
  jointAngleDeg := header_array host documented long 17 56 rfl rfl (by decide)
  current := header_array host documented long 26 92 rfl rfl (by decide)
  safetyScale := by
    rw [RobotStatusPacket.ofFields_safetyScale]
    exact header_word host documented long 35 128 (by decide) rfl rfl (by decide)

/-- The numbers of the force block, of which the first seven are not I/O bytes. -/
theorem tail_word (documented : sm.Documented) (long : 416 ≤ buf.length) (k offset : Nat)
    (inside : k < 7) (start : (fmtStatus204Tail.take k).sum = offset)
    (width : fmtStatus204Tail.getD k 0 = 4) (small : offset + 4 ≤ 28) :
    (unpack fmtStatus204Tail (buf.drop 132)).getD k 0 =
      (sm.swapBytesIfNeeded 4 (load host (buf.take rxbufSize) (132 + offset) 4)
        (hostIsLittleEndian host)).toNat := by
  have reach : 160 ≤ rxbufSize := by decide
  have size : fmtStatus204Tail.length = 263 := by decide +kernel
  rw [unpack_field k (by omega) start width, field, slice_drop,
    rx_load documented (by omega) (by omega), field]

theorem agree_204 (documented : sm.Documented) (long : 416 ≤ buf.length)
    (typed : field buf 0 4 = 204) :
    SameHeader ((RobotStatusPacket.ofBytes host (buf.take rxbufSize)).view sm host)
      (.ofFields 204 (unpack fmtStatusHeader buf)
        (some (unpack fmtStatus204Tail (buf.drop 132)))) ∧
    SameForce ((RobotStatusPacket.ofBytes host (buf.take rxbufSize)).view sm host)
      (.ofFields 204 (unpack fmtStatusHeader buf)
        (some (unpack fmtStatus204Tail (buf.drop 132)))) := by
  have header := sameHeader_read host documented (by omega) typed
    (some (unpack fmtStatus204Tail (buf.drop 132)))
  have force := tail_word host documented long
  constructor
  · exact { header with }
  · exact
      { forceX := congrArg some (force 0 0 (by decide) rfl rfl (by decide))
        forceY := congrArg some (force 1 4 (by decide) rfl rfl (by decide))
        forceZ := congrArg some (force 2 8 (by decide) rfl rfl (by decide))
        momentX := congrArg some (force 3 12 (by decide) rfl rfl (by decide))
        momentY := congrArg some (force 4 16 (by decide) rfl rfl (by decide))
        momentZ := congrArg some (force 5 20 (by decide) rfl rfl (by decide))
        fsType := congrArg some (force 6 24 (by decide) rfl rfl (by decide)) }

theorem agree_v3 (documented : sm.Documented) (long : 388 ≤ buf.length)
    (typed : field buf 0 4 = 202) :
    SameHeader ((V3RobotStatusPacket.ofBytes host (buf.take rxbufSize)).view sm host)
      (.ofFields 202 (unpack fmtStatusHeader buf) none) ∧
    NoForce ((V3RobotStatusPacket.ofBytes host (buf.take rxbufSize)).view sm host)
      (.ofFields 202 (unpack fmtStatusHeader buf) none) := by
  have header := sameHeader_read host documented (by omega) typed none
  constructor
  · exact { header with }
  · exact ⟨⟨rfl, rfl, rfl, rfl, rfl, rfl, rfl⟩, ⟨rfl, rfl, rfl⟩, ⟨rfl, rfl, rfl⟩, rfl⟩

end Reading

/-! ### Writing -/

section Writing

open Native Wire

variable {w : Nat}

theorem patterns_toNat (floats : List (Word w)) :
    (patterns floats).map Int.toNat = floats.map BitVec.toNat := by
  rw [patterns, List.map_map]
  rfl

/-- A float always fits its field. -/
theorem patterns_fit (floats : List (Word w)) :
    List.Forall₂ (fun w (v : Int) => 0 ≤ v ∧ v < 256 ^ w) (List.replicate floats.length w)
      (patterns floats) := by
  induction floats with
  | nil => exact .nil
  | cons v floats ih =>
    have bound : (v.toNat : Int) < 256 ^ w := by exact_mod_cast v.toNat_lt
    exact .cons ⟨Int.natCast_nonneg _, bound⟩ ih

theorem zeros_fit (n : Nat) :
    List.Forall₂ (fun w (v : Int) => 0 ≤ v ∧ v < 256 ^ w) (List.replicate n 1)
      (List.replicate n 0) := by
  induction n with
  | zero => exact .nil
  | succ n ih => exact .cons (by decide) ih

/-- The numbers of a command packet. -/
def commandValues (sequenceNo : Word 4) (isLastCommand doMotnCtrl : Bool)
    (commandPosDeg : Fin 9 → Word 8) : List Nat :=
  [201, 3, sequenceNo.toNat, isLastCommand.toNat, doMotnCtrl.toNat, 0xFFFF]
    ++ (List.ofFn fun i => (commandPosDeg i).toNat) ++ List.replicate 256 0

theorem wire_encodeCommandPacket (sequenceNo : Word 4) (isLastCommand doMotnCtrl : Bool)
    (commandPosDeg : Fin 9 → Word 8) :
    Wire.encodeCommandPacket sequenceNo.toNat (List.ofFn commandPosDeg) isLastCommand doMotnCtrl
        streamMotionVersion =
      .ok (pack fmtCommand (commandValues sequenceNo isLastCommand doMotnCtrl commandPosDeg)) := by
  have fits := sequenceNo.toNat_lt
  rw [Wire.encodeCommandPacket, if_neg (by rw [List.length_ofFn]; decide), if_neg (by omega)]
  have seq : ((sequenceNo.toNat : Int) % 2 ^ 32) = sequenceNo.toNat := by omega
  rw [seq]
  apply structPack_eq_ok.mpr
  constructor
  · have scalars : List.Forall₂ (fun w (v : Int) => 0 ≤ v ∧ v < 256 ^ w) [4, 4, 4, 1, 1, 2]
        [packetTypeCommand, streamMotionVersion, sequenceNo.toNat, isLastCommand.toInt,
          doMotnCtrl.toInt, commandDataStyle] := by
      have flag : ∀ b : Bool, 0 ≤ b.toInt ∧ b.toInt < 256 ^ 1 := by decide
      have range : (0 : Int) ≤ sequenceNo.toNat ∧ (sequenceNo.toNat : Int) < 256 ^ 4 := by omega
      exact .cons (by decide) (.cons (by decide) (.cons range (.cons (flag _) (.cons (flag _)
        (.cons (by decide) .nil)))))
    have floats := patterns_fit (List.ofFn commandPosDeg)
    rw [List.length_ofFn] at floats
    exact List.rel_append (List.rel_append scalars floats) (zeros_fit 256)
  · rw [List.map_append, List.map_append, patterns_toNat, List.map_ofFn, List.map_replicate]
    cases isLastCommand <;> cases doMotnCtrl <;> rfl

theorem native_encodeCommandPacket (documented : sm.Documented) (sequenceNo : Word 4)
    (isLastCommand doMotnCtrl : Bool) (commandPosDeg : Fin 9 → Word 8) :
    Native.encodeCommandPacket sm host sequenceNo isLastCommand (if doMotnCtrl then 1 else 0)
        commandPosDeg =
      pack fmtCommand (commandValues sequenceNo isLastCommand doMotnCtrl commandPosDeg) := by
  have floats : storeArray host (fun i => sm.swapBytesIfNeeded 8 (commandPosDeg i)
      (hostIsLittleEndian host)) =
      pack (List.replicate 9 8) (List.ofFn fun i => (commandPosDeg i).toNat) := by
    have packed := pack_replicate 8 (List.ofFn fun i => (commandPosDeg i).toNat)
    rw [List.length_ofFn] at packed
    rw [packed, storeArray, List.flatMap_def, List.flatMap_def, List.map_ofFn, List.map_ofFn]
    congr 2
    funext i
    exact store_swap documented _
  have io : storeArray host (fun _ : Fin 256 => (0 : Word 1)) =
      pack (List.replicate 256 1) (List.replicate 256 0) := by
    have packed := pack_replicate 1 (List.replicate 256 0)
    rw [List.length_replicate] at packed
    rw [packed, storeArray, List.ofFn_const, List.flatMap_def, List.flatMap_def,
      List.map_replicate, List.map_replicate, store_byte]
    rfl
  have scalars : pack [4, 4, 4, 1, 1, 2] [201, 3, sequenceNo.toNat, isLastCommand.toNat,
      doMotnCtrl.toNat, 0xFFFF] = beBytes 4 201 ++ beBytes 4 3 ++ beBytes 4 sequenceNo.toNat ++
        beBytes 1 isLastCommand.toNat ++ beBytes 1 doMotnCtrl.toNat ++ beBytes 2 0xFFFF := by
    simp only [pack, List.append_assoc, List.append_nil]
  rw [fmtCommand, commandValues, pack_append, pack_append, scalars, ← floats, ← io]
  · rw [Native.encodeCommandPacket, CommandPacket.bytes]
    simp only [store_swap documented, store_byte, documented.command_type, documented.version]
    cases isLastCommand <;> cases doMotnCtrl <;> rfl
  · rfl
  · rw [List.length_append, List.length_append, List.length_replicate, List.length_ofFn]
    rfl

variable (sequenceNo : Word 4) (isLastCommand doMotnCtrl : Bool) (commandPosDeg : Fin 9 → Word 8)

theorem command_length :
    (pack fmtCommand (commandValues sequenceNo isLastCommand doMotnCtrl commandPosDeg)).length =
      344 := by
  have size : fmtCommand.sum = 344 := by decide +kernel
  rw [pack_length, size]
  rw [fmtCommand, commandValues, List.length_append, List.length_append, List.length_append,
    List.length_append, List.length_replicate, List.length_replicate, List.length_replicate,
    List.length_ofFn]
  rfl

/-- The selector at offset 14: joint angles. -/
theorem command_dataStyle :
    slice (pack fmtCommand (commandValues sequenceNo isLastCommand doMotnCtrl commandPosDeg)) 14 2 =
      [0xFF, 0xFF] := by
  have format : fmtCommand =
      [4, 4, 4, 1, 1] ++ (2 :: (List.replicate 9 8 ++ List.replicate 256 1)) := by
    rw [fmtCommand, List.append_assoc]
    rfl
  have numbers : commandValues sequenceNo isLastCommand doMotnCtrl commandPosDeg =
      [201, 3, sequenceNo.toNat, isLastCommand.toNat, doMotnCtrl.toNat] ++
        (0xFFFF :: ((List.ofFn fun i => (commandPosDeg i).toNat) ++ List.replicate 256 0)) := by
    rw [commandValues, List.append_assoc]
    rfl
  have before : (pack [4, 4, 4, 1, 1] [201, 3, sequenceNo.toNat, isLastCommand.toNat,
      doMotnCtrl.toNat]).length = 14 := pack_length rfl
  rw [slice, format, numbers, pack_append, List.drop_left' before, pack,
    List.take_left' beBytes_length]
  · decide
  · rfl

end Writing

end AiroFanuc.Codec
