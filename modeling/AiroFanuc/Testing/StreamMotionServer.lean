import AiroFanuc.Codec.Handshake

/-! `FakeStreamMotionServer`: the receiving side of the strict emulator that states the protocol the
core is held to. Its plant, its status packets, and the arrival times of commands with the
double-send check that compares them are left out. -/

namespace AiroFanuc.Testing

open AiroFanuc.Library AiroFanuc.Codec AiroFanuc.Codec.Wire

def packetTypeForceSensorConfig : Int := 205

/-- `">IIII"`. -/
def fmtFsconfig : List Nat := [4, 4, 4, 4]

def rxBufBytes : Nat := 2048

structure FakeCRXConfig where
  strict : Bool
  availableVersion : Nat
  samplingRateMs : Nat

/-- The part of `ControllerState` that the receiving side writes. -/
structure ControllerState where
  streamStarted : Bool
  inError : Bool
  fsType : Nat
  errorCode : Option String
  alarmTexts : List String

structure FakeStreamMotionServer where
  state : ControllerState
  streaming : Bool
  negotiatedVersion : Nat
  fsconfigReceived : Bool
  rxSeqPrev : Option Nat
  commandsSeen : Nat
  lastCmdIsLast : Bool
  pendingCmd : Option (List Nat)
  cmdsThisWindow : Nat
  violations : List String

/-- `np.isfinite` of a double, given by its bits. -/
def isFinite (v : Nat) : Bool := v / 2 ^ 52 % 2 ^ 11 ≠ 2047

/-- `{n:04X}`. -/
def hex4 (n : Nat) : String :=
  String.ofList (((Nat.toDigits 16 n).map Char.toUpper).leftpad 4 '0')

def uncleanStop : String :=
  "StopPacket received while streaming without a preceding " ++
    "is_last_command=1 CommandPacket (unclean stop)"

def startVersionText (version available : Nat) : String :=
  s!"StartPacket version_no={version} != negotiated available_version={available}"

def fsconfigText (negotiated : Nat) : String :=
  "ForceSensorConfigPacket (type 205) sent on negotiated " ++
    s!"v{negotiated} < 4 (triggers HOST-380)"

def dataStyleText (dataStyle : Nat) : String :=
  s!"CommandPacket dataStyle=0x{hex4 dataStyle} != 0xFFFF — a " ++
    "0 dataStyle makes the controller slew the joints as a " ++
    "Cartesian XYZWPR pose (a real E-stop incident)"

def doMotnCtrlText (doMotnCtrl : Nat) : String :=
  s!"CommandPacket do_motn_ctrl={doMotnCtrl} != 1 " ++
    "(nominal joint command must assert motion control)"

def ioText : String :=
  "CommandPacket io_command is not all-zero (no GPIO surface is driven over Stream Motion)"

def commandVersionText (version negotiated : Nat) : String :=
  s!"CommandPacket version_no={version} != negotiated {negotiated}"

def nonFiniteText : String := "CommandPacket contains non-finite joint angle"

def sequenceText (seq prev : Nat) : String :=
  s!"CommandPacket sequence_no={seq} not strictly increasing " ++
    s!"(prev={prev}) — duplicate / out-of-order TX"

/-- `raise_alarm`. -/
def ControllerState.raiseAlarm (st : ControllerState) (errorId text : String) : ControllerState :=
  let entry := s!"{errorId} {text}"
  { st with
    alarmTexts := if entry ∈ st.alarmTexts then st.alarmTexts else entry :: st.alarmTexts
    errorCode := some errorId }

namespace FakeStreamMotionServer

def new (cfg : FakeCRXConfig) (state : ControllerState) : FakeStreamMotionServer where
  state := state
  streaming := false
  negotiatedVersion := cfg.availableVersion
  fsconfigReceived := false
  rxSeqPrev := none
  commandsSeen := 0
  lastCmdIsLast := false
  pendingCmd := none
  cmdsThisWindow := 0
  violations := []

def record (s : FakeStreamMotionServer) (bad : Bool) (text : String) : FakeStreamMotionServer :=
  if bad then { s with violations := s.violations ++ [text] } else s

def onStop (cfg : FakeCRXConfig) (s : FakeStreamMotionServer) : FakeStreamMotionServer :=
  let unclean := cfg.strict && s.streaming && decide (0 < s.commandsSeen) && !s.lastCmdIsLast
  { s.record unclean uncleanStop with
    streaming := false
    state := { s.state with streamStarted := false } }

/-- The answer to a capability request. -/
def capabilityReply (cfg : FakeCRXConfig) : Except WireError (List UInt8) :=
  encodeCapabilityResultPacket packetTypeGetCapability cfg.availableVersion 1 cfg.samplingRateMs 0
    cfg.availableVersion 0

/-- What `_on_start` does with the version it unpacked. -/
def restart (cfg : FakeCRXConfig) (s : FakeStreamMotionServer) (version : Nat) :
    FakeStreamMotionServer :=
  let s := s.record (cfg.strict && decide (version ≠ cfg.availableVersion))
    (startVersionText version cfg.availableVersion)
  { s with
    negotiatedVersion := version
    streaming := true
    rxSeqPrev := none
    commandsSeen := 0
    lastCmdIsLast := false
    state := { s.state with streamStarted := true } }

def onStart (cfg : FakeCRXConfig) (s : FakeStreamMotionServer) (buf : List UInt8) :
    Except WireError FakeStreamMotionServer := do
  let fields ← structUnpackFrom fmtStartOrStop (buf.take startPacketSize) 0
  return s.restart cfg (fields.getD 1 0)

def onForceSensorConfig (cfg : FakeCRXConfig) (s : FakeStreamMotionServer) (buf : List UInt8) :
    Except WireError FakeStreamMotionServer :=
  if buf.length ≠ fmtFsconfig.sum then .error .structError
  else
    let fsType := (unpack fmtFsconfig buf).getD 3 0
    if s.negotiatedVersion < 4 then
      let state := s.state.raiseAlarm "HOST-380" "System error 0x19,0x0"
      .ok { s.record cfg.strict (fsconfigText s.negotiatedVersion) with
        state := { state with inError := true } }
    else .ok { s with fsconfigReceived := true, state := { s.state with fsType := fsType } }

/-- The strict checks of a command, in their order, behind the one of arrival times. -/
def check (s : FakeStreamMotionServer) (version seq doMotnCtrl dataStyle : Nat)
    (pos io : List Nat) : FakeStreamMotionServer :=
  let s := s.record (decide ((dataStyle : Int) ≠ commandDataStyle)) (dataStyleText dataStyle)
  let s := s.record (decide (doMotnCtrl ≠ 1)) (doMotnCtrlText doMotnCtrl)
  let s := s.record (io.any fun b => decide (b ≠ 0)) ioText
  let s := s.record (decide (version ≠ s.negotiatedVersion))
    (commandVersionText version s.negotiatedVersion)
  let s := s.record (!pos.all isFinite) nonFiniteText
  match s.rxSeqPrev with
  | some prev => s.record (decide (seq ≤ prev)) (sequenceText seq prev)
  | none => s

/-- What `_on_command` does with the fields it unpacked. -/
def takeCommand (cfg : FakeCRXConfig) (s : FakeStreamMotionServer) (fields : List Nat) :
    FakeStreamMotionServer :=
  let pos := (fields.drop 6).take maxAxes
  let s := { s with
    cmdsThisWindow := s.cmdsThisWindow + 1
    commandsSeen := s.commandsSeen + 1
    lastCmdIsLast := decide (fields.getD 3 0 ≠ 0) }
  let s :=
    if cfg.strict then
      s.check (fields.getD 1 0) (fields.getD 2 0) (fields.getD 4 0) (fields.getD 5 0) pos
        (fields.drop (6 + maxAxes))
    else s
  { s with rxSeqPrev := some (fields.getD 2 0), pendingCmd := some pos }

def onCommand (cfg : FakeCRXConfig) (s : FakeStreamMotionServer) (buf : List UInt8) :
    Except WireError FakeStreamMotionServer :=
  if buf.length ≠ fmtCommand.sum then .error .structError
  else .ok (s.takeCommand cfg (unpack fmtCommand buf))

/-- `_drain_rx` for one datagram; what is too short or of another type is dropped. A capability
request is answered, and changes nothing. -/
def receive (cfg : FakeCRXConfig) (s : FakeStreamMotionServer) (datagram : List UInt8) :
    Except WireError FakeStreamMotionServer :=
  let buf := datagram.take rxBufBytes
  if buf.length < 4 then .ok s
  else
    let ptype : Int := field buf 0 4
    if ptype = packetTypeStop then .ok (s.onStop cfg)
    else if ptype = packetTypeGetCapability then (capabilityReply cfg).map fun _ => s
    else if ptype = packetTypeStart then s.onStart cfg buf
    else if ptype = packetTypeForceSensorConfig then s.onForceSensorConfig cfg buf
    else if ptype = packetTypeCommand then s.onCommand cfg buf
    else .ok s

/-- What `tick` resets once the window's commands went to the plant. -/
def endWindow (s : FakeStreamMotionServer) : FakeStreamMotionServer :=
  { s with cmdsThisWindow := 0, pendingCmd := none }

/-! ### What each packet of the driver does -/

section Receiving

open Native

variable {types : HandshakeTypes} (cfg : FakeCRXConfig) (s : FakeStreamMotionServer)

theorem unpack_packed {widths values : List Nat}
    (fit : List.Forall₂ (fun w n => n < 256 ^ w) widths values) :
    unpack widths (pack widths values) = values := by
  have unpacked : unpack widths (pack widths values ++ []) = values := unpack_pack fit
  rwa [List.append_nil] at unpacked

theorem leading_word {n : Nat} (fits : n < 256 ^ 4) (rest : List UInt8) :
    field (beBytes 4 n ++ rest) 0 4 = n := by
  rw [field, slice, List.drop_zero, List.take_left' beBytes_length, beValue_beBytes fits]

/-- Only the type, the first word of what fits the buffer, decides who takes a datagram. -/
theorem receive_typed (type : Nat) (fits : type < 256 ^ 4) (rest : List UInt8)
    (size : (beBytes 4 type ++ rest).length ≤ rxBufBytes) :
    s.receive cfg (beBytes 4 type ++ rest) =
      if type = 2 then .ok (s.onStop cfg)
      else if type = 7 then (capabilityReply cfg).map fun _ => s
      else if type = 200 then s.onStart cfg (beBytes 4 type ++ rest)
      else if type = 205 then s.onForceSensorConfig cfg (beBytes 4 type ++ rest)
      else if type = 201 then s.onCommand cfg (beBytes 4 type ++ rest)
      else .ok s := by
  have long : ¬ (beBytes 4 type ++ rest).length < 4 := by
    rw [List.length_append, beBytes_length]
    omega
  have names : packetTypeStop = (2 : Nat) ∧ packetTypeGetCapability = (7 : Nat) ∧
      packetTypeStart = (200 : Nat) ∧ packetTypeForceSensorConfig = (205 : Nat) ∧
      packetTypeCommand = (201 : Nat) := ⟨rfl, rfl, rfl, rfl, rfl⟩
  simp only [receive, List.take_of_length_le size, if_neg long, leading_word fits, names,
    Int.natCast_inj]

theorem receive_stop (documented : types.Documented) (v : Word 4) :
    s.receive cfg (stopPacket types v) = .ok (s.onStop cfg) := by
  rw [stopPacket, documented.stop, beStoreU32_eq, beStoreU32_eq]
  exact s.receive_typed cfg 2 (by decide) _ (by
    rw [List.length_append, beBytes_length, beBytes_length]
    decide)

theorem receive_getCapability (documented : types.Documented) (v : Word 4) {reply : List UInt8}
    (answers : capabilityReply cfg = .ok reply) :
    s.receive cfg (getCapabilityRequest types v) = .ok s := by
  rw [getCapabilityRequest, documented.getCapability, List.append_assoc, List.append_assoc,
    beStoreU32_eq]
  have typed := s.receive_typed cfg 7 (by decide)
    (beStoreU32 v ++ (beStoreU32 1 ++ List.replicate 16 0)) (by
      simp only [List.length_append, beBytes_length, beStoreU32_eq, List.length_replicate]
      decide)
  rw [answers] at typed
  exact typed

theorem receive_start (documented : types.Documented) (v : Word 4) :
    s.receive cfg (startPacket types v) = .ok (s.restart cfg v.toNat) := by
  have words : startPacket types v = pack fmtStartOrStop [200, v.toNat] := by
    rw [startPacket, documented.start, beStoreU32_eq, beStoreU32_eq]
    simp only [fmtStartOrStop, pack, List.append_nil]
    rfl
  have size : (pack fmtStartOrStop [200, v.toNat]).length = 8 := pack_length rfl
  have fit : List.Forall₂ (fun w n => n < 256 ^ w) fmtStartOrStop [200, v.toNat] :=
    .cons (by decide) (.cons v.toNat_lt .nil)
  have fields : structUnpackFrom fmtStartOrStop
      ((pack fmtStartOrStop [200, v.toNat]).take startPacketSize) 0 = .ok [200, v.toNat] := by
    rw [List.take_of_length_le (by rw [size, startPacketSize]),
      structUnpackFrom_eq_ok (by rw [size]; decide), List.drop_zero,
      unpack_packed fit]
  rw [words]
  rw [show pack fmtStartOrStop [200, v.toNat] = beBytes 4 200 ++ pack [4] [v.toNat] from rfl,
    s.receive_typed cfg 200 (by decide) _ (by
      exact size.trans_le (by decide))]
  show s.onStart cfg (pack fmtStartOrStop [200, v.toNat]) = _
  rw [onStart, fields]
  rfl

theorem commandValues_fit (seq : Word 4) (isLast doMotnCtrl : Bool) (pos : Fin 9 → Word 8) :
    List.Forall₂ (fun w n => n < 256 ^ w) fmtCommand (commandValues seq isLast doMotnCtrl pos) := by
  have flag : ∀ b : Bool, b.toNat < 256 ^ 1 := by decide
  have scalars : List.Forall₂ (fun w n => n < 256 ^ w) [4, 4, 4, 1, 1, 2]
      [201, 3, seq.toNat, isLast.toNat, doMotnCtrl.toNat, 0xFFFF] :=
    .cons (by decide) (.cons (by decide) (.cons seq.toNat_lt (.cons (flag _) (.cons (flag _)
      (.cons (by decide) .nil)))))
  have floats : List.Forall₂ (fun w n => n < 256 ^ w) (List.replicate 9 8)
      (List.ofFn fun i => (pos i).toNat) := by
    refine List.forall₂_iff_get.mpr ⟨by rw [List.length_replicate, List.length_ofFn], ?_⟩
    intro i inside there
    simp only [List.get_eq_getElem, List.getElem_replicate, List.getElem_ofFn]
    exact (pos _).toNat_lt
  have io : List.Forall₂ (fun w n => n < 256 ^ w) (List.replicate 256 1) (List.replicate 256 0) := by
    refine List.forall₂_iff_get.mpr ⟨by rw [List.length_replicate, List.length_replicate], ?_⟩
    intro i inside there
    simp only [List.get_eq_getElem, List.getElem_replicate]
    decide
  exact List.rel_append (List.rel_append scalars floats) io

theorem receive_command (seq : Word 4) (isLast doMotnCtrl : Bool) (pos : Fin 9 → Word 8) :
    s.receive cfg (pack fmtCommand (commandValues seq isLast doMotnCtrl pos)) =
      .ok (s.takeCommand cfg (commandValues seq isLast doMotnCtrl pos)) := by
  have size := command_length seq isLast doMotnCtrl pos
  obtain ⟨rest, typed⟩ : ∃ rest, pack fmtCommand (commandValues seq isLast doMotnCtrl pos) =
      beBytes 4 201 ++ rest := ⟨_, rfl⟩
  have room : (beBytes 4 201 ++ rest).length ≤ rxBufBytes := by
    rw [← typed, size]
    decide
  rw [typed, s.receive_typed cfg 201 (by decide) rest room, ← typed]
  simp only [Nat.reduceEqDiff, if_false, if_true, onCommand]
  rw [if_neg (by rw [size]; decide +kernel),
    unpack_packed (commandValues_fit seq isLast doMotnCtrl pos)]

end Receiving

end FakeStreamMotionServer

end AiroFanuc.Testing
