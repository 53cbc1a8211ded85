import AiroFanuc.Codec.Agreement

/-! The handshake's packets: what `send_handshake_` puts on the wire and reads of the answer, and
what `airo_fanuc.testing.wire` makes of the same bytes. -/

namespace AiroFanuc.Codec

open AiroFanuc.Library

namespace Wire

def packetTypeStop : Int := 2
def packetTypeGetCapability : Int := 7
def packetTypeSetCapability : Int := 8
def packetTypeStart : Int := 200

def startPacketSize : Nat := 8
def capabilityPacketSize : Nat := 28

/-- `">II"`. -/
def fmtStartOrStop : List Nat := [4, 4]

/-- `">IIIIIII"`. -/
def fmtCapability : List Nat := [4, 4, 4, 4, 4, 4, 4]

structure CapabilityResult where
  packetType : Nat
  versionNo : Nat
  id : Nat
  samplingRateMs : Nat
  startMove : Nat
  availableVersion : Nat
  robStatusUseTcp : Nat
  deriving DecidableEq

def encodeStartPacket (versionNo : Int) : Except WireError (List UInt8) :=
  structPack fmtStartOrStop [packetTypeStart, versionNo]

def encodeStopPacket (versionNo : Int) : Except WireError (List UInt8) :=
  structPack fmtStartOrStop [packetTypeStop, versionNo]

def encodeGetCapabilityPacket (versionNo : Int) : Except WireError (List UInt8) :=
  structPack fmtCapability [packetTypeGetCapability, versionNo, 1, 0, 0, 0, 0]

def encodeCapabilityResultPacket (packetType versionNo id samplingRateMs startMove availableVersion
    robStatusUseTcp : Int) : Except WireError (List UInt8) :=
  structPack fmtCapability
    [packetType, versionNo, id, samplingRateMs, startMove, availableVersion, robStatusUseTcp]

/-- `decode_capability_result_packet`. -/
def decodeCapabilityResultPacket (buf : List UInt8) : Except WireError (Option CapabilityResult) := do
  if buf.length < capabilityPacketSize then
    return none
  else
    let fields ← structUnpackFrom fmtCapability buf 0
    if (fields.getD 0 0 : Int) ≠ packetTypeGetCapability ∧
        (fields.getD 0 0 : Int) ≠ packetTypeSetCapability then
      return none
    else
      return some ⟨fields.getD 0 0, fields.getD 1 0, fields.getD 2 0, fields.getD 3 0,
        fields.getD 4 0, fields.getD 5 0, fields.getD 6 0⟩

end Wire

namespace Native

/-- The vendored headers' packet types of the handshake. -/
structure HandshakeTypes where
  kStopPacketType : Word 4
  kGetCapabilityPacketType : Word 4
  kStartPacketType : Word 4

/-- What the comments say of them. -/
structure HandshakeTypes.Documented (types : HandshakeTypes) : Prop where
  stop : types.kStopPacketType = 2
  getCapability : types.kGetCapabilityPacketType = 7
  start : types.kStartPacketType = 200

def HandshakeTypes.described : HandshakeTypes := ⟨2, 7, 200⟩

/-- `be_store_u32`. -/
def beStoreU32 (v : Word 4) : List UInt8 :=
  [⟨(v >>> 24).setWidth 8⟩, ⟨(v >>> 16).setWidth 8⟩, ⟨(v >>> 8).setWidth 8⟩, ⟨v.setWidth 8⟩]

variable (types : HandshakeTypes)

/-- `send_stop_packet_`. -/
def stopPacket (smVersion : Word 4) : List UInt8 :=
  beStoreU32 types.kStopPacketType ++ beStoreU32 smVersion

def getCapabilityRequest (smVersion : Word 4) : List UInt8 :=
  beStoreU32 types.kGetCapabilityPacketType ++ beStoreU32 smVersion ++ beStoreU32 1 ++
    List.replicate 16 0

def startPacket (negotiated : Word 4) : List UInt8 :=
  beStoreU32 types.kStartPacketType ++ beStoreU32 negotiated

/-- `sizeof(rep)`. -/
def repSize : Nat := 64

/-- What the bounded wait makes of one datagram: `available_version` and `sampling_rate`. -/
def readCapability (datagram : List UInt8) : Option (Word 4 × Word 4) :=
  let rep := datagram.take repSize
  if 28 ≤ rep.length ∧ beLoadU32 rep = types.kGetCapabilityPacketType then
    some (beLoadU32 (rep.drop 20), beLoadU32 (rep.drop 12))
  else none

/-- The version of the `StartPacket`, and what is published of the answer, if one came before the
deadline. -/
def negotiate (smVersion : Word 4) (replies : List (List UInt8)) :
    Word 4 × Option (Word 4 × Word 4) :=
  match replies.findSome? (readCapability types) with
  | some (avail, srate) =>
    let negotiated := if avail ≠ 0 then avail else smVersion
    (negotiated, some (negotiated, srate))
  | none => (smVersion, none)

end Native

/-! ### The two sides agree -/

variable {types : Native.HandshakeTypes} {buf bytes : List UInt8}

open Wire Native

theorem beStoreU32_eq (v : Word 4) : beStoreU32 v = beBytes 4 v.toNat := by
  have byte (k : Nat) : (⟨(v >>> k).setWidth 8⟩ : UInt8) = UInt8.ofNat (v.toNat / 2 ^ k) := by
    apply UInt8.toNat_inj.mp
    rw [UInt8.toNat_ofNat', ← UInt8.toNat_toBitVec, BitVec.toNat_setWidth, BitVec.toNat_ushiftRight,
      Nat.shiftRight_eq_div_pow]
  have low : (⟨v.setWidth 8⟩ : UInt8) = UInt8.ofNat v.toNat := by
    apply UInt8.toNat_inj.mp
    rw [UInt8.toNat_ofNat', ← UInt8.toNat_toBitVec, BitVec.toNat_setWidth]
  simp only [beStoreU32, byte, low, beBytes, leBytes, Nat.div_div_eq_div_mul, List.reverse_cons,
    List.reverse_nil, List.nil_append, List.cons_append, Nat.reducePow, Nat.reduceMul]

theorem word_fits (v : Word 4) : 0 ≤ (v.toNat : Int) ∧ (v.toNat : Int) < 256 ^ 4 := by
  have bound := v.toNat_lt
  omega

/-- Two words one after the other. -/
theorem pack_words (v w : Word 4) :
    structPack fmtStartOrStop [(v.toNat : Int), w.toNat] = .ok (beStoreU32 v ++ beStoreU32 w) := by
  refine structPack_eq_ok.mpr ⟨.cons (word_fits v) (.cons (word_fits w) .nil), ?_⟩
  rw [beStoreU32_eq, beStoreU32_eq]
  simp only [fmtStartOrStop, List.map_cons, List.map_nil, Int.toNat_natCast, pack, List.append_nil]

theorem encodeStopPacket_eq (documented : types.Documented) (v : Word 4) :
    encodeStopPacket v.toNat = .ok (stopPacket types v) := by
  rw [stopPacket, documented.stop]
  exact pack_words 2 v

theorem encodeStartPacket_eq (documented : types.Documented) (v : Word 4) :
    encodeStartPacket v.toNat = .ok (startPacket types v) := by
  rw [startPacket, documented.start]
  exact pack_words 200 v

theorem encodeGetCapabilityPacket_eq (documented : types.Documented) (v : Word 4) :
    encodeGetCapabilityPacket v.toNat = .ok (getCapabilityRequest types v) := by
  have fits := word_fits v
  refine structPack_eq_ok.mpr ⟨.cons (by decide) (.cons fits (.cons (by decide) (.cons (by decide)
    (.cons (by decide) (.cons (by decide) (.cons (by decide) .nil)))))), ?_⟩
  rw [getCapabilityRequest, documented.getCapability, beStoreU32_eq v]
  have numbers : [packetTypeGetCapability, (v.toNat : Int), 1, 0, 0, 0, 0].map Int.toNat =
      [7, v.toNat, 1, 0, 0, 0, 0] := rfl
  rw [numbers]
  simp only [fmtCapability, pack, List.append_assoc, List.append_nil]
  rfl

/-! ### The answer -/

/-- A word of a packet, as `be_load_u32` reads it out of the first 64 bytes. -/
theorem beLoadU32_field (offset : Nat) (long : 28 ≤ buf.length) (inside : offset + 4 ≤ 28) :
    (beLoadU32 ((buf.take repSize).drop offset)).toNat = field buf offset 4 := by
  have size : (buf.take repSize).length = min repSize buf.length := List.length_take
  rw [beLoadU32_toNat (by rw [List.length_drop, size, repSize]; omega), field, slice_drop,
    slice_take (by rw [repSize]; omega), Nat.add_zero, field]

theorem capability_field {k : Nat} (inside : k < 7) :
    (unpack fmtCapability buf).getD k 0 = field buf (4 * k) 4 := by
  have places : ∀ k < 7, (fmtCapability.take k).sum = 4 * k ∧ fmtCapability.getD k 0 = 4 := by
    decide
  exact unpack_field k inside (places k inside).1 (places k inside).2

theorem decodeCapability_eq (long : 28 ≤ buf.length) :
    decodeCapabilityResultPacket buf = .ok (if (field buf 0 4 = 7 ∨ field buf 0 4 = 8) then
      some ⟨field buf 0 4, field buf 4 4, field buf 8 4, field buf 12 4, field buf 16 4,
        field buf 20 4, field buf 24 4⟩ else none) := by
  have unpacked : structUnpackFrom fmtCapability buf 0 = .ok (unpack fmtCapability buf) :=
    structUnpackFrom_eq_ok long
  rw [decodeCapabilityResultPacket, if_neg (by rw [capabilityPacketSize]; omega), unpacked]
  simp (disch := decide) only [bind, Except.bind, capability_field, packetTypeGetCapability,
    packetTypeSetCapability, Nat.reduceMul]
  by_cases type : field buf 0 4 = 7 ∨ field buf 0 4 = 8
  · rw [if_pos type, if_neg (by omega)]
    rfl
  · rw [if_neg type, if_pos (by omega)]
    rfl

theorem type_seven (documented : types.Documented) (long : 28 ≤ buf.length) :
    beLoadU32 (buf.take repSize) = types.kGetCapabilityPacketType ↔ field buf 0 4 = 7 := by
  have first := beLoadU32_field 0 long (by decide)
  rw [List.drop_zero] at first
  rw [documented.getCapability, ← first, ← BitVec.toNat_inj]
  rfl

/-- The wait takes a datagram for an answer exactly when Python decodes it as one of type 7, and
reads the same version and rate in it. -/
theorem readCapability_iff (documented : types.Documented) {avail srate : Word 4} :
    readCapability types buf = some (avail, srate) ↔
      ∃ r, decodeCapabilityResultPacket buf = .ok (some r) ∧ r.packetType = 7 ∧
        r.availableVersion = avail.toNat ∧ r.samplingRateMs = srate.toNat := by
  have sizes : 28 ≤ (buf.take repSize).length ↔ 28 ≤ buf.length := by
    rw [List.length_take, repSize]
    omega
  by_cases long : 28 ≤ buf.length
  · have type := type_seven documented long
    have version := beLoadU32_field 20 long (by decide)
    have rate := beLoadU32_field 12 long (by decide)
    rw [readCapability, decodeCapability_eq long]
    simp only [sizes, type, long, true_and]
    by_cases seven : field buf 0 4 = 7
    · rw [if_pos seven, if_pos (.inl seven), Option.some.injEq, Prod.mk.injEq,
        ← BitVec.toNat_inj, ← BitVec.toNat_inj, version, rate]
      constructor
      · rintro ⟨same, rated⟩
        exact ⟨_, rfl, seven, same, rated⟩
      · rintro ⟨r, decoded, -, same, rated⟩
        cases decoded
        exact ⟨same, rated⟩
    · rw [if_neg seven]
      constructor
      · rintro ⟨⟩
      · rintro ⟨r, decoded, typed, -⟩
        split at decoded
        · cases decoded
          exact absurd typed seven
        · cases decoded
  · rw [readCapability]
    simp only [sizes, long, false_and, if_false]
    rw [decodeCapabilityResultPacket, if_pos (by rw [capabilityPacketSize]; omega)]
    constructor
    · rintro ⟨⟩
    · rintro ⟨r, ⟨⟩, -⟩

theorem readCapability_none (documented : types.Documented) : readCapability types buf = none ↔
    ∀ c, decodeCapabilityResultPacket buf = .ok (some c) → c.packetType ≠ 7 := by
  constructor
  · intro refused c decoded seven
    have long : 28 ≤ buf.length := by
      by_contra short
      rw [decodeCapabilityResultPacket, if_pos (by rw [capabilityPacketSize]; omega)] at decoded
      cases decoded
    rw [decodeCapability_eq long] at decoded
    split at decoded
    · cases decoded
      have size : 28 ≤ (buf.take repSize).length := by
        rw [List.length_take, repSize]
        omega
      rw [readCapability, if_pos ⟨size, (type_seven documented long).mpr seven⟩] at refused
      cases refused
    · cases decoded
  · intro others
    cases read : readCapability types buf with
    | none => rfl
    | some found =>
        obtain ⟨r, decoded, seven, -⟩ := (readCapability_iff documented).mp read
        exact absurd seven (others r decoded)

/-- What the Python side encodes as an answer is decoded as it was meant. -/
theorem decode_encoded {versionNo id samplingRateMs startMove availableVersion tcp : Int}
    (encoded : encodeCapabilityResultPacket packetTypeGetCapability versionNo id samplingRateMs
      startMove availableVersion tcp = .ok bytes) :
    ∃ r, decodeCapabilityResultPacket bytes = .ok (some r) ∧ r.packetType = 7 ∧
      (r.availableVersion : Int) = availableVersion ∧
      (r.samplingRateMs : Int) = samplingRateMs := by
  have long : 28 ≤ bytes.length := Nat.le_of_eq (structPack_length encoded).symm
  have back := unpack_structPack encoded []
  rw [List.append_nil] at back
  obtain ⟨fits, -⟩ := structPack_eq_ok.mp encoded
  simp only [fmtCapability, List.forall₂_cons] at fits
  have at_field (k : Nat) (inside : k < 7) : field bytes (4 * k) 4 =
      ([packetTypeGetCapability, versionNo, id, samplingRateMs, startMove, availableVersion,
        tcp].map Int.toNat).getD k 0 := by
    rw [← back, capability_field inside]
  have type : field bytes 0 4 = 7 := at_field 0 (by decide)
  rw [decodeCapability_eq long, if_pos (.inl type)]
  refine ⟨_, rfl, type, ?_, ?_⟩
  · have version : field bytes 20 4 = availableVersion.toNat := at_field 5 (by decide)
    show ((field bytes 20 4 : Nat) : Int) = availableVersion
    rw [version, Int.toNat_of_nonneg fits.2.2.2.2.2.1.1]
  · have rate : field bytes 12 4 = samplingRateMs.toNat := at_field 3 (by decide)
    show ((field bytes 12 4 : Nat) : Int) = samplingRateMs
    rw [rate, Int.toNat_of_nonneg fits.2.2.2.1.1]

/-- The handshake, byte for byte: the three packets are those of the Python encoders, and the start
asks for the version of the first datagram that Python decodes as an answer to the request, whose
rate is published with it; a version of zero, or no such datagram, leaves the configured one. -/
theorem handshake_agrees (types : HandshakeTypes) (documented : types.Documented)
    (smVersion : Word 4) (replies : List (List UInt8)) :
    encodeStopPacket smVersion.toNat = .ok (stopPacket types smVersion) ∧
    encodeGetCapabilityPacket smVersion.toNat = .ok (getCapabilityRequest types smVersion) ∧
    ∃ version : Nat,
      encodeStartPacket version = .ok (startPacket types (negotiate types smVersion replies).1) ∧
      ((∃ before answer after r, replies = before ++ answer :: after ∧
          (∀ other ∈ before, ∀ c, decodeCapabilityResultPacket other = .ok (some c) →
            c.packetType ≠ 7) ∧
          decodeCapabilityResultPacket answer = .ok (some r) ∧ r.packetType = 7 ∧
          version = (if r.availableVersion = 0 then smVersion.toNat else r.availableVersion) ∧
          (negotiate types smVersion replies).2.map (fun p => (p.1.toNat, p.2.toNat)) =
            some (version, r.samplingRateMs)) ∨
        ((∀ other ∈ replies, ∀ c, decodeCapabilityResultPacket other = .ok (some c) →
            c.packetType ≠ 7) ∧
          version = smVersion.toNat ∧ (negotiate types smVersion replies).2 = none)) := by
  refine ⟨encodeStopPacket_eq documented smVersion,
    encodeGetCapabilityPacket_eq documented smVersion,
    (negotiate types smVersion replies).1.toNat, encodeStartPacket_eq documented _, ?_⟩
  cases found : replies.findSome? (readCapability types) with
  | none =>
      have chosen : negotiate types smVersion replies = (smVersion, none) := by
        rw [negotiate, found]
      rw [chosen]
      refine .inr ⟨fun other member c decoded => ?_, rfl, rfl⟩
      exact (readCapability_none documented).mp (List.findSome?_eq_none_iff.mp found other member) c
        decoded
  | some read =>
      obtain ⟨avail, srate⟩ := read
      obtain ⟨before, answer, after, shape, taken, passed⟩ :=
        List.findSome?_eq_some_iff.mp found
      obtain ⟨r, decoded, typed, version, rate⟩ := (readCapability_iff documented).mp taken
      have chosen : negotiate types smVersion replies =
          (if avail ≠ 0 then avail else smVersion,
            some (if avail ≠ 0 then avail else smVersion, srate)) := by
        rw [negotiate, found]
      have zero : r.availableVersion = 0 ↔ avail = 0 := by
        rw [version, ← BitVec.toNat_inj]
        rfl
      have asked : (if avail ≠ 0 then avail else smVersion).toNat =
          if r.availableVersion = 0 then smVersion.toNat else r.availableVersion := by
        by_cases none : avail = 0
        · rw [if_neg (not_not.mpr none), if_pos (zero.mpr none)]
        · rw [if_pos none, if_neg (mt zero.mp none), version]
      rw [chosen]
      refine .inl ⟨before, answer, after, r, shape, fun other member c otherDecoded => ?_, decoded,
        typed, asked, ?_⟩
      · exact (readCapability_none documented).mp (passed other member) c otherDecoded
      · rw [Option.map_some, rate]

/-- A stale status, a capability of the other type, the answer and a second one. -/
def benchReplies : List (List UInt8) :=
  [List.replicate 8 0, beStoreU32 8 ++ List.replicate 24 0,
    beStoreU32 7 ++ List.replicate 8 0 ++ beStoreU32 8 ++ beStoreU32 0 ++ beStoreU32 4 ++
      List.replicate 4 0,
    beStoreU32 7 ++ List.replicate 24 0]

theorem handshake_agrees_stale :
    negotiate .described 3 benchReplies = (4, some (4, 8)) ∧
    encodeStopPacket ((3 : Word 4).toNat : Int) = .ok (stopPacket .described 3) ∧
    encodeGetCapabilityPacket ((3 : Word 4).toNat : Int) = .ok (getCapabilityRequest .described 3) ∧
    ∃ version : Nat,
      encodeStartPacket version =
        .ok (startPacket .described (negotiate .described 3 benchReplies).1) ∧
      ((∃ before answer after r, benchReplies = before ++ answer :: after ∧
          (∀ other ∈ before, ∀ c, decodeCapabilityResultPacket other = .ok (some c) →
            c.packetType ≠ 7) ∧
          decodeCapabilityResultPacket answer = .ok (some r) ∧ r.packetType = 7 ∧
          version = (if r.availableVersion = 0 then (3 : Word 4).toNat else r.availableVersion) ∧
          (negotiate .described 3 benchReplies).2.map (fun p => (p.1.toNat, p.2.toNat)) =
            some (version, r.samplingRateMs)) ∨
        ((∀ other ∈ benchReplies, ∀ c, decodeCapabilityResultPacket other = .ok (some c) →
            c.packetType ≠ 7) ∧
          version = (3 : Word 4).toNat ∧ (negotiate .described 3 benchReplies).2 = none)) :=
  ⟨by decide +kernel, handshake_agrees .described ⟨rfl, rfl, rfl⟩ 3 benchReplies⟩

end AiroFanuc.Codec
