import AiroFanuc.Codec.Native

/-! Where the fields of a packet stand, in the terms both codecs share: the big-endian number in
some bytes of the buffer. -/

namespace AiroFanuc.Codec

open AiroFanuc.Library

/-- The big-endian number in the `w` bytes from an offset on. -/
def field (buf : List UInt8) (offset w : Nat) : Nat := beValue (slice buf offset w)

/-- An array of four-byte numbers. -/
def fieldArray (buf : List UInt8) (offset n : Nat) : List Nat :=
  List.ofFn fun i : Fin n => field buf (offset + 4 * i) 4

variable {buf : List UInt8} {offset w : Nat}

theorem field_take {size : Nat} (inside : offset + w ≤ size) :
    field (buf.take size) offset w = field buf offset w := by
  rw [field, slice_take inside, field]

theorem field_lt (inside : offset + w ≤ buf.length) : field buf offset w < 256 ^ w := by
  have bound := beValue_lt (slice buf offset w)
  rwa [slice_length inside] at bound

/-! ### The Python side -/

/-- A chain of steps that may fail ends well when each of them does. -/
theorem bind_eq_ok {ε α β : Type} {x : Except ε α} {next : α → Except ε β} {b : β} :
    x >>= next = .ok b ↔ ∃ a, x = .ok a ∧ next a = .ok b := by
  cases x with
  | error e =>
    constructor
    · nofun
    · rintro ⟨a, same, -⟩
      cases same
  | ok a =>
    constructor
    · intro ended
      exact ⟨a, rfl, ended⟩
    · rintro ⟨a', same, ended⟩
      cases same
      exact ended

namespace Wire

variable {fmt : List Nat} {values : List Int} {bytes : List UInt8}

theorem structPack_eq_ok : structPack fmt values = .ok bytes ↔
    List.Forall₂ (fun w v => 0 ≤ v ∧ v < 256 ^ w) fmt values ∧
      bytes = pack fmt (values.map Int.toNat) := by
  rw [structPack, List.forall₂_iff_zip]
  split_ifs with fits
  · constructor
    · intro same
      cases same
      exact ⟨⟨fits.1, fun member => fits.2 _ member⟩, rfl⟩
    · rintro ⟨-, rfl⟩
      rfl
  · constructor
    · intro same
      cases same
    · intro both
      exact absurd ⟨both.1.1, fun f member => both.1.2 member⟩ fits

/-- `struct.unpack_from` gives back what `struct.pack` took. -/
theorem unpack_structPack (packed : structPack fmt values = .ok bytes) (rest : List UInt8) :
    unpack fmt (bytes ++ rest) = values.map Int.toNat := by
  obtain ⟨fits, rfl⟩ := structPack_eq_ok.mp packed
  apply unpack_pack
  rw [List.forall₂_map_right_iff]
  apply fits.imp
  intro w v range
  rw [Int.toNat_lt range.1]
  exact_mod_cast range.2

theorem structPack_length (packed : structPack fmt values = .ok bytes) :
    bytes.length = fmt.sum := by
  obtain ⟨fits, rfl⟩ := structPack_eq_ok.mp packed
  apply pack_length
  rw [List.length_map, fits.length_eq]

/-- One number of a record, by its place in the format. -/
theorem unpack_field {fmt : List Nat} (k : Nat) (inside : k < fmt.length)
    (start : (fmt.take k).sum = offset) (width : fmt.getD k 0 = w) :
    (unpack fmt buf).getD k 0 = field buf offset w := by
  rw [unpack_getD inside, start, width, field]

theorem unpack_fieldArray {fmt : List Nat} (k n : Nat) (start : (fmt.take k).sum = offset)
    (widths : (fmt.drop k).take n = List.replicate n 4) :
    ((unpack fmt buf).drop k).take n = fieldArray buf offset n := by
  rw [unpack_drop, unpack_take, widths, unpack_replicate, start, fieldArray]
  congr 1
  funext i
  rw [slice_drop, field]

variable {fmt : List Nat} in
theorem structUnpackFrom_eq_ok (inside : offset + fmt.sum ≤ buf.length) :
    structUnpackFrom fmt buf offset = .ok (unpack fmt (buf.drop offset)) := if_pos inside

theorem statusHeaderSize_eq : statusHeaderSize = 132 := rfl

theorem decodeStatusPacket_eq (long : 132 ≤ buf.length) :
    decodeStatusPacket buf = decodeTyped (field buf 0 4) buf := by
  have first : structUnpackFrom [4] buf 0 = .ok (unpack [4] buf) := by
    apply structUnpackFrom_eq_ok
    simp only [List.sum_cons, List.sum_nil]
    omega
  rw [decodeStatusPacket, statusHeaderSize_eq, if_neg (by omega), first]
  rfl

theorem header_eq (long : 132 ≤ buf.length) :
    structUnpackFrom fmtStatusHeader buf 0 = .ok (unpack fmtStatusHeader buf) := by
  have size : fmtStatusHeader.sum = 132 := rfl
  apply structUnpackFrom_eq_ok
  omega

theorem decodeStatusPacket_204 (type : field buf 0 4 = 204) (long : 416 ≤ buf.length) :
    decodeStatusPacket buf = .ok (some (.ofFields 204 (unpack fmtStatusHeader buf)
      (some (unpack fmtStatus204Tail (buf.drop 132))))) := by
  have whole : ¬buf.length < expectedSize 204 := Nat.not_lt.mpr long
  have tail : structUnpackFrom fmtStatus204Tail buf 132 =
      .ok (unpack fmtStatus204Tail (buf.drop 132)) := by
    have size : fmtStatus204Tail.sum = 284 := by decide +kernel
    apply structUnpackFrom_eq_ok
    omega
  rw [decodeStatusPacket_eq (by omega), type, decodeTyped, if_neg fun other => other.1 rfl,
    if_neg whole, header_eq (by omega), statusHeaderSize_eq, tail]
  rfl

theorem decodeStatusPacket_v3 (type : field buf 0 4 = 202) (long : 388 ≤ buf.length) :
    decodeStatusPacket buf = .ok (some (.ofFields 202 (unpack fmtStatusHeader buf) none)) := by
  have whole : ¬buf.length < expectedSize 202 := Nat.not_lt.mpr long
  rw [decodeStatusPacket_eq (by omega), type, decodeTyped, if_neg fun other => other.2 rfl,
    if_neg whole, header_eq (by omega)]
  rfl

/-- Every other buffer is left alone, without an error. -/
theorem decodeStatusPacket_none (no204 : ¬(field buf 0 4 = 204 ∧ 416 ≤ buf.length))
    (noV3 : ¬(field buf 0 4 = 202 ∧ 388 ≤ buf.length)) : decodeStatusPacket buf = .ok none := by
  by_cases short : buf.length < 132
  · rw [decodeStatusPacket, statusHeaderSize_eq, if_pos short]
    rfl
  · rw [decodeStatusPacket_eq (by omega), decodeTyped]
    by_cases is204 : field buf 0 4 = 204
    · have tooShort : buf.length < expectedSize 204 :=
        Nat.not_le.mp fun long => no204 ⟨is204, long⟩
      rw [is204, if_neg fun other => other.1 rfl, if_pos tooShort]
      rfl
    · by_cases isV3 : field buf 0 4 = 202
      · have tooShort : buf.length < expectedSize 202 :=
          Nat.not_le.mp fun long => noV3 ⟨isV3, long⟩
        rw [isV3, if_neg fun other => other.2 rfl, if_pos tooShort]
        rfl
      · rw [if_pos ⟨is204, isV3⟩]
        rfl

end Wire

/-! ### The C++ side -/

namespace Native

variable {sm : StreamMotion} {host : ByteOrder}

theorem two_pow_eight_mul (w : Nat) : 2 ^ (8 * w) = 256 ^ w := Nat.pow_mul 2 8 w

theorem load_toNat (inside : offset + w ≤ buf.length) :
    (load host buf offset w).toNat = host.load (slice buf offset w) := by
  have bound := host.load_lt (slice buf offset w)
  rw [slice_length inside] at bound
  rw [load, BitVec.toNat_ofNat, two_pow_eight_mul, Nat.mod_eq_of_lt bound]

/-- A member read and swapped is the big-endian number in its bytes, on either host. -/
theorem swap_load (documented : sm.Documented) (inside : offset + w ≤ buf.length) :
    (sm.swapBytesIfNeeded w (load host buf offset w) (hostIsLittleEndian host)).toNat =
      field buf offset w := by
  have bound := field_lt inside
  cases host with
  | little =>
    have whole := swapBytes_leValue (slice buf offset w)
    rw [slice_length inside] at whole
    rw [show hostIsLittleEndian .little = true from rfl, documented.swaps, BitVec.toNat_ofNat,
      load_toNat inside, ByteOrder.load, whole, two_pow_eight_mul]
    exact Nat.mod_eq_of_lt bound
  | big =>
    rw [show hostIsLittleEndian .big = false from rfl, documented.keeps, load_toNat inside,
      ByteOrder.load, field]

theorem load_byte (inside : offset + 1 ≤ buf.length) :
    (load host buf offset 1).toNat = field buf offset 1 := by
  obtain ⟨b, single⟩ := List.length_eq_one_iff.mp (slice_length inside)
  rw [load_toNat inside, field, single]
  cases host <;> rfl

/-- A scalar swapped and stored stands in memory most significant byte first. -/
theorem store_swap (documented : sm.Documented) (v : Word w) :
    store host (sm.swapBytesIfNeeded w v (hostIsLittleEndian host)) = beBytes w v.toNat := by
  cases host with
  | little =>
    have bound : swapBytes w v.toNat < 256 ^ w := by
      have whole := leValue_lt (beBytes w v.toNat)
      rwa [beBytes_length] at whole
    rw [show hostIsLittleEndian .little = true from rfl, documented.swaps, store, ByteOrder.store,
      BitVec.toNat_ofNat, two_pow_eight_mul, Nat.mod_eq_of_lt bound, leBytes_swapBytes]
  | big =>
    rw [show hostIsLittleEndian .big = false from rfl, documented.keeps, store, ByteOrder.store]

theorem store_byte (v : Word 1) : store host v = beBytes 1 v.toNat := by
  cases host <;> rfl

theorem beLoadU32_toNat (long : 4 ≤ buf.length) : (beLoadU32 buf).toNat = field buf 0 4 := by
  obtain ⟨b0, b1, b2, b3, rest, rfl⟩ :
      ∃ b0 b1 b2 b3 rest, buf = b0 :: b1 :: b2 :: b3 :: rest := by
    match buf, long with
    | b0 :: b1 :: b2 :: b3 :: rest, _ => exact ⟨b0, b1, b2, b3, rest, rfl⟩
  have or_eq_add : ∀ a b i : Nat, b < 2 ^ i → a * 2 ^ i ||| b = a * 2 ^ i + b := by
    intro a b i small
    rw [← Nat.shiftLeft_eq, Nat.shiftLeft_add_eq_or_of_lt small]
  have h0 := b0.toNat_lt
  have h1 := b1.toNat_lt
  have h2 := b2.toNat_lt
  have h3 := b3.toNat_lt
  calc (beLoadU32 (b0 :: b1 :: b2 :: b3 :: rest)).toNat =
      b0.toNat * 2 ^ 24 ||| b1.toNat * 2 ^ 16 ||| b2.toNat * 2 ^ 8 ||| b3.toNat := by
        have byte : ∀ b : UInt8, b.toNat % 2 ^ 32 = b.toNat := by
          intro b
          exact Nat.mod_eq_of_lt (Nat.lt_trans b.toNat_lt (by decide))
        simp only [beLoadU32, List.getD_cons_zero, List.getD_cons_succ, BitVec.toNat_or,
          BitVec.toNat_shiftLeft, BitVec.toNat_setWidth, UInt8.toNat_toBitVec, Nat.shiftLeft_eq,
          Nat.reduceMul, byte]
        rw [Nat.mod_eq_of_lt (by omega), Nat.mod_eq_of_lt (by omega), Nat.mod_eq_of_lt (by omega)]
    _ = (b0.toNat * 2 ^ 8 + b1.toNat) * 2 ^ 16 ||| b2.toNat * 2 ^ 8 ||| b3.toNat := by
        have shift : b0.toNat * 2 ^ 24 + b1.toNat * 2 ^ 16 =
            (b0.toNat * 2 ^ 8 + b1.toNat) * 2 ^ 16 := by ring
        rw [or_eq_add _ _ 24 (by omega), shift]
    _ = ((b0.toNat * 2 ^ 8 + b1.toNat) * 2 ^ 8 + b2.toNat) * 2 ^ 8 ||| b3.toNat := by
        have shift : (b0.toNat * 2 ^ 8 + b1.toNat) * 2 ^ 16 + b2.toNat * 2 ^ 8 =
            ((b0.toNat * 2 ^ 8 + b1.toNat) * 2 ^ 8 + b2.toNat) * 2 ^ 8 := by ring
        rw [or_eq_add _ _ 16 (by omega), shift]
    _ = ((b0.toNat * 2 ^ 8 + b1.toNat) * 2 ^ 8 + b2.toNat) * 2 ^ 8 + b3.toNat :=
        or_eq_add _ _ 8 h3
    _ = b3.toNat + 256 * (b2.toNat + 256 * (b1.toNat + 256 * (b0.toNat + 256 * 0))) := by omega

/-! `recv` keeps the first 1024 bytes: more than any field of a status packet reaches. -/

theorem rx_load (documented : sm.Documented) (inside : offset + w ≤ buf.length)
    (small : offset + w ≤ rxbufSize) :
    (sm.swapBytesIfNeeded w (load host (buf.take rxbufSize) offset w)
      (hostIsLittleEndian host)).toNat = field buf offset w := by
  rw [swap_load documented, field_take small]
  rw [List.length_take]
  omega

theorem rx_load_byte (inside : offset + 1 ≤ buf.length) (small : offset + 1 ≤ rxbufSize) :
    (load host (buf.take rxbufSize) offset 1).toNat = field buf offset 1 := by
  rw [load_byte, field_take small]
  rw [List.length_take]
  omega

theorem rx_size {size : Nat} (small : size ≤ 1024) :
    size ≤ (buf.take rxbufSize).length ↔ size ≤ buf.length := by
  rw [List.length_take, rxbufSize]
  omega

/-- The type that the dispatch reads, where there are four bytes to read. -/
theorem rxPtype_eq {type : Nat} (positive : 0 < type) (fits : type < 2 ^ 32) :
    (if 4 ≤ (buf.take rxbufSize).length then beLoadU32 (buf.take rxbufSize) else 0) =
      (BitVec.ofNat 32 type : Word 4) ↔ 4 ≤ buf.length ∧ field buf 0 4 = type := by
  rw [← BitVec.toNat_inj, BitVec.toNat_ofNat, Nat.mod_eq_of_lt fits]
  split_ifs with long
  · rw [beLoadU32_toNat long, field_take (by decide)]
    exact (and_iff_right ((rx_size (by decide)).mp long)).symm
  · rw [rx_size (by decide)] at long
    constructor
    · intro zero
      exact absurd zero (Nat.ne_of_lt positive)
    · intro both
      exact absurd both.1 long

theorem receive_204 (documented : sm.Documented) (type : field buf 0 4 = 204)
    (long : 416 ≤ buf.length) : receive sm host buf =
      .ok (some ((RobotStatusPacket.ofBytes host (buf.take rxbufSize)).view sm host)) := by
  have found := (rxPtype_eq (by decide) (by decide)).mpr ⟨by omega, type⟩
  have whole : kStatus204PacketSize ≤ (buf.take rxbufSize).length := (rx_size (by decide)).mpr long
  have checked : ((RobotStatusPacket.ofBytes host (buf.take rxbufSize)).view sm host).packetType =
      kRobotStatusPacketType := by
    rw [← BitVec.toNat_inj]
    exact (rx_load documented (by omega) (by decide)).trans type
  rw [receive, if_pos ⟨found, whole⟩, decodeStatus204, decodeStatus,
    if_neg (Nat.not_lt.mpr whole), if_neg (not_not.mpr checked)]
  rfl

theorem receive_v3 (documented : sm.Documented) (type : field buf 0 4 = 202)
    (long : 388 ≤ buf.length) : receive sm host buf =
      .ok (some ((V3RobotStatusPacket.ofBytes host (buf.take rxbufSize)).view sm host)) := by
  have found := (rxPtype_eq (by decide) (by decide)).mpr ⟨by omega, type⟩
  have whole : kStatusV3PacketSize ≤ (buf.take rxbufSize).length := (rx_size (by decide)).mpr long
  have checked : ((V3RobotStatusPacket.ofBytes host (buf.take rxbufSize)).view sm host).packetType =
      kV3RobotStatusPacketType := by
    rw [← BitVec.toNat_inj]
    exact (rx_load documented (by omega) (by decide)).trans type
  rw [receive, found, if_neg fun other => absurd other.1 (by decide), if_pos ⟨rfl, whole⟩,
    decodeStatusV3, decodeStatus, if_neg (Nat.not_lt.mpr whole), if_neg (not_not.mpr checked)]
  rfl

/-- The dispatch drops every other datagram. -/
theorem receive_none (no204 : ¬(field buf 0 4 = 204 ∧ 416 ≤ buf.length))
    (noV3 : ¬(field buf 0 4 = 202 ∧ 388 ≤ buf.length)) : receive sm host buf = .ok none := by
  rw [receive, if_neg, if_neg]
  · rintro ⟨found, whole⟩
    exact noV3 ⟨((rxPtype_eq (by decide) (by decide)).mp found).2, (rx_size (by decide)).mp whole⟩
  · rintro ⟨found, whole⟩
    exact no204 ⟨((rxPtype_eq (by decide) (by decide)).mp found).2, (rx_size (by decide)).mp whole⟩

end Native

end AiroFanuc.Codec
