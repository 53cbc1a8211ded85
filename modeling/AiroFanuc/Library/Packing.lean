import AiroFanuc.Library.Numerals
import Mathlib.Data.List.OfFn
import Mathlib.Data.Nat.Basic
import Mathlib.Tactic.Ring

/-! Numbers as bytes of a fixed width, in either byte order, and records of numbers packed one
after the other with nothing between them. -/

namespace AiroFanuc.Library

/-- The `w` bytes of a number, the least significant first. -/
def leBytes : Nat → Nat → List UInt8
  | 0, _ => []
  | w + 1, n => UInt8.ofNat n :: leBytes w (n / 256)

def leValue : List UInt8 → Nat
  | [] => 0
  | b :: bytes => b.toNat + 256 * leValue bytes

/-- The `w` bytes of a number, the most significant first. -/
def beBytes (w n : Nat) : List UInt8 := (leBytes w n).reverse

def beValue (bytes : List UInt8) : Nat := leValue bytes.reverse

/-- The number whose bytes are those of `n` in the other order. -/
def swapBytes (w n : Nat) : Nat := leValue (beBytes w n)

variable {w n : Nat}

@[simp] theorem leBytes_length : (leBytes w n).length = w := by
  induction w generalizing n with
  | zero => rfl
  | succ w ih => rw [leBytes, List.length_cons, ih]

@[simp] theorem beBytes_length : (beBytes w n).length = w := by
  rw [beBytes, List.length_reverse, leBytes_length]

theorem leValue_leBytes (fits : n < 256 ^ w) : leValue (leBytes w n) = n := by
  induction w generalizing n with
  | zero =>
    rw [pow_zero] at fits
    rw [leBytes, leValue]
    omega
  | succ w ih =>
    have high : n / 256 < 256 ^ w := by
      rw [pow_succ, Nat.mul_comm] at fits
      exact Nat.div_lt_of_lt_mul fits
    have low : (UInt8.ofNat n).toNat = n % 256 := UInt8.toNat_ofNat'
    rw [leBytes, leValue, ih high, low]
    exact Nat.mod_add_div n 256

theorem leBytes_leValue (bytes : List UInt8) :
    leBytes bytes.length (leValue bytes) = bytes := by
  induction bytes with
  | nil => rfl
  | cons b bytes ih =>
    have small : b.toNat < 256 := b.toNat_lt
    have high : (b.toNat + 256 * leValue bytes) / 256 = leValue bytes := by omega
    have low : UInt8.ofNat (b.toNat + 256 * leValue bytes) = b := by
      apply UInt8.toNat_inj.mp
      rw [UInt8.toNat_ofNat']
      omega
    rw [List.length_cons, leBytes, leValue, high, ih, low]

theorem leValue_lt (bytes : List UInt8) : leValue bytes < 256 ^ bytes.length := by
  induction bytes with
  | nil => exact Nat.one_pos
  | cons b bytes ih =>
    have small : b.toNat < 256 := b.toNat_lt
    rw [leValue, List.length_cons, pow_succ]
    omega

theorem beValue_beBytes (fits : n < 256 ^ w) : beValue (beBytes w n) = n := by
  rw [beValue, beBytes, List.reverse_reverse]
  exact leValue_leBytes fits

theorem beValue_lt (bytes : List UInt8) : beValue bytes < 256 ^ bytes.length := by
  have bound := leValue_lt bytes.reverse
  rwa [List.length_reverse] at bound

theorem leBytes_swapBytes : leBytes w (swapBytes w n) = beBytes w n := by
  have whole := leBytes_leValue (beBytes w n)
  rwa [beBytes_length] at whole

theorem swapBytes_leValue (bytes : List UInt8) :
    swapBytes bytes.length (leValue bytes) = beValue bytes := by
  rw [swapBytes, beBytes, leBytes_leValue, beValue]

/-! A machine keeps a number in memory in its own byte order. -/

inductive ByteOrder
  | little
  | big
  deriving DecidableEq

namespace ByteOrder

def store : ByteOrder → Nat → Nat → List UInt8
  | little => leBytes
  | big => beBytes

def load : ByteOrder → List UInt8 → Nat
  | little => leValue
  | big => beValue

variable {order : ByteOrder}

theorem load_lt (bytes : List UInt8) : order.load bytes < 256 ^ bytes.length := by
  cases order with
  | little => exact leValue_lt bytes
  | big => exact beValue_lt bytes

end ByteOrder

/-! ### Fields at an offset, and fields one after the other -/

/-- The `w` bytes from an offset on. -/
def slice (bytes : List UInt8) (offset w : Nat) : List UInt8 := (bytes.drop offset).take w

theorem drop_take_middle {α : Type} {before middle after : List α} {k n : Nat}
    (starts : before.length = k) (size : middle.length = n) :
    ((before ++ middle ++ after).drop k).take n = middle := by
  rw [List.append_assoc, List.drop_left' starts, List.take_left' size]

theorem getD_end {α : Type} {before : List α} {k : Nat} (last d : α) (size : before.length = k) :
    (before ++ [last]).getD k d = last := by
  rw [List.getD_eq_getElem?_getD, List.getElem?_append_right (Nat.le_of_eq size), size,
    Nat.sub_self]
  rfl

/-- The numbers of the given widths, read one after the other. -/
def unpack : List Nat → List UInt8 → List Nat
  | [], _ => []
  | w :: widths, bytes => beValue (bytes.take w) :: unpack widths (bytes.drop w)

/-- The numbers of the given widths, written one after the other. -/
def pack : List Nat → List Nat → List UInt8
  | w :: widths, n :: values => beBytes w n ++ pack widths values
  | _, _ => []

variable {bytes rest : List UInt8} {widths values : List Nat} {offset : Nat}

theorem slice_length (inside : offset + w ≤ bytes.length) :
    (slice bytes offset w).length = w := by
  rw [slice, List.length_take, List.length_drop]
  omega

theorem slice_take {size : Nat} (inside : offset + w ≤ size) :
    slice (bytes.take size) offset w = slice bytes offset w := by
  rw [slice, slice, List.drop_take, List.take_take, Nat.min_eq_left (by omega)]

theorem slice_drop (start : Nat) :
    slice (bytes.drop start) offset w = slice bytes (start + offset) w := by
  rw [slice, slice, List.drop_drop]

theorem unpack_drop (k : Nat) : (unpack widths bytes).drop k =
    unpack (widths.drop k) (bytes.drop (widths.take k).sum) := by
  induction widths generalizing bytes k with
  | nil => rw [unpack, List.drop_nil, unpack]
  | cons w widths ih =>
    cases k with
    | zero => rfl
    | succ k =>
      rw [unpack, List.drop_succ_cons, List.drop_succ_cons, List.take_succ_cons, List.sum_cons, ih,
        List.drop_drop]

theorem unpack_take (k : Nat) : (unpack widths bytes).take k = unpack (widths.take k) bytes := by
  induction widths generalizing bytes k with
  | nil => rw [unpack, List.take_nil, unpack]
  | cons w widths ih =>
    cases k with
    | zero => rfl
    | succ k => rw [unpack, List.take_succ_cons, List.take_succ_cons, unpack, ih]

/-- One number of a record stands where the widths before it end. -/
theorem unpack_getD {k : Nat} (inside : k < widths.length) : (unpack widths bytes).getD k 0 =
    beValue (slice bytes (widths.take k).sum (widths.getD k 0)) := by
  induction widths generalizing bytes k with
  | nil => cases inside
  | cons w widths ih =>
    cases k with
    | zero => rfl
    | succ k =>
      rw [unpack, List.getD_cons_succ, List.getD_cons_succ, List.take_succ_cons, List.sum_cons,
        ih (Nat.lt_of_succ_lt_succ inside), slice_drop]

/-- Numbers of one width. -/
theorem unpack_replicate (k : Nat) : unpack (List.replicate k w) bytes =
    List.ofFn fun i : Fin k => beValue (slice bytes (w * i) w) := by
  induction k generalizing bytes with
  | zero => rfl
  | succ k ih =>
    rw [List.replicate_succ, unpack, ih, List.ofFn_succ]
    congr 2
    funext i
    rw [slice_drop, Fin.val_succ, Nat.mul_succ, Nat.add_comm]

theorem pack_append {more : List Nat} {others : List Nat} (same : widths.length = values.length) :
    pack (widths ++ more) (values ++ others) = pack widths values ++ pack more others := by
  induction widths generalizing values with
  | nil =>
    rw [List.length_nil] at same
    rw [List.eq_nil_of_length_eq_zero same.symm]
    rfl
  | cons w widths ih =>
    cases values with
    | nil => cases same
    | cons n values =>
      rw [List.cons_append, List.cons_append, pack, pack, ih (Nat.succ.inj same),
        List.append_assoc]

theorem pack_replicate (w : Nat) (values : List Nat) :
    pack (List.replicate values.length w) values = values.flatMap (beBytes w) := by
  induction values with
  | nil => rfl
  | cons n values ih =>
    rw [List.length_cons, List.replicate_succ, pack, ih, List.flatMap_cons]

/-- What is packed is read back, whatever follows it. -/
theorem unpack_pack (fit : List.Forall₂ (fun w n => n < 256 ^ w) widths values) :
    unpack widths (pack widths values ++ rest) = values := by
  induction fit with
  | nil => rfl
  | cons first _ ih =>
    rw [unpack, pack, List.append_assoc, List.take_left' beBytes_length,
      List.drop_left' beBytes_length, ih, beValue_beBytes first]

theorem pack_length (same : widths.length = values.length) :
    (pack widths values).length = widths.sum := by
  induction widths generalizing values with
  | nil => cases values <;> rfl
  | cons w widths ih =>
    cases values with
    | nil => cases same
    | cons n values =>
      rw [pack, List.length_append, beBytes_length, List.sum_cons, ih (Nat.succ.inj same)]

end AiroFanuc.Library
