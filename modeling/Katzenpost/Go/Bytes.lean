import Mathlib

set_option autoImplicit false

namespace Go

open Std

abbrev Bytes := List UInt8

def ascii (s : String) : Bytes := s.toList.map fun c => UInt8.ofNat c.toNat

-- utf8.Valid as an automaton. Its state is the number of continuation bytes
-- still to come and the range of the next one.
def utf8Lead (a : UInt8) : Option (Nat × UInt8 × UInt8) :=
  if a < 0x80 then some (0, 0x80, 0xbf)
  else if a < 0xc2 then none
  else if a < 0xe0 then some (1, 0x80, 0xbf)
  else if a = 0xe0 then some (2, 0xa0, 0xbf)
  else if a = 0xed then some (2, 0x80, 0x9f)
  else if a < 0xf0 then some (2, 0x80, 0xbf)
  else if a = 0xf0 then some (3, 0x90, 0xbf)
  else if a < 0xf4 then some (3, 0x80, 0xbf)
  else if a = 0xf4 then some (3, 0x80, 0x8f)
  else none

def utf8Step : Nat × UInt8 × UInt8 → UInt8 → Option (Nat × UInt8 × UInt8)
  | (0, _, _), byte => utf8Lead byte
  | (pending + 1, low, high), byte => if low ≤ byte ∧ byte ≤ high then some (pending, 0x80, 0xbf) else none

def utf8From (state : Nat × UInt8 × UInt8) : Bytes → Bool
  | [] => state.1 = 0
  | byte :: rest =>
      match utf8Step state byte with
      | none => false
      | some next => utf8From next rest

def validUtf8 (bytes : Bytes) : Bool := utf8From (0, 0x80, 0xbf) bytes

structure Text where
  bytes : Bytes
  valid : validUtf8 bytes = true
deriving DecidableEq

theorem text_ext (a b : Text) (same : a.bytes = b.bytes) : a = b := by
  cases a
  cases b
  simpa using same

def littleEndian : Nat → Nat → Bytes
  | 0, _ => []
  | width + 1, n => UInt8.ofNat (n % 256) :: littleEndian width (n / 256)

def littleValue : Bytes → Nat
  | [] => 0
  | byte :: rest => byte.toNat + 256 * littleValue rest

def bigEndian (width n : Nat) : Bytes := (littleEndian width n).reverse

def bigValue (bytes : Bytes) : Nat := littleValue bytes.reverse

theorem little_endian_length (width n : Nat) : (littleEndian width n).length = width := by
  induction width generalizing n with
  | zero => rfl
  | succ width ih => simp [littleEndian, ih]

theorem little_value_endian (width n : Nat) : littleValue (littleEndian width n) = n % 256 ^ width := by
  induction width generalizing n with
  | zero => simp [littleEndian, littleValue, Nat.mod_one]
  | succ width ih =>
      have head : (UInt8.ofNat (n % 256)).toNat = n % 256 :=
        UInt8.toNat_ofNat_of_lt' (Nat.mod_lt _ (by decide))
      rw [littleEndian, littleValue, head, ih, Nat.pow_succ', Nat.mod_mul]

theorem big_endian_length (width n : Nat) : (bigEndian width n).length = width := by
  rw [bigEndian, List.length_reverse, little_endian_length]

theorem big_value_endian (width n : Nat) : bigValue (bigEndian width n) = n % 256 ^ width := by
  rw [bigValue, bigEndian, List.reverse_reverse, little_value_endian]

theorem little_endian_injective (width a b : Nat) (boundA : a < 256 ^ width) (boundB : b < 256 ^ width)
    (same : littleEndian width a = littleEndian width b) : a = b := by
  have values := congrArg littleValue same
  rwa [little_value_endian, little_value_endian, Nat.mod_eq_of_lt boundA, Nat.mod_eq_of_lt boundB] at values

def putUint32LE (n : UInt32) : Bytes := littleEndian 4 n.toNat

def putUint64LE (n : UInt64) : Bytes := littleEndian 8 n.toNat

def putUint64BE (n : UInt64) : Bytes := bigEndian 8 n.toNat

-- binary.BigEndian.Uint64 of the first eight bytes. The source slices first,
-- which fails on a shorter value; callers test the length where it does.
def uint64BE (bytes : Bytes) : UInt64 := UInt64.ofNat (bigValue (bytes.take 8))

theorem uint64BE_put (n : UInt64) (rest : Bytes) : uint64BE (putUint64BE n ++ rest) = n := by
  have bound : n.toNat < 256 ^ 8 := n.toNat_lt
  have front : (putUint64BE n ++ rest).take 8 = putUint64BE n := by
    rw [List.take_append_of_le_length (by simp [putUint64BE, big_endian_length]), putUint64BE]
    exact List.take_of_length_le (by rw [big_endian_length])
  rw [uint64BE, front, putUint64BE, big_value_endian, Nat.mod_eq_of_lt bound, UInt64.ofNat_toNat]

def bytesLE (a b : Bytes) : Bool := (compare a b).isLE

theorem bytes_le_total (a b : Bytes) : bytesLE a b ∨ bytesLE b a := by
  unfold bytesLE
  rcases order : compare a b with _ | _ | _
  · exact Or.inl rfl
  · exact Or.inl rfl
  · right
    rw [@OrientedCmp.eq_swap Bytes compare _ b a, order]
    rfl

theorem bytes_le_trans (a b c : Bytes) (left : bytesLE a b) (right : bytesLE b c) : bytesLE a c :=
  @TransCmp.isLE_trans Bytes compare _ a b c left right

theorem bytes_le_antisymm (a b : Bytes) (left : bytesLE a b) (right : bytesLE b a) : a = b :=
  @LawfulEqCmp.eq_of_compare Bytes compare _ a b (OrientedCmp.isLE_antisymm left right)

end Go
