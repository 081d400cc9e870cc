import Katzenpost.Go.Call

set_option autoImplicit false

namespace Go

structure Fixed (n : Nat) where
  bytes : Bytes
  size : bytes.length = n
deriving DecidableEq

theorem fixed_ext (n : Nat) (a b : Fixed n) (same : a.bytes = b.bytes) : a = b := by
  cases a
  cases b
  simpa using same

def Fixed.copy (n : Nat) (source : Bytes) : Fixed n := ⟨copied n source, copied_length n source⟩

theorem copied_front (n : Nat) (front rest : Bytes) (sized : front.length = n) : copied n (front ++ rest) = front := by
  have full : n - (front ++ rest).length = 0 := by
    rw [List.length_append]
    omega
  rw [copied, List.take_left' sized, full]
  exact List.append_nil _

theorem fixed_copy_front (n : Nat) (a : Fixed n) (rest : Bytes) : Fixed.copy n (a.bytes ++ rest) = a :=
  fixed_ext n _ _ (copied_front n a.bytes rest a.size)

theorem fixed_copy_bytes (n : Nat) (a : Fixed n) : Fixed.copy n a.bytes = a := by
  have whole := fixed_copy_front n a []
  rwa [List.append_nil] at whole

def zeros (n : Nat) : Bytes := List.replicate n 0

@[simp] theorem zeros_length (n : Nat) : (zeros n).length = n := List.length_replicate

def putUint32BE (n : UInt32) : Bytes := bigEndian 4 n.toNat

def uint32BE (bytes : Bytes) : UInt32 := UInt32.ofNat (bigValue (bytes.take 4))

theorem put_uint32BE_length (n : UInt32) : (putUint32BE n).length = 4 := big_endian_length 4 n.toNat

theorem uint32BE_put (n : UInt32) (rest : Bytes) : uint32BE (putUint32BE n ++ rest) = n := by
  have bound : n.toNat < 256 ^ 4 := n.toNat_lt
  have front : (putUint32BE n ++ rest).take 4 = putUint32BE n := List.take_left' (put_uint32BE_length n)
  rw [uint32BE, front, putUint32BE, big_value_endian, Nat.mod_eq_of_lt bound, UInt32.ofNat_toNat]

def part (b : Bytes) (off n : Nat) : Bytes := (b.drop off).take n

theorem part_length (b : Bytes) (off n : Nat) (inside : off + n ≤ b.length) : (part b off n).length = n := by
  rw [part, List.length_take, List.length_drop]
  omega

theorem part_middle (front middle back : Bytes) (off n : Nat) (starts : front.length = off) (ends : middle.length = n) :
    part (front ++ (middle ++ back)) off n = middle := by
  rw [part, ← starts, List.drop_left, ← ends, List.take_left]

def copyInto (buffer source : Bytes) : Bytes := source.take buffer.length ++ buffer.drop source.length

theorem copy_into_length (buffer source : Bytes) : (copyInto buffer source).length = buffer.length := by
  rw [copyInto, List.length_append, List.length_take, List.length_drop]
  omega

theorem copy_into_whole (buffer source : Bytes) (same : source.length = buffer.length) : copyInto buffer source = source := by
  rw [copyInto, ← same, List.take_length, same, List.drop_length, List.append_nil]

def xor (a b : Bytes) : Bytes := List.zipWith (· ^^^ ·) a b

@[simp] theorem xor_length (a b : Bytes) : (xor a b).length = min a.length b.length := List.length_zipWith

theorem xor_append (a b c d : Bytes) (same : a.length = c.length) : xor (a ++ b) (c ++ d) = xor a c ++ xor b d :=
  List.zipWith_append same

theorem xor_cancel (a key : Bytes) (covered : a.length ≤ key.length) : xor (xor a key) key = a := by
  induction a generalizing key with
  | nil => rfl
  | cons byte rest ih =>
      cases key with
      | nil => exact absurd covered (Nat.not_succ_le_zero _)
      | cons head tail =>
          have tailed : xor (xor rest tail) tail = rest := ih tail (Nat.le_of_succ_le_succ covered)
          have headed : byte ^^^ head ^^^ head = byte := by
            rw [UInt8.xor_assoc, UInt8.xor_self, UInt8.xor_zero]
          exact congrArg₂ List.cons headed tailed

theorem xor_comm (a b : Bytes) : xor a b = xor b a := by
  unfold xor
  rw [List.zipWith_comm]
  congr 1
  funext x y
  exact UInt8.xor_comm y x

theorem xor_zeros (key : Bytes) : xor (zeros key.length) key = key := by
  induction key with
  | nil => rfl
  | cons head tail ih => exact congrArg₂ List.cons UInt8.zero_xor ih

-- The padding that one mix adds, computed by the sender: the tail of the
-- keystream with the padding of the earlier mixes folded into its front.
def foldPadding (previous tail : Bytes) : Bytes := xor (tail.take previous.length) previous ++ tail.drop previous.length

theorem fold_padding_length (previous tail : Bytes) (longer : previous.length ≤ tail.length) :
    (foldPadding previous tail).length = tail.length := by
  simp only [foldPadding, List.length_append, xor_length, List.length_take, List.length_drop]
  omega

theorem fold_padding_eq (previous tail : Bytes) (n : Nat) (sized : tail.length = previous.length + n) :
    foldPadding previous tail = xor (previous ++ zeros n) tail := by
  have front : previous.length = (tail.take previous.length).length := by
    rw [List.length_take]
    omega
  have back : (tail.drop previous.length).length = n := by
    rw [List.length_drop]
    omega
  calc
    foldPadding previous tail
        = xor previous (tail.take previous.length) ++ xor (zeros n) (tail.drop previous.length) := by
          rw [foldPadding, xor_comm previous, ← back, xor_zeros]
    _ = xor (previous ++ zeros n) (tail.take previous.length ++ tail.drop previous.length) :=
          (xor_append _ _ _ _ front).symm
    _ = xor (previous ++ zeros n) tail := by rw [List.take_append_drop]

theorem shifted_decryption (block previous front tail : Bytes) (n : Nat) (covers : front.length = block.length)
    (sized : tail.length = previous.length + n) :
    xor (xor block front ++ previous ++ zeros n) (front ++ tail) = block ++ foldPadding previous tail := by
  have encrypted : (xor block front).length = front.length := by
    rw [xor_length, covers, Nat.min_self]
  rw [List.append_assoc, xor_append _ _ _ _ encrypted, xor_cancel block front (Nat.le_of_eq covers.symm),
    fold_padding_eq previous tail n sized]

end Go
