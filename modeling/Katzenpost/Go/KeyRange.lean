import Katzenpost.Go.Framing
import Katzenpost.Go.Map

set_option autoImplicit false

namespace Go

abbrev Database := GoMap Bytes Bytes

def Database.deleteRange (db : Database) (start limit : Bytes) : Database :=
  db.filter fun key _ => !(bytesLE start key && !bytesLE limit key)

theorem lookup_delete_range (db : Database) (start limit key : Bytes) :
    (db.deleteRange start limit)[key]? = if bytesLE start key && !bytesLE limit key then none else db[key]? := by
  rw [Database.deleteRange, Std.ExtTreeMap.getElem?_filter']
  cases bytesLE start key && !bytesLE limit key <;> cases db[key]? <;> rfl

section Order

theorem little_value_append (a b : Bytes) : littleValue (a ++ b) = littleValue a + 256 ^ a.length * littleValue b := by
  induction a with
  | nil => simp [littleValue]
  | cons byte rest ih =>
      rw [List.cons_append, littleValue, littleValue, ih, List.length_cons, Nat.pow_succ]
      ring

theorem big_value_cons (byte : UInt8) (rest : Bytes) : bigValue (byte :: rest) = byte.toNat * 256 ^ rest.length + bigValue rest := by
  rw [bigValue, List.reverse_cons, little_value_append, List.length_reverse, littleValue, littleValue, bigValue]
  ring

theorem compare_bytes_cons (x y : UInt8) (xs ys : Bytes) :
    compare (x :: xs) (y :: ys) = (compare x.toNat y.toNat).then (compare xs ys) := by
  rw [List.compare_eq_compareLex, List.compareLex_cons_cons]
  have order : compare x y = compare x.toNat y.toNat := by
    simp only [compare, compareOfLessAndEq, UInt8.lt_iff_toNat_lt, UInt8.toNat_inj]
  rw [order]

theorem compare_big_value (a b : Bytes) (same : a.length = b.length) : compare a b = compare (bigValue a) (bigValue b) := by
  induction a generalizing b with
  | nil =>
      rw [List.eq_nil_of_length_eq_zero same.symm]
      rfl
  | cons x xs ih =>
      cases b with
      | nil => cases same
      | cons y ys =>
          have sizes : xs.length = ys.length := Nat.succ.inj same
          have boundX := big_value_lt xs
          have boundY := big_value_lt ys
          rw [← sizes] at boundY
          rw [compare_bytes_cons, ih ys sizes, big_value_cons, big_value_cons, ← sizes]
          rcases Nat.lt_trichotomy x.toNat y.toNat with less | equal | more
          · have below : x.toNat * 256 ^ xs.length + bigValue xs < y.toNat * 256 ^ xs.length + bigValue ys := by
              have step := Nat.mul_le_mul_right (256 ^ xs.length) (Nat.succ_le_of_lt less)
              rw [Nat.succ_mul] at step
              omega
            rw [Nat.compare_eq_lt.mpr less, Nat.compare_eq_lt.mpr below]
            rfl
          · rw [equal, Nat.compare_eq_eq.mpr rfl, Ordering.eq_then]
            rcases Nat.lt_trichotomy (bigValue xs) (bigValue ys) with less | same | more
            · rw [Nat.compare_eq_lt.mpr less, Nat.compare_eq_lt.mpr (by omega)]
            · rw [same, Nat.compare_eq_eq.mpr rfl, Nat.compare_eq_eq.mpr rfl]
            · rw [Nat.compare_eq_gt.mpr more, Nat.compare_eq_gt.mpr (by omega)]
          · have above : y.toNat * 256 ^ xs.length + bigValue ys < x.toNat * 256 ^ xs.length + bigValue xs := by
              have step := Nat.mul_le_mul_right (256 ^ xs.length) (Nat.succ_le_of_lt more)
              rw [Nat.succ_mul] at step
              omega
            rw [Nat.compare_eq_gt.mpr more, Nat.compare_eq_gt.mpr above]
            rfl

theorem compare_append (a b x y : Bytes) (same : a.length = b.length) :
    compare (a ++ x) (b ++ y) = (compare a b).then (compare x y) := by
  induction a generalizing b with
  | nil =>
      rw [List.eq_nil_of_length_eq_zero same.symm]
      rfl
  | cons p ps ih =>
      cases b with
      | nil => cases same
      | cons q qs =>
          rw [List.cons_append, List.cons_append, compare_bytes_cons, compare_bytes_cons, ih qs (Nat.succ.inj same), Ordering.then_assoc]

theorem numbered_key_le (n k : UInt64) (rest : Bytes) : bytesLE (putUint64BE n) (putUint64BE k ++ rest) = decide (n ≤ k) := by
  have size : ∀ m : UInt64, (putUint64BE m).length = 8 := fun m => big_endian_length 8 m.toNat
  have value : ∀ m : UInt64, bigValue (putUint64BE m) = m.toNat := fun m => by
    have bound : m.toNat < 256 ^ 8 := m.toNat_lt
    rw [putUint64BE, big_value_endian, Nat.mod_eq_of_lt bound]
  have order := compare_append (putUint64BE n) (putUint64BE k) [] rest (by rw [size, size])
  rw [List.append_nil, compare_big_value (putUint64BE n) (putUint64BE k) (by rw [size, size]), value, value] at order
  rw [bytesLE, order]
  rcases Nat.lt_trichotomy n.toNat k.toNat with less | equal | more
  · rw [Nat.compare_eq_lt.mpr less, decide_eq_true (UInt64.le_iff_toNat_le.mpr less.le)]
    rfl
  · rw [equal, Nat.compare_eq_eq.mpr rfl, decide_eq_true (UInt64.le_iff_toNat_le.mpr equal.le)]
    cases rest <;> rfl
  · rw [Nat.compare_eq_gt.mpr more, decide_eq_false (fun le => absurd (UInt64.le_iff_toNat_le.mp le) (by omega))]
    rfl

end Order

end Go
