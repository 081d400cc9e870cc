import Katzenpost.Go.Map
import Katzenpost.Go.Bytes

set_option autoImplicit false

namespace Go

open Std

-- A self-delimiting encoding: the reader takes back exactly what was written
-- and leaves the rest of the input.
structure Coder (α : Type) where
  write : α → Bytes
  read : Bytes → Option (α × Bytes)
  law : ∀ value rest, read (write value ++ rest) = some (value, rest)

def encode {α : Type} (coder : Coder α) (value : α) : Bytes := coder.write value

def decode {α : Type} (coder : Coder α) (input : Bytes) : Option α :=
  match coder.read input with
  | some (value, []) => some value
  | _ => none

theorem decode_encode {α : Type} (coder : Coder α) (value : α) : decode coder (encode coder value) = some value := by
  have whole := coder.law value []
  rw [List.append_nil] at whole
  simp [decode, encode, whole]

def byteCoder : Coder UInt8 where
  write byte := [byte]
  read
    | [] => none
    | byte :: rest => some (byte, rest)
  law _ _ := rfl

def pairCoder {α β : Type} (left : Coder α) (right : Coder β) : Coder (α × β) where
  write value := left.write value.1 ++ right.write value.2
  read input := (left.read input).bind fun (a, rest) => (right.read rest).map fun (b, tail) => ((a, b), tail)
  law value rest := by simp [left.law, right.law]

def mapCoder {α β : Type} (coder : Coder α) (forth : β → α) (back : α → β) (inverse : ∀ b, back (forth b) = b) :
    Coder β where
  write value := coder.write (forth value)
  read input := (coder.read input).map fun (a, rest) => (back a, rest)
  law value rest := by simp [coder.law, inverse]

def wordCoder (width : Nat) : Coder (Fin (256 ^ width)) where
  write value := littleEndian width value
  read input :=
    if width ≤ input.length then
      some (⟨littleValue (input.take width) % 256 ^ width, Nat.mod_lt _ (Nat.pow_pos (by decide))⟩, input.drop width)
    else none
  law value rest := by
    have size := little_endian_length width value
    rw [if_pos (by simp [size]), List.take_left' size, List.drop_left' size]
    simp [little_value_endian, Nat.mod_eq_of_lt value.isLt]

def uint64Coder : Coder UInt64 :=
  mapCoder (wordCoder 8) (fun n => ⟨n.toNat, n.toNat_lt⟩) (fun n => UInt64.ofNat n) (fun _ => UInt64.ofNat_toNat)

def uint32Coder : Coder UInt32 :=
  mapCoder (wordCoder 4) (fun n => ⟨n.toNat, n.toNat_lt⟩) (fun n => UInt32.ofNat n) (fun _ => UInt32.ofNat_toNat)

def boolCoder : Coder Bool :=
  mapCoder byteCoder (fun b => if b then 1 else 0) (fun byte => byte == 1) (fun b => by cases b <;> rfl)

def writeList {α : Type} (coder : Coder α) : List α → Bytes
  | [] => [0]
  | head :: tail => 1 :: (coder.write head ++ writeList coder tail)

def readList {α : Type} (coder : Coder α) : Nat → Bytes → Option (List α × Bytes)
  | 0, _ => none
  | _ + 1, [] => none
  | fuel + 1, mark :: rest =>
      if mark = 0 then some ([], rest)
      else (coder.read rest).bind fun (head, more) => (readList coder fuel more).map fun (tail, left) => (head :: tail, left)

theorem read_write_list {α : Type} (coder : Coder α) (items : List α) (rest : Bytes) (fuel : Nat)
    (enough : items.length < fuel) : readList coder fuel (writeList coder items ++ rest) = some (items, rest) := by
  induction items generalizing fuel with
  | nil =>
      obtain ⟨fuel, rfl⟩ := Nat.exists_eq_add_of_lt enough
      rfl
  | cons head tail ih =>
      cases fuel with
      | zero => simp at enough
      | succ fuel =>
          have one : ¬ (1 : UInt8) = 0 := by decide
          simp only [writeList, List.cons_append, readList, if_neg one, List.append_assoc, coder.law, Option.bind_some]
          rw [ih fuel (by simpa using enough)]
          rfl

theorem write_list_length {α : Type} (coder : Coder α) (items : List α) :
    items.length < (writeList coder items).length := by
  induction items with
  | nil => simp [writeList]
  | cons head tail ih =>
      simp only [writeList, List.length_cons, List.length_append]
      omega

def listCoder {α : Type} (coder : Coder α) : Coder (List α) where
  write := writeList coder
  read input := readList coder input.length input
  law items rest := read_write_list coder items rest _ (by
    have bound := write_list_length coder items
    rw [List.length_append]
    omega)

def optionCoder {α : Type} (coder : Coder α) : Coder (Option α) :=
  mapCoder (listCoder coder) Option.toList List.head? (fun value => by cases value <;> rfl)

def writeCount (count : Nat) : Bytes := List.replicate (count / 255) 255 ++ [UInt8.ofNat (count % 255)]

def readCount : Bytes → Option (Nat × Bytes)
  | [] => none
  | byte :: rest =>
      if byte = 255 then (readCount rest).map fun (count, tail) => (count + 255, tail) else some (byte.toNat, rest)

theorem read_replicate_count (steps : Nat) (last : UInt8) (rest : Bytes) (short : last ≠ 255) :
    readCount (List.replicate steps 255 ++ last :: rest) = some (last.toNat + 255 * steps, rest) := by
  induction steps with
  | zero => simp [readCount, short]
  | succ steps ih =>
      have total : last.toNat + 255 * steps + 255 = last.toNat + 255 * (steps + 1) := by omega
      simp only [List.replicate_succ, List.cons_append, readCount, if_pos, ih, Option.map_some, total]

theorem read_write_count (count : Nat) (rest : Bytes) : readCount (writeCount count ++ rest) = some (count, rest) := by
  have small : count % 255 < 255 := Nat.mod_lt _ (by decide)
  have back : (UInt8.ofNat (count % 255)).toNat = count % 255 := by
    rw [UInt8.toNat_ofNat']
    omega
  have short : UInt8.ofNat (count % 255) ≠ 255 := by
    intro same
    rw [same] at back
    change 255 = _ at back
    omega
  rw [writeCount, List.append_assoc, List.singleton_append, read_replicate_count _ _ _ short, back, Nat.mod_add_div]

def bytesCoder : Coder Bytes where
  write data := writeCount data.length ++ data
  read input := (readCount input).bind fun (count, rest) =>
    if count ≤ rest.length then some (rest.take count, rest.drop count) else none
  law data rest := by
    rw [List.append_assoc, read_write_count, Option.bind_some]
    simp

def textCoder : Coder Text where
  write text := bytesCoder.write text.bytes
  read input := (bytesCoder.read input).bind fun (data, rest) =>
    if valid : validUtf8 data = true then some (⟨data, valid⟩, rest) else none
  law text rest := by
    rw [bytesCoder.law, Option.bind_some]
    exact dif_pos text.valid

section Maps

variable {κ v : Type} [Ord κ] [TransOrd κ] [LawfulEqOrd κ] [DecidableEq κ]

theorem of_list_to_list (m : GoMap κ v) : ExtTreeMap.ofList m.toList = m := by
  apply ExtTreeMap.ext_getElem?
  intro key
  cases found : m[key]? with
  | some value =>
      exact ExtTreeMap.getElem?_ofList_of_mem Std.compare_self ExtTreeMap.distinct_keys_toList
        (ExtTreeMap.mem_toList_iff_getElem?_eq_some.mpr found)
  | none =>
      apply ExtTreeMap.getElem?_ofList_of_contains_eq_false
      rw [← Bool.not_eq_true, List.contains_iff_mem, List.mem_map]
      rintro ⟨⟨_, value⟩, stored, rfl⟩
      rw [ExtTreeMap.mem_toList_iff_getElem?_eq_some, found] at stored
      cases stored

def mapOfCoder (keys : Coder κ) (values : Coder v) : Coder (GoMap κ v) :=
  mapCoder (listCoder (pairCoder keys values)) ExtTreeMap.toList (fun l => ExtTreeMap.ofList l) of_list_to_list

end Maps

end Go
