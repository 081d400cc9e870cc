import Katzenpost.Go.Framing
import Katzenpost.Go.Slice

set_option autoImplicit false

namespace Go

-- A field of a binary layout that always takes the same number of bytes: what
-- is written is read again, and what is read is written as the bytes it was
-- read from.
structure ByteField (α : Type) where
  size : Nat
  put : α → Bytes
  get : Bytes → α
  put_length : ∀ a, (put a).length = size
  get_put : ∀ a rest, get (put a ++ rest) = a
  put_get : ∀ bytes, size ≤ bytes.length → put (get bytes) = bytes.take size

namespace ByteField

variable {α β : Type}

def byte : ByteField UInt8 where
  size := 1
  put a := [a]
  get bytes := bytes.getD 0 0
  put_length _ := rfl
  get_put _ _ := rfl
  put_get bytes sized := by
    cases bytes with
    | nil => exact absurd sized (by decide)
    | cons head rest => rfl

def word32 : ByteField UInt32 where
  size := 4
  put := putUint32BE
  get := uint32BE
  put_length := put_uint32BE_length
  get_put := uint32BE_put
  put_get := put_uint32BE_read

def word64 : ByteField UInt64 where
  size := 8
  put := putUint64BE
  get := uint64BE
  put_length n := big_endian_length 8 n.toNat
  get_put := uint64BE_put
  put_get := put_uint64BE_read

def array (n : Nat) : ByteField (Fixed n) where
  size := n
  put a := a.bytes
  get bytes := Fixed.copy n bytes
  put_length a := a.size
  get_put := fixed_copy_front n
  put_get bytes sized := by
    have full : n - bytes.length = 0 := by omega
    change copied n bytes = bytes.take n
    rw [copied, full]
    exact List.append_nil _

def pair (F : ByteField α) (G : ByteField β) : ByteField (α × β) where
  size := F.size + G.size
  put p := F.put p.1 ++ G.put p.2
  get bytes := (F.get bytes, G.get (bytes.drop F.size))
  put_length p := by
    rw [List.length_append, F.put_length, G.put_length]
  get_put p rest := by
    rw [List.append_assoc, F.get_put, List.drop_left' (F.put_length p.1), G.get_put]
  put_get bytes sized := by
    have second : G.size ≤ (bytes.drop F.size).length := by
      rw [List.length_drop]
      omega
    rw [F.put_get bytes (by omega), G.put_get _ second, List.take_add]

theorem front_iff (F : ByteField α) (bytes rest : Bytes) (a : α) :
    bytes = F.put a ++ rest ↔ F.size ≤ bytes.length ∧ a = F.get bytes ∧ rest = bytes.drop F.size := by
  constructor
  · intro same
    subst same
    refine ⟨?_, (F.get_put a rest).symm, (List.drop_left' (F.put_length a)).symm⟩
    rw [List.length_append, F.put_length]
    exact Nat.le_add_right _ _
  · intro ⟨sized, value, tail⟩
    rw [value, tail, F.put_get bytes sized, List.take_append_drop]

theorem whole_iff (F : ByteField α) (bytes : Bytes) (a : α) : bytes = F.put a ↔ bytes.length = F.size ∧ a = F.get bytes := by
  have front := F.front_iff bytes [] a
  rw [List.append_nil] at front
  rw [front]
  constructor
  · intro ⟨sized, value, tail⟩
    refine ⟨Nat.le_antisymm ?_ sized, value⟩
    exact List.drop_eq_nil_iff.mp tail.symm
  · intro ⟨sized, value⟩
    exact ⟨Nat.le_of_eq sized.symm, value, (List.drop_eq_nil_iff.mpr (Nat.le_of_eq sized)).symm⟩

theorem get_part (F : ByteField α) (bytes : Bytes) (off : Nat) (inside : off + F.size ≤ bytes.length) :
    F.get (part bytes off F.size) = F.get (bytes.drop off) := by
  have sized : F.size ≤ (bytes.drop off).length := by
    rw [List.length_drop]
    omega
  have read := F.get_put (F.get (bytes.drop off)) []
  rwa [List.append_nil, F.put_get _ sized] at read

end ByteField

section Returned

variable {ε α β : Type}

@[simp] theorem returns_outcome_iff (a b : α) : (Reading.returns a : Reading ε α).outcome = .returns b ↔ a = b := by
  constructor
  · intro same
    cases same
    rfl
  · intro same
    rw [same]
    rfl

@[simp] theorem fails_not_returned (e : ε) (a : α) : (Reading.fails e : Reading ε α).outcome ≠ .returns a := fun same => nomatch same

@[simp] theorem panics_not_returned (a : α) : (Reading.panics : Reading ε α).outcome ≠ .returns a := fun same => nomatch same

theorem returned_bind_iff (x : Reading ε α) (f : α → Reading ε β) (b : β) :
    (x >>= f).outcome = .returns b ↔ ∃ a, x.outcome = .returns a ∧ (f a).outcome = .returns b := by
  obtain ⟨outside, outcome⟩ := x
  match outcome with
  | none => exact ⟨fun same => (nomatch same), fun ⟨_, same, _⟩ => (nomatch same)⟩
  | some (.error e) => exact ⟨fun same => (nomatch same), fun ⟨_, same, _⟩ => (nomatch same)⟩
  | some (.ok a) =>
      constructor
      · exact fun same => ⟨a, rfl, same⟩
      · rintro ⟨_, same, returned⟩
        cases same
        exact returned

end Returned

section Slices

variable {ε : Type} (s : Slice)

theorem span_field {α : Type} (F : ByteField α) (lo hi : Nat) (sized : lo + F.size = hi) (inside : hi ≤ s.len) :
    ∃ read : Slice, (s.span lo hi : Reading ε Slice) = .returns read ∧ F.get read.bytes = F.get (s.bytes.drop lo) := by
  subst sized
  obtain ⟨read, same, bytes⟩ := @span_read ε s lo (lo + F.size) (Nat.le_add_right _ _) inside
  refine ⟨read, same, ?_⟩
  rw [bytes, Nat.add_sub_cancel_left]
  exact F.get_part s.bytes lo (by rw [slice_bytes_length]; exact inside)

end Slices

section Decoders

variable {ε α γ : Type} (F : ByteField α) (e : ε)

def decodeWhole (next : α → Reading ε γ) (bytes : Bytes) : Reading ε γ :=
  if bytes.length ≠ F.size then .fails e else next (F.get bytes)

def decodeFront (next : α → Bytes → Reading ε γ) (bytes : Bytes) : Reading ε γ :=
  if bytes.length < F.size then .fails e else next (F.get bytes) (bytes.drop F.size)

theorem decodes_whole (next : α → Reading ε γ) (s : Slice) (parsed : Reading ε γ)
    (wrong : s.len ≠ F.size → parsed = .fails e) (right : s.len = F.size → parsed = next (F.get s.bytes)) :
    parsed = decodeWhole F e next s.bytes := by
  rw [decodeWhole, slice_bytes_length]
  split
  · exact wrong (by assumption)
  · exact right (not_not.mp (by assumption))

theorem decodes_front (next : α → Bytes → Reading ε γ) (s : Slice) (parsed : Reading ε γ)
    (short : s.len < F.size → parsed = .fails e)
    (long : F.size ≤ s.len → parsed = next (F.get s.bytes) (s.bytes.drop F.size)) : parsed = decodeFront F e next s.bytes := by
  rw [decodeFront, slice_bytes_length]
  split
  · exact short (by assumption)
  · exact long (Nat.le_of_not_lt (by assumption))

theorem decode_whole_iff (next : α → Reading ε γ) (bytes : Bytes) (c : γ) :
    (decodeWhole F e next bytes).outcome = .returns c ↔ ∃ a, bytes = F.put a ∧ (next a).outcome = .returns c := by
  rw [decodeWhole]
  by_cases sized : bytes.length = F.size
  · rw [if_neg (not_not.mpr sized)]
    constructor
    · exact fun same => ⟨_, (F.whole_iff _ _).mpr ⟨sized, rfl⟩, same⟩
    · rintro ⟨a, same, returned⟩
      rwa [← ((F.whole_iff _ _).mp same).2]
  · rw [if_pos sized]
    refine ⟨fun same => (nomatch same), ?_⟩
    rintro ⟨a, same, _⟩
    exact absurd ((F.whole_iff _ _).mp same).1 sized

theorem decode_front_iff (next : α → Bytes → Reading ε γ) (bytes : Bytes) (c : γ) :
    (decodeFront F e next bytes).outcome = .returns c ↔
      ∃ a payload, bytes = F.put a ++ payload ∧ (next a payload).outcome = .returns c := by
  rw [decodeFront]
  by_cases short : bytes.length < F.size
  · rw [if_pos short]
    refine ⟨fun same => (nomatch same), ?_⟩
    rintro ⟨a, payload, same, _⟩
    exact absurd ((F.front_iff _ _ _).mp same).1 (Nat.not_le.mpr short)
  · rw [if_neg short]
    constructor
    · exact fun same => ⟨_, _, (F.front_iff _ _ _).mpr ⟨Nat.le_of_not_lt short, rfl, rfl⟩, same⟩
    · rintro ⟨a, payload, same, returned⟩
      obtain ⟨_, value, tail⟩ := (F.front_iff _ _ _).mp same
      rwa [← value, ← tail]

end Decoders

end Go
