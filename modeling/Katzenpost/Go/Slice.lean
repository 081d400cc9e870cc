import Katzenpost.Go.Block

set_option autoImplicit false

namespace Go

structure Slice where
  cells : Bytes
  len : Nat
  fits : len ≤ cells.length
deriving DecidableEq

def Slice.bytes (s : Slice) : Bytes := s.cells.take s.len

theorem slice_bytes_length (s : Slice) : s.bytes.length = s.len := by
  rw [Slice.bytes, List.length_take, Nat.min_eq_left s.fits]

-- A computation that reads slices. A slice expression may reach behind the
-- length of the slice up to its capacity, which is recorded.
structure Reading (ε α : Type) where
  outside : Bool
  outcome : Call ε α
deriving DecidableEq

namespace Reading

variable {ε α β : Type}

def returns (a : α) : Reading ε α := ⟨false, .returns a⟩

def fails (e : ε) : Reading ε α := ⟨false, .fails e⟩

def panics : Reading ε α := ⟨false, .panics⟩

def bind (x : Reading ε α) (f : α → Reading ε β) : Reading ε β :=
  match x.outcome with
  | none => ⟨x.outside, none⟩
  | some (.error e) => ⟨x.outside, some (.error e)⟩
  | some (.ok a) => ⟨x.outside || (f a).outside, (f a).outcome⟩

instance : Monad (Reading ε) where
  pure := returns
  bind := bind

def Sound (x : Reading ε α) : Prop := x.outside = false ∧ x.outcome ≠ .panics

@[simp] theorem sound_returns (a : α) : (returns a : Reading ε α).Sound := ⟨rfl, fun same => nomatch same⟩

@[simp] theorem sound_fails (e : ε) : (fails e : Reading ε α).Sound := ⟨rfl, fun same => nomatch same⟩

@[simp] theorem not_sound_panics : ¬ (panics : Reading ε α).Sound := fun sound => sound.2 rfl

@[simp] theorem returned_bind (a : α) (f : α → Reading ε β) : (returns a >>= f) = f a := rfl

theorem sound_of_bind (x : Reading ε α) (f : α → Reading ε β) (sound : (x >>= f).Sound) : x.Sound := by
  change (x.bind f).Sound at sound
  obtain ⟨outside, outcome⟩ := x
  match outcome with
  | none => exact absurd rfl sound.2
  | some (.error e) => exact ⟨sound.1, fun same => nomatch same⟩
  | some (.ok a) => exact ⟨(Bool.or_eq_false_iff.mp sound.1).1, fun same => nomatch same⟩

end Reading

section Access

variable {ε : Type} (s : Slice)

def Slice.index (i : Nat) : Reading ε UInt8 :=
  if i < s.len then .returns (s.cells.getD i 0) else .panics

def Slice.span (lo hi : Nat) : Reading ε Slice :=
  if inside : lo ≤ hi ∧ hi ≤ s.cells.length then
    ⟨decide (s.len < hi), .returns ⟨s.cells.drop lo, hi - lo, by rw [List.length_drop]; omega⟩⟩
  else .panics

def Slice.rest (lo : Nat) : Reading ε Slice :=
  if inside : lo ≤ s.len then
    .returns ⟨s.cells.drop lo, s.len - lo, by have fits := s.fits; rw [List.length_drop]; omega⟩
  else .panics

theorem index_inside (i : Nat) (inside : i < s.len) : (s.index i : Reading ε UInt8) = .returns (s.cells.getD i 0) :=
  if_pos inside

theorem span_inside (lo hi : Nat) (ordered : lo ≤ hi) (inside : hi ≤ s.len) :
    ∃ part : Slice, (s.span lo hi : Reading ε Slice) = .returns part ∧ part.len = hi - lo ∧ part.cells = s.cells.drop lo := by
  have within : lo ≤ hi ∧ hi ≤ s.cells.length := ⟨ordered, Nat.le_trans inside s.fits⟩
  refine ⟨⟨s.cells.drop lo, hi - lo, by rw [List.length_drop]; omega⟩, ?_, rfl, rfl⟩
  rw [Slice.span, dif_pos within, decide_eq_false (Nat.not_lt.mpr inside)]
  rfl

theorem span_outside (lo hi : Nat) (outside : s.len < hi) : ¬ (s.span lo hi : Reading ε Slice).Sound := by
  intro sound
  rw [Slice.span] at sound
  split at sound
  · exact absurd sound.1 (by simp [outside])
  · exact Reading.not_sound_panics sound

theorem rest_inside (lo : Nat) (inside : lo ≤ s.len) :
    ∃ part : Slice, (s.rest lo : Reading ε Slice) = .returns part ∧ part.len = s.len - lo ∧ part.cells = s.cells.drop lo :=
  ⟨_, dif_pos inside, rfl, rfl⟩

theorem rest_bytes (lo : Nat) (part : Slice) (sized : part.len = s.len - lo) (same : part.cells = s.cells.drop lo) :
    part.bytes = s.bytes.drop lo := by
  rw [Slice.bytes, Slice.bytes, sized, same, List.drop_take]

theorem slice_getD (i : Nat) (inside : i < s.len) : s.cells.getD i 0 = s.bytes.getD i 0 := by
  rw [Slice.bytes, List.getD_eq_getElem?_getD, List.getD_eq_getElem?_getD, List.getElem?_take_of_lt inside]

theorem span_read (lo hi : Nat) (ordered : lo ≤ hi) (inside : hi ≤ s.len) :
    ∃ read : Slice, (s.span lo hi : Reading ε Slice) = .returns read ∧ read.bytes = part s.bytes lo (hi - lo) := by
  obtain ⟨read, same, sized, cells⟩ := @span_inside ε s lo hi ordered inside
  refine ⟨read, same, ?_⟩
  rw [Slice.bytes, Slice.bytes, sized, cells, part, List.drop_take, List.take_take, Nat.min_eq_left (by omega)]

theorem rest_read (lo : Nat) (inside : lo ≤ s.len) :
    ∃ read : Slice, (s.rest lo : Reading ε Slice) = .returns read ∧ read.bytes = s.bytes.drop lo := by
  obtain ⟨read, same, sized, cells⟩ := @rest_inside ε s lo inside
  exact ⟨read, same, rest_bytes s lo read sized cells⟩

variable {α : Type}

theorem sound_index (i : Nat) (f : UInt8 → Reading ε α) (inside : i < s.len) (next : (f (s.cells.getD i 0)).Sound) :
    (s.index i >>= f).Sound := by
  rw [index_inside s i inside]
  exact next

theorem sound_span (lo hi : Nat) (f : Slice → Reading ε α) (ordered : lo ≤ hi) (inside : hi ≤ s.len)
    (next : ∀ part : Slice, part.len = hi - lo → (f part).Sound) : (s.span lo hi >>= f).Sound := by
  obtain ⟨part, read, sized, _⟩ := @span_inside ε s lo hi ordered inside
  rw [read]
  exact next part sized

theorem sound_rest (lo : Nat) (f : Slice → Reading ε α) (inside : lo ≤ s.len)
    (next : ∀ part : Slice, part.len = s.len - lo → (f part).Sound) : (s.rest lo >>= f).Sound := by
  obtain ⟨part, read, sized, _⟩ := @rest_inside ε s lo inside
  rw [read]
  exact next part sized

end Access

end Go
