import Katzenpost.Go.While

set_option autoImplicit false

namespace Go

def InPlace (ε α : Type) := Bytes → Except (Stop ε) α × Bytes

namespace InPlace

variable {ε δ α β : Type}

def stop (s : Stop ε) : InPlace ε α := fun buffer => (.error s, buffer)

instance : Monad (InPlace ε) where
  pure a := fun buffer => (.ok a, buffer)
  bind x f := fun buffer =>
    match x buffer with
    | (.ok a, after) => f a after
    | (.error s, after) => (.error s, after)

def length : InPlace ε Nat := fun buffer => (.ok buffer.length, buffer)

def sliced (b : Bytes) (lo hi : Nat) : InPlace ε Bytes :=
  if lo ≤ hi ∧ hi ≤ b.length then pure ((b.take hi).drop lo) else stop .outOfRange

def read (lo hi : Nat) : InPlace ε Bytes := fun buffer => sliced buffer lo hi buffer

def write (lo hi : Nat) (source : Bytes) : InPlace ε Unit := fun buffer =>
  if lo ≤ hi ∧ hi ≤ buffer.length then
    (.ok (), buffer.take lo ++ (copyInto ((buffer.take hi).drop lo) source ++ buffer.drop hi))
  else (.error .outOfRange, buffer)

-- A call on other slices, which panics only where one is out of range.
def call (x : Call ε α) (wrap : ε → δ) : InPlace δ α :=
  match x with
  | none => stop .outOfRange
  | some (.error e) => stop (.fails (wrap e))
  | some (.ok a) => pure a

def Ends (x : InPlace ε α) (buffer : Bytes) (returned : α → Bytes → Prop) (stopped : Stop ε → Bytes → Prop) : Prop :=
  match x buffer with
  | (.ok a, after) => returned a after
  | (.error s, after) => stopped s after

section Rules

variable {returned : α → Bytes → Prop} {stopped : Stop ε → Bytes → Prop} {buffer : Bytes}

theorem ends_bind (x : InPlace ε β) (f : β → InPlace ε α)
    (first : Ends x buffer (fun b after => Ends (f b) after returned stopped) stopped) :
    Ends (x >>= f) buffer returned stopped := by
  change match (match x buffer with
    | (.ok b, after) => f b after
    | (.error s, after) => (.error s, after)) with
    | (.ok a, after) => returned a after
    | (.error s, after) => stopped s after
  unfold Ends at first
  split at first
  · exact first
  · exact first

theorem ends_mono {weaker : α → Bytes → Prop} {otherwise : Stop ε → Bytes → Prop} (x : InPlace ε α)
    (ends : Ends x buffer returned stopped) (implied : ∀ a after, returned a after → weaker a after)
    (else_implied : ∀ s after, stopped s after → otherwise s after) : Ends x buffer weaker otherwise := by
  unfold Ends at ends ⊢
  split at ends
  · exact implied _ _ ends
  · exact else_implied _ _ ends

theorem ends_if (c : Prop) [Decidable c] (x y : InPlace ε α) (yes : c → Ends x buffer returned stopped)
    (no : ¬ c → Ends y buffer returned stopped) : Ends (if c then x else y) buffer returned stopped := by
  split
  · exact yes ‹_›
  · exact no ‹_›

theorem ends_length {returned : Nat → Bytes → Prop} (holds : returned buffer.length buffer) :
    Ends (length : InPlace ε Nat) buffer returned stopped := holds

theorem ends_sliced {returned : Bytes → Bytes → Prop} (b : Bytes) (lo hi : Nat) (inside : lo ≤ hi ∧ hi ≤ b.length)
    (holds : returned ((b.take hi).drop lo) buffer) : Ends (sliced b lo hi : InPlace ε Bytes) buffer returned stopped := by
  rw [sliced, if_pos inside]
  exact holds

theorem ends_read {returned : Bytes → Bytes → Prop} (lo hi : Nat) (inside : lo ≤ hi ∧ hi ≤ buffer.length)
    (holds : returned ((buffer.take hi).drop lo) buffer) : Ends (read lo hi : InPlace ε Bytes) buffer returned stopped :=
  ends_sliced buffer lo hi inside holds

theorem ends_write {returned : Unit → Bytes → Prop} (lo hi : Nat) (source : Bytes) (inside : lo ≤ hi ∧ hi ≤ buffer.length)
    (holds : returned () (buffer.take lo ++ (copyInto ((buffer.take hi).drop lo) source ++ buffer.drop hi))) :
    Ends (write lo hi source : InPlace ε Unit) buffer returned stopped := by
  rw [Ends, write, if_pos inside]
  exact holds

end Rules

theorem written_length (buffer source : Bytes) (lo hi : Nat) (inside : lo ≤ hi ∧ hi ≤ buffer.length) :
    (buffer.take lo ++ (copyInto ((buffer.take hi).drop lo) source ++ buffer.drop hi)).length = buffer.length := by
  simp only [List.length_append, copy_into_length, List.length_drop, List.length_take]
  omega

theorem written_part (buffer source : Bytes) (lo hi : Nat) (inside : lo ≤ hi ∧ hi ≤ buffer.length) (fills : source.length = hi - lo) :
    part (buffer.take lo ++ (copyInto ((buffer.take hi).drop lo) source ++ buffer.drop hi)) lo (hi - lo) = source := by
  have range : ((buffer.take hi).drop lo).length = hi - lo := by
    rw [List.length_drop, List.length_take]
    omega
  rw [copy_into_whole _ source (by rw [range, fills])]
  exact part_middle _ source _ lo (hi - lo) (List.length_take_of_le (by omega)) fills

theorem written_before (buffer source : Bytes) (lo hi off n : Nat) (inside : lo ≤ hi ∧ hi ≤ buffer.length) (before : off + n ≤ lo) :
    part (buffer.take lo ++ (copyInto ((buffer.take hi).drop lo) source ++ buffer.drop hi)) off n = part buffer off n := by
  have front : (buffer.take lo).length = lo := List.length_take_of_le (by omega)
  rw [part, part, List.drop_append_of_le_length (by omega), List.take_append_of_le_length (by rw [List.length_drop]; omega),
    List.drop_take, List.take_take, Nat.min_eq_left (by omega)]

end InPlace

end Go
