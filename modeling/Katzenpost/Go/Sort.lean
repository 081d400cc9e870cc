import Katzenpost.Go.Bytes

set_option autoImplicit false

namespace Go

-- sort.Slice is not stable. The slices it is given here come out of map
-- iteration, so the order of ties is arbitrary with a stable sort as well.
def sortSlice {α : Type} (le : α → α → Bool) (items : List α) : List α :=
  items.insertionSort (fun a b => le a b)

structure TotalPreorder {α : Type} (le : α → α → Bool) : Prop where
  total : ∀ a b, le a b ∨ le b a
  trans : ∀ a b c, le a b → le b c → le a c

def keyLE {α : Type} (key : α → Bytes) (a b : α) : Bool := bytesLE (key a) (key b)

def keyGE {α : Type} (key : α → Bytes) (a b : α) : Bool := bytesLE (key b) (key a)

theorem key_le_preorder {α : Type} (key : α → Bytes) : TotalPreorder (keyLE key) where
  total a b := bytes_le_total (key a) (key b)
  trans a b c := bytes_le_trans (key a) (key b) (key c)

theorem key_ge_preorder {α : Type} (key : α → Bytes) : TotalPreorder (keyGE key) where
  total a b := bytes_le_total (key b) (key a)
  trans a b c left right := bytes_le_trans (key c) (key b) (key a) right left

theorem sort_slice_perm {α : Type} (le : α → α → Bool) (items : List α) :
    (sortSlice le items).Perm items := List.perm_insertionSort _ items

theorem sort_slice_sorted {α : Type} (le : α → α → Bool) (order : TotalPreorder le) (items : List α) :
    (sortSlice le items).Pairwise (fun a b => le a b) := by
  have : Std.Total (fun a b : α => (le a b : Prop)) := ⟨order.total⟩
  have : IsTrans α (fun a b : α => (le a b : Prop)) := ⟨order.trans⟩
  exact List.pairwise_insertionSort _ items

theorem sort_slice_unique {α : Type} (le : α → α → Bool) (order : TotalPreorder le) (items other : List α)
    (same : items.Perm other) (noTies : ∀ a ∈ items, ∀ b ∈ items, le a b → le b a → a = b) :
    sortSlice le items = sortSlice le other := by
  have perm : (sortSlice le items).Perm (sortSlice le other) :=
    (sort_slice_perm le items).trans (same.trans (sort_slice_perm le other).symm)
  apply perm.eq_of_pairwise _ (sort_slice_sorted le order items) (sort_slice_sorted le order other)
  intro a b left right
  exact noTies a ((sort_slice_perm le items).mem_iff.mp left)
    b (same.mem_iff.mpr ((sort_slice_perm le other).mem_iff.mp right))

end Go
