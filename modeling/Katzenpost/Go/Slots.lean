import Mathlib

set_option autoImplicit false

namespace Go

section Slots

variable {α : Type}

theorem lookup_modify (l : List α) (i j : Nat) (f : α → α) :
    (l.modify i f)[j]? = if i = j then l[j]?.map f else l[j]? := by
  rw [List.getElem?_modify]
  split
  · rfl
  · cases l[j]? <;> rfl

variable {l : List α}

theorem modified_lookup (slot i : Nat) (f : α → α) (a : α) (found : (l.modify slot f)[i]? = some a) :
    ∃ before, l[i]? = some before ∧ a = if slot = i then f before else before := by
  rw [lookup_modify] at found
  split at found
  · obtain ⟨before, there, rfl⟩ := Option.map_eq_some_iff.mp found
    exact ⟨before, there, (if_pos ‹_›).symm⟩
  · exact ⟨a, found, (if_neg ‹_›).symm⟩

theorem lookup_after (slot i : Nat) (f : α → α) (a : α) (found : l[i]? = some a) :
    (l.modify slot f)[i]? = some (if slot = i then f a else a) := by
  rw [lookup_modify, found]
  split <;> rfl

theorem appended_lookup {new : α} (i : Nat) (a : α) (found : (l ++ [new])[i]? = some a) :
    l[i]? = some a ∨ i = l.length ∧ a = new := by
  by_cases inside : i < l.length
  · rw [List.getElem?_append_left inside] at found
    exact .inl found
  · rw [List.getElem?_append_right (Nat.not_lt.mp inside)] at found
    obtain ⟨place, same⟩ := List.getElem?_eq_some_iff.mp found
    rw [List.length_singleton] at place
    have last : i = l.length := by omega
    subst last
    exact .inr ⟨rfl, by simpa using same.symm⟩

theorem lookup_append (new : α) (i : Nat) (a : α) (found : l[i]? = some a) : (l ++ [new])[i]? = some a := by
  rw [List.getElem?_append_left (List.getElem?_eq_some_iff.mp found).1, found]

end Slots

end Go
