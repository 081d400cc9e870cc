import Mathlib

set_option autoImplicit false

namespace Go

open Std

-- A Go map is told apart from another only by its lookups. Its iteration
-- order is not part of the value: a Range supplies it where a loop needs one.
abbrev GoMap (κ v : Type) [Ord κ] := ExtTreeMap κ v compare

-- One execution of a range statement. The runtime may list the entries in any
-- order, and differently each time, so an operation takes one Range per loop.
structure Range (κ v : Type) [Ord κ] [TransOrd κ] where
  order : GoMap κ v → List (κ × v)
  perm : ∀ m, (order m).Perm m.toList

def ascending {κ v : Type} [Ord κ] [TransOrd κ] : Range κ v := ⟨fun m => m.toList, fun _ => List.Perm.refl _⟩

def descending {κ v : Type} [Ord κ] [TransOrd κ] : Range κ v :=
  ⟨fun m => m.toList.reverse, fun m => List.reverse_perm m.toList⟩

section Lookups

variable {κ v : Type} [Ord κ] [TransOrd κ] [LawfulEqOrd κ] [DecidableEq κ]

theorem lookup_insert (m : GoMap κ v) (key other : κ) (value : v) :
    (m.insert key value)[other]? = if key = other then some value else m[other]? := by
  rw [ExtTreeMap.getElem?_insert]
  simp only [Std.compare_eq_iff_eq]

theorem lookup_erase (m : GoMap κ v) (key other : κ) :
    (m.erase key)[other]? = if key = other then none else m[other]? := by
  rw [ExtTreeMap.getElem?_erase]
  simp only [Std.compare_eq_iff_eq]

theorem forall_insert {P : κ → v → Prop} (m : GoMap κ v) (key : κ) (value : v)
    (others : ∀ other found, m[other]? = some found → key ≠ other → P other found) (new : P key value) :
    ∀ (other : κ) found, (m.insert key value)[other]? = some found → P other found := by
  intro other found lookup
  rw [lookup_insert] at lookup
  by_cases same : key = other
  · rw [if_pos same, Option.some_inj] at lookup
    exact same ▸ lookup ▸ new
  · rw [if_neg same] at lookup
    exact others other found lookup same

theorem of_lookup_erase (m : GoMap κ v) (key other : κ) (found : v) (lookup : (m.erase key)[other]? = some found) :
    key ≠ other ∧ m[other]? = some found := by
  rw [lookup_erase, Option.ite_none_left_eq_some] at lookup
  exact lookup

theorem lookup_single (key other : κ) (value found : v) :
    (ExtTreeMap.ofList [(key, value)] : GoMap κ v)[other]? = some found ↔ key = other ∧ value = found := by
  rw [ExtTreeMap.ofList_singleton, lookup_insert]
  by_cases same : key = other <;> simp [same]

omit [LawfulEqOrd κ] [DecidableEq κ] in
theorem mem_iff_lookup (m : GoMap κ v) (key : κ) : key ∈ m ↔ ∃ value, m[key]? = some value := by
  rw [← ExtTreeMap.isSome_getElem?_iff_mem, Option.isSome_iff_exists]

omit [DecidableEq κ] in
theorem order_mem (r : Range κ v) (m : GoMap κ v) (key : κ) (value : v) :
    (key, value) ∈ r.order m ↔ m[key]? = some value := by
  rw [(r.perm m).mem_iff, ExtTreeMap.mem_toList_iff_getElem?_eq_some]

omit [DecidableEq κ] in
theorem toList_keys_nodup (m : GoMap κ v) : (m.toList.map Prod.fst).Nodup := by
  have distinct := ExtTreeMap.distinct_keys_toList (t := m)
  simp only [Std.compare_eq_iff_eq] at distinct
  exact List.pairwise_map.mpr distinct

omit [DecidableEq κ] in
theorem order_keys_nodup (r : Range κ v) (m : GoMap κ v) : ((r.order m).map Prod.fst).Nodup :=
  ((r.perm m).map Prod.fst).nodup_iff.mpr (toList_keys_nodup m)

omit [LawfulEqOrd κ] [DecidableEq κ] in
theorem order_length (r : Range κ v) (m : GoMap κ v) : (r.order m).length = m.size := by
  rw [(r.perm m).length_eq, ExtTreeMap.length_toList]

omit [LawfulEqOrd κ] [DecidableEq κ] in
theorem range_of_perm (m : GoMap κ v) (entries : List (κ × v)) (perm : entries.Perm m.toList) :
    ∃ r : Range κ v, r.order m = entries := by
  classical
  refine ⟨⟨fun other => if other = m then entries else other.toList, fun other => ?_⟩, if_pos rfl⟩
  by_cases same : other = m
  · rw [if_pos same, same]
    exact perm
  · rw [if_neg same]

theorem range_first (m : GoMap κ v) (key : κ) (value : v) (present : m[key]? = some value) :
    ∃ r : Range κ v, ∃ rest, r.order m = (key, value) :: rest := by
  classical
  have member : (key, value) ∈ m.toList := ExtTreeMap.mem_toList_iff_getElem?_eq_some.mpr present
  obtain ⟨r, order⟩ := range_of_perm m ((key, value) :: m.toList.erase (key, value)) (List.perm_cons_erase member).symm
  exact ⟨r, m.toList.erase (key, value), order⟩

def fileUnder {α : Type} (key : α → κ) (value : α → v) (start : GoMap κ v) (items : List α) : GoMap κ v :=
  items.foldl (fun m item => m.insert (key item) (value item)) start

omit [LawfulEqOrd κ] [DecidableEq κ] in
theorem file_under_append {α : Type} (key : α → κ) (value : α → v) (start : GoMap κ v) (items : List α) (last : α) :
    fileUnder key value start (items ++ [last]) = (fileUnder key value start items).insert (key last) (value last) := by
  simp [fileUnder]

theorem file_under_found {α : Type} (key : α → κ) (value : α → v) (start : GoMap κ v) (items : List α)
    (query : κ) (found : v) (lookup : (fileUnder key value start items)[query]? = some found) :
    start[query]? = some found ∨ ∃ item ∈ items, key item = query ∧ value item = found := by
  induction items using List.reverseRecOn with
  | nil => exact .inl lookup
  | append_singleton items last ih =>
      rw [file_under_append, lookup_insert] at lookup
      split at lookup
      · rename_i hit
        exact .inr ⟨last, by simp, hit, Option.some.inj lookup⟩
      · rcases ih lookup with before | ⟨item, member, hit, same⟩
        · exact .inl before
        · exact .inr ⟨item, List.mem_append_left _ member, hit, same⟩

end Lookups

section Nested

variable {ι κ v : Type} [DecidableEq ι] [Ord κ] [TransOrd κ] [LawfulEqOrd κ] [DecidableEq κ]

def entry (m : ι → Option (GoMap κ v)) (outer : ι) (key : κ) : Option v := (m outer).bind (·[key]?)

def ensure (m : ι → Option (GoMap κ v)) (outer : ι) : ι → Option (GoMap κ v) :=
  Function.update m outer (some ((m outer).getD ∅))

def setEntry (m : ι → Option (GoMap κ v)) (outer : ι) (key : κ) (value : v) : ι → Option (GoMap κ v) :=
  Function.update m outer (some (((m outer).getD ∅).insert key value))

omit [LawfulEqOrd κ] [DecidableEq κ] in
@[simp] theorem entry_ensure (m : ι → Option (GoMap κ v)) (outer other : ι) (key : κ) :
    entry (ensure m outer) other key = entry m other key := by
  by_cases same : other = outer
  · subst same
    cases stored : m other <;> simp [entry, ensure, stored]
  · simp [entry, ensure, same]

theorem entry_setEntry (m : ι → Option (GoMap κ v)) (outer other : ι) (key query : κ) (value : v) :
    entry (setEntry m outer key value) other query =
      if other = outer ∧ key = query then some value else entry m other query := by
  by_cases same : other = outer
  · subst same
    cases stored : m other <;> by_cases hit : key = query <;>
      simp [entry, setEntry, stored, lookup_insert, hit]
  · simp [entry, setEntry, same]

end Nested

end Go
