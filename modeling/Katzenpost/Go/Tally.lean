import Katzenpost.Go.Map

set_option autoImplicit false

namespace Go

open Std

section Tally

variable {κ α : Type} [Ord κ] [TransOrd κ] [LawfulEqOrd κ] [DecidableEq κ]

def tallyAdd (m : GoMap κ (List α)) (key : κ) (item : α) : GoMap κ (List α) :=
  m.insert key (m.getD key [] ++ [item])

def tallyAll (m : GoMap κ (List α)) (entries : List (κ × α)) : GoMap κ (List α) :=
  entries.foldl (fun m entry => tallyAdd m entry.1 entry.2) m

def filed (entries : List (κ × α)) (key : κ) : List α :=
  (entries.filter (fun entry => entry.1 = key)).map Prod.snd

omit [Ord κ] [TransOrd κ] [LawfulEqOrd κ] in
theorem filed_append (entries : List (κ × α)) (last : κ × α) (key : κ) :
    filed (entries ++ [last]) key = filed entries key ++ if last.1 = key then [last.2] else [] := by
  by_cases hit : last.1 = key <;> simp [filed, List.filter_append, hit]

theorem tally_all_lookup (entries : List (κ × α)) (key : κ) :
    (tallyAll ∅ entries)[key]? = if filed entries key = [] then none else some (filed entries key) := by
  induction entries using List.reverseRecOn with
  | nil => simp [tallyAll, filed]
  | append_singleton entries last ih =>
      have step : tallyAll ∅ (entries ++ [last]) = tallyAdd (tallyAll ∅ entries) last.1 last.2 := by simp [tallyAll]
      rw [step, tallyAdd, lookup_insert, filed_append]
      by_cases hit : last.1 = key
      · have stored : (tallyAll ∅ entries).getD last.1 [] = filed entries key := by
          rw [ExtTreeMap.getD_eq_getD_getElem?, hit, ih]
          split
          · rename_i empty
            rw [empty]
            rfl
          · rfl
        rw [stored]
        simp [hit]
      · simp [hit, ih]

theorem tally_all_entry (entries : List (κ × α)) (key : κ) (items : List α) :
    (tallyAll ∅ entries)[key]? = some items ↔ items = filed entries key ∧ ∃ item, (key, item) ∈ entries := by
  have empty : filed entries key = [] ↔ ¬ ∃ item, (key, item) ∈ entries := by
    simp only [filed, List.map_eq_nil_iff, List.filter_eq_nil_iff, decide_eq_true_eq, not_exists]
    constructor
    · intro none item member
      exact none (key, item) member rfl
    · rintro none ⟨other, item⟩ member rfl
      exact none item member
  rw [tally_all_lookup]
  split
  · rename_i nothing
    simp [empty.mp nothing]
  · rename_i something
    rw [empty, not_not] at something
    simp [something, eq_comm]

omit [Ord κ] [TransOrd κ] [LawfulEqOrd κ] in
theorem filed_length_flat {β : Type} (lists : List β) (entriesOf : β → List (κ × α)) (key : κ) :
    (filed (lists.flatMap entriesOf) key).length =
      (lists.map fun list => (filed (entriesOf list) key).length).sum := by
  induction lists with
  | nil => rfl
  | cons list rest ih =>
      simp only [filed, List.length_map, List.flatMap_cons, List.filter_append, List.length_append, List.map_cons,
        List.sum_cons] at ih ⊢
      rw [ih]

end Tally

end Go
