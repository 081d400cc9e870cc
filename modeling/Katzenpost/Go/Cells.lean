import Katzenpost.Go.Map

set_option autoImplicit false

namespace Go

open Std

section Loop

variable {σ α κ χ : Type} [DecidableEq κ]

-- A loop over items with distinct keys, each of which changes what is read at
-- its own key only.
theorem read_foldl (read : σ → κ → χ) (step : σ → α → σ) (key : α → κ) (change : α → χ → χ)
    (changes : ∀ s item k, read (step s item) k = if key item = k then change item (read s k) else read s k)
    (items : List α) (distinct : (items.map key).Nodup) (s : σ) (k : κ) :
    read (items.foldl step s) k = (items.find? (key · = k)).elim (read s k) fun item => change item (read s k) := by
  induction items generalizing s with
  | nil => rfl
  | cons item rest ih =>
      rw [List.map_cons, List.nodup_cons] at distinct
      rw [List.foldl_cons, ih distinct.2, changes]
      by_cases same : key item = k
      · have absent : rest.find? (key · = k) = none := by
          refine List.find?_eq_none.mpr fun other member => ?_
          rw [decide_eq_true_iff]
          intro again
          exact distinct.1 (same.trans again.symm ▸ List.mem_map_of_mem member)
        rw [absent, if_pos same, List.find?_cons_of_pos (by simpa using same)]
        rfl
      · rw [if_neg same, List.find?_cons_of_neg (by simpa using same)]

end Loop

section Cells

variable {ι κ v : Type} [Ord ι] [TransOrd ι] [LawfulEqOrd ι] [DecidableEq ι]
variable [Ord κ] [TransOrd κ] [LawfulEqOrd κ] [DecidableEq κ]

def cell (m : GoMap ι (GoMap κ v)) (outer : ι) (key : κ) : Option v := (m.getD outer ∅)[key]?

omit [LawfulEqOrd κ] [DecidableEq κ] in
theorem cell_insert (m : GoMap ι (GoMap κ v)) (outer other : ι) (inner : GoMap κ v) (key : κ) :
    cell (m.insert outer inner) other key = if outer = other then inner[key]? else cell m other key := by
  unfold cell
  rw [ExtTreeMap.getD_insert]
  simp only [Std.compare_eq_iff_eq]
  split <;> rfl

omit [LawfulEqOrd ι] [DecidableEq ι] [LawfulEqOrd κ] [DecidableEq κ] in
theorem cell_empty (outer : ι) (key : κ) : cell (∅ : GoMap ι (GoMap κ v)) outer key = none := by
  simp [cell]

omit [LawfulEqOrd ι] [DecidableEq ι] [LawfulEqOrd κ] [DecidableEq κ] in
theorem cell_lookup (m : GoMap ι (GoMap κ v)) (outer : ι) (key : κ) : cell m outer key = m[outer]?.bind (·[key]?) := by
  unfold cell
  rw [ExtTreeMap.getD_eq_getD_getElem?]
  cases m[outer]? <;> simp

theorem order_find (r : Range κ v) (m : GoMap κ v) (key : κ) :
    (r.order m).find? (·.1 = key) = m[key]?.map (key, ·) := by
  cases found : (r.order m).find? (·.1 = key) with
  | none =>
      cases lookup : m[key]? with
      | none => rfl
      | some value =>
          have absent := List.find?_eq_none.mp found (key, value) ((order_mem r m key value).mpr lookup)
          simp at absent
  | some entry =>
      have here : entry.1 = key := by simpa using List.find?_some found
      have lookup := (order_mem r m entry.1 entry.2).mp (List.mem_of_find?_eq_some found)
      rw [here] at lookup
      rw [lookup, Option.map_some, ← here]

def overwrite (write : κ → v → Option v → Option v) (key : κ) (new old : Option v) : Option v :=
  new.elim old fun value => write key value old

omit [LawfulEqOrd ι] in
theorem cell_range (step : ι → GoMap ι (GoMap κ v) → κ × v → GoMap ι (GoMap κ v)) (write : κ → v → Option v → Option v)
    (writes : ∀ outer m entry other key, cell (step outer m entry) other key =
      if outer = other ∧ entry.1 = key then write entry.1 entry.2 (cell m other key) else cell m other key)
    (r : Range κ v) (inner : GoMap κ v) (m : GoMap ι (GoMap κ v)) (outer other : ι) (key : κ) :
    cell ((r.order inner).foldl (step outer) m) other key =
      if outer = other then overwrite write key inner[key]? (cell m other key) else cell m other key := by
  by_cases same : outer = other
  · subst same
    rw [if_pos rfl, read_foldl (fun s k => cell s outer k) (step outer) Prod.fst (fun entry => write entry.1 entry.2)
      (fun s entry k => by simp only [writes, true_and]) (r.order inner) (order_keys_nodup r inner), order_find]
    cases inner[key]? <;> rfl
  · rw [if_neg same]
    generalize r.order inner = entries
    induction entries generalizing m with
    | nil => rfl
    | cons entry rest ih => rw [List.foldl_cons, ih, writes, if_neg fun h => same h.1]

def source {α : Type} (outerKey : α → ι) (inner : α → GoMap κ v) (items : List α) (outer : ι) (key : κ) : Option v :=
  (items.find? (outerKey · = outer)).bind fun item => (inner item)[key]?

omit [LawfulEqOrd ι] [LawfulEqOrd κ] [DecidableEq κ] in
theorem cell_items {α : Type} (outerKey : α → ι) (inner : α → GoMap κ v) (write : κ → v → Option v → Option v)
    (loop : GoMap ι (GoMap κ v) → α → GoMap ι (GoMap κ v))
    (loops : ∀ m item outer key, cell (loop m item) outer key = if outerKey item = outer
      then overwrite write key (inner item)[key]? (cell m outer key) else cell m outer key)
    (items : List α) (distinct : (items.map outerKey).Nodup) (m : GoMap ι (GoMap κ v)) (outer : ι) (key : κ) :
    cell (items.foldl loop m) outer key = overwrite write key (source outerKey inner items outer key) (cell m outer key) := by
  rw [read_foldl (fun s o => cell s o key) loop outerKey (fun item => overwrite write key (inner item)[key]?)
    (fun s item o => loops s item o key) items distinct, source]
  cases items.find? (outerKey · = outer) <;> rfl

omit [LawfulEqOrd κ] [DecidableEq κ] in
theorem source_order (r : Range ι (GoMap κ v)) (m : GoMap ι (GoMap κ v)) (outer : ι) (key : κ) :
    source Prod.fst Prod.snd (r.order m) outer key = cell m outer key := by
  rw [source, order_find, cell_lookup]
  cases m[outer]? <;> rfl

end Cells

end Go
