import Mathlib

set_option autoImplicit false

namespace Go

-- container/heap over a slice, ordered by a key.
section Heap

variable {α : Type} (key : α → Nat)

def prio (h : List α) (i : Nat) : Nat :=
  match h[i]? with
  | some e => key e
  | none => 0

def swap (h : List α) (i j : Nat) : List α :=
  match h[i]?, h[j]? with
  | some a, some b => (h.set i b).set j a
  | _, _ => h

def up : Nat → List α → Nat → List α
  | 0, h, _ => h
  | fuel + 1, h, j =>
      let i := (j - 1) / 2
      if i = j ∨ ¬ prio key h j < prio key h i then h else up fuel (swap h i j) i

def childOf (h : List α) (i n : Nat) : Nat :=
  if 2 * i + 2 < n ∧ prio key h (2 * i + 2) < prio key h (2 * i + 1) then 2 * i + 2 else 2 * i + 1

def down : Nat → List α → Nat → Nat → List α × Nat
  | 0, h, i, _ => (h, i)
  | fuel + 1, h, i, n =>
      if 2 * i + 1 ≥ n then (h, i)
      else if ¬ prio key h (childOf key h i n) < prio key h i then (h, i)
      else down fuel (swap h i (childOf key h i n)) (childOf key h i n) n

def heapPush (h : List α) (e : α) : List α := up key (h.length + 1) (h ++ [e]) h.length

def heapPop (h : List α) : Option α × List α :=
  let n := h.length - 1
  let h := (down key h.length (swap h 0 n) 0 n).1
  (h.getLast?, h.dropLast)

def heapRemove (h : List α) (i : Nat) : Option α × List α :=
  let n := h.length - 1
  let h :=
    if n = i then h
    else
      let (moved, last) := down key h.length (swap h i n) i n
      if last > i then moved else up key (i + 1) moved i
  (h.getLast?, h.dropLast)

theorem swap_some (h : List α) (i j : Nat) (inI : i < h.length) (inJ : j < h.length) :
    swap h i j = (h.set i h[j]).set j h[i] := by
  simp only [swap, List.getElem?_eq_getElem inI, List.getElem?_eq_getElem inJ]

theorem swap_length (h : List α) (i j : Nat) : (swap h i j).length = h.length := by
  unfold swap
  split
  · simp
  · rfl

theorem swap_perm (h : List α) (i j : Nat) : (swap h i j).Perm h := by
  by_cases inI : i < h.length
  · by_cases inJ : j < h.length
    · rw [swap_some h i j inI inJ]
      exact List.set_set_perm inI inJ
    · have missing : h[j]? = none := List.getElem?_eq_none (Nat.not_lt.mp inJ)
      simp [swap, missing]
  · have missing : h[i]? = none := List.getElem?_eq_none (Nat.not_lt.mp inI)
    simp [swap, missing]

theorem swap_get (h : List α) (i j x : Nat) (inI : i < h.length) (inJ : j < h.length) :
    (swap h i j)[x]? = if x = i then h[j]? else if x = j then h[i]? else h[x]? := by
  rw [swap_some h i j inI inJ, List.getElem?_set, List.getElem?_set]
  by_cases atJ : j = x
  · subst atJ
    by_cases same : j = i
    · subst same
      simp [inJ]
    · simp [inJ, same, inI]
  · by_cases atI : i = x
    · subst atI
      simp [atJ, inI, inJ]
    · simp [atJ, atI, Ne.symm atI, Ne.symm atJ]

theorem prio_swap (h : List α) (i j x : Nat) (inI : i < h.length) (inJ : j < h.length) :
    prio key (swap h i j) x = if x = i then prio key h j else if x = j then prio key h i else prio key h x := by
  simp only [prio, swap_get h i j x inI inJ]
  by_cases atI : x = i
  · simp [atI]
  · by_cases atJ : x = j
    · rw [if_neg atI, if_pos atJ, if_neg atI, if_pos atJ]
    · rw [if_neg atI, if_neg atJ, if_neg atI, if_neg atJ]

theorem child_of_bounds (h : List α) (i n : Nat) (hasChild : 2 * i + 1 < n) :
    childOf key h i n < n ∧ (childOf key h i n = 2 * i + 1 ∨ childOf key h i n = 2 * i + 2) := by
  unfold childOf
  split <;> omega

theorem child_of_least (h : List α) (i n j : Nat) (inside : j < n) (child : j = 2 * i + 1 ∨ j = 2 * i + 2) :
    prio key h (childOf key h i n) ≤ prio key h j := by
  unfold childOf
  split
  · rename_i right
    cases child with
    | inl left => rw [left]; exact Nat.le_of_lt right.2
    | inr same => rw [same]
  · rename_i left
    cases child with
    | inl same => rw [same]
    | inr same =>
        subst same
        exact Nat.not_lt.mp fun smaller => left ⟨inside, smaller⟩

def Ordered (h : List α) (n : Nat) : Prop := ∀ j, 0 < j → j < n → prio key h ((j - 1) / 2) ≤ prio key h j

theorem up_perm (fuel : Nat) (h : List α) (j : Nat) : (up key fuel h j).Perm h := by
  induction fuel generalizing h j with
  | zero => exact List.Perm.refl h
  | succ fuel ih =>
      rw [up]
      split
      · exact List.Perm.refl h
      · exact (ih _ _).trans (swap_perm h _ _)

theorem down_perm (fuel : Nat) (h : List α) (i n : Nat) : (down key fuel h i n).1.Perm h := by
  induction fuel generalizing h i with
  | zero => exact List.Perm.refl h
  | succ fuel ih =>
      rw [down]
      split
      · exact List.Perm.refl h
      · split
        · exact List.Perm.refl h
        · exact (ih _ _).trans (swap_perm h _ _)

theorem up_get (fuel : Nat) (h : List α) (j x : Nat) (inside : j < h.length) (behind : j < x) :
    (up key fuel h j)[x]? = h[x]? := by
  induction fuel generalizing h j with
  | zero => rfl
  | succ fuel ih =>
      simp only [up]
      split
      · rfl
      · rw [ih _ _ (by rw [swap_length]; omega) (by omega), swap_get h _ _ _ (by omega) inside, if_neg (by omega),
          if_neg (by omega)]

theorem down_get (fuel : Nat) (h : List α) (i n x : Nat) (inside : i < n) (fits : n ≤ h.length) (behind : n ≤ x) :
    (down key fuel h i n).1[x]? = h[x]? := by
  induction fuel generalizing h i with
  | zero => rfl
  | succ fuel ih =>
      rw [down]
      split
      · rfl
      · rename_i hasChild
        obtain ⟨child, place⟩ := child_of_bounds key h i n (Nat.not_le.mp hasChild)
        split
        · rfl
        · rw [ih _ _ child (by rw [swap_length]; exact fits), swap_get h _ _ _ (by omega) (by omega), if_neg (by omega),
            if_neg (by omega)]

structure DownOrder (h : List α) (i n : Nat) : Prop where
  others : ∀ j, 0 < j → j < n → (j - 1) / 2 ≠ i → prio key h ((j - 1) / 2) ≤ prio key h j
  across : ∀ j, j < n → 0 < i → j = 2 * i + 1 ∨ j = 2 * i + 2 → prio key h ((i - 1) / 2) ≤ prio key h j

theorem down_step (h : List α) (i n : Nat) (fits : n ≤ h.length) (hasChild : 2 * i + 1 < n)
    (others : ∀ j, 0 < j → j < n → j ≠ i → (j - 1) / 2 ≠ i → prio key h ((j - 1) / 2) ≤ prio key h j)
    (across : ∀ j, j < n → 0 < i → j = 2 * i + 1 ∨ j = 2 * i + 2 → prio key h ((i - 1) / 2) ≤ prio key h j)
    (smaller : prio key h (childOf key h i n) < prio key h i) :
    DownOrder key (swap h i (childOf key h i n)) (childOf key h i n) n := by
  obtain ⟨inside, place⟩ := child_of_bounds key h i n hasChild
  have least := child_of_least key h i n
  generalize childOf key h i n = c at *
  have new := fun x => prio_swap key h i c x (by omega) (by omega)
  constructor
  · intro j positive below off
    rw [new, new]
    by_cases atI : j = i
    · -- the child that came up is not before the parent of i
      subst atI
      rw [if_pos rfl, if_neg (by omega), if_neg (by omega)]
      exact across c inside (by omega) place
    · by_cases atC : j = c
      · subst atC
        rw [if_pos (by omega), if_neg atI, if_pos rfl]
        exact Nat.le_of_lt smaller
      · rw [if_neg atI, if_neg atC]
        by_cases sibling : (j - 1) / 2 = i
        · rw [if_pos sibling]
          exact least j below (by omega)
        · rw [if_neg sibling, if_neg off]
          exact others j positive below atI sibling
  · intro j below positive child
    rw [new, new, if_pos (by omega), if_neg (by omega), if_neg (by omega)]
    have ordered := others j (by omega) below (by omega) (by omega)
    rwa [show (j - 1) / 2 = c by omega] at ordered

theorem down_ordered (fuel : Nat) (h : List α) (i n : Nat) (enough : n ≤ i + fuel) (fits : n ≤ h.length)
    (order : DownOrder key h i n) : Ordered key (down key fuel h i n).1 n := by
  induction fuel generalizing h i with
  | zero =>
      intro j positive below
      exact order.others j positive below (by omega)
  | succ fuel ih =>
      rw [down]
      split
      · rename_i leaf
        intro j positive below
        exact order.others j positive below (by omega)
      · rename_i hasChild
        split
        · rename_i notSmaller
          intro j positive below
          by_cases child : (j - 1) / 2 = i
          · have least := child_of_least key h i n j below (by omega)
            rw [child]
            exact Nat.le_trans (Nat.not_lt.mp notSmaller) least
          · exact order.others j positive below child
        · rename_i smaller
          obtain ⟨inside, place⟩ := child_of_bounds key h i n (Nat.not_le.mp hasChild)
          refine ih _ _ (by omega) (by rw [swap_length]; exact fits) ?_
          exact down_step key h i n fits (Nat.not_le.mp hasChild) (fun j positive below _ => order.others j positive below)
            order.across (not_not.mp smaller)

structure UpOrder (h : List α) (i n : Nat) : Prop where
  others : ∀ j, 0 < j → j < n → j ≠ i → prio key h ((j - 1) / 2) ≤ prio key h j
  across : ∀ j, j < n → 0 < i → j = 2 * i + 1 ∨ j = 2 * i + 2 → prio key h ((i - 1) / 2) ≤ prio key h j

theorem up_ordered (fuel : Nat) (h : List α) (i n : Nat) (enough : i ≤ fuel) (inside : i < n) (fits : n ≤ h.length)
    (order : UpOrder key h i n) : Ordered key (up key fuel h i) n := by
  induction fuel generalizing h i with
  | zero =>
      intro j positive below
      exact order.others j positive below (by omega)
  | succ fuel ih =>
      simp only [up]
      split
      · rename_i stop
        intro j positive below
        by_cases here : j = i
        · subst here
          cases stop with
          | inl root => omega
          | inr notSmaller => exact Nat.not_lt.mp notSmaller
        · exact order.others j positive below here
      · rename_i go
        simp only [not_or, not_not] at go
        have new := fun x => prio_swap key h ((i - 1) / 2) i x (by omega) (by omega)
        refine ih _ _ (by omega) (by omega) (by rw [swap_length]; exact fits) ⟨fun j positive below off => ?_, fun j below positive child => ?_⟩
        · rw [new, new]
          by_cases here : j = i
          · subst here
            rw [if_pos rfl, if_neg off, if_pos rfl]
            exact Nat.le_of_lt go.2
          · rw [if_neg off, if_neg here]
            by_cases sibling : (j - 1) / 2 = (i - 1) / 2
            · rw [if_pos sibling]
              have ordered := order.others j positive below here
              rw [sibling] at ordered
              exact Nat.le_trans (Nat.le_of_lt go.2) ordered
            · rw [if_neg sibling]
              by_cases child : (j - 1) / 2 = i
              · rw [if_pos child]
                exact order.across j below (by omega) (by omega)
              · rw [if_neg child]
                exact order.others j positive below here
        · have parent := order.others ((i - 1) / 2) positive (by omega) (by omega)
          rw [new, new, if_neg (by omega), if_neg (by omega), if_neg (by omega)]
          by_cases here : j = i
          · subst here
            rw [if_pos rfl]
            exact parent
          · rw [if_neg here]
            have ordered := order.others j (by omega) below here
            rw [show (j - 1) / 2 = (i - 1) / 2 by omega] at ordered
            exact Nat.le_trans parent ordered

theorem prio_append (h : List α) (e : α) (x : Nat) (inside : x < h.length) : prio key (h ++ [e]) x = prio key h x := by
  simp only [prio, List.getElem?_append_left inside]

theorem prio_drop_last (h : List α) (x : Nat) (inside : x < h.length - 1) : prio key h.dropLast x = prio key h x := by
  simp only [prio, List.getElem?_dropLast, if_pos inside]

theorem heap_push_perm (h : List α) (e : α) : (heapPush key h e).Perm (e :: h) :=
  (up_perm key _ _ _).trans (List.perm_append_singleton e h)

theorem heap_push_ordered (h : List α) (e : α) (ordered : Ordered key h h.length) :
    Ordered key (heapPush key h e) (heapPush key h e).length := by
  have size : (heapPush key h e).length = h.length + 1 := (heap_push_perm key h e).length_eq
  rw [size]
  refine up_ordered key _ _ _ _ (by omega) (by omega) (by simp) ⟨fun j positive below off => ?_, fun j below _ child => by omega⟩
  rw [prio_append key h e _ (by omega), prio_append key h e _ (by omega)]
  exact ordered j positive (by omega)

theorem ordered_least (h : List α) (ordered : Ordered key h h.length) (x : Nat) (inside : x < h.length) :
    prio key h 0 ≤ prio key h x := by
  induction x using Nat.strongRecOn with
  | ind x ih =>
      by_cases root : x = 0
      · rw [root]
      · exact Nat.le_trans (ih ((x - 1) / 2) (by omega) (by omega)) (ordered x (by omega) inside)

theorem ordered_head_least (e : α) (rest : List α) (ordered : Ordered key (e :: rest) (rest.length + 1)) (other : α)
    (member : other ∈ e :: rest) : key e ≤ key other := by
  obtain ⟨x, inside, same⟩ := List.getElem_of_mem member
  have least := ordered_least key (e :: rest) ordered x inside
  simp only [prio, List.getElem?_eq_getElem inside, same] at least
  exact least

theorem take_last (h d : List α) (e : α) (perm : d.Perm h) (last : d[h.length - 1]? = some e)
    (ordered : Ordered key d (h.length - 1)) :
    d.getLast? = some e ∧ (e :: d.dropLast).Perm h ∧ Ordered key d.dropLast d.dropLast.length := by
  have size := perm.length_eq
  have found : d.getLast? = some e := by
    rw [List.getLast?_eq_getElem?, size]
    exact last
  refine ⟨found, ?_, fun j positive below => ?_⟩
  · have split := List.dropLast_append_getLast? e found
    have moved := List.perm_append_singleton e d.dropLast
    rw [split] at moved
    exact moved.symm.trans perm
  · rw [List.length_dropLast] at below
    rw [prio_drop_last key d _ (by omega), prio_drop_last key d _ below]
    exact ordered j positive (by omega)

theorem heap_pop_spec (e : α) (rest : List α) (ordered : Ordered key (e :: rest) (rest.length + 1)) :
    (heapPop key (e :: rest)).1 = some e ∧ (e :: (heapPop key (e :: rest)).2).Perm (e :: rest) ∧
      Ordered key (heapPop key (e :: rest)).2 (heapPop key (e :: rest)).2.length := by
  have size : (e :: rest).length = rest.length + 1 := rfl
  have new := fun x => prio_swap key (e :: rest) 0 rest.length x (by omega) (by omega)
  refine take_last key (e :: rest) _ e ((down_perm key _ _ _ _).trans (swap_perm _ _ _)) ?_ ?_
  · simp only [size, Nat.add_sub_cancel]
    have first : (swap (e :: rest) 0 rest.length)[rest.length]? = some e := by
      rw [swap_get _ _ _ _ (by omega) (by omega)]
      by_cases single : rest.length = 0
      · simp [single]
      · simp [single]
    by_cases single : rest.length = 0
    · rw [down, if_pos (by omega)]
      exact first
    · rw [down_get key _ _ _ _ _ (by omega) (by rw [swap_length]; omega) (Nat.le_refl _)]
      exact first
  · simp only [size, Nat.add_sub_cancel]
    refine down_ordered key _ _ _ _ (by omega) (by rw [swap_length]; omega) ⟨fun j positive below off => ?_, fun j below positive _ => ?_⟩
    · rw [new, new, if_neg off, if_neg (by omega), if_neg (by omega), if_neg (by omega)]
      exact ordered j positive (by omega)
    · omega

theorem down_cases (fuel : Nat) (h : List α) (i n : Nat) (enough : n ≤ i + (fuel + 1)) (fits : n ≤ h.length)
    (others : ∀ j, 0 < j → j < n → j ≠ i → (j - 1) / 2 ≠ i → prio key h ((j - 1) / 2) ≤ prio key h j)
    (across : ∀ j, j < n → 0 < i → j = 2 * i + 1 ∨ j = 2 * i + 2 → prio key h ((i - 1) / 2) ≤ prio key h j) :
    (down key (fuel + 1) h i n = (h, i) ∧ UpOrder key h i n) ∨
      i < (down key (fuel + 1) h i n).2 ∧ Ordered key (down key (fuel + 1) h i n).1 n := by
  have further : ∀ (fuel : Nat) (h : List α) (i : Nat), i ≤ (down key fuel h i n).2 := by
    intro fuel
    induction fuel with
    | zero => exact fun _ i => Nat.le_refl i
    | succ fuel ih =>
        intro h i
        rw [down]
        split
        · exact Nat.le_refl i
        · split
          · exact Nat.le_refl i
          · have place := child_of_bounds key h i n (by omega)
            have later := ih (swap h i (childOf key h i n)) (childOf key h i n)
            omega
  rw [down]
  by_cases leaf : 2 * i + 1 ≥ n
  · rw [if_pos leaf]
    exact .inl ⟨rfl, fun j positive below off => others j positive below off (by omega), across⟩
  · rw [if_neg leaf]
    by_cases smaller : prio key h (childOf key h i n) < prio key h i
    · rw [if_neg (not_not.mpr smaller)]
      have place := child_of_bounds key h i n (by omega)
      have later := further fuel (swap h i (childOf key h i n)) (childOf key h i n)
      refine .inr ⟨by omega, down_ordered key fuel _ _ n (by omega) (by rw [swap_length]; exact fits) ?_⟩
      exact down_step key h i n fits (by omega) others across smaller
    · rw [if_pos smaller]
      refine .inl ⟨rfl, fun j positive below off => ?_, across⟩
      by_cases child : (j - 1) / 2 = i
      · have least := child_of_least key h i n j below (by omega)
        rw [child]
        exact Nat.le_trans (Nat.not_lt.mp smaller) least
      · exact others j positive below off child

theorem heap_remove_spec (h : List α) (i : Nat) (inside : i < h.length) (ordered : Ordered key h h.length) :
    (heapRemove key h i).1 = some h[i] ∧ (h[i] :: (heapRemove key h i).2).Perm h ∧
      Ordered key (heapRemove key h i).2 (heapRemove key h i).2.length := by
  obtain ⟨n, size⟩ : ∃ n, h.length = n + 1 := ⟨h.length - 1, by omega⟩
  have less : h.length - 1 = n := by omega
  simp only [heapRemove, less]
  by_cases final : n = i
  · subst final
    simp only [if_pos]
    refine take_last key h h h[n] (List.Perm.refl h) ?_ fun j positive below => ordered j positive (by omega)
    rw [less, List.getElem?_eq_getElem inside]
  · rw [if_neg final, size]
    have new := fun x => prio_swap key h i n x inside (by omega)
    have placed : (swap h i n)[n]? = some h[i] := by
      rw [swap_get h i n n inside (by omega), if_neg final, if_pos rfl, List.getElem?_eq_getElem inside]
    have down_placed := down_get key (n + 1) (swap h i n) i n n (by omega) (by rw [swap_length]; omega) (Nat.le_refl _)
    have perm := (down_perm key (n + 1) (swap h i n) i n).trans (swap_perm h i n)
    have split := down_cases key n (swap h i n) i n (by omega) (by rw [swap_length]; omega)
      (fun j positive below off above => by
        rw [new, new, if_neg above, if_neg (by omega), if_neg off, if_neg (by omega)]
        exact ordered j positive (by omega))
      (fun j below positive child => by
        rw [new, new, if_neg (by omega), if_neg (by omega), if_neg (by omega), if_neg (by omega)]
        have above := ordered i positive inside
        have here := ordered j (by omega) (by omega)
        rw [show (j - 1) / 2 = i by omega] at here
        exact Nat.le_trans above here)
    rcases split with ⟨same, order⟩ | ⟨moved, order⟩
    · rw [same]
      simp only [gt_iff_lt, Nat.lt_irrefl, if_false]
      refine take_last key h _ h[i] ((up_perm key _ _ _).trans (swap_perm h i n)) ?_ ?_
      · rw [less, up_get key _ _ _ _ (by rw [swap_length]; exact inside) (by omega)]
        exact placed
      · rw [less]
        exact up_ordered key _ _ _ _ (by omega) (by omega) (by rw [swap_length]; omega) order
    · rw [if_pos moved]
      refine take_last key h _ h[i] perm ?_ (by rw [less]; exact order)
      rw [less, down_placed]
      exact placed

end Heap

end Go
