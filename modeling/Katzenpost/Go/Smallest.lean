import Mathlib.Data.List.Perm.Basic
import Mathlib.Order.Lattice

set_option autoImplicit false

namespace Go

section Smallest

variable {α β : Type} [LinearOrder β] (rank : α → β)

structure Smallest (items : List α) (a b : α) : Prop where
  first : a ∈ items
  second : b ∈ items
  ordered : rank a < rank b
  rest : ∀ c ∈ items, c ≠ a → c ≠ b → rank b < rank c

variable {rank} {items other : List α} {a b c d item : α}

theorem Smallest.first_lt (smallest : Smallest rank items a b) (member : c ∈ items) (different : c ≠ a) : rank a < rank c := by
  by_cases same : c = b
  · exact same ▸ smallest.ordered
  · exact smallest.ordered.trans (smallest.rest c member different same)

theorem Smallest.enough (smallest : Smallest rank items a b) : 2 ≤ items.length := by
  have different : a ≠ b := ne_of_apply_ne rank smallest.ordered.ne
  match items, smallest.first, smallest.second with
  | [only], first, second => exact absurd ((List.mem_singleton.mp first).trans (List.mem_singleton.mp second).symm) different
  | _ :: _ :: rest, _, _ => exact Nat.le_add_left 2 rest.length

theorem Smallest.unique (left : Smallest rank items a b) (right : Smallest rank items c d) : a = c ∧ b = d := by
  have first : a = c := by
    by_contra different
    exact lt_asymm (left.first_lt right.first (Ne.symm different)) (right.first_lt left.first different)
  subst first
  refine ⟨rfl, ?_⟩
  by_contra different
  have above := left.rest d right.second (ne_of_apply_ne rank right.ordered.ne') (Ne.symm different)
  have below := right.rest b left.second (ne_of_apply_ne rank left.ordered.ne') different
  exact lt_asymm above below

theorem Smallest.perm (smallest : Smallest rank items a b) (same : other.Perm items) : Smallest rank other a b :=
  ⟨same.mem_iff.mpr smallest.first, same.mem_iff.mpr smallest.second, smallest.ordered,
    fun c member => smallest.rest c (same.mem_iff.mp member)⟩

theorem Smallest.remove (smallest : Smallest rank (item :: items) a b) (notFirst : item ≠ a) (notSecond : item ≠ b) :
    Smallest rank items a b :=
  ⟨(List.mem_cons.mp smallest.first).resolve_left (Ne.symm notFirst),
    (List.mem_cons.mp smallest.second).resolve_left (Ne.symm notSecond), smallest.ordered,
    fun c member => smallest.rest c (List.mem_cons_of_mem item member)⟩

theorem Smallest.add_above (smallest : Smallest rank items a b) (above : rank b < rank item) : Smallest rank (item :: items) a b := by
  refine ⟨List.mem_cons_of_mem _ smallest.first, List.mem_cons_of_mem _ smallest.second, smallest.ordered,
    fun c member notFirst notSecond => ?_⟩
  rcases List.mem_cons.mp member with rfl | member
  · exact above
  · exact smallest.rest c member notFirst notSecond

theorem Smallest.add_between (smallest : Smallest rank items a b) (above : rank a < rank item) (below : rank item < rank b) :
    Smallest rank (item :: items) a item := by
  refine ⟨List.mem_cons_of_mem _ smallest.first, List.mem_cons_self, above, fun c member notFirst notSecond => ?_⟩
  have member := (List.mem_cons.mp member).resolve_left notSecond
  by_cases same : c = b
  · exact same ▸ below
  · exact below.trans (smallest.rest c member notFirst same)

theorem Smallest.add_below (smallest : Smallest rank items a b) (below : rank item < rank a) : Smallest rank (item :: items) item a := by
  refine ⟨List.mem_cons_self, List.mem_cons_of_mem _ smallest.first, below, fun c member notFirst notSecond => ?_⟩
  exact smallest.first_lt ((List.mem_cons.mp member).resolve_left notFirst) notSecond

theorem Smallest.pair (ordered : rank a < rank b) : Smallest rank [b, a] a b := by
  refine ⟨by simp, by simp, ordered, fun c member notFirst notSecond => ?_⟩
  rcases List.mem_cons.mp member with rfl | member
  · exact absurd rfl notSecond
  · exact absurd (List.mem_singleton.mp member) notFirst

theorem Smallest.sorted (rest : List α) (sorted : (a :: b :: rest).Pairwise fun x y => rank x < rank y) :
    Smallest rank (a :: b :: rest) a b := by
  obtain ⟨belowA, sorted⟩ := List.pairwise_cons.mp sorted
  obtain ⟨belowB, _⟩ := List.pairwise_cons.mp sorted
  refine ⟨by simp, by simp, belowA b List.mem_cons_self, fun c member notFirst notSecond => ?_⟩
  exact belowB c ((List.mem_cons.mp ((List.mem_cons.mp member).resolve_left notFirst)).resolve_left notSecond)

end Smallest

end Go
