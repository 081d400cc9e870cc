import Mathlib

set_option autoImplicit false

namespace Go

section Census

variable {γ π : Type} [Fintype γ] [DecidableEq γ]

def census (p : π → Bool) (place : γ → π) : Nat := (Finset.univ.filter fun g => p (place g) = true).card

omit [DecidableEq γ] in
theorem census_sum (p : π → Bool) (place : γ → π) : census p place = ∑ g, (p (place g)).toNat := by
  rw [census, Finset.card_filter]
  refine Finset.sum_congr rfl fun g _ => ?_
  cases p (place g) with
  | false => rfl
  | true => rfl

theorem census_update (p : π → Bool) (place : γ → π) (g : γ) (new : π) :
    census p (Function.update place g new) + (p (place g)).toNat = census p place + (p new).toNat := by
  have others : ∑ x ∈ Finset.univ.erase g, (p (Function.update place g new x)).toNat =
      ∑ x ∈ Finset.univ.erase g, (p (place x)).toNat :=
    Finset.sum_congr rfl fun x member => by rw [Function.update_of_ne (Finset.ne_of_mem_erase member)]
  rw [census_sum, census_sum, ← Finset.add_sum_erase _ _ (Finset.mem_univ g),
    ← Finset.add_sum_erase Finset.univ (fun x => (p (place x)).toNat) (Finset.mem_univ g), others, Function.update_self]
  omega

omit [DecidableEq γ] in
theorem census_pos_iff (p : π → Bool) (place : γ → π) : 0 < census p place ↔ ∃ g, p (place g) = true := by
  rw [census, Finset.card_pos]
  constructor
  · rintro ⟨g, member⟩
    exact ⟨g, (Finset.mem_filter.mp member).2⟩
  · rintro ⟨g, there⟩
    exact ⟨g, Finset.mem_filter.mpr ⟨Finset.mem_univ g, there⟩⟩

omit [DecidableEq γ] in
theorem census_zero_iff (p : π → Bool) (place : γ → π) : census p place = 0 ↔ ∀ g, p (place g) = false := by
  rw [← not_iff_not, ← Ne, ← Nat.pos_iff_ne_zero, census_pos_iff, not_forall]
  simp only [Bool.not_eq_false]

omit [DecidableEq γ] in
theorem census_unique (p : π → Bool) (place : γ → π) (one : census p place ≤ 1) (a b : γ) (first : p (place a) = true)
    (second : p (place b) = true) : a = b :=
  Finset.card_le_one.mp one a (Finset.mem_filter.mpr ⟨Finset.mem_univ a, first⟩) b
    (Finset.mem_filter.mpr ⟨Finset.mem_univ b, second⟩)

end Census

end Go
