import Mathlib

set_option autoImplicit false

namespace Go

theorem word_count (p : Nat → Prop) [DecidablePred p] :
    (Finset.univ.filter fun v : UInt64 => p v.toNat).card = Nat.count p (2 ^ 64) := by
  rw [Nat.count_eq_card_filter_range]
  refine Finset.card_nbij UInt64.toNat ?_ ?_ ?_
  · intro v member
    have holds := (Finset.mem_filter.mp (Finset.mem_coe.mp member)).2
    exact Finset.mem_coe.mpr (Finset.mem_filter.mpr ⟨Finset.mem_range.mpr v.toNat_lt, holds⟩)
  · intro v _ w _ same
    exact UInt64.toNat_inj.mp same
  · intro k member
    obtain ⟨below, holds⟩ := Finset.mem_filter.mp (Finset.mem_coe.mp member)
    have value : (UInt64.ofNat k).toNat = k := UInt64.toNat_ofNat_of_lt' (Finset.mem_range.mp below)
    refine ⟨UInt64.ofNat k, Finset.mem_coe.mpr (Finset.mem_filter.mpr ⟨Finset.mem_univ _, ?_⟩), value⟩
    rw [value]
    exact holds

theorem count_bounded (p : Nat → Prop) [DecidablePred p] (limit bound : Nat) (inside : limit ≤ bound) :
    Nat.count (fun v => v < limit ∧ p v) bound = Nat.count p limit := by
  rw [Nat.count_eq_card_filter_range, Nat.count_eq_card_filter_range]
  congr 1
  ext v
  rw [Finset.mem_filter, Finset.mem_filter, Finset.mem_range, Finset.mem_range]
  constructor
  · rintro ⟨_, below, holds⟩
    exact ⟨below, holds⟩
  · rintro ⟨below, holds⟩
    exact ⟨below.trans_le inside, below, holds⟩

theorem residue_count (n limit residue : Nat) (positive : 0 < n) (whole : n ∣ limit) (small : residue < n) :
    Nat.count (fun v => v % n = residue) limit = limit / n := by
  have counted := Nat.count_modEq_card limit positive residue
  rw [Nat.mod_eq_zero_of_dvd whole, if_neg (Nat.not_lt_zero _), Nat.add_zero] at counted
  rw [← counted]
  congr 1
  funext v
  rw [Nat.ModEq, Nat.mod_eq_of_lt small]

theorem count_below (limit bound : Nat) (inside : limit ≤ bound) : Nat.count (fun v => v < limit) bound = limit := by
  have all := count_bounded (fun _ => True) limit bound inside
  rw [Nat.count_true] at all
  refine Eq.trans ?_ all
  congr 1
  funext v
  rw [and_true]

end Go
