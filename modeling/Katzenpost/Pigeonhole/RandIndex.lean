import Katzenpost.Go.Residues
import Katzenpost.Pigeonhole.Intermediates

set_option autoImplicit false

namespace Katzenpost.Pigeonhole

open Go

def sampleLimit (n : Nat) : Nat := 2 ^ 64 - 2 ^ 64 % n

section Samples

variable (n : Nat) (positive : 0 < n) (small : n < 2 ^ 63)

include small in
theorem as_word : (UInt64.ofNat n).toNat = n := UInt64.toNat_ofNat_of_lt' (by rw [UInt64.size]; omega)

include positive small in
theorem rejected_samples : ((0 - UInt64.ofNat n) % UInt64.ofNat n).toNat = 2 ^ 64 % n := by
  have wrapped : (0 - UInt64.ofNat n).toNat = 2 ^ 64 - n := by
    rw [UInt64.toNat_sub, as_word n small, UInt64.toNat_zero, Nat.add_zero, Nat.mod_eq_of_lt (by omega)]
  rw [UInt64.toNat_mod, wrapped, as_word n small]
  exact (Nat.mod_eq_sub_mod (by omega)).symm

include positive small in
theorem accepted_iff (v : UInt64) : accepted n v = true ↔ v.toNat < sampleLimit n := by
  have value := rejected_samples n positive small
  have below : 2 ^ 64 % n < n := Nat.mod_lt _ positive
  have bound := v.toNat_lt
  rw [accepted, decide_eq_true_eq, sampleLimit]
  generalize (0 - UInt64.ofNat n) % UInt64.ofNat n = r at value ⊢
  rw [UInt64.lt_iff_toNat_lt, UInt64.toNat_sub, UInt64.toNat_zero, Nat.add_zero, ← UInt64.toNat_inj, UInt64.toNat_zero, value]
  -- The bound wraps to 0 exactly if nothing is to be rejected.
  by_cases none : 2 ^ 64 % n = 0
  · rw [none]
    constructor
    · intro _
      omega
    · exact fun _ => .inl rfl
  · rw [Nat.mod_eq_of_lt (by omega : 2 ^ 64 - 2 ^ 64 % n < 2 ^ 64)]
    constructor
    · rintro (absent | inside)
      · exact absurd absent none
      · exact inside
    · exact .inr

theorem sample_limit_inside : sampleLimit n ≤ 2 ^ 64 := Nat.sub_le _ _

theorem sample_limit_whole : n ∣ sampleLimit n := Nat.dvd_sub_mod (2 ^ 64)

include positive in
theorem sample_limit_div : sampleLimit n / n = 2 ^ 64 / n := by
  have split := Nat.div_add_mod (2 ^ 64) n
  have limit : sampleLimit n = n * (2 ^ 64 / n) := by
    rw [sampleLimit]
    omega
  rw [limit, Nat.mul_div_cancel_left _ positive]

include positive small in
theorem index_samples (i : Nat) (inside : i < n) :
    (Finset.univ.filter fun v : UInt64 => accepted n v = true ∧ drawnIndex n v = i).card = 2 ^ 64 / n := by
  have same : (Finset.univ.filter fun v : UInt64 => accepted n v = true ∧ drawnIndex n v = i) =
      Finset.univ.filter fun v : UInt64 => v.toNat < sampleLimit n ∧ v.toNat % n = i := by
    ext v
    rw [Finset.mem_filter, Finset.mem_filter, accepted_iff n positive small, drawnIndex, UInt64.toNat_mod, as_word n small]
  rw [same, word_count fun v => v < sampleLimit n ∧ v % n = i, count_bounded _ _ _ (sample_limit_inside n),
    residue_count n _ i positive (sample_limit_whole n) inside, sample_limit_div n positive]

include positive small in
theorem accepted_samples : (Finset.univ.filter fun v : UInt64 => accepted n v = true).card = sampleLimit n := by
  have same : (Finset.univ.filter fun v : UInt64 => accepted n v = true) =
      Finset.univ.filter fun v : UInt64 => v.toNat < sampleLimit n := by
    ext v
    rw [Finset.mem_filter, Finset.mem_filter, accepted_iff n positive small]
  rw [same, word_count fun v => v < sampleLimit n, count_below _ _ (sample_limit_inside n)]

end Samples

theorem draw_index_iff (draws : Nat → UInt64) (n fuel pos idx next : Nat) :
    drawIndex draws n fuel pos = .ok (idx, next) ↔
      ∃ q, pos ≤ q ∧ q < fuel + pos ∧ (∀ p, pos ≤ p → p < q → accepted n (draws p) = false) ∧ accepted n (draws q) = true ∧
        idx = drawnIndex n (draws q) ∧ next = q + 1 := by
  constructor
  · intro returned
    induction fuel generalizing pos with
    | zero => cases returned
    | succ fuel ih =>
        rw [drawIndex] at returned
        by_cases good : accepted n (draws pos) = true
        · rw [if_pos good] at returned
          cases returned
          exact ⟨pos, le_refl _, by omega, fun p reach before => absurd before (by omega), good, rfl, rfl⟩
        · rw [if_neg good] at returned
          obtain ⟨q, reach, enough, rejected, found, index, after⟩ := ih (pos + 1) returned
          refine ⟨q, by omega, by omega, fun p from' before => ?_, found, index, after⟩
          by_cases first : p = pos
          · rw [first]
            exact Bool.eq_false_iff.mpr good
          · exact rejected p (by omega) before
  · rintro ⟨q, reach, enough, rejected, good, rfl, rfl⟩
    obtain ⟨p, after, before, found, ends⟩ := draw_index_ends n q pos reach good
    have same : p = q := by
      by_contra earlier
      exact Bool.false_ne_true ((rejected p after (by omega)).symm.trans found)
    rw [ends fuel enough, same]

/-- Every index is that of equally many accepted samples, more than half of all samples are
accepted, and the index of the first accepted one is returned. -/
theorem rand_index_uniform (n : Nat) (positive : 0 < n) (int : n < 2 ^ 63) :
    (∀ i < n, (Finset.univ.filter fun v : UInt64 => accepted n v = true ∧ drawnIndex n v = i).card = 2 ^ 64 / n) ∧
    2 ^ 64 ≤ 2 * (Finset.univ.filter fun v : UInt64 => accepted n v = true).card ∧
    ∀ (draws : Nat → UInt64) (fuel pos idx next : Nat),
      (cryptoRandIndex draws n fuel pos = .ok (idx, next) ↔
        ∃ q, pos ≤ q ∧ q < fuel + pos ∧ (∀ p, pos ≤ p → p < q → accepted n (draws p) = false) ∧ accepted n (draws q) = true ∧
          idx = drawnIndex n (draws q) ∧ next = q + 1) ∧
      (cryptoRandIndex draws n fuel pos = .ok (idx, next) → idx < n) := by
  refine ⟨index_samples n positive int, ?_, fun draws fuel pos idx next => ?_⟩
  · have below : 2 ^ 64 % n < n := Nat.mod_lt _ positive
    rw [accepted_samples n positive int, sampleLimit]
    omega
  · rw [cryptoRandIndex, if_neg (Nat.ne_of_gt positive)]
    refine ⟨draw_index_iff draws n fuel pos idx next, fun returned => ?_⟩
    obtain ⟨q, _, _, _, _, index, _⟩ := (draw_index_iff draws n fuel pos idx next).mp returned
    rw [index]
    exact drawn_index_lt n positive (by omega) (draws q)

theorem three_indices_uniform :
    accepted 3 (0 - 1) = false ∧
    (Finset.univ.filter fun v : UInt64 => accepted 3 v = true ∧ drawnIndex 3 v = 2).card = 2 ^ 64 / 3 ∧
    cryptoRandIndex (fun p => if p = 0 then 0 - 1 else 5) 3 2 0 = .ok (2, 2) := by
  obtain ⟨uniform, _, returned⟩ := rand_index_uniform 3 (by decide) (by decide)
  refine ⟨by decide, uniform 2 (by decide), (returned _ 2 0 2 2).1.mpr ⟨1, by decide, by decide, ?_, by decide, rfl, rfl⟩⟩
  intro p _ before
  obtain rfl : p = 0 := by omega
  decide

end Katzenpost.Pigeonhole
