import Mathlib

set_option autoImplicit false

namespace Go

structure TokenBucket where
  tokens : Nat
  last : Int

structure Earns (interval : Int) (size : Nat) (now : Int) (before after : TokenBucket) : Prop where
  last : after.last = before.last + interval * ((now - before.last) / interval)
  tokens : (after.tokens : Int) ≤ before.tokens + (now - before.last) / interval
  size : after.tokens ≤ size

def within (start stop : Int) (times : List Int) : Nat := times.countP fun t => start ≤ t ∧ t ≤ stop

theorem within_snoc (start stop now : Int) (times : List Int) :
    within start stop (times ++ [now]) = within start stop times + if start ≤ now ∧ now ≤ stop then 1 else 0 := by
  rw [within, List.countP_append, List.countP_singleton, within]
  simp only [decide_eq_true_eq]

theorem within_later (start stop now : Int) (times : List Int) (earlier : ∀ t ∈ times, t ≤ now) (before : now < start) :
    within start stop times = 0 := by
  rw [within, List.countP_eq_zero]
  intro t member inside
  have := earlier t member
  have := (of_decide_eq_true inside).1
  omega

section Window

variable (interval : Int) (size : Nat) (start stop : Int)

def Spent (bucket : TokenBucket) (taken : List Int) : Prop :=
  (within start stop taken + bucket.tokens) * interval < (size + 1) * interval + (bucket.last - start)

structure Windowed (now : Int) (bucket : TokenBucket) (taken : List Int) : Prop where
  past : bucket.last ≤ now
  sized : bucket.tokens ≤ size
  earlier : ∀ t ∈ taken, t ≤ now
  bounded : (within start stop taken : Int) ≤ size + (stop - start) / interval + 1
  spent : now ≤ stop → within start stop taken = 0 ∨ Spent interval size start stop bucket taken

variable {interval size start stop} {now next : Int} {bucket earned : TokenBucket} {taken : List Int}

theorem spent_bounded (positive : 0 < interval) (ended : bucket.last ≤ stop)
    (spent : Spent interval size start stop bucket taken) :
    (within start stop taken : Int) ≤ size + (stop - start) / interval + 1 := by
  have used : (0 : Int) ≤ bucket.tokens * interval := by positivity
  have total : ((within start stop taken : Int) - size - 1) * interval ≤ stop - start := by
    rw [Spent] at spent
    linarith
  have := Int.le_ediv_of_mul_le positive total
  omega

theorem earns_past (positive : 0 < interval) (earns : Earns interval size next bucket earned) :
    earned.last ≤ next ∧ next < earned.last + interval := by
  have below := Int.mul_ediv_self_le (x := next - bucket.last) (k := interval) positive.ne'
  have above := Int.lt_mul_ediv_self_add (x := next - bucket.last) positive
  rw [earns.last]
  omega

theorem earns_spent (positive : 0 < interval) (windowed : Windowed interval size start stop now bucket taken)
    (later : now ≤ next) (earns : Earns interval size next bucket earned) (begun : start ≤ next) (ended : next ≤ stop) :
    Spent interval size start stop earned taken := by
  cases windowed.spent (le_trans later ended) with
  | inl none =>
      have full : (earned.tokens : Int) * interval ≤ size * interval :=
        mul_le_mul_of_nonneg_right (Int.ofNat_le.mpr earns.size) positive.le
      have fresh := (earns_past positive earns).2
      rw [Spent, none]
      push_cast
      linarith
  | inr spent =>
      have gained : (earned.tokens : Int) * interval ≤ (bucket.tokens + (next - bucket.last) / interval) * interval :=
        mul_le_mul_of_nonneg_right earns.tokens positive.le
      rw [Spent] at spent ⊢
      rw [earns.last]
      linarith

theorem earns_windowed (positive : 0 < interval) (windowed : Windowed interval size start stop now bucket taken)
    (later : now ≤ next) (earns : Earns interval size next bucket earned) :
    Windowed interval size start stop next earned taken := by
  have earlier : ∀ t ∈ taken, t ≤ next := fun t member => le_trans (windowed.earlier t member) later
  refine ⟨(earns_past positive earns).1, earns.size, earlier, windowed.bounded, fun ended => ?_⟩
  by_cases begun : start ≤ next
  · exact Or.inr (earns_spent positive windowed later earns begun ended)
  · exact Or.inl (within_later start stop next taken earlier (not_le.mp begun))

theorem unused_windowed (positive : 0 < interval) (forward : start ≤ stop) (bucket : TokenBucket) (now : Int)
    (past : bucket.last ≤ now) (sized : bucket.tokens ≤ size) : Windowed interval size start stop now bucket [] := by
  have room := Int.ediv_nonneg (sub_nonneg.mpr forward) positive.le
  refine ⟨past, sized, fun t member => (List.not_mem_nil member).elim, ?_, fun _ => Or.inl rfl⟩
  rw [within, List.countP_nil]
  omega

theorem waits_windowed (windowed : Windowed interval size start stop now bucket taken) (later : now ≤ next) :
    Windowed interval size start stop next bucket taken :=
  ⟨le_trans windowed.past later, windowed.sized, fun t member => le_trans (windowed.earlier t member) later,
    windowed.bounded, fun ended => windowed.spent (le_trans later ended)⟩

theorem takes_windowed (positive : 0 < interval) (windowed : Windowed interval size start stop now bucket taken)
    (later : now ≤ next) (earns : Earns interval size next bucket earned) (left : Nat) (some : earned.tokens = left + 1) :
    Windowed interval size start stop next ⟨left, earned.last⟩ (taken ++ [next]) := by
  have after := earns_windowed positive windowed later earns
  have earlier : ∀ t ∈ taken ++ [next], t ≤ next := by
    intro t member
    cases List.mem_append.mp member with
    | inl old => exact after.earlier t old
    | inr new => exact (List.mem_singleton.mp new).le
  have sized : left ≤ size := by
    have := after.sized
    omega
  by_cases inside : start ≤ next ∧ next ≤ stop
  · have spent : Spent interval size start stop ⟨left, earned.last⟩ (taken ++ [next]) := by
      have before := earns_spent positive windowed later earns inside.1 inside.2
      rw [Spent, some] at before
      rw [Spent, within_snoc, if_pos inside]
      push_cast at before ⊢
      linarith
    refine ⟨after.past, sized, earlier, spent_bounded positive ?_ spent, fun _ => Or.inr spent⟩
    exact le_trans after.past inside.2
  · have same : within start stop (taken ++ [next]) = within start stop taken := by rw [within_snoc, if_neg inside, add_zero]
    refine ⟨after.past, sized, earlier, same ▸ after.bounded, fun ended => Or.inl ?_⟩
    exact same ▸ within_later start stop next taken after.earlier (not_le.mp fun begun => inside ⟨begun, ended⟩)

end Window

end Go
