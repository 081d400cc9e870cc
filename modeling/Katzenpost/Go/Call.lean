import Katzenpost.Go.Bytes

set_option autoImplicit false

namespace Go

-- A call that may panic, which is none, or return an error.
abbrev Call (ε α : Type) := ExceptT ε Option α

def Call.panics {ε α : Type} : Call ε α := (none : Option (Except ε α))

def Call.returns {ε α : Type} (a : α) : Call ε α := (some (.ok a) : Option (Except ε α))

def Call.fails {ε α : Type} (e : ε) : Call ε α := (some (.error e) : Option (Except ε α))

instance {ε α : Type} [DecidableEq ε] [DecidableEq α] : DecidableEq (Call ε α) :=
  inferInstanceAs (DecidableEq (Option (Except ε α)))

section Inversion

variable {ε α β : Type}

theorem returns_inj (a b : α) (same : (Call.returns a : Call ε α) = Call.returns b) : a = b := by
  cases same
  rfl

theorem panics_ne_returns (a : α) : (Call.panics : Call ε α) ≠ Call.returns a := by
  intro same
  cases same

theorem fails_ne_returns (e : ε) (a : α) : (Call.fails e : Call ε α) ≠ Call.returns a := by
  intro same
  cases same

theorem returns_bind (a : α) (f : α → Call ε β) : (Call.returns a >>= f) = f a := rfl

theorem bind_returns (x : Call ε α) (f : α → Call ε β) (b : β) (returned : (x >>= f) = Call.returns b) :
    ∃ a, x = Call.returns a ∧ f a = Call.returns b := by
  cases x with
  | none => exact absurd returned (panics_ne_returns b)
  | some result =>
      cases result with
      | error e => exact absurd returned (fails_ne_returns e b)
      | ok a => exact ⟨a, rfl, returned⟩

end Inversion

def slice {ε : Type} (b : Bytes) (lo hi : Nat) : Call ε Bytes :=
  if lo ≤ hi ∧ hi ≤ b.length then .returns ((b.take hi).drop lo) else .panics

theorem slice_returns {ε : Type} (b : Bytes) (lo hi : Nat) (inside : lo ≤ hi ∧ hi ≤ b.length) :
    (slice b lo hi : Call ε Bytes) = .returns ((b.take hi).drop lo) := if_pos inside

def copied (n : Nat) (source : Bytes) : Bytes := source.take n ++ List.replicate (n - source.length) 0

theorem copied_length (n : Nat) (source : Bytes) : (copied n source).length = n := by
  simp only [copied, List.length_append, List.length_take, List.length_replicate]
  omega

theorem copied_short (n : Nat) (source : Bytes) (short : source.length ≤ n) :
    copied n source = source ++ List.replicate (n - source.length) 0 := by
  rw [copied, List.take_of_length_le short]

theorem copied_append (n : Nat) (front back : Bytes) :
    copied (n + front.length) (front ++ back) = front ++ copied n back := by
  rw [copied, copied, List.length_append, Nat.add_comm n, List.take_append, List.append_assoc]
  rw [List.take_of_length_le (Nat.le_add_right _ _), Nat.add_sub_cancel_left, Nat.add_sub_add_left]

theorem copied_zero_iff (n : Nat) (source : Bytes) (short : source.length ≤ n) :
    copied n source = List.replicate n 0 ↔ ∀ b ∈ source, b = 0 := by
  rw [copied_short n source short, List.eq_replicate_iff]
  simp only [List.length_append, List.length_replicate, List.mem_append, List.mem_replicate]
  apply Iff.intro
  · intro zeros b member
    exact zeros.2 b (Or.inl member)
  · intro zeros
    refine ⟨by omega, fun b member => ?_⟩
    cases member with
    | inl member => exact zeros b member
    | inr filled => exact filled.2

theorem shifted_zero (bytes : Bytes) (shift : Nat) (positive : 0 < shift)
    (same : (bytes ++ List.replicate shift 0).drop shift = bytes) : bytes = List.replicate bytes.length 0 := by
  have entry : ∀ left i, bytes.length - i ≤ left → ∀ inside : i < bytes.length, bytes[i] = 0 := by
    intro left
    induction left with
    | zero => intro i bound inside; omega
    | succ left ih =>
        intro i bound inside
        have here : bytes[i]? = (bytes ++ List.replicate shift 0)[shift + i]? := by
          conv => lhs; rw [← same]
          rw [List.getElem?_drop]
        rw [List.getElem?_eq_getElem inside] at here
        by_cases further : shift + i < bytes.length
        · rw [List.getElem?_append_left further, List.getElem?_eq_getElem further] at here
          rw [Option.some_inj.mp here]
          exact ih (shift + i) (by omega) further
        · rw [List.getElem?_append_right (by omega), List.getElem?_replicate_of_lt (by omega)] at here
          exact Option.some_inj.mp here
  apply List.eq_replicate_of_mem
  intro b member
  obtain ⟨i, inside, rfl⟩ := List.getElem_of_mem member
  exact entry _ i (Nat.le_refl _) inside

end Go
