import Katzenpost.Go.Block

set_option autoImplicit false

namespace Go

inductive Stop (ε : Type) where
  | fails (e : ε)
  | outOfRange
  | panics
  | unfinished
deriving DecidableEq

section While

variable {ε σ α β : Type}

-- A loop without a bound. A turn gives none when the condition does not hold; a run
-- that is given too few turns is unfinished.
def loop (turn : σ → Option (Except (Stop ε) σ)) : Nat → σ → Except (Stop ε) σ
  | 0, _ => .error .unfinished
  | fuel + 1, s =>
      match turn s with
      | none => .ok s
      | some (.error stop) => .error stop
      | some (.ok next) => loop turn fuel next

theorem stop_bind_ok (x : Except (Stop ε) α) (f : α → Except (Stop ε) β) (b : β) (returned : (x >>= f) = .ok b) :
    ∃ a, x = .ok a ∧ f a = .ok b := by
  cases x with
  | error stop => cases returned
  | ok a => exact ⟨a, rfl, returned⟩

def Settles (run : Nat → Except (Stop ε) α) (outcome : Except (Stop ε) α) : Prop := ∃ enough, ∀ fuel, enough ≤ fuel → run fuel = outcome

def Terminates (run : Nat → Except (Stop ε) α) : Prop := ∃ outcome, Settles run outcome ∧ outcome ≠ .error .unfinished

theorem settles_unique (run : Nat → Except (Stop ε) α) (a b : Except (Stop ε) α) (first : Settles run a) (second : Settles run b) :
    a = b := by
  obtain ⟨n, first⟩ := first
  obtain ⟨m, second⟩ := second
  rw [← first (max n m) (le_max_left n m), second (max n m) (le_max_right n m)]

theorem settles_terminates (run : Nat → Except (Stop ε) α) (outcome : Except (Stop ε) α) (settles : Settles run outcome) :
    Terminates run ↔ outcome ≠ .error .unfinished := by
  constructor
  · rintro ⟨other, reached, finished⟩
    rwa [← settles_unique run other outcome reached settles]
  · intro finished
    exact ⟨outcome, settles, finished⟩

theorem settles_const (outcome : Except (Stop ε) α) : Settles (fun _ => outcome) outcome := ⟨0, fun _ _ => rfl⟩

theorem settles_bind (run : Nat → Except (Stop ε) α) (after : Nat → α → Except (Stop ε) β) (a : α) (outcome : Except (Stop ε) β)
    (first : Settles run (.ok a)) (second : Settles (fun fuel => after fuel a) outcome) :
    Settles (fun fuel => run fuel >>= after fuel) outcome := by
  obtain ⟨n, first⟩ := first
  obtain ⟨m, second⟩ := second
  refine ⟨max n m, fun fuel enough => ?_⟩
  have left := first fuel (le_trans (le_max_left n m) enough)
  have right := second fuel (le_trans (le_max_right n m) enough)
  show (run fuel >>= after fuel) = outcome
  rw [left]
  exact right

theorem settles_stop (run : Nat → Except (Stop ε) α) (after : Nat → α → Except (Stop ε) β) (stop : Stop ε)
    (stops : Settles run (.error stop)) : Settles (fun fuel => run fuel >>= after fuel) (.error stop) := by
  obtain ⟨n, stops⟩ := stops
  refine ⟨n, fun fuel enough => ?_⟩
  show (run fuel >>= after fuel) = .error stop
  rw [stops fuel enough]
  rfl

theorem loop_settles (turn : σ → Option (Except (Stop ε) σ)) (P : σ → Prop) (measure : σ → Nat)
    (turns : ∀ s, P s → turn s = none ∨ ∃ next, turn s = some (.ok next) ∧ P next ∧ measure next < measure s) (s : σ) (holds : P s) :
    ∃ last, P last ∧ turn last = none ∧ Settles (fun fuel => loop turn fuel s) (.ok last) := by
  induction bound : measure s using Nat.strong_induction_on generalizing s with
  | _ n ih =>
      rcases turns s holds with done | ⟨next, goes, kept, smaller⟩
      · refine ⟨s, holds, done, 1, fun fuel enough => ?_⟩
        obtain ⟨k, rfl⟩ := Nat.exists_eq_add_of_le' enough
        simp only [loop, done]
      · obtain ⟨last, ends, stopped, enough, settles⟩ := ih (measure next) (bound ▸ smaller) next kept rfl
        refine ⟨last, ends, stopped, enough + 1, fun fuel more => ?_⟩
        obtain ⟨k, rfl⟩ := Nat.exists_eq_add_of_le' (le_trans (Nat.le_add_left 1 enough) more)
        simp only [loop, goes]
        exact settles k (by omega)

theorem loop_never_ends (turn : σ → Option (Except (Stop ε) σ)) (P : σ → Prop)
    (turns : ∀ s, P s → ∃ next, turn s = some (.ok next) ∧ P next) (fuel : Nat) (s : σ) (holds : P s) :
    loop turn fuel s = .error .unfinished := by
  induction fuel generalizing s with
  | zero => rfl
  | succ fuel ih =>
      obtain ⟨next, goes, kept⟩ := turns s holds
      simp only [loop, goes]
      exact ih next kept

end While

end Go
