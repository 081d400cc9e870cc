import Mathlib

set_option autoImplicit false

namespace Go

-- Runs of a system whose steps may fail; a failed step ends the run.
section Run

variable {σ ε : Type} (step : σ → ε → Option σ)

def run : σ → List ε → Option σ
  | state, [] => some state
  | state, event :: rest =>
      match step state event with
      | none => none
      | some next => run next rest

def Meets (condition : σ → ε → Prop) : σ → List ε → Prop
  | _, [] => True
  | state, event :: rest => condition state event ∧ ∀ next, step state event = some next → Meets condition next rest

instance decidableMeets (condition : σ → ε → Prop) [∀ state event, Decidable (condition state event)] :
    ∀ state events, Decidable (Meets step condition state events)
  | _, [] => isTrue trivial
  | state, event :: rest =>
      match taken : step state event with
      | none => decidable_of_iff (condition state event) (by simp [Meets, taken])
      | some next =>
          have := decidableMeets condition next rest
          decidable_of_iff (condition state event ∧ Meets step condition next rest) (by simp [Meets, taken])

theorem run_preserves (invariant : σ → Prop) (condition : σ → ε → Prop)
    (preserved : ∀ state event next, invariant state → condition state event → step state event = some next → invariant next)
    (events : List ε) (state final : σ) (initially : invariant state) (meets : Meets step condition state events)
    (reached : run step state events = some final) : invariant final := by
  induction events generalizing state with
  | nil =>
      obtain rfl := Option.some.inj reached
      exact initially
  | cons event rest ih =>
      rw [run] at reached
      cases taken : step state event with
      | none => simp [taken] at reached
      | some next =>
          rw [taken] at reached
          exact ih next (preserved state event next initially meets.1 taken) (meets.2 next taken) reached

theorem run_append (before after : List ε) (state mid : σ) (reached : run step state before = some mid) :
    run step state (before ++ after) = run step mid after := by
  induction before generalizing state with
  | nil =>
      obtain rfl := Option.some.inj reached
      rfl
  | cons event rest ih =>
      rw [run] at reached
      rw [List.cons_append, run]
      cases taken : step state event with
      | none => simp [taken] at reached
      | some next =>
          rw [taken] at reached
          exact ih next reached

def Always (P : σ → Prop) : σ → List ε → Prop
  | state, [] => P state
  | state, event :: rest => P state ∧ ∀ next, step state event = some next → Always P next rest

theorem always_of_invariant (P invariant : σ → Prop) (condition : σ → ε → Prop)
    (kept : ∀ state event next, invariant state → condition state event → step state event = some next → invariant next)
    (implies : ∀ state, invariant state → P state) (events : List ε) (state : σ) (initially : invariant state)
    (meets : Meets step condition state events) : Always step P state events := by
  induction events generalizing state with
  | nil => exact implies state initially
  | cons event rest ih =>
      exact ⟨implies state initially, fun next taken =>
        ih next (kept state event next initially meets.1 taken) (meets.2 next taken)⟩

theorem meets_always (condition : σ → ε → Prop) (all : ∀ state event, condition state event) (events : List ε) (state : σ) :
    Meets step condition state events := by
  induction events generalizing state with
  | nil => trivial
  | cons event rest ih => exact ⟨all state event, fun next _ => ih next⟩

theorem meets_of_mem (condition : σ → ε → Prop) (events : List ε) (all : ∀ state, ∀ event ∈ events, condition state event) (state : σ) :
    Meets step condition state events := by
  induction events generalizing state with
  | nil => trivial
  | cons event rest ih =>
      exact ⟨all state event List.mem_cons_self, fun next _ => ih (fun other later member => all other later
        (List.mem_cons_of_mem event member)) next⟩

theorem meets_implied (invariant : σ → Prop) (assumption condition : σ → ε → Prop)
    (kept : ∀ state event next, invariant state → assumption state event → step state event = some next → invariant next)
    (implies : ∀ state event, invariant state → assumption state event → condition state event) (events : List ε) (state : σ)
    (initially : invariant state) (meets : Meets step assumption state events) : Meets step condition state events := by
  induction events generalizing state with
  | nil => trivial
  | cons event rest ih =>
      exact ⟨implies state event initially meets.1, fun next taken =>
        ih next (kept state event next initially meets.1 taken) (meets.2 next taken)⟩

theorem always_final (P : σ → Prop) (events : List ε) (state final : σ) (always : Always step P state events)
    (reached : run step state events = some final) : P final := by
  induction events generalizing state with
  | nil =>
      obtain rfl := Option.some.inj reached
      exact always
  | cons event rest ih =>
      rw [run] at reached
      cases taken : step state event with
      | none => simp [taken] at reached
      | some next =>
          rw [taken] at reached
          exact ih next (always.2 next taken) reached

theorem always_iff_meets_under (invariant P : σ → Prop) (assumption condition : σ → ε → Prop)
    (sound : ∀ state event next, invariant state → assumption state event → step state event = some next → invariant next)
    (kept : ∀ state event next, invariant state → P state → assumption state event → step state event = some next →
      (P next ↔ condition state event))
    (failed : ∀ state event, step state event = none → condition state event)
    (events : List ε) (state : σ) (holds : invariant state) (initially : P state)
    (meets : Meets step assumption state events) : Always step P state events ↔ Meets step condition state events := by
  induction events generalizing state with
  | nil => exact ⟨fun _ => trivial, fun _ => initially⟩
  | cons event rest ih =>
      cases taken : step state event with
      | none => simp [Always, Meets, taken, initially, failed state event taken]
      | some next =>
          have exactly := kept state event next holds initially meets.1 taken
          have onwards := fun later => ih next (sound state event next holds meets.1 taken) later (meets.2 next taken)
          simp only [Always, Meets, taken, Option.some.injEq, forall_eq', initially, true_and]
          constructor
          · intro always
            have later : P next := by cases rest with
              | nil => exact always
              | cons _ _ => exact always.1
            exact ⟨exactly.mp later, (onwards later).mp always⟩
          · rintro ⟨met, rest⟩
            exact (onwards (exactly.mpr met)).mpr rest

theorem always_iff_meets (P : σ → Prop) (condition : σ → ε → Prop)
    (kept : ∀ state event next, P state → step state event = some next → (P next ↔ condition state event))
    (failed : ∀ state event, step state event = none → condition state event)
    (events : List ε) (state : σ) (initially : P state) :
    Always step P state events ↔ Meets step condition state events :=
  always_iff_meets_under step (fun _ => True) P (fun _ _ => True) condition (fun _ _ _ _ _ _ => trivial)
    (fun state event next _ holds _ taken => kept state event next holds taken) failed events state trivial initially
    (meets_always step _ (fun _ _ => trivial) events state)

end Run

end Go
