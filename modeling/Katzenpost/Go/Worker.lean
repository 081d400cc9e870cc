import Katzenpost.Go.Run
import Katzenpost.Go.Slots

set_option autoImplicit false

namespace Go

-- Goroutines that are started under workers. Halt of a worker closes its channel and
-- waits until all goroutines under it have returned; ω are the workers, κ the places in
-- the code of a goroutine.
inductive GoStage (ω κ : Type) where
  | running (place : κ)
  | waits (w : ω)
  | returned
deriving DecidableEq

structure ManagedRoutine (ω κ : Type) where
  under : Option ω
  stage : GoStage ω κ
deriving DecidableEq

structure Workers (ω κ : Type) where
  goroutines : List (ManagedRoutine ω κ)
  halted : List ω

-- What is started under which worker, and where an event takes a goroutine, given the
-- channels that are closed. A goroutine that calls Halt returns after it.
structure WorkerProgram (ω κ ε : Type) where
  starts : ω → κ → Bool
  step : (ω → Bool) → κ → ε → Option (GoStage ω κ)

inductive WorkerEvent (ω κ ε : Type) where
  | start (w : ω) (place : κ)
  | run (i : Nat) (event : ε)
  | resume (i : Nat)
  | callHalt (w : ω)

section Workers

variable {ω κ ε : Type} [DecidableEq ω] [DecidableEq κ]

namespace Workers

variable (s : Workers ω κ)

def isHalted (w : ω) : Bool := w ∈ s.halted

def setStage (i : Nat) (stage : GoStage ω κ) : Workers ω κ :=
  { s with goroutines := s.goroutines.modify i fun g => { g with stage := stage } }

def allReturned (w : ω) : Bool := s.goroutines.all fun g => g.under ≠ some w || g.stage = .returned

def enter (i : Nat) : GoStage ω κ → Workers ω κ
  | .waits w => { s.setStage i (.waits w) with halted := w :: s.halted }
  | stage => s.setStage i stage

def step (p : WorkerProgram ω κ ε) : WorkerEvent ω κ ε → Option (Workers ω κ)
  | .start w place =>
      if p.starts w place then some { s with goroutines := s.goroutines ++ [⟨some w, .running place⟩] } else none
  | .run i event =>
      match s.goroutines[i]? with
      | some ⟨_, .running place⟩ => (p.step s.isHalted place event).map (s.enter i)
      | _ => none
  | .resume i =>
      match s.goroutines[i]? with
      | some ⟨_, .waits w⟩ => if s.allReturned w then some (s.setStage i .returned) else none
      | _ => none
  | .callHalt w => some ⟨s.goroutines ++ [⟨none, .waits w⟩], w :: s.halted⟩

def SelfWaits : Prop := ∃ (i : Nat) (w : ω), s.goroutines[i]? = some ⟨some w, .waits w⟩

def Returns (p : WorkerProgram ω κ ε) : Prop :=
  ∀ (j : Nat) (under : Option ω) (w : ω), s.goroutines[j]? = some ⟨under, .waits w⟩ →
    ∃ events final, run (fun s event => Workers.step s p event) s events = some final ∧
      final.goroutines[j]? = some ⟨under, .returned⟩

-- A goroutine under the worker that has not returned and never will: it waits for the worker,
-- or it is at a place that nothing but such a wait comes after.
def Lingers (endless : κ → Prop) (w : ω) (i : Nat) : Prop :=
  ∃ stage, s.goroutines[i]? = some ⟨some w, stage⟩ ∧ (stage = .waits w ∨ ∃ place, stage = .running place ∧ endless place)

def anyAt (stage : GoStage ω κ) : Bool := s.goroutines.any fun g => g.stage = stage

def Signalled : Prop := ∀ (i : Nat) (under : Option ω) (w : ω), s.goroutines[i]? = some ⟨under, .waits w⟩ → s.isHalted w = true

def HaltsItself (p : WorkerProgram ω κ ε) : WorkerEvent ω κ ε → Prop
  | .run i event => ∃ w place, s.goroutines[i]? = some ⟨some w, .running place⟩ ∧ p.step s.isHalted place event = some (.waits w)
  | _ => False

end Workers

variable {p : WorkerProgram ω κ ε} {s next : Workers ω κ}

omit [DecidableEq ω] [DecidableEq κ] in
theorem enter_goroutines (i : Nat) (stage : GoStage ω κ) :
    (s.enter i stage).goroutines = s.goroutines.modify i fun g => { g with stage := stage } := by
  cases stage <;> rfl

inductive WorkersMove (p : WorkerProgram ω κ ε) (s next : Workers ω κ) : WorkerEvent ω κ ε → Prop where
  | started (w : ω) (place : κ) (starts : p.starts w place = true)
      (goroutines : next.goroutines = s.goroutines ++ [⟨some w, .running place⟩]) : WorkersMove p s next (.start w place)
  | ran (i : Nat) (event : ε) (under : Option ω) (place : κ) (stage : GoStage ω κ)
      (found : s.goroutines[i]? = some ⟨under, .running place⟩) (taken : p.step s.isHalted place event = some stage)
      (goroutines : next.goroutines = s.goroutines.modify i fun g => { g with stage := stage })
      (signals : ∀ w, stage = .waits w → next.isHalted w = true) : WorkersMove p s next (.run i event)
  | resumed (i : Nat) (under : Option ω) (w : ω) (found : s.goroutines[i]? = some ⟨under, .waits w⟩) (all : s.allReturned w = true)
      (goroutines : next.goroutines = s.goroutines.modify i fun g => { g with stage := .returned }) : WorkersMove p s next (.resume i)
  | called (w : ω) (goroutines : next.goroutines = s.goroutines ++ [⟨none, .waits w⟩]) (signals : next.isHalted w = true) :
      WorkersMove p s next (.callHalt w)

theorem workers_moves (event : WorkerEvent ω κ ε) (taken : s.step p event = some next) : WorkersMove p s next event := by
  cases event with
  | start w place =>
      rw [Workers.step] at taken
      split at taken
      · rename_i starts
        cases taken
        exact .started w place starts rfl
      · cases taken
  | run i event =>
      rw [Workers.step] at taken
      split at taken
      · rename_i under place found
        obtain ⟨stage, stepped, rfl⟩ := Option.map_eq_some_iff.mp taken
        refine .ran i event under place stage found stepped (enter_goroutines i stage) fun w waits => ?_
        subst waits
        simp [Workers.enter, Workers.isHalted]
      · cases taken
  | resume i =>
      rw [Workers.step] at taken
      split at taken
      · rename_i under w found
        split at taken
        · rename_i all
          cases taken
          exact .resumed i under w found all rfl
        · cases taken
      · cases taken
  | callHalt w =>
      cases taken
      exact .called w rfl (by simp [Workers.isHalted])

theorem not_all_returned (i : Nat) (w : ω) (stage : GoStage ω κ) (found : s.goroutines[i]? = some ⟨some w, stage⟩)
    (busy : stage ≠ .returned) : s.allReturned w = false := by
  rw [Workers.allReturned, List.all_eq_false]
  refine ⟨_, List.mem_of_getElem? found, ?_⟩
  simp [busy]

theorem halted_step (event : WorkerEvent ω κ ε) (w : ω) (halted : s.isHalted w = true) (taken : s.step p event = some next) :
    next.isHalted w = true := by
  cases event with
  | run i event =>
      rw [Workers.step] at taken
      split at taken
      · obtain ⟨stage, _, rfl⟩ := Option.map_eq_some_iff.mp taken
        cases stage <;> simp_all [Workers.enter, Workers.isHalted, Workers.setStage]
      · cases taken
  | resume i =>
      rw [Workers.step] at taken
      split at taken
      · split at taken
        · cases taken
          exact halted
        · cases taken
      · cases taken
  | start w' place =>
      rw [Workers.step] at taken
      split at taken
      · cases taken
        exact halted
      · cases taken
  | callHalt w' =>
      cases taken
      simp_all [Workers.isHalted]

theorem signalled_step (event : WorkerEvent ω κ ε) (signalled : s.Signalled) (taken : s.step p event = some next) : next.Signalled := by
  intro i under w found
  have kept (old : s.goroutines[i]? = some ⟨under, .waits w⟩) := halted_step event w (signalled i under w old) taken
  cases workers_moves event taken with
  | started w' place starts goroutines =>
      rcases appended_lookup i _ (goroutines ▸ found) with old | ⟨-, new⟩
      · exact kept old
      · cases new
  | called w' goroutines signals =>
      rcases appended_lookup i _ (goroutines ▸ found) with old | ⟨-, new⟩
      · exact kept old
      · cases new
        exact signals
  | resumed k under' w' there all goroutines =>
      rw [goroutines] at found
      obtain ⟨before, old, same⟩ := modified_lookup k i _ _ found
      split at same
      · cases congrArg ManagedRoutine.stage same
      · exact kept (same ▸ old)
  | ran k event under' place stage there stepped goroutines signals =>
      rw [goroutines] at found
      obtain ⟨before, old, same⟩ := modified_lookup k i _ _ found
      split at same
      · exact signals w (congrArg ManagedRoutine.stage same).symm
      · exact kept (same ▸ old)

theorem any_at_iff (stage : GoStage ω κ) : s.anyAt stage = true ↔ ∃ (i : Nat) (under : Option ω), s.goroutines[i]? = some ⟨under, stage⟩ := by
  simp only [Workers.anyAt, List.any_eq_true, List.mem_iff_getElem?, decide_eq_true_eq]
  constructor
  · rintro ⟨⟨under, _⟩, ⟨i, found⟩, rfl⟩
    exact ⟨i, under, found⟩
  · rintro ⟨i, under, found⟩
    exact ⟨_, ⟨i, found⟩, rfl⟩

theorem any_at_append (stage : GoStage ω κ) (new : ManagedRoutine ω κ) (goroutines : next.goroutines = s.goroutines ++ [new]) :
    next.anyAt stage = (s.anyAt stage || decide (new.stage = stage)) := by
  simp [Workers.anyAt, goroutines]

theorem any_at_modify (k : Nat) (under : Option ω) (before after stage : GoStage ω κ) (found : s.goroutines[k]? = some ⟨under, before⟩)
    (goroutines : next.goroutines = s.goroutines.modify k fun g => { g with stage := after }) (left : before ≠ stage) (apart : after ≠ stage) :
    next.anyAt stage = s.anyAt stage := by
  rw [Bool.eq_iff_iff, any_at_iff, any_at_iff, goroutines]
  constructor
  · rintro ⟨i, under', there⟩
    obtain ⟨g, old, same⟩ := modified_lookup k i _ _ there
    split at same
    · exact absurd (congrArg ManagedRoutine.stage same).symm apart
    · exact ⟨i, under', same ▸ old⟩
  · rintro ⟨i, under', there⟩
    have other : k ≠ i := by
      rintro rfl
      cases found.symm.trans there
      exact left rfl
    exact ⟨i, under', by rw [lookup_modify, if_neg other, there]⟩

section Lingering

variable {endless : κ → Prop} {w : ω}
  (stays : ∀ halted place event stage, endless place → p.step halted place event = some stage →
    stage = .waits w ∨ ∃ after, stage = .running after ∧ endless after)

theorem lingers_busy (i : Nat) (lingers : s.Lingers endless w i) : s.allReturned w = false := by
  obtain ⟨stage, found, waits | ⟨place, running, _⟩⟩ := lingers
  · exact not_all_returned i w stage found (by rw [waits]; rintro ⟨⟩)
  · exact not_all_returned i w stage found (by rw [running]; rintro ⟨⟩)

theorem waiting_step (i j : Nat) (under : Option ω) (lingers : s.Lingers endless w i)
    (waiting : s.goroutines[j]? = some ⟨under, .waits w⟩) (event : WorkerEvent ω κ ε) (taken : s.step p event = some next) :
    next.goroutines[j]? = some ⟨under, .waits w⟩ := by
  cases workers_moves event taken with
  | started w' place starts goroutines => exact goroutines ▸ lookup_append _ j _ waiting
  | called w' goroutines _ => exact goroutines ▸ lookup_append _ j _ waiting
  | ran k event under' place stage found stepped goroutines _ =>
      have apart : k ≠ j := by
        rintro rfl
        rw [waiting] at found
        cases found
      rw [goroutines, lookup_modify, if_neg apart, waiting]
  | resumed k under' w' found all goroutines =>
      have apart : k ≠ j := by
        rintro rfl
        rw [waiting] at found
        cases found
        rw [lingers_busy i lingers] at all
        cases all
      rw [goroutines, lookup_modify, if_neg apart, waiting]

include stays in
theorem lingers_step (i : Nat) (lingers : s.Lingers endless w i) (event : WorkerEvent ω κ ε) (taken : s.step p event = some next) :
    next.Lingers endless w i := by
  obtain ⟨stage, there, rfl | ⟨place, rfl, never⟩⟩ := lingers
  · have lingers : s.Lingers endless w i := ⟨_, there, .inl rfl⟩
    exact ⟨_, waiting_step i i (some w) lingers there event taken, .inl rfl⟩
  · have kept : next.goroutines[i]? = some ⟨some w, .running place⟩ → next.Lingers endless w i :=
      fun same => ⟨_, same, .inr ⟨place, rfl, never⟩⟩
    cases workers_moves event taken with
    | started w' place' starts goroutines => exact kept (goroutines ▸ lookup_append _ i _ there)
    | called w' goroutines _ => exact kept (goroutines ▸ lookup_append _ i _ there)
    | resumed k under' w' found all goroutines =>
        have apart : k ≠ i := by
          rintro rfl
          rw [there] at found
          cases found
        exact kept (by rw [goroutines, lookup_modify, if_neg apart, there])
    | ran k event under' place' stage found stepped goroutines _ =>
        by_cases here : k = i
        · subst here
          rw [there] at found
          cases found
          exact ⟨stage, by rw [goroutines, lookup_modify, if_pos rfl, there]; rfl, stays _ place event stage never stepped⟩
        · exact kept (by rw [goroutines, lookup_modify, if_neg here, there])

include stays in
theorem waiting_forever (i j : Nat) (under : Option ω) (events : List (WorkerEvent ω κ ε)) (lingers : s.Lingers endless w i)
    (waiting : s.goroutines[j]? = some ⟨under, .waits w⟩)
    (reached : run (fun s event => Workers.step s p event) s events = some next) : next.goroutines[j]? = some ⟨under, .waits w⟩ := by
  have kept := run_preserves (fun (s : Workers ω κ) event => s.step p event)
    (fun s => s.Lingers endless w i ∧ s.goroutines[j]? = some ⟨under, .waits w⟩) (fun _ _ => True)
    (fun s event next holds _ taken =>
      ⟨lingers_step stays i holds.1 event taken, waiting_step i j under holds.1 holds.2 event taken⟩)
    events s next ⟨lingers, waiting⟩ (meets_always _ _ (fun _ _ => trivial) events s) reached
  exact kept.2

end Lingering

theorem run_step (i : Nat) (under : Option ω) (place : κ) (event : ε) (stage : GoStage ω κ)
    (found : s.goroutines[i]? = some ⟨under, .running place⟩) (stepped : p.step s.isHalted place event = some stage)
    (onwards : ∀ w, stage ≠ .waits w) : s.step p (.run i event) = some (s.setStage i stage) := by
  rw [Workers.step, found]
  dsimp only
  rw [stepped, Option.map_some]
  cases stage with
  | waits w => exact absurd rfl (onwards w)
  | running after => rfl
  | returned => rfl

section Finishing

variable {finishes : κ → Prop} {w : ω}
  (ends : ∀ (s : Workers ω κ) (i : Nat) (place : κ), s.isHalted w = true → s.goroutines[i]? = some ⟨some w, .running place⟩ →
    finishes place → ∃ events, run (fun s event => Workers.step s p event) s events = some (s.setStage i .returned))

include ends in
theorem finish_first (halted : s.isHalted w = true)
    (ready : ∀ (i : Nat) (stage : GoStage ω κ), s.goroutines[i]? = some ⟨some w, stage⟩ →
      stage = .returned ∨ ∃ place, stage = .running place ∧ finishes place)
    (n : Nat) :
    ∃ events final, run (fun s event => Workers.step s p event) s events = some final ∧ final.halted = s.halted ∧
      ∀ i : Nat, final.goroutines[i]? = s.goroutines[i]?.map fun g => if i < n ∧ g.under = some w then { g with stage := .returned } else g := by
  induction n with
  | zero => exact ⟨[], s, rfl, rfl, fun i => by simp⟩
  | succ n ih =>
      obtain ⟨events, mid, reached, signals, goroutines⟩ := ih
      have next_iff (i : Nat) : i < n + 1 ↔ i < n ∨ n = i := by omega
      have here := goroutines n
      rw [show (fun g : ManagedRoutine ω κ => if n < n ∧ g.under = some w then { g with stage := .returned } else g) = id by
        funext g; simp, Option.map_id, id] at here
      -- Unless the next goroutine runs under the worker there is nothing to do.
      by_cases busy : ∃ place, mid.goroutines[n]? = some ⟨some w, .running place⟩
      · obtain ⟨place, running⟩ := busy
        obtain done | ⟨place', same, finishing⟩ := ready n _ (here ▸ running)
        · cases done
        cases same
        obtain ⟨more, finished⟩ := ends mid n place (by rwa [Workers.isHalted, signals]) running finishing
        refine ⟨events ++ more, mid.setStage n .returned, by rw [run_append _ _ _ _ _ reached, finished], signals, fun i => ?_⟩
        rw [Workers.setStage, lookup_modify, goroutines i]
        by_cases last : n = i
        · subst last
          rw [here.symm.trans running]
          simp
        · simp [next_iff, last]
      · refine ⟨events, mid, reached, signals, fun i => ?_⟩
        rw [goroutines i]
        by_cases last : n = i
        · subst last
          cases found : s.goroutines[n]? with
          | none => rfl
          | some g =>
              obtain ⟨under, stage⟩ := g
              by_cases own : under = some w
              · subst own
                obtain rfl | ⟨place, rfl, _⟩ := ready n stage found
                · simp
                · exact absurd ⟨place, here.trans found⟩ busy
              · simp [own]
        · simp [next_iff, last]

include ends in
theorem halt_returns (j : Nat) (under : Option ω) (waiting : s.goroutines[j]? = some ⟨under, .waits w⟩) (apart : under ≠ some w)
    (halted : s.isHalted w = true)
    (ready : ∀ (i : Nat) (stage : GoStage ω κ), s.goroutines[i]? = some ⟨some w, stage⟩ →
      stage = .returned ∨ ∃ place, stage = .running place ∧ finishes place) :
    ∃ events final, run (fun s event => Workers.step s p event) s events = some final ∧
      final.goroutines[j]? = some ⟨under, .returned⟩ := by
  obtain ⟨events, mid, reached, _, goroutines⟩ := finish_first ends halted ready s.goroutines.length
  have still : mid.goroutines[j]? = some ⟨under, .waits w⟩ := by
    rw [goroutines j, waiting]
    simp [apart]
  have all : mid.allReturned w = true := by
    rw [Workers.allReturned, List.all_eq_true]
    intro g member
    obtain ⟨i, there⟩ := List.mem_iff_getElem?.mp member
    rw [goroutines i] at there
    obtain ⟨before, found, rfl⟩ := Option.map_eq_some_iff.mp there
    have inside := (List.getElem?_eq_some_iff.mp found).1
    by_cases own : before.under = some w <;> simp [inside, own]
  refine ⟨events ++ [.resume j], mid.setStage j .returned, ?_, ?_⟩
  · rw [run_append _ _ _ _ _ reached]
    simp [run, Workers.step, still, all]
  · rw [Workers.setStage, lookup_modify, if_pos rfl, still]
    rfl

end Finishing

theorem self_waits_iff (event : WorkerEvent ω κ ε) (free : ¬s.SelfWaits) (taken : s.step p event = some next) :
    ¬next.SelfWaits ↔ ¬s.HaltsItself p event := by
  rw [not_iff_not]
  cases workers_moves event taken with
  | started w place starts goroutines =>
      refine iff_of_false (fun ⟨i, w', found⟩ => ?_) id
      rw [goroutines] at found
      rcases appended_lookup i _ found with old | ⟨-, new⟩
      · exact free ⟨i, w', old⟩
      · cases new
  | called w goroutines =>
      refine iff_of_false (fun ⟨i, w', found⟩ => ?_) id
      rw [goroutines] at found
      rcases appended_lookup i _ found with old | ⟨-, new⟩
      · exact free ⟨i, w', old⟩
      · cases new
  | resumed k under w found all goroutines =>
      refine iff_of_false (fun ⟨i, w', there⟩ => ?_) id
      rw [goroutines] at there
      obtain ⟨before, old, same⟩ := modified_lookup k i _ _ there
      split at same
      · cases congrArg ManagedRoutine.stage same
      · exact free ⟨i, w', same ▸ old⟩
  | ran k event under place stage found stepped goroutines _ =>
      constructor
      · rintro ⟨i, w, there⟩
        rw [goroutines] at there
        obtain ⟨before, old, same⟩ := modified_lookup k i _ _ there
        split at same
        · rename_i here
          subst here
          rw [found] at old
          cases old
          cases same
          exact ⟨w, place, found, stepped⟩
        · exact absurd ⟨i, w, same ▸ old⟩ free
      · rintro ⟨w, place', there, halts⟩
        rw [found] at there
        cases there
        rw [stepped] at halts
        cases halts
        exact ⟨k, w, by rw [goroutines, lookup_modify, if_pos rfl, found]; rfl⟩

end Workers

end Go
