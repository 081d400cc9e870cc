import Katzenpost.Go.Worker

set_option autoImplicit false

namespace Katzenpost

open Go

inductive PluginWorker where
  | client
  | socket
deriving DecidableEq

-- Where the goroutines of a plugin are: logPluginStderr in io.Copy, the reaper before and
-- after the halt, the reader in Decode or at readCh, and the writer in its select or in
-- Encode.
inductive PluginPlace where
  | copyingStderr
  | awaitingHalt
  | awaitingProcess
  | decoding
  | delivering
  | selecting
  | encoding
deriving DecidableEq

inductive PluginEvent where
  | stderrClosed
  | haltSeen
  | processExited
  | decoded (ok : Bool)
  | delivered
  | command
  | encoded (ok : Bool)
deriving DecidableEq

-- launch and Start of the Client, and Start of the CommandIO. reader and writer call Halt
-- after an error, logPluginStderr always does in the end.
def pluginProgram : WorkerProgram PluginWorker PluginPlace PluginEvent where
  starts
    | .client, .copyingStderr => true
    | .client, .awaitingHalt => true
    | .socket, .decoding => true
    | .socket, .selecting => true
    | _, _ => false
  step halted
    | .copyingStderr, .stderrClosed => some (.waits .client)
    | .awaitingHalt, .haltSeen => if halted .client then some (.running .awaitingProcess) else none
    | .awaitingProcess, .processExited => some .returned
    | .decoding, .decoded true => some (.running .delivering)
    | .decoding, .decoded false => some (.waits .socket)
    | .delivering, .delivered => some (.running .decoding)
    | .delivering, .haltSeen => if halted .socket then some .returned else none
    | .selecting, .command => some (.running .encoding)
    | .selecting, .haltSeen => if halted .socket then some .returned else none
    | .encoding, .encoded true => some (.running .selecting)
    | .encoding, .encoded false => some (.waits .socket)
    | _, _ => none

abbrev PluginState := Workers PluginWorker PluginPlace

abbrev PluginStep := WorkerEvent PluginWorker PluginPlace PluginEvent

def newPlugin : PluginState := ⟨[], []⟩

def pluginStep (s : PluginState) (event : PluginStep) : Option PluginState := s.step pluginProgram event

def PluginPlace.worker : PluginPlace → PluginWorker
  | .copyingStderr => .client
  | .awaitingHalt => .client
  | .awaitingProcess => .client
  | _ => .socket

def PluginPlace.fails : PluginPlace → PluginEvent → Bool
  | .copyingStderr, .stderrClosed => true
  | .decoding, .decoded false => true
  | .encoding, .encoded false => true
  | _, _ => false

def pluginWorks (s : PluginState) : PluginStep → Bool
  | .run i event =>
      s.goroutines[i]?.all fun g =>
        match g.stage with
        | .running place => !place.fails event
        | _ => true
  | _ => true

def copiesStderr (s : PluginState) : Bool := s.anyAt (.running .copyingStderr)

def awaitsClient (s : PluginState) : Bool := s.anyAt (.waits .client)

def pluginEnds (s : PluginState) (event : PluginStep) : Bool :=
  pluginWorks s event &&
    match event with
    | .callHalt .client => !copiesStderr s
    | .start .client .copyingStderr => !awaitsClient s
    | _ => true

section Plugin

variable {s next : PluginState}

def RoutinePlaced : ManagedRoutine PluginWorker PluginPlace → Prop
  | ⟨under, .running place⟩ => under = some place.worker
  | ⟨under, .waits w⟩ => under = none ∨ under = some w
  | ⟨_, .returned⟩ => True

def WellPlaced (s : PluginState) : Prop := ∀ g ∈ s.goroutines, RoutinePlaced g

theorem plugin_starts (w : PluginWorker) (place : PluginPlace) (starts : pluginProgram.starts w place = true) : place.worker = w := by
  cases w <;> cases place <;> first | rfl | cases starts

theorem plugin_program_step (halted : PluginWorker → Bool) (place : PluginPlace) (event : PluginEvent)
    (stage : GoStage PluginWorker PluginPlace) (taken : pluginProgram.step halted place event = some stage) :
    (∀ after, stage = .running after → after.worker = place.worker) ∧
      (∀ w, stage = .waits w ↔ place.fails event = true ∧ place.worker = w) ∧
      (place.fails event = false → place ≠ .copyingStderr ∧ stage ≠ .running .copyingStderr) := by
  cases place <;> cases event
  all_goals try (rename_i ok; cases ok)
  all_goals simp only [pluginProgram] at taken
  all_goals try (split at taken)
  all_goals cases taken
  all_goals simp [PluginPlace.worker, PluginPlace.fails]

theorem plugin_fails_step (halted : PluginWorker → Bool) (place : PluginPlace) (event : PluginEvent) (fails : place.fails event = true) :
    pluginProgram.step halted place event = some (.waits place.worker) := by
  cases place <;> cases event
  all_goals try (rename_i ok; cases ok)
  all_goals first | rfl | cases fails

theorem placed_modified (k : Nat) (stage : GoStage PluginWorker PluginPlace) (placed : WellPlaced s)
    (here : ∀ g, s.goroutines[k]? = some g → RoutinePlaced { g with stage := stage })
    (goroutines : next.goroutines = s.goroutines.modify k fun g => { g with stage := stage }) : WellPlaced next := by
  intro g member
  obtain ⟨i, there⟩ := List.mem_iff_getElem?.mp member
  rw [goroutines] at there
  obtain ⟨before, old, rfl⟩ := modified_lookup k i _ _ there
  split
  · rename_i same
    exact here before (same ▸ old)
  · exact placed before (List.mem_of_getElem? old)

theorem placed_appended (new : ManagedRoutine PluginWorker PluginPlace) (placed : WellPlaced s)
    (goroutines : next.goroutines = s.goroutines ++ [new]) (here : RoutinePlaced new) : WellPlaced next := by
  intro g member
  rw [goroutines] at member
  cases List.mem_append.mp member with
  | inl old => exact placed g old
  | inr last => exact List.mem_singleton.mp last ▸ here

theorem well_placed_step (event : PluginStep) (placed : WellPlaced s) (taken : pluginStep s event = some next) : WellPlaced next := by
  cases workers_moves event taken with
  | started w place starts goroutines =>
      exact placed_appended _ placed goroutines (congrArg some (plugin_starts w place starts).symm)
  | called w goroutines _ => exact placed_appended _ placed goroutines (.inl rfl)
  | resumed k under w found all goroutines => exact placed_modified k .returned placed (fun _ _ => trivial) goroutines
  | ran k event under place stage found stepped goroutines _ =>
      refine placed_modified k stage placed (fun g there => ?_) goroutines
      cases found.symm.trans there
      have own : under = some place.worker := placed _ (List.mem_of_getElem? found)
      obtain ⟨stays, halts, _⟩ := plugin_program_step _ place event stage stepped
      cases stage with
      | running after => exact own.trans (congrArg some (stays after rfl).symm)
      | waits w => exact .inr (own.trans (congrArg some ((halts w).mp rfl).2))
      | returned => trivial

theorem halts_itself_iff (placed : WellPlaced s) (event : PluginStep) :
    ¬s.HaltsItself pluginProgram event ↔ pluginWorks s event = true := by
  cases event with
  | run i event =>
      rw [← Bool.not_eq_false, not_iff_not, pluginWorks]
      constructor
      · rintro ⟨w, place, found, stepped⟩
        have fails := ((plugin_program_step _ place event _ stepped).2.1 w).mp rfl
        simp [found, fails.1]
      · intro failing
        cases found : s.goroutines[i]? with
        | none => simp [found] at failing
        | some g =>
            obtain ⟨under, stage⟩ := g
            cases stage with
            | running place =>
                have fails : place.fails event = true := by simpa [found] using failing
                have own : under = some place.worker := placed _ (List.mem_of_getElem? found)
                exact ⟨place.worker, place, found.trans (by rw [own]),
                  plugin_fails_step _ place event fails⟩
            | _ => simp [found] at failing
  | _ => exact ⟨fun _ => rfl, fun _ => id⟩

theorem works_of_failed (event : PluginStep) (failed : pluginStep s event = none) : pluginWorks s event = true := by
  cases event with
  | run i event =>
      rw [pluginWorks]
      cases found : s.goroutines[i]? with
      | none => rfl
      | some g =>
          obtain ⟨under, stage⟩ := g
          cases stage with
          | running place =>
              by_contra fails
              have fails : place.fails event = true := by simpa using fails
              simp [pluginStep, Workers.step, found, plugin_fails_step _ place event fails] at failed
          | _ => rfl
  | _ => rfl

theorem stderr_stays (halted : PluginWorker → Bool) (place : PluginPlace) (event : PluginEvent)
    (stage : GoStage PluginWorker PluginPlace) (copying : place = .copyingStderr)
    (stepped : pluginProgram.step halted place event = some stage) :
    stage = .waits .client ∨ ∃ after, stage = .running after ∧ after = .copyingStderr := by
  subst copying
  cases event <;> first | exact .inl (Option.some.inj stepped).symm | cases stepped

theorem set_stage_twice (s : PluginState) (i : Nat) (stage stage' : GoStage PluginWorker PluginPlace) :
    (s.setStage i stage).setStage i stage' = s.setStage i stage' := by
  simp only [Workers.setStage, List.modify_modify_eq]
  rfl

theorem place_finishes (w : PluginWorker) (s : PluginState) (i : Nat) (place : PluginPlace) (halted : s.isHalted w = true)
    (found : s.goroutines[i]? = some ⟨some w, .running place⟩) (finishes : place.worker = w ∧ place ≠ .copyingStderr) :
    ∃ events, run (fun s event => Workers.step s pluginProgram event) s events = some (s.setStage i .returned) := by
  obtain ⟨rfl, other⟩ := finishes
  have last (event : PluginEvent) (stepped : pluginProgram.step s.isHalted place event = some .returned) :
      ∃ events, run (fun s event => Workers.step s pluginProgram event) s events = some (s.setStage i .returned) :=
    ⟨[.run i event], by simp [run, run_step i _ place event _ found stepped]⟩
  have twice (event event' : PluginEvent) (after : PluginPlace)
      (stepped : pluginProgram.step s.isHalted place event = some (.running after))
      (stepped' : pluginProgram.step s.isHalted after event' = some .returned) :
      ∃ events, run (fun s event => Workers.step s pluginProgram event) s events = some (s.setStage i .returned) := by
    have there : (s.setStage i (.running after)).goroutines[i]? = some ⟨some place.worker, .running after⟩ := by
      rw [Workers.setStage, lookup_modify, if_pos rfl, found]
      rfl
    refine ⟨[.run i event, .run i event'], ?_⟩
    simp [run, run_step i _ place event _ found stepped, run_step i _ after event' _ there stepped', set_stage_twice]
  cases place with
  | copyingStderr => exact absurd rfl other
  | awaitingHalt => exact twice .haltSeen .processExited .awaitingProcess (if_pos halted) rfl
  | awaitingProcess => exact last .processExited rfl
  | decoding => exact twice (.decoded true) .haltSeen .delivering rfl (if_pos halted)
  | delivering => exact last .haltSeen (if_pos halted)
  | selecting => exact last .haltSeen (if_pos halted)
  | encoding => exact twice (.encoded true) .haltSeen .selecting rfl (if_pos halted)

theorem plugin_returns_iff (placed : WellPlaced s) (signalled : s.Signalled) (free : ¬s.SelfWaits) :
    s.Returns pluginProgram ↔ (awaitsClient s && copiesStderr s) = false := by
  rw [Bool.and_eq_false_imp, ← not_iff_not, not_forall]
  simp only [Bool.not_eq_false, exists_prop]
  constructor
  · intro stuck
    by_contra apart
    refine stuck fun j under w waiting => ?_
    refine halt_returns (place_finishes w) j under waiting (fun own => free ⟨j, w, own ▸ waiting⟩) (signalled j under w waiting)
      fun i stage found => ?_
    have own := placed _ (List.mem_of_getElem? found)
    cases stage with
    | returned => exact .inl rfl
    | waits w' =>
        obtain none | same := own
        · cases none
        · cases same
          exact absurd ⟨i, w, found⟩ free
    | running place =>
        have own : some w = some place.worker := own
        refine .inr ⟨place, rfl, (Option.some.inj own).symm, ?_⟩
        rintro rfl
        cases own
        exact apart ⟨(any_at_iff _).mpr ⟨j, under, waiting⟩, (any_at_iff _).mpr ⟨i, _, found⟩⟩
  · rintro ⟨awaits, copies⟩ returns
    obtain ⟨j, under, waiting⟩ := (any_at_iff _).mp awaits
    obtain ⟨i, under', found⟩ := (any_at_iff _).mp copies
    have own : under' = some .client := placed _ (List.mem_of_getElem? found)
    obtain ⟨events, final, reached, returned⟩ := returns j under .client waiting
    have still := waiting_forever stderr_stays i j under events ⟨_, own ▸ found, .inr ⟨_, rfl, rfl⟩⟩ waiting reached
    rw [still] at returned
    cases returned

theorem plugin_stuck_step (event : PluginStep) (works : pluginWorks s event = true) (apart : (awaitsClient s && copiesStderr s) = false)
    (taken : pluginStep s event = some next) :
    (awaitsClient next && copiesStderr next) = false ↔ pluginEnds s event = true := by
  have kept (awaits : awaitsClient next = true → awaitsClient s = true) (copies : copiesStderr next = copiesStderr s) :
      (awaitsClient next && copiesStderr next) = false := by
    cases still : awaitsClient next with
    | false => rfl
    | true => rw [copies, Bool.true_and, ← Bool.true_and (copiesStderr s), ← awaits still, apart]
  cases workers_moves event taken with
  | started w place starts goroutines =>
      rw [awaitsClient, copiesStderr, any_at_append _ _ goroutines, any_at_append _ _ goroutines]
      cases w <;> cases place <;> cases starts <;> simp_all [pluginEnds, awaitsClient, copiesStderr]
  | called w goroutines _ =>
      rw [awaitsClient, copiesStderr, any_at_append _ _ goroutines, any_at_append _ _ goroutines]
      cases w <;> simp_all [pluginEnds, awaitsClient, copiesStderr]
  | resumed k under w found all goroutines =>
      refine iff_of_true (kept (fun awaits => ?_) (any_at_modify k under _ _ _ found goroutines (by simp) (by simp))) rfl
      obtain ⟨i, under', there⟩ := (any_at_iff _).mp awaits
      rw [goroutines] at there
      obtain ⟨before, old, same⟩ := modified_lookup k i _ _ there
      split at same
      · cases congrArg ManagedRoutine.stage same
      · exact (any_at_iff _).mpr ⟨i, under', same ▸ old⟩
  | ran k event under place stage found stepped goroutines _ =>
      have runs : place.fails event = false := by simpa [pluginWorks, found] using works
      obtain ⟨_, halts, moves⟩ := plugin_program_step _ place event stage stepped
      obtain ⟨left, apart'⟩ := moves runs
      have onwards : stage ≠ .waits .client := fun waits => by simp [runs, waits] at halts
      have awaits : awaitsClient next = awaitsClient s := any_at_modify k under _ _ _ found goroutines (by simp) onwards
      exact iff_of_true (kept (awaits ▸ id) (any_at_modify k under _ _ _ found goroutines (by simpa using left) apart'))
        (by simpa [pluginEnds] using works)

/-- No goroutine ever waits for its own worker and every call of Halt can return, in just the runs
in which stderr stays open, no read or write fails and no Halt of the Client meets a running
logPluginStderr. -/
theorem plugin_halts_iff (events : List PluginStep) :
    Always pluginStep (fun s => ¬s.SelfWaits ∧ s.Returns pluginProgram) newPlugin events ↔
      Meets pluginStep (fun s event => pluginEnds s event = true) newPlugin events := by
  refine always_iff_meets_under pluginStep (fun s => WellPlaced s ∧ s.Signalled) (fun s => ¬s.SelfWaits ∧ s.Returns pluginProgram)
    (fun _ _ => True) (fun s event => pluginEnds s event = true)
    (fun _ event _ sound _ taken => ⟨well_placed_step event sound.1 taken, signalled_step event sound.2 taken⟩) ?_
    (fun s event failed => ?_) events newPlugin ⟨?_, ?_⟩ ⟨?_, ?_⟩ (meets_always _ _ (fun _ _ => trivial) events newPlugin)
  · rintro s event next ⟨placed, signalled⟩ ⟨free, returns⟩ _ taken
    have free_iff : ¬next.SelfWaits ↔ pluginWorks s event = true := by
      rw [self_waits_iff event free taken, halts_itself_iff placed event]
    by_cases works : pluginWorks s event = true
    · have free' := free_iff.mpr works
      rw [plugin_returns_iff (well_placed_step event placed taken) (signalled_step event signalled taken) free',
        plugin_stuck_step event works ((plugin_returns_iff placed signalled free).mp returns) taken, and_iff_right free']
    · exact iff_of_false (fun kept => works (free_iff.mp kept.1)) fun ends => works (Bool.and_eq_true_iff.mp ends).1
  · have works := works_of_failed event failed
    cases event with
    | start w place => cases w <;> cases place <;> cases failed <;> rfl
    | callHalt w => cases failed
    | run i event => simpa [pluginEnds] using works
    | resume i => rfl
  · intro g member
    cases member
  · intro i under w found
    cases found
  · rintro ⟨i, w, found⟩
    cases found
  · intro j under w found
    cases found

def startPlugin : List PluginStep :=
  [.start .client .copyingStderr, .start .client .awaitingHalt, .start .socket .decoding, .start .socket .selecting]

/-- A shutdown as it should be: the service node calls Halt, the reaper ends the process, and with
it stderr is closed. The Halt never returns. -/
theorem shutdown_hangs :
    ∃ s, run pluginStep newPlugin (startPlugin ++ [.callHalt .client, .run 1 .haltSeen, .run 1 .processExited, .run 0 .stderrClosed]) =
        some s ∧ s.SelfWaits ∧
      ∀ events final, run pluginStep s events = some final → final.goroutines[4]? = some ⟨none, .waits .client⟩ := by
  have sample : (run pluginStep newPlugin (startPlugin ++ [.callHalt .client, .run 1 .haltSeen, .run 1 .processExited,
      .run 0 .stderrClosed])).any (fun s => decide (s.goroutines[0]? = some ⟨some .client, .waits .client⟩ ∧
        s.goroutines[4]? = some ⟨none, .waits .client⟩)) = true := by
    decide +kernel
  obtain ⟨s, reached, seen⟩ := (Option.any_eq_true _ _).mp sample
  obtain ⟨itself, waiting⟩ := of_decide_eq_true seen
  exact ⟨s, reached, ⟨0, .client, itself⟩, fun events final later =>
    waiting_forever stderr_stays 0 4 none events ⟨_, itself, .inl rfl⟩ waiting later⟩

end Plugin

end Katzenpost
