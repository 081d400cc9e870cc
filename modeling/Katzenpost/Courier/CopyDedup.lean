import Katzenpost.Core.Types
import Katzenpost.Go.Run

set_option autoImplicit false

namespace Katzenpost

open Go

structure CopyCommandReply where
  status : UInt8
  errorCode : UInt8
  failedEnvelopeIndex : UInt64
deriving DecidableEq

def copyStatusSucceeded : UInt8 := 0
def copyStatusInProgress : UInt8 := 1
def copyStatusFailed : UInt8 := 2

def inProgressReply : CopyCommandReply := ⟨copyStatusInProgress, 0, 0⟩

def copySucceededReply : CopyCommandReply := ⟨copyStatusSucceeded, 0, 0⟩

def copyFailedReply (replicaErr : UInt8) (failedEnvelopeIndex : UInt64) : CopyCommandReply :=
  ⟨copyStatusFailed, replicaErr, failedEnvelopeIndex⟩

inductive CopyOutcome where
  | succeeded
  | failed (replicaErr : UInt8) (failedEnvelopeIndex : UInt64)
  | panicked
deriving DecidableEq

def CopyOutcome.reply : CopyOutcome → CopyCommandReply
  | .succeeded => copySucceededReply
  | .failed replicaErr failedEnvelopeIndex => copyFailedReply replicaErr failedEnvelopeIndex
  | .panicked => copyFailedReply 0 0

structure CopyCommandState where
  inProgress : Bool
  result : Option CopyCommandReply
  completedAt : Int
  done : Bool
deriving DecidableEq

structure CopyWorker where
  writeCap : Bytes
  state : Nat
deriving DecidableEq

-- The cache has pointers into the allocated states.
structure CopyCourier where
  copyDedupCache : GoMap Digest Nat
  states : List CopyCommandState
  workers : List CopyWorker
  clock : Int

def newCopyCourier : CopyCourier := ⟨∅, [], [], 0⟩

def copyDedupCacheTTL : Int := 1800000000000

-- Time passes between the two readings of the clock in handleCopyCommand.
inductive CopyEvent where
  | handleCopyCommand (writeCap : Bytes) (elapsed : Nat)
  | complete (w : Nat) (outcome : CopyOutcome)
  | tick (elapsed : Nat)

section Step

variable (sum256 : Bytes → Digest) (s : CopyCourier)

def CopyCourier.stale (now : Int) (p : Nat) : Bool :=
  s.states[p]?.any fun state => !state.inProgress && now - state.completedAt > copyDedupCacheTTL

def CopyCourier.pruneCopyDedupCache (now : Int) : CopyCourier :=
  { s with copyDedupCache := s.copyDedupCache.filter fun _ p => !s.stale now p }

def CopyCourier.startCopy (writeCap : Bytes) (elapsed : Nat) : CopyCourier :=
  let pruned := { s with clock := s.clock + elapsed }.pruneCopyDedupCache (s.clock + elapsed)
  { pruned with
    copyDedupCache := pruned.copyDedupCache.insert (sum256 writeCap) s.states.length
    states := s.states ++ [⟨true, none, 0, false⟩]
    workers := s.workers ++ [⟨writeCap, s.states.length⟩] }

def CopyCourier.handleCopyCommand (writeCap : Bytes) (elapsed : Nat) : CopyCourier × Option CopyCommandReply :=
  match (s.copyDedupCache[sum256 writeCap]?).bind fun p => s.states[p]? with
  | none => (s.startCopy sum256 writeCap elapsed, some inProgressReply)
  | some state =>
      if state.inProgress then (s, some inProgressReply)
      else if s.clock - state.completedAt < copyDedupCacheTTL then (s, state.result)
      else
        ({ s with copyDedupCache := s.copyDedupCache.erase (sum256 writeCap) }.startCopy sum256 writeCap elapsed, some inProgressReply)

-- The end of runCopyCommand. To close a channel twice is a panic.
def CopyCourier.complete (w : Nat) (outcome : CopyOutcome) : Option CopyCourier :=
  match s.workers[w]? with
  | none => none
  | some worker =>
      match s.states[worker.state]? with
      | none => none
      | some state =>
          if state.done then none
          else
            some { s with
              states := s.states.set worker.state ⟨false, some outcome.reply, s.clock, true⟩
              workers := s.workers.eraseIdx w }

def CopyCourier.step : CopyEvent → Option CopyCourier
  | .handleCopyCommand writeCap elapsed => some (s.handleCopyCommand sum256 writeCap elapsed).1
  | .complete w outcome => s.complete w outcome
  | .tick elapsed => some { s with clock := s.clock + elapsed }

end Step

section Properties

variable (sum256 : Bytes → Digest) (caps : List Bytes) (s : CopyCourier)

def CopyCourier.running (writeCap : Bytes) : Prop := ∃ worker ∈ s.workers, worker.writeCap = writeCap

def CopyCourier.OneWorker : Prop :=
  ∀ (i j : Nat) (a b : CopyWorker), s.workers[i]? = some a → s.workers[j]? = some b → a.writeCap = b.writeCap → i = j

def CopyCourier.PollsTruthful : Prop :=
  ∀ writeCap ∈ caps, ∀ elapsed,
    ((s.handleCopyCommand sum256 writeCap elapsed).2 = some inProgressReply ↔
      (s.handleCopyCommand sum256 writeCap elapsed).1.running writeCap) ∧
    (s.running writeCap → (s.handleCopyCommand sum256 writeCap elapsed).1 = s)

def CopyCourier.ResultsStay : Prop :=
  ∀ w worker outcome next, s.workers[w]? = some worker → s.complete w outcome = some next →
    ∀ later final, run (CopyCourier.step sum256) next later = some final → final.clock - next.clock < copyDedupCacheTTL →
      ∀ elapsed, final.handleCopyCommand sum256 worker.writeCap elapsed = (final, some outcome.reply)

def CopyCourier.WorkersVisible : Prop :=
  (∀ now (key : Digest) p state, s.copyDedupCache[key]? = some p → s.states[p]? = some state → state.inProgress = true →
    (s.pruneCopyDedupCache now).copyDedupCache[key]? = some p) ∧
  (∀ worker ∈ s.workers, s.copyDedupCache[sum256 worker.writeCap]? = some worker.state) ∧
  ∀ w worker outcome, s.workers[w]? = some worker → (s.complete w outcome).isSome = true

structure CopyDeduplicated : Prop where
  one : s.OneWorker
  polls : s.PollsTruthful sum256 caps
  results : s.ResultsStay sum256
  visible : s.WorkersVisible sum256

structure CopyOk : Prop where
  workers : ∀ worker ∈ s.workers, s.copyDedupCache[sum256 worker.writeCap]? = some worker.state ∧
    ∃ state, s.states[worker.state]? = some state ∧ state.inProgress = true ∧ state.done = false
  distinct : (s.workers.map CopyWorker.state).Nodup
  entries : ∀ (key : Digest) p, s.copyDedupCache[key]? = some p → ∃ state, s.states[p]? = some state ∧
    (state.inProgress = true → ∃ worker ∈ s.workers, worker.state = p ∧ sum256 worker.writeCap = key) ∧
    (state.inProgress = false → ∃ outcome : CopyOutcome, state.result = some outcome.reply)

end Properties

section Calls

variable {sum256 : Bytes → Digest} {s : CopyCourier}

theorem prune_copy_lookup (now : Int) (key : Digest) (p : Nat) :
    (s.pruneCopyDedupCache now).copyDedupCache[key]? = some p ↔ s.copyDedupCache[key]? = some p ∧ s.stale now p = false := by
  simp only [CopyCourier.pruneCopyDedupCache, Std.ExtTreeMap.getElem?_filter, Option.pfilter_eq_some_iff, Bool.not_eq_true']
  simp only [exists_prop]

theorem in_progress_not_stale (now : Int) (p : Nat) (state : CopyCommandState) (found : s.states[p]? = some state)
    (running : state.inProgress = true) : s.stale now p = false := by
  simp [CopyCourier.stale, found, running]

theorem start_lookup (writeCap : Bytes) (elapsed : Nat) (key : Digest) (p : Nat) :
    (s.startCopy sum256 writeCap elapsed).copyDedupCache[key]? = some p ↔
      (sum256 writeCap = key ∧ p = s.states.length) ∨
      (sum256 writeCap ≠ key ∧ s.copyDedupCache[key]? = some p ∧ s.stale (s.clock + elapsed) p = false) := by
  simp only [CopyCourier.startCopy, lookup_insert]
  split
  · rename_i same
    rw [Option.some.injEq]
    constructor
    · intro new
      exact .inl ⟨same, new.symm⟩
    · intro new
      exact (new.resolve_right fun other => other.1 same).2.symm
  · rename_i apart
    rw [prune_copy_lookup]
    simp [apart, CopyCourier.stale]

theorem handle_copy_cases (writeCap : Bytes) (elapsed : Nat)
    (entries : ∀ p, s.copyDedupCache[sum256 writeCap]? = some p → ∃ state, s.states[p]? = some state) :
    (∃ p state, s.copyDedupCache[sum256 writeCap]? = some p ∧ s.states[p]? = some state ∧ state.inProgress = true ∧
      s.handleCopyCommand sum256 writeCap elapsed = (s, some inProgressReply)) ∨
    (∃ p state, s.copyDedupCache[sum256 writeCap]? = some p ∧ s.states[p]? = some state ∧ state.inProgress = false ∧
      s.clock - state.completedAt < copyDedupCacheTTL ∧ s.handleCopyCommand sum256 writeCap elapsed = (s, state.result)) ∨
    ((∀ p state, s.copyDedupCache[sum256 writeCap]? = some p → s.states[p]? = some state →
        state.inProgress = false ∧ copyDedupCacheTTL ≤ s.clock - state.completedAt) ∧
      (s.handleCopyCommand sum256 writeCap elapsed).2 = some inProgressReply ∧
      ∃ base : CopyCourier, base.states = s.states ∧ base.workers = s.workers ∧ base.clock = s.clock ∧
        (∀ key, sum256 writeCap ≠ key → base.copyDedupCache[key]? = s.copyDedupCache[key]?) ∧
        (s.handleCopyCommand sum256 writeCap elapsed).1 = base.startCopy sum256 writeCap elapsed) := by
  rw [CopyCourier.handleCopyCommand]
  cases entry : s.copyDedupCache[sum256 writeCap]? with
  | none => exact .inr (.inr ⟨(fun _ _ found => by cases found), rfl, s, rfl, rfl, rfl, fun _ _ => rfl, rfl⟩)
  | some p =>
      obtain ⟨state, found⟩ := entries p entry
      simp only [Option.bind_some, found]
      split
      · rename_i running
        exact .inl ⟨p, state, rfl, found, running, rfl⟩
      · rename_i finished
        rw [Bool.not_eq_true] at finished
        split
        · rename_i young
          exact .inr (.inl ⟨p, state, rfl, found, finished, young, rfl⟩)
        · rename_i old
          refine .inr (.inr ⟨fun q other same place => ?_, rfl,
            { s with copyDedupCache := s.copyDedupCache.erase (sum256 writeCap) }, rfl, rfl, rfl, fun key apart => ?_, rfl⟩)
          · cases same
            obtain rfl := Option.some.inj (found.symm.trans place)
            exact ⟨finished, not_lt.mp old⟩
          · exact (lookup_erase _ _ _).trans (if_neg apart)

end Calls

section Kept

variable {sum256 : Bytes → Digest} {s : CopyCourier}

theorem start_ok (base : CopyCourier) (writeCap : Bytes) (elapsed : Nat) (ok : CopyOk sum256 s) (states : base.states = s.states)
    (workers : base.workers = s.workers)
    (cache : ∀ key, sum256 writeCap ≠ key → base.copyDedupCache[key]? = s.copyDedupCache[key]?)
    (idle : ∀ worker ∈ s.workers, sum256 worker.writeCap ≠ sum256 writeCap) :
    CopyOk sum256 (base.startCopy sum256 writeCap elapsed) := by
  have old : ∀ (p : Nat) state, s.states[p]? = some state → (base.startCopy sum256 writeCap elapsed).states[p]? = some state := by
    intro p state found
    rw [← states] at found
    exact (List.getElem?_append_left (List.getElem?_eq_some_iff.mp found).1).trans found
  have new : (base.startCopy sum256 writeCap elapsed).states[base.states.length]? = some ⟨true, none, 0, false⟩ :=
    List.getElem?_concat_length
  have started : (⟨writeCap, base.states.length⟩ : CopyWorker) ∈ (base.startCopy sum256 writeCap elapsed).workers :=
    List.mem_append_right _ (List.mem_singleton_self _)
  refine ⟨fun worker member => ?_, ?_, fun key p found => ?_⟩
  · cases List.mem_append.mp member with
    | inl before =>
        rw [workers] at before
        obtain ⟨entry, state, found, running, done⟩ := ok.workers worker before
        refine ⟨(start_lookup writeCap elapsed _ _).mpr (.inr ⟨(idle worker before).symm, ?_, ?_⟩), state, old _ _ found, running, done⟩
        · rw [cache _ (idle worker before).symm, entry]
        · exact in_progress_not_stale _ _ state (states ▸ found) running
    | inr added =>
        obtain rfl := List.mem_singleton.mp added
        exact ⟨(start_lookup writeCap elapsed _ _).mpr (.inl ⟨rfl, rfl⟩), _, new, rfl, rfl⟩
  · show ((base.workers ++ [(⟨writeCap, base.states.length⟩ : CopyWorker)]).map CopyWorker.state).Nodup
    rw [workers, List.map_append, List.nodup_append]
    refine ⟨ok.distinct, List.nodup_singleton _, fun p member q new => ?_⟩
    obtain ⟨worker, running, rfl⟩ := List.mem_map.mp member
    obtain ⟨_, state, found, _⟩ := ok.workers worker running
    have bound := (List.getElem?_eq_some_iff.mp found).1
    simp only [List.map_cons, List.map_nil, List.mem_singleton, states] at new
    omega
  · rw [start_lookup] at found
    obtain ⟨rfl, rfl⟩ | ⟨apart, entry, _⟩ := found
    · exact ⟨_, new, fun _ => ⟨_, started, rfl, rfl⟩, fun finished => by cases finished⟩
    · rw [cache key apart] at entry
      obtain ⟨state, place, running, finished⟩ := ok.entries key p entry
      refine ⟨state, old p state place, fun inProgress => ?_, finished⟩
      obtain ⟨worker, member, at', named⟩ := running inProgress
      exact ⟨worker, List.mem_append_left _ (workers ▸ member), at', named⟩

theorem no_worker (writeCap : Bytes) (ok : CopyOk sum256 s)
    (old : ∀ p state, s.copyDedupCache[sum256 writeCap]? = some p → s.states[p]? = some state →
      state.inProgress = false ∧ copyDedupCacheTTL ≤ s.clock - state.completedAt) :
    ∀ worker ∈ s.workers, sum256 worker.writeCap ≠ sum256 writeCap := by
  intro worker member same
  obtain ⟨entry, state, found, running, _⟩ := ok.workers worker member
  rw [same] at entry
  rw [(old _ state entry found).1] at running
  cases running

theorem handle_copy_ok (writeCap : Bytes) (elapsed : Nat) (ok : CopyOk sum256 s) :
    CopyOk sum256 (s.handleCopyCommand sum256 writeCap elapsed).1 := by
  obtain ⟨_, _, _, _, _, eq⟩ | ⟨_, _, _, _, _, _, eq⟩ | ⟨old, _, base, states, workers, _, cache, eq⟩ :=
    handle_copy_cases (s := s) writeCap elapsed fun p found => (ok.entries _ p found).imp fun _ there => there.1
  · rw [eq]
    exact ok
  · rw [eq]
    exact ok
  · rw [eq]
    exact start_ok base writeCap elapsed ok states workers cache (no_worker writeCap ok old)

theorem complete_step (next : CopyCourier) (w : Nat) (outcome : CopyOutcome) (taken : s.complete w outcome = some next) :
    ∃ worker, s.workers[w]? = some worker ∧ worker.state < s.states.length ∧ next = { s with
      states := s.states.set worker.state ⟨false, some outcome.reply, s.clock, true⟩
      workers := s.workers.eraseIdx w } := by
  rw [CopyCourier.complete] at taken
  split at taken
  · cases taken
  · rename_i worker place
    split at taken
    · cases taken
    · rename_i state found
      split at taken
      · cases taken
      · exact ⟨worker, place, (List.getElem?_eq_some_iff.mp found).1, (Option.some.inj taken).symm⟩

theorem other_worker (w : Nat) (worker other : CopyWorker) (ok : CopyOk sum256 s) (place : s.workers[w]? = some worker) :
    other ∈ s.workers.eraseIdx w ↔ other ∈ s.workers ∧ other.state ≠ worker.state := by
  rw [List.mem_eraseIdx_iff_getElem?]
  have unique : ∀ (i j : Nat) (a b : CopyWorker), s.workers[i]? = some a → s.workers[j]? = some b → a.state = b.state → i = j := by
    intro i j a b at' bt same
    have bound : i < (s.workers.map CopyWorker.state).length := by
      rw [List.length_map]
      exact (List.getElem?_eq_some_iff.mp at').1
    apply (List.getElem?_inj bound ok.distinct).mp
    rw [List.getElem?_map, List.getElem?_map, at', bt, Option.map_some, Option.map_some, same]
  constructor
  · rintro ⟨i, apart, at'⟩
    exact ⟨List.mem_of_getElem? at', fun same => apart (unique i w other worker at' place same)⟩
  · rintro ⟨member, apart⟩
    obtain ⟨i, at'⟩ := List.mem_iff_getElem?.mp member
    refine ⟨i, fun same => ?_, at'⟩
    subst same
    exact apart (congrArg CopyWorker.state (Option.some.inj (at'.symm.trans place)))

theorem complete_ok (next : CopyCourier) (w : Nat) (outcome : CopyOutcome) (ok : CopyOk sum256 s)
    (taken : s.complete w outcome = some next) : CopyOk sum256 next := by
  obtain ⟨worker, place, bound, rfl⟩ := complete_step next w outcome taken
  refine ⟨fun other member => ?_, ?_, fun key p found => ?_⟩
  · obtain ⟨member, apart⟩ := (other_worker w worker other ok place).mp member
    obtain ⟨entry, state, found, rest⟩ := ok.workers other member
    exact ⟨entry, state, (List.getElem?_set_ne (Ne.symm apart)).trans found, rest⟩
  · exact ok.distinct.sublist ((List.eraseIdx_sublist _ _).map _)
  · obtain ⟨state, at', running, finished⟩ := ok.entries key p found
    by_cases same : p = worker.state
    · subst same
      exact ⟨_, List.getElem?_set_self bound, (fun inProgress => by cases inProgress), fun _ => ⟨outcome, rfl⟩⟩
    · refine ⟨state, (List.getElem?_set_ne (Ne.symm same)).trans at', fun inProgress => ?_, finished⟩
      obtain ⟨other, member, named, key'⟩ := running inProgress
      exact ⟨other, (other_worker w worker other ok place).mpr ⟨member, named ▸ same⟩, named, key'⟩

theorem copy_kept (event : CopyEvent) (next : CopyCourier) (ok : CopyOk sum256 s) (taken : s.step sum256 event = some next) :
    CopyOk sum256 next := by
  cases event with
  | handleCopyCommand writeCap elapsed => exact Option.some.inj taken ▸ handle_copy_ok writeCap elapsed ok
  | complete w outcome => exact complete_ok next w outcome ok taken
  | tick elapsed =>
      obtain rfl := Option.some.inj taken
      exact ⟨ok.workers, ok.distinct, ok.entries⟩

end Kept

section Results

variable {sum256 : Bytes → Digest} {s : CopyCourier}

def CopyCourier.Finished (s : CopyCourier) (key : Digest) (p : Nat) (reply : CopyCommandReply) (t : Int) : Prop :=
  s.clock - t < copyDedupCacheTTL → s.copyDedupCache[key]? = some p ∧ s.states[p]? = some ⟨false, some reply, t, true⟩

theorem finished_start (base : CopyCourier) (writeCap : Bytes) (elapsed : Nat) (key : Digest) (p : Nat) (reply : CopyCommandReply)
    (t : Int) (finished : s.Finished key p reply t) (states : base.states = s.states) (clock : base.clock = s.clock)
    (cache : ∀ key, sum256 writeCap ≠ key → base.copyDedupCache[key]? = s.copyDedupCache[key]?)
    (old : ∀ p state, s.copyDedupCache[sum256 writeCap]? = some p → s.states[p]? = some state →
      state.inProgress = false ∧ copyDedupCacheTTL ≤ s.clock - state.completedAt) :
    (base.startCopy sum256 writeCap elapsed).Finished key p reply t := by
  intro young
  have later : (base.startCopy sum256 writeCap elapsed).clock = s.clock + elapsed := by rw [← clock]; rfl
  rw [later] at young
  obtain ⟨entry, place⟩ := finished (by omega)
  have apart : sum256 writeCap ≠ key := by
    intro same
    have expired := (old p _ (same ▸ entry) place).2
    simp only at expired
    omega
  refine ⟨(start_lookup writeCap elapsed key p).mpr (.inr ⟨apart, (cache key apart).trans entry, ?_⟩), ?_⟩
  · simp only [CopyCourier.stale, states, place, clock, Option.any_some, Bool.not_false, Bool.true_and, decide_eq_false_iff_not]
    omega
  · rw [← states] at place
    exact (List.getElem?_append_left (List.getElem?_eq_some_iff.mp place).1).trans place

theorem finished_step (event : CopyEvent) (next : CopyCourier) (key : Digest) (p : Nat) (reply : CopyCommandReply) (t : Int)
    (ok : CopyOk sum256 s) (finished : s.Finished key p reply t) (taken : s.step sum256 event = some next) :
    next.Finished key p reply t := by
  cases event with
  | handleCopyCommand writeCap elapsed =>
      obtain rfl := Option.some.inj taken
      obtain ⟨_, _, _, _, _, eq⟩ | ⟨_, _, _, _, _, _, eq⟩ | ⟨old, _, base, states, _, clock, cache, eq⟩ :=
        handle_copy_cases (s := s) writeCap elapsed fun p found => (ok.entries _ p found).imp fun _ there => there.1
      · rw [eq]
        exact finished
      · rw [eq]
        exact finished
      · rw [eq]
        exact finished_start base writeCap elapsed key p reply t finished states clock cache old
  | complete w outcome =>
      obtain ⟨worker, place, _, rfl⟩ := complete_step next w outcome taken
      intro young
      obtain ⟨entry, found⟩ := finished young
      refine ⟨entry, (List.getElem?_set_ne fun same => ?_).trans found⟩
      -- The state of a running worker is in progress.
      obtain ⟨_, state, at', running, _⟩ := ok.workers worker (List.mem_of_getElem? place)
      rw [same, found] at at'
      cases at'
      cases running
  | tick elapsed =>
      obtain rfl := Option.some.inj taken
      intro young
      apply finished
      have later : s.clock ≤ s.clock + elapsed := by omega
      simp only at young
      omega

theorem finished_poll (writeCap : Bytes) (elapsed : Nat) (p : Nat) (reply : CopyCommandReply) (t : Int)
    (finished : s.Finished (sum256 writeCap) p reply t) (young : s.clock - t < copyDedupCacheTTL) :
    s.handleCopyCommand sum256 writeCap elapsed = (s, some reply) := by
  obtain ⟨entry, found⟩ := finished young
  simp only [CopyCourier.handleCopyCommand, entry, Option.bind_some, found, Bool.false_eq_true, if_false, young, if_true]

theorem results_stay (ok : CopyOk sum256 s) : s.ResultsStay sum256 := by
  intro w worker outcome next place taken later final reached young elapsed
  obtain ⟨other, at', bound, eq⟩ := complete_step next w outcome taken
  obtain rfl := Option.some.inj (place.symm.trans at')
  have clock : next.clock = s.clock := by rw [eq]
  have finished : next.Finished (sum256 worker.writeCap) worker.state outcome.reply s.clock := by
    intro _
    rw [eq]
    exact ⟨(ok.workers worker (List.mem_of_getElem? place)).1, List.getElem?_set_self bound⟩
  have kept := run_preserves _
    (fun s' => CopyOk sum256 s' ∧ s'.Finished (sum256 worker.writeCap) worker.state outcome.reply s.clock) (fun _ _ => True)
    (fun s' event after inv _ stepped => ⟨copy_kept event after inv.1 stepped, finished_step event after _ _ _ _ inv.1 inv.2 stepped⟩)
    later next final ⟨complete_ok next w outcome ok taken, finished⟩ (meets_always _ _ (fun _ _ => trivial) _ _) reached
  exact finished_poll worker.writeCap elapsed worker.state outcome.reply s.clock kept.2 (clock ▸ young)

theorem one_worker (ok : CopyOk sum256 s) : s.OneWorker := by
  intro i j a b at' bt same
  have first := (ok.workers a (List.mem_of_getElem? at')).1
  have second := (ok.workers b (List.mem_of_getElem? bt)).1
  rw [← same, first] at second
  have bound : i < (s.workers.map CopyWorker.state).length := by
    rw [List.length_map]
    exact (List.getElem?_eq_some_iff.mp at').1
  apply (List.getElem?_inj bound ok.distinct).mp
  rw [List.getElem?_map, List.getElem?_map, at', bt, Option.map_some, Option.map_some, Option.some.inj second]

theorem workers_visible (ok : CopyOk sum256 s) : s.WorkersVisible sum256 := by
  refine ⟨fun now key p state entry found running => ?_, fun worker member => (ok.workers worker member).1,
    fun w worker outcome place => ?_⟩
  · exact (prune_copy_lookup now key p).mpr ⟨entry, in_progress_not_stale now p state found running⟩
  · obtain ⟨_, state, found, _, done⟩ := ok.workers worker (List.mem_of_getElem? place)
    simp [CopyCourier.complete, place, found, done]

theorem outcome_terminal (outcome : CopyOutcome) : some outcome.reply ≠ some inProgressReply := by
  cases outcome <;> simp [CopyOutcome.reply, copySucceededReply, copyFailedReply, inProgressReply, copyStatusSucceeded,
    copyStatusFailed, copyStatusInProgress]

theorem polls_truthful (caps : List Bytes) (apart : ∀ a ∈ caps, ∀ b ∈ caps, sum256 a = sum256 b → a = b) (ok : CopyOk sum256 s)
    (known : ∀ worker ∈ s.workers, worker.writeCap ∈ caps) : s.PollsTruthful sum256 caps := by
  intro writeCap asked elapsed
  have never : ∀ p state, s.copyDedupCache[sum256 writeCap]? = some p → s.states[p]? = some state → state.inProgress = false →
      ¬ s.running writeCap := by
    intro p state entry found finished ⟨worker, member, named⟩
    obtain ⟨entry', state', found', running, _⟩ := ok.workers worker member
    rw [named, entry] at entry'
    cases entry'
    rw [found] at found'
    cases found'
    rw [finished] at running
    cases running
  obtain ⟨p, state, entry, found, inProgress, eq⟩ | ⟨p, state, entry, found, finished, young, eq⟩ |
      ⟨old, answer, base, _, workers, _, _, eq⟩ :=
    handle_copy_cases (s := s) writeCap elapsed fun p found => (ok.entries _ p found).imp fun _ there => there.1
  · rw [eq]
    refine ⟨⟨fun _ => ?_, fun _ => rfl⟩, fun _ => rfl⟩
    obtain ⟨state', found', running, _⟩ := ok.entries _ p entry
    rw [found] at found'
    cases found'
    obtain ⟨worker, member, _, named⟩ := running inProgress
    exact ⟨worker, member, apart _ (known worker member) _ asked named⟩
  · rw [eq]
    refine ⟨⟨fun same => ?_, fun runs => absurd runs (never p state entry found finished)⟩, fun _ => rfl⟩
    obtain ⟨state', found', _, result⟩ := ok.entries _ p entry
    rw [found] at found'
    cases found'
    obtain ⟨outcome, result⟩ := result finished
    exact absurd (result.symm.trans same) (outcome_terminal outcome)
  · refine ⟨⟨fun _ => ?_, fun _ => answer⟩, fun ⟨worker, member, named⟩ => ?_⟩
    · rw [eq]
      exact ⟨_, List.mem_append_right _ (List.mem_singleton_self _), rfl⟩
    · exact absurd (congrArg sum256 named) (no_worker writeCap ok old worker member)

def CopyEvent.asks (caps : List Bytes) : CopyEvent → Bool
  | .handleCopyCommand writeCap _ => caps.contains writeCap
  | _ => true

theorem known_step (caps : List Bytes) (event : CopyEvent) (next : CopyCourier) (ok : CopyOk sum256 s)
    (known : ∀ worker ∈ s.workers, worker.writeCap ∈ caps) (asks : event.asks caps = true) (taken : s.step sum256 event = some next) :
    ∀ worker ∈ next.workers, worker.writeCap ∈ caps := by
  cases event with
  | handleCopyCommand writeCap elapsed =>
      obtain rfl := Option.some.inj taken
      obtain ⟨_, _, _, _, _, eq⟩ | ⟨_, _, _, _, _, _, eq⟩ | ⟨_, _, base, _, workers, _, _, eq⟩ :=
        handle_copy_cases (s := s) writeCap elapsed fun p found => (ok.entries _ p found).imp fun _ there => there.1
      · rw [eq]
        exact known
      · rw [eq]
        exact known
      · rw [eq]
        intro worker member
        cases List.mem_append.mp member with
        | inl before => exact known worker (workers ▸ before)
        | inr added =>
            obtain rfl := List.mem_singleton.mp added
            exact List.contains_iff_mem.mp asks
  | complete w outcome =>
      obtain ⟨_, _, _, rfl⟩ := complete_step next w outcome taken
      intro worker member
      exact known worker (List.mem_of_mem_eraseIdx member)
  | tick elapsed =>
      obtain rfl := Option.some.inj taken
      exact known

theorem new_copy_courier_ok : CopyOk sum256 newCopyCourier := by
  refine ⟨fun worker member => ?_, List.nodup_nil, fun key p found => ?_⟩
  · exact nomatch member
  · exact nomatch (@Std.ExtTreeMap.getElem?_empty _ _ _ _ key).symm.trans found

end Results

/-- In every run with WriteCaps whose hashes do not collide the copies are deduplicated. -/
theorem copy_commands_deduplicated (sum256 : Bytes → Digest) (caps : List Bytes)
    (apart : ∀ a ∈ caps, ∀ b ∈ caps, sum256 a = sum256 b → a = b) (events : List CopyEvent)
    (asks : Meets (CopyCourier.step sum256) (fun _ event => event.asks caps = true) newCopyCourier events) :
    Always (CopyCourier.step sum256) (CopyDeduplicated sum256 caps) newCopyCourier events := by
  apply always_of_invariant _ _ (fun s => CopyOk sum256 s ∧ ∀ worker ∈ s.workers, worker.writeCap ∈ caps)
    (fun _ event => event.asks caps = true)
  · intro s event next inv asks taken
    exact ⟨copy_kept event next inv.1 taken, known_step caps event next inv.1 inv.2 asks taken⟩
  · intro s inv
    exact ⟨one_worker inv.1, polls_truthful caps apart inv.1 inv.2, results_stay inv.1, workers_visible inv.1⟩
  · exact ⟨new_copy_courier_ok, fun worker member => nomatch member⟩
  · exact asks

def firstByteSum (writeCap : Bytes) : Digest := ⟨List.replicate 32 (writeCap.headD 0), List.length_replicate⟩

def polledCopies : List CopyEvent :=
  [.handleCopyCommand [1] 0, .handleCopyCommand [1] 0, .handleCopyCommand [2] 5, .complete 0 (.failed 6 7), .tick 1000,
   .handleCopyCommand [1] 0, .complete 0 .panicked, .tick 1800000000000, .handleCopyCommand [2] 3]

theorem polled_copies_deduplicated :
    ((run (CopyCourier.step firstByteSum) newCopyCourier (polledCopies.take 6)).map fun s =>
      (s.workers, (s.handleCopyCommand firstByteSum [1] 0).2)) = some ([⟨[2], 1⟩], some (copyFailedReply 6 7)) ∧
    ((run (CopyCourier.step firstByteSum) newCopyCourier polledCopies).map fun s => s.workers) = some [⟨[2], 2⟩] ∧
    Always (CopyCourier.step firstByteSum) (CopyDeduplicated firstByteSum [[1], [2]]) newCopyCourier polledCopies :=
  ⟨by decide +kernel, by decide +kernel, copy_commands_deduplicated firstByteSum [[1], [2]] (by decide +kernel) polledCopies
    (by decide +kernel)⟩

end Katzenpost
