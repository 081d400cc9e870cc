import Katzenpost.Go.Run

set_option autoImplicit false

namespace Katzenpost

open Go

def capNone : Int := 0

def capInfinity : Int := -1

-- The goroutine of batchingBuffer between two rounds of its select. The flags say
-- which of its local channels are not nil, and closed that Close has been called.
structure BatchingChannel (α : Type) where
  size : Int
  input : Bool
  nextInput : Bool
  output : Bool
  buffer : List α
  closed : Bool
deriving DecidableEq

def newBatchingChannel {α : Type} (size : Int) : Option (BatchingChannel α) :=
  if size = capNone then none
  else if size < 0 ∧ size ≠ capInfinity then none
  else some ⟨size, true, true, false, [], false⟩

inductive BatchingEvent (α : Type) where
  | send (elem : α)
  | receive
  | len
  | close
  | seeClosed

section Channel

variable {α : Type} (ch : BatchingChannel α)

def BatchingChannel.running : Bool := ch.input || ch.output

def BatchingChannel.full : Bool := ch.size ≠ capInfinity && ch.size ≤ (ch.buffer.length : Int)

def BatchingChannel.rearm : BatchingChannel α :=
  if ch.buffer.isEmpty then { ch with input := ch.nextInput, output := false }
  else if ch.full then { ch with input := false, output := true }
  else { ch with input := ch.nextInput, output := true }

structure BatchingLog (α : Type) where
  ch : BatchingChannel α
  accepted : List α
  batches : List (List α)

-- None if the event has to wait, or panics as a send on a closed channel does.
def batchingStep (s : BatchingLog α) : BatchingEvent α → Option (BatchingLog α)
  | .send elem =>
      if s.ch.input && !s.ch.closed then
        some { s with ch := BatchingChannel.rearm { s.ch with buffer := s.ch.buffer ++ [elem] }, accepted := s.accepted ++ [elem] }
      else none
  | .receive =>
      if s.ch.output then
        some { s with ch := BatchingChannel.rearm { s.ch with buffer := [] }, batches := s.batches ++ [s.ch.buffer] }
      else none
  | .len => if s.ch.running then some { s with ch := s.ch.rearm } else none
  | .close => if s.ch.closed then none else some { s with ch := { s.ch with closed := true } }
  | .seeClosed =>
      if s.ch.input && s.ch.closed then some { s with ch := BatchingChannel.rearm { s.ch with input := false, nextInput := false } }
      else none

structure BatchingChannel.Armed (ch : BatchingChannel α) : Prop where
  sized : ch.size = capInfinity ∨ 0 < ch.size
  known : ch.nextInput = false → ch.closed = true
  input : ch.input = (ch.nextInput && !ch.full)
  output : ch.output = !ch.buffer.isEmpty
  bounded : ch.size = capInfinity ∨ (ch.buffer.length : Int) ≤ ch.size

end Channel

section Rounds

variable {α : Type} {ch : BatchingChannel α} {s next : BatchingLog α}

theorem empty_not_full (ch : BatchingChannel α) (sized : ch.size = capInfinity ∨ 0 < ch.size) (empty : ch.buffer = []) :
    ch.full = false := by
  rw [BatchingChannel.full, empty, Bool.and_eq_false_iff, decide_eq_false_iff_not, decide_eq_false_iff_not]
  exact sized.imp not_not_intro (fun positive => by simpa using positive)

theorem rearm_armed (ch : BatchingChannel α) (sized : ch.size = capInfinity ∨ 0 < ch.size)
    (known : ch.nextInput = false → ch.closed = true)
    (bounded : ch.size = capInfinity ∨ (ch.buffer.length : Int) ≤ ch.size) : ch.rearm.Armed ∧ ch.rearm.buffer = ch.buffer := by
  rw [BatchingChannel.rearm]
  split
  · rename_i empty
    have roomy := empty_not_full ch sized (List.isEmpty_iff.mp empty)
    refine ⟨⟨sized, known, ?_, ?_, bounded⟩, rfl⟩
    · change ch.nextInput = (ch.nextInput && !ch.full)
      rw [roomy, Bool.not_false, Bool.and_true]
    · change false = !ch.buffer.isEmpty
      rw [empty, Bool.not_true]
  · rename_i filled
    have output : true = !ch.buffer.isEmpty := by rw [Bool.eq_false_of_not_eq_true filled, Bool.not_false]
    split
    · rename_i full
      refine ⟨⟨sized, known, ?_, output, bounded⟩, rfl⟩
      change false = (ch.nextInput && !ch.full)
      rw [full, Bool.not_true, Bool.and_false]
    · rename_i roomy
      refine ⟨⟨sized, known, ?_, output, bounded⟩, rfl⟩
      change ch.nextInput = (ch.nextInput && !ch.full)
      rw [Bool.eq_false_of_not_eq_true roomy, Bool.not_false, Bool.and_true]

theorem rearm_fields (ch : BatchingChannel α) : ch.rearm.size = ch.size ∧ ch.rearm.closed = ch.closed := by
  rw [BatchingChannel.rearm]
  split
  · exact ⟨rfl, rfl⟩
  · split
    · exact ⟨rfl, rfl⟩
    · exact ⟨rfl, rfl⟩

theorem armed_room (armed : ch.Armed) (input : ch.input = true) : ch.size = capInfinity ∨
    ((ch.buffer.length + 1 : Nat) : Int) ≤ ch.size := by
  have roomy := armed.input.symm.trans input
  rw [Bool.and_eq_true, Bool.not_eq_true', BatchingChannel.full, Bool.and_eq_false_iff, decide_eq_false_iff_not,
    decide_eq_false_iff_not, not_not] at roomy
  rcases roomy.2 with infinite | below
  · exact .inl infinite
  · exact .inr (by omega)

structure BatchingSound (size : Int) (s : BatchingLog α) : Prop where
  armed : s.ch.Armed
  cap : s.ch.size = size
  order : s.batches.flatten ++ s.ch.buffer = s.accepted
  batches : ∀ batch ∈ s.batches, batch ≠ [] ∧ (size = capInfinity ∨ (batch.length : Int) ≤ size)

theorem batching_step_sound (size : Int) (sound : BatchingSound size s) (event : BatchingEvent α)
    (step : batchingStep s event = some next) :
    BatchingSound size next := by
  obtain ⟨armed, rfl, order, batches⟩ := sound
  cases event with
  | send elem =>
      simp only [batchingStep] at step
      split at step
      · rename_i open'
        cases step
        rw [Bool.and_eq_true] at open'
        have room := armed_room armed open'.1
        obtain ⟨armed', buffer⟩ := rearm_armed { s.ch with buffer := s.ch.buffer ++ [elem] } armed.sized armed.known
          (by simpa using room)
        refine ⟨armed', (rearm_fields _).1, ?_, batches⟩
        dsimp only
        rw [buffer, ← List.append_assoc, order]
      · cases step
  | receive =>
      simp only [batchingStep] at step
      split at step
      · rename_i offered
        cases step
        have filled : s.ch.buffer ≠ [] := by
          intro empty
          rw [armed.output, empty] at offered
          cases offered
        obtain ⟨armed', buffer⟩ := rearm_armed { s.ch with buffer := [] } armed.sized armed.known
          (armed.sized.imp id (fun positive => by simpa using Int.le_of_lt positive))
        refine ⟨armed', (rearm_fields _).1, ?_, fun batch member => ?_⟩
        · dsimp only
          rw [buffer, List.flatten_append, List.flatten_singleton, List.append_nil, order]
        · rcases List.mem_append.mp member with old | new
          · exact batches batch old
          · rw [List.mem_singleton.mp new]
            exact ⟨filled, armed.bounded⟩
      · cases step
  | len =>
      simp only [batchingStep] at step
      split at step
      · cases step
        obtain ⟨armed', buffer⟩ := rearm_armed s.ch armed.sized armed.known armed.bounded
        exact ⟨armed', (rearm_fields _).1, by dsimp only; rw [buffer, order], batches⟩
      · cases step
  | close =>
      simp only [batchingStep] at step
      split at step
      · cases step
      · cases step
        exact ⟨⟨armed.sized, fun _ => rfl, armed.input, armed.output, armed.bounded⟩, rfl, order, batches⟩
  | seeClosed =>
      simp only [batchingStep] at step
      split at step
      · rename_i seen
        cases step
        rw [Bool.and_eq_true] at seen
        obtain ⟨armed', buffer⟩ := rearm_armed { s.ch with input := false, nextInput := false } armed.sized
          (fun _ => seen.2) armed.bounded
        exact ⟨armed', (rearm_fields _).1, by dsimp only; rw [buffer, order], batches⟩
      · cases step

theorem new_batching_sound (size : Int) (made : newBatchingChannel size = some ch) : BatchingSound size ⟨ch, [], []⟩ := by
  rw [newBatchingChannel] at made
  split at made
  · cases made
  · rename_i buffered
    split at made
    · cases made
    · rename_i valid
      cases made
      have sized : size = capInfinity ∨ 0 < size := by
        rw [capNone] at buffered
        by_cases infinite : size = capInfinity
        · exact .inl infinite
        · exact .inr (by by_contra small; exact valid ⟨by omega, infinite⟩)
      obtain ⟨armed, -⟩ := rearm_armed (⟨size, true, true, false, [], false⟩ : BatchingChannel α) sized nofun
        (sized.imp id (fun positive => by simpa using Int.le_of_lt positive))
      exact ⟨armed, rfl, rfl, nofun⟩

theorem batching_run_sound (size : Int) (made : newBatchingChannel size = some ch) (events : List (BatchingEvent α))
    (ran : run batchingStep ⟨ch, [], []⟩ events = some s) : BatchingSound size s :=
  run_preserves batchingStep (BatchingSound size) (fun _ _ => True)
    (fun _ event _ sound _ step => batching_step_sound size sound event step) events _ s (new_batching_sound size made) (meets_always _ _ (fun _ _ => trivial) _ _) ran

end Rounds

section Shutdown

variable {α : Type} {s : BatchingLog α} {size : Int}

theorem empty_stops (sound : BatchingSound size s) (closed : s.ch.closed = true) (empty : s.ch.buffer = []) :
    ∃ more final, more.length ≤ 1 ∧ run batchingStep s more = some final ∧ final.ch.running = false ∧
      final.batches.flatten = s.accepted := by
  have output : s.ch.output = false := by rw [sound.armed.output, empty]; rfl
  have delivered : s.batches.flatten = s.accepted := by rw [← sound.order, empty, List.append_nil]
  cases input : s.ch.input with
  | false => exact ⟨[], s, Nat.zero_le 1, rfl, by rw [BatchingChannel.running, input, output]; rfl, delivered⟩
  | true =>
      refine ⟨[.seeClosed], { s with ch := BatchingChannel.rearm { s.ch with input := false, nextInput := false } }, Nat.le_refl 1, ?_, ?_,
        delivered⟩
      · simp only [run, batchingStep, input, closed, Bool.and_self, if_true]
      · simp only [BatchingChannel.running, BatchingChannel.rearm, empty, List.isEmpty_nil, if_true, Bool.or_self]

theorem closed_stops (sound : BatchingSound size s) (closed : s.ch.closed = true) :
    ∃ more final, more.length ≤ 2 ∧ run batchingStep s more = some final ∧ final.ch.running = false ∧
      final.batches.flatten = s.accepted := by
  by_cases empty : s.ch.buffer = []
  · obtain ⟨more, final, short, ran, stopped, delivered⟩ := empty_stops sound closed empty
    exact ⟨more, final, Nat.le_succ_of_le short, ran, stopped, delivered⟩
  · have offered : s.ch.output = true := by
      rw [sound.armed.output, Bool.not_eq_true', List.isEmpty_eq_false_iff]
      exact empty
    have step : batchingStep s .receive =
        some { s with ch := BatchingChannel.rearm { s.ch with buffer := [] }, batches := s.batches ++ [s.ch.buffer] } := by
      simp only [batchingStep, offered, if_true]
    obtain ⟨more, final, short, ran, stopped, delivered⟩ := empty_stops (batching_step_sound size sound .receive step)
      ((rearm_fields _).2.trans closed) rfl
    refine ⟨.receive :: more, final, by simpa using short, ?_, stopped, delivered⟩
    rw [run, step]
    exact ran

end Shutdown

/-- The batches are the elements in the order they were sent, none of them empty or over the
capacity. A batch is on offer whenever there is something to deliver, a sender waits only while a
full one is, and after Close nothing is left behind. -/
theorem batches_in_order {α : Type} (size : Int) (ch : BatchingChannel α) (made : newBatchingChannel size = some ch)
    (events : List (BatchingEvent α)) (s : BatchingLog α) (ran : run batchingStep ⟨ch, [], []⟩ events = some s) :
    s.batches.flatten ++ s.ch.buffer = s.accepted ∧
      (∀ batch ∈ s.batches, batch ≠ [] ∧ (size = capInfinity ∨ (batch.length : Int) ≤ size)) ∧
      (s.ch.buffer ≠ [] → (batchingStep s .receive).isSome) ∧
      (s.ch.closed = false → ∀ elem, (batchingStep s (.send elem)).isSome ∨ (s.ch.buffer.length : Int) = size) ∧
      (s.ch.running = false → s.ch.closed = true ∧ s.batches.flatten = s.accepted) ∧
      (s.ch.closed = true → ∃ more final, more.length ≤ 2 ∧ run batchingStep s more = some final ∧
        final.ch.running = false ∧ final.batches.flatten = s.accepted) := by
  have sound := batching_run_sound size made events ran
  have offers : s.ch.buffer ≠ [] → s.ch.output = true := by
    intro filled
    rw [sound.armed.output, Bool.not_eq_true', List.isEmpty_eq_false_iff]
    exact filled
  refine ⟨sound.order, sound.batches, fun filled => ?_, fun open' elem => ?_, fun stopped => ?_, closed_stops sound⟩
  · simp only [batchingStep, offers filled, if_true, Option.isSome_some]
  · cases input : s.ch.input with
    | true =>
        left
        simp only [batchingStep, input, open', Bool.not_false, Bool.and_self, if_true, Option.isSome_some]
    | false =>
        right
        have armed := sound.armed.input.symm.trans input
        have more : s.ch.nextInput = true := by
          cases next : s.ch.nextInput with
          | true => rfl
          | false => exact absurd (sound.armed.known next) (by rw [open']; exact Bool.false_ne_true)
        rw [more, Bool.true_and, Bool.not_eq_false', BatchingChannel.full, Bool.and_eq_true, decide_eq_true_eq, decide_eq_true_eq] at armed
        have bounded := sound.armed.bounded.resolve_left armed.1
        rw [← sound.cap]
        exact Int.le_antisymm bounded armed.2
  · rw [BatchingChannel.running, Bool.or_eq_false_iff] at stopped
    have empty : s.ch.buffer = [] := by
      by_contra filled
      exact absurd (offers filled) (by rw [stopped.2]; exact Bool.false_ne_true)
    refine ⟨sound.armed.known ?_, by rw [← sound.order, empty, List.append_nil]⟩
    -- An empty buffer is not full, so the input was dropped for good.
    have armed := sound.armed.input.symm.trans stopped.1
    rwa [empty_not_full s.ch sound.armed.sized empty, Bool.not_false, Bool.and_true] at armed

theorem three_in_order : ∃ (ch : BatchingChannel Nat) (s : BatchingLog Nat),
    newBatchingChannel 2 = some ch ∧
      run batchingStep ⟨ch, [], []⟩ [.send 1, .send 2, .receive, .send 3, .close, .receive, .seeClosed] = some s ∧
      s.batches = [[1, 2], [3]] ∧ s.batches.flatten = s.accepted := by
  refine ⟨⟨2, true, true, false, [], false⟩, ⟨⟨2, false, false, false, [], true⟩, [1, 2, 3], [[1, 2], [3]]⟩, rfl, rfl, rfl, ?_⟩
  exact ((batches_in_order 2 _ rfl [.send 1, .send 2, .receive, .send 3, .close, .receive, .seeClosed] _ rfl).2.2.2.2.1 rfl).2

end Katzenpost
