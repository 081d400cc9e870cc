import Katzenpost.Queue.Punctual

set_option autoImplicit false

namespace Katzenpost

open Go

section Live

variable {α : Type} [DecidableEq α]

def copies (entries : List (Entry α)) (value : α) : Nat := entries.countP fun e => e.value = value

def live (t : TimerQueue α) (value : α) : Nat :=
  copies t.queue value + copies t.pushCh value + copies t.spawned value + copies (ranEntries t) value

def ActionDispatched (t : TimerQueue α) (value : α) : Prop := ∃ e ∈ t.spawned ++ ranEntries t, e.value = value

def pushedBy (value : α) : QueueEvent α → Bool
  | .push _ pushed => pushed = value
  | _ => false

def pushesOf (value : α) (events : List (QueueEvent α)) : Nat := events.countP (pushedBy value)

@[simp] theorem copies_append (a b : List (Entry α)) (value : α) : copies (a ++ b) value = copies a value + copies b value :=
  List.countP_append

@[simp] theorem copies_nil (value : α) : copies ([] : List (Entry α)) value = 0 := rfl

theorem copies_split (e : Entry α) (rest whole : List (Entry α)) (perm : (e :: rest).Perm whole) (value : α) :
    copies whole value = copies [e] value + copies rest value := by
  rw [copies, ← perm.countP_eq]
  exact copies_append [e] rest value

theorem copies_pos (entries : List (Entry α)) (value : α) : 0 < copies entries value ↔ ∃ e ∈ entries, e.value = value := by
  simp [copies, List.countP_pos_iff]

theorem dispatched_iff (t : TimerQueue α) (value : α) :
    ActionDispatched t value ↔ 0 < copies t.spawned value + copies (ranEntries t) value := by
  rw [← copies_append, copies_pos, ActionDispatched]

theorem step_live (t : TimerQueue α) (event : QueueEvent α) (t' : TimerQueue α) (ordered : HeapOrdered t.queue)
    (taken : t.step event = some t') (value : α) : live t' value ≤ live t value + (pushedBy value event).toNat := by
  cases event with
  | advance duration =>
      obtain ⟨-, rfl⟩ := Option.ite_none_right_eq_some.mp taken |>.imp_right Option.some.inj
      exact Nat.le_add_right _ _
  | push priority pushed =>
      obtain ⟨-, rfl⟩ := Option.ite_none_right_eq_some.mp taken |>.imp_right Option.some.inj
      have new : copies [(⟨pushed, priority, t.pushes⟩ : Entry α)] value = (pushedBy value (.push priority pushed)).toNat := by
        by_cases same : pushed = value <;> simp [copies, pushedBy, same]
      simp only [live, ranEntries, copies_append, new]
      omega
  | cancel cancelled =>
      obtain rfl := Option.some.inj taken
      rcases cancel_cases t cancelled ordered with ⟨-, same⟩ | ⟨e, queue, -, -, perm, -, same⟩
      · rw [same]
        exact Nat.le_add_right _ _
      · have moved := copies_split e queue t.queue perm value
        simp only [same, live, ranEntries]
        omega
  | pop =>
      obtain rfl := Option.some.inj taken
      rcases dequeue_cases t.queue ordered with ⟨-, -, none⟩ | ⟨e, -, perm, -⟩
      · simp only [live, ranEntries, none, copies_nil]
        omega
      · have moved := copies_split e _ t.queue perm value
        simp only [live, ranEntries]
        omega
  | fire =>
      simp only [TimerQueue.step] at taken
      split at taken
      · obtain ⟨-, rfl⟩ := Option.ite_none_right_eq_some.mp taken |>.imp_right Option.some.inj
        rcases dequeue_cases t.queue ordered with ⟨-, head, none⟩ | ⟨e, head, perm, -⟩
        · simp only [TimerQueue.fire, live, ranEntries, none, head, Option.toList_none, List.append_nil, copies_nil]
          omega
        · have moved := copies_split e _ t.queue perm value
          simp only [TimerQueue.fire, live, ranEntries, head, Option.toList_some, copies_append]
          omega
      · cases taken
  | receive =>
      simp only [TimerQueue.step] at taken
      split at taken
      · rename_i item rest waiting pushed
        obtain rfl := Option.some.inj taken
        have moved := copies_split item t.queue _ (enqueue_spec t.queue item ordered).1.symm value
        have received := copies_split item rest t.pushCh (pushed ▸ List.Perm.refl _) value
        simp only [live, ranEntries]
        omega
      · cases taken
  | scan =>
      simp only [TimerQueue.step] at taken
      split at taken
      · cases taken
      · obtain rfl := Option.some.inj taken
        rcases scan_cases t ordered with ⟨-, same⟩ | ⟨m, -, ⟨-, perm, -, same⟩ | ⟨-, same⟩⟩
        · rw [same]
          exact Nat.le_add_right _ _
        · have moved := copies_split m _ t.queue perm value
          simp only [same, live, ranEntries, copies_append]
          omega
        · rw [same]
          exact Nat.le_add_right _ _
  | act index =>
      simp only [TimerQueue.step] at taken
      split at taken
      · cases taken
      · rename_i e found
        obtain rfl := Option.some.inj taken
        obtain ⟨inside, rfl⟩ := List.getElem?_eq_some_iff.mp found
        have moved := copies_split _ _ t.spawned (List.getElem_cons_eraseIdx_perm inside) value
        simp only [live, ranEntries, List.map_append, List.map_cons, List.map_nil, copies_append]
        omega

theorem run_live (events : List (QueueEvent α)) (t final : TimerQueue α) (sound : SoundQueue t)
    (reached : run TimerQueue.step t events = some final) (value : α) :
    SoundQueue final ∧ live final value ≤ live t value + pushesOf value events := by
  induction events generalizing t with
  | nil =>
      obtain rfl := Option.some.inj reached
      exact ⟨sound, Nat.le_add_right _ _⟩
  | cons event rest ih =>
      rw [run] at reached
      cases taken : t.step event with
      | none => simp [taken] at reached
      | some next =>
          rw [taken] at reached
          obtain ⟨kept, bound⟩ := ih next (step_sound t event next sound taken) reached
          have one := step_live t event next sound.ordered taken value
          have counted : pushesOf value (event :: rest) = pushesOf value rest + (pushedBy value event).toNat := by
            cases hit : pushedBy value event <;> simp [pushesOf, hit]
          exact ⟨kept, by omega⟩

def CancelEffective (t : TimerQueue α) (value : α) : Prop :=
  (t.cancel value).2 = true ∧ ∀ later final, pushesOf value later = 0 →
    run TimerQueue.step (t.cancel value).1 later = some final → ¬ ActionDispatched final value

theorem cancel_returns (t : TimerQueue α) (value : α) : (t.cancel value).2 = true ↔ ∃ e ∈ t.queue, e.value = value := by
  unfold TimerQueue.cancel
  cases found : t.queue.findIdx? (fun e => e.value = value) with
  | none => simpa using List.findIdx?_eq_none_iff.mp found
  | some i =>
      obtain ⟨inside, hit, -⟩ := List.findIdx?_eq_some_iff_getElem.mp found
      exact iff_of_true rfl ⟨t.queue[i], List.getElem_mem inside, by simpa using hit⟩

/-- Cancel searches the heap only, so it finds an entry that the worker has received and that
nobody has taken off. -/
theorem cancel_effective_iff (start : Nat) (inRange : start < 2 ^ 63) (events : List (QueueEvent α)) (t : TimerQueue α)
    (value : α) (reached : run TimerQueue.step (newTimerQueue α start) events = some t) (once : pushesOf value events = 1) :
    CancelEffective t value ↔ ∃ e ∈ t.queue, e.value = value := by
  obtain ⟨sound, bound⟩ := run_live events _ t (new_timer_queue_prompt start inRange).sound reached value
  have single : live t value ≤ 1 := by
    rw [once] at bound
    exact bound
  constructor
  · intro effective
    exact (cancel_returns t value).mp effective.1
  · intro queued
    have returned := (cancel_returns t value).mpr queued
    refine ⟨returned, fun later final unpushed reached' dispatched => ?_⟩
    rcases cancel_cases t value sound.ordered with ⟨missed, -⟩ | ⟨e, queue, -, hit, perm, -, same⟩
    · rw [missed] at returned
      cases returned
    · -- The only entry of the value went with the call.
      have kept : SoundQueue (t.cancel value).1 := step_sound t (.cancel value) _ sound rfl
      have gone : live (t.cancel value).1 value = 0 := by
        have moved := copies_split e queue t.queue perm value
        have own : copies [e] value = 1 := by simp [copies, hit]
        simp only [live, ranEntries] at single
        simp only [same, live, ranEntries]
        omega
      have later := (run_live later _ final kept reached' value).2
      have some := (dispatched_iff final value).mp dispatched
      rw [gone, unpushed] at later
      simp only [live] at later
      omega

end Live

theorem received_entry_cancelled : ∃ t, run TimerQueue.step (newTimerQueue Nat 0) [.push 5 1, .receive, .scan] = some t ∧
    CancelEffective t 1 := by
  have queued : (run TimerQueue.step (newTimerQueue Nat 0) [.push 5 1, .receive, .scan]).map
      (fun t => (t.queue, t.spawned ++ ranEntries t)) = some ([⟨1, 5, 0⟩], []) := by decide +kernel
  obtain ⟨t, reached, state⟩ := Option.map_eq_some_iff.mp queued
  obtain ⟨queue, -⟩ := Prod.mk.inj state
  refine ⟨t, reached, (cancel_effective_iff 0 (by decide) _ t 1 reached (by decide)).mpr ?_⟩
  exact ⟨⟨1, 5, 0⟩, by rw [queue]; exact List.mem_singleton.mpr rfl, rfl⟩

/-- The entry is in the channel when Cancel runs: Cancel returns false, and the worker receives
the entry afterwards and runs the action. -/
theorem unreceived_entry_runs : ∃ t final, run TimerQueue.step (newTimerQueue Nat 0) [.push 5 1] = some t ∧
    ¬ ActionDispatched t 1 ∧ (t.cancel 1).2 = false ∧
    run TimerQueue.step (t.cancel 1).1 [.advance 6, .receive, .scan, .act 0] = some final ∧ ActionDispatched final 1 := by
  refine ⟨⟨0, [], [⟨1, 5, 0⟩], .waiting maxInt64, [], [], [], 1⟩, ⟨6, [], [], .scanning, [], [(⟨1, 5, 0⟩, 6)], [], 1⟩,
    rfl, ?_, rfl, rfl, ⟨⟨1, 5, 0⟩, by simp [ranEntries], rfl⟩⟩
  rintro ⟨e, member, -⟩
  simp [ranEntries] at member

end Katzenpost
