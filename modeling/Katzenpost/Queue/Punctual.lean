import Katzenpost.Queue.TimerQueue

set_option autoImplicit false

namespace Katzenpost

open Go

section PriorityQueue

variable {α : Type}

def HeapOrdered (q : List (Entry α)) : Prop := Ordered rank q q.length

theorem enqueue_spec (q : List (Entry α)) (e : Entry α) (ordered : HeapOrdered q) :
    (enqueue q e).Perm (e :: q) ∧ HeapOrdered (enqueue q e) :=
  ⟨heap_push_perm rank q e, heap_push_ordered rank q e ordered⟩

theorem dequeue_spec (e : Entry α) (rest : List (Entry α)) (ordered : HeapOrdered (e :: rest)) :
    (e :: dequeue (e :: rest)).Perm (e :: rest) ∧ HeapOrdered (dequeue (e :: rest)) := by
  obtain ⟨-, perm, kept⟩ := heap_pop_spec rank e rest ordered
  have step : dequeue (e :: rest) = (heapPop rank (e :: rest)).2 := if_neg (by simp)
  rw [step]
  exact ⟨perm, kept⟩

theorem dequeue_ordered (q : List (Entry α)) (ordered : HeapOrdered q) : HeapOrdered (dequeue q) ∧ (dequeue q).Subperm q := by
  cases q with
  | nil => exact ⟨ordered, List.Subperm.refl _⟩
  | cons e rest =>
      obtain ⟨perm, kept⟩ := dequeue_spec e rest ordered
      exact ⟨kept, (List.sublist_cons_self e _).subperm.trans perm.subperm⟩

theorem dequeue_index_spec (q : List (Entry α)) (i : Nat) (inside : i < q.length) (ordered : HeapOrdered q) :
    (q[i] :: dequeueIndex q i).Perm q ∧ HeapOrdered (dequeueIndex q i) := by
  obtain ⟨-, perm, kept⟩ := heap_remove_spec rank q i inside ordered
  have step : dequeueIndex q i = (heapRemove rank q i).2 := if_neg (by omega)
  rw [step]
  exact ⟨perm, kept⟩

theorem head_due (q : List (Entry α)) (e : Entry α) (ordered : HeapOrdered q) (head : q.head? = some e) (other : Entry α)
    (member : other ∈ q) : e.priority.toNat ≤ other.priority.toNat := by
  cases q with
  | nil => cases head
  | cons first rest =>
      obtain rfl := Option.some.inj head
      exact ordered_head_least rank first rest ordered other member

theorem armed_for_head (priority : UInt64) (now : Nat)
    (later : ¬ (timeLeft priority now < 0 ∨ priority.toNat < now)) :
    now + (timeLeft priority now).toNat = priority.toNat := by
  have bound := priority.toNat_lt
  unfold timeLeft at later ⊢
  simp only [Int.bmod_def] at later ⊢
  omega

theorem not_early (priority : UInt64) (now : Nat) (near : priority.toNat < 2 ^ 63 + now)
    (due : timeLeft priority now < 0 ∨ priority.toNat < now) : priority.toNat ≤ now := by
  have bound := priority.toNat_lt
  unfold timeLeft at due
  simp only [Int.bmod_def] at due
  omega

end PriorityQueue

section Counting

variable {α : Type}

def serialsIn (entries : List (Entry α)) (k : Nat) : Nat := (entries.map Entry.serial).count k

theorem serials_in_append (a b : List (Entry α)) (k : Nat) : serialsIn (a ++ b) k = serialsIn a k + serialsIn b k := by
  simp [serialsIn]

theorem serials_in_cons (e : Entry α) (rest : List (Entry α)) (k : Nat) :
    serialsIn (e :: rest) k = serialsIn [e] k + serialsIn rest k := serials_in_append [e] rest k

theorem serials_in_perm (a b : List (Entry α)) (perm : a.Perm b) (k : Nat) : serialsIn a k = serialsIn b k :=
  (perm.map Entry.serial).count_eq k

theorem serials_in_of_mem (e : Entry α) (entries : List (Entry α)) (member : e ∈ entries) :
    1 ≤ serialsIn entries e.serial := List.count_pos_iff.mpr (List.mem_map_of_mem member)

def ranEntries (t : TimerQueue α) : List (Entry α) := t.ran.map Prod.fst

def held (t : TimerQueue α) (k : Nat) : Nat :=
  serialsIn t.queue k + serialsIn t.pushCh k + serialsIn t.spawned k + serialsIn (ranEntries t) k + serialsIn t.cancelled k

end Counting

section Steps

variable {α : Type} [DecidableEq α]

structure SoundQueue (t : TimerQueue α) : Prop where
  inRange : t.now < 2 ^ 63
  ordered : HeapOrdered t.queue
  unique : ∀ k, held t k ≤ 1
  fresh : ∀ k, t.pushes ≤ k → held t k = 0
  armed : ∀ instant, t.worker = .waiting instant → ∀ e ∈ t.queue, instant ≤ e.priority.toNat

theorem cancel_cases (t : TimerQueue α) (value : α) (ordered : HeapOrdered t.queue) :
    ((t.cancel value).2 = false ∧ (t.cancel value).1 = t) ∨
      ∃ e queue, (t.cancel value).2 = true ∧ e.value = value ∧ (e :: queue).Perm t.queue ∧ HeapOrdered queue ∧
        (t.cancel value).1 = { t with queue := queue, cancelled := t.cancelled ++ [e] } := by
  unfold TimerQueue.cancel
  split
  · exact .inl ⟨rfl, rfl⟩
  · rename_i i found
    obtain ⟨inside, hit, -⟩ := List.findIdx?_eq_some_iff_getElem.mp found
    obtain ⟨perm, kept⟩ := dequeue_index_spec t.queue i inside ordered
    refine .inr ⟨t.queue[i], dequeueIndex t.queue i, rfl, by simpa using hit, perm, kept, ?_⟩
    simp [List.getElem?_eq_getElem inside]

omit [DecidableEq α] in
theorem dequeue_cases (q : List (Entry α)) (ordered : HeapOrdered q) :
    (q = [] ∧ q.head? = none ∧ dequeue q = []) ∨
      ∃ e, q.head? = some e ∧ (e :: dequeue q).Perm q ∧ HeapOrdered (dequeue q) := by
  cases q with
  | nil => exact .inl ⟨rfl, rfl, rfl⟩
  | cons e rest => exact .inr ⟨e, rfl, dequeue_spec e rest ordered⟩

omit [DecidableEq α] in
theorem scan_cases (t : TimerQueue α) (ordered : HeapOrdered t.queue) :
    (t.queue = [] ∧ t.scan = { t with worker := .waiting (t.now + maxInt64) }) ∨
      ∃ m, t.queue.head? = some m ∧
        ((timeLeft m.priority t.now < 0 ∨ m.priority.toNat < t.now) ∧ (m :: dequeue t.queue).Perm t.queue ∧
            HeapOrdered (dequeue t.queue) ∧ t.scan = { t with queue := dequeue t.queue, spawned := t.spawned ++ [m] } ∨
          ¬ (timeLeft m.priority t.now < 0 ∨ m.priority.toNat < t.now) ∧
            t.scan = { t with worker := .waiting m.priority.toNat }) := by
  rcases dequeue_cases t.queue ordered with ⟨empty, head, -⟩ | ⟨m, head, perm, kept⟩
  · refine .inl ⟨empty, ?_⟩
    simp only [TimerQueue.scan, head]
  · refine .inr ⟨m, head, ?_⟩
    by_cases due : timeLeft m.priority t.now < 0 ∨ m.priority.toNat < t.now
    · refine .inl ⟨due, perm, kept, ?_⟩
      simp only [TimerQueue.scan, head, if_pos due]
    · refine .inr ⟨due, ?_⟩
      simp only [TimerQueue.scan, head, if_neg due, armed_for_head m.priority t.now due]

omit [DecidableEq α] in
theorem sound_of_held (t t' : TimerQueue α) (sound : SoundQueue t) (inRange : t'.now < 2 ^ 63) (ordered : HeapOrdered t'.queue)
    (pushes : t'.pushes = t.pushes) (fewer : ∀ k, held t' k ≤ held t k)
    (armed : ∀ instant, t'.worker = .waiting instant → ∀ e ∈ t'.queue, instant ≤ e.priority.toNat) : SoundQueue t' := by
  refine ⟨inRange, ordered, fun k => Nat.le_trans (fewer k) (sound.unique k), fun k known => ?_, armed⟩
  exact Nat.eq_zero_of_le_zero (Nat.le_trans (fewer k) (Nat.le_of_eq (sound.fresh k (pushes ▸ known))))

omit [DecidableEq α] in
theorem serials_in_split (e : Entry α) (rest whole : List (Entry α)) (perm : (e :: rest).Perm whole) (k : Nat) :
    serialsIn whole k = serialsIn [e] k + serialsIn rest k := by
  rw [← serials_in_perm _ _ perm, serials_in_cons]

theorem step_sound (t : TimerQueue α) (event : QueueEvent α) (t' : TimerQueue α) (sound : SoundQueue t)
    (taken : t.step event = some t') : SoundQueue t' := by
  have ordered := sound.ordered
  have armed := sound.armed
  cases event with
  | advance duration =>
      simp only [TimerQueue.step] at taken
      split at taken
      · rename_i fits
        obtain rfl := Option.some.inj taken
        exact ⟨fits, ordered, sound.unique, sound.fresh, armed⟩
      · cases taken
  | push priority value =>
      simp only [TimerQueue.step] at taken
      split at taken
      · obtain rfl := Option.some.inj taken
        have added : ∀ k, serialsIn (t.pushCh ++ [⟨value, priority, t.pushes⟩]) k =
            serialsIn t.pushCh k + if t.pushes = k then 1 else 0 := by
          intro k
          rw [serials_in_append]
          simp [serialsIn, List.count_singleton]
        refine ⟨sound.inRange, ordered, fun k => ?_, fun k known => ?_, armed⟩
        · have before := sound.unique k
          have new := sound.fresh k
          simp only [held, ranEntries, added] at before new ⊢
          split <;> omega
        · have none := sound.fresh k (Nat.le_of_succ_le known)
          simp only [held, ranEntries, added] at none ⊢
          rw [if_neg (Nat.ne_of_lt known)]
          exact none
      · cases taken
  | cancel value =>
      obtain rfl := Option.some.inj taken
      rcases cancel_cases t value ordered with ⟨-, same⟩ | ⟨e, queue, -, -, perm, kept, same⟩
      · rw [same]
        exact sound
      · rw [same]
        refine sound_of_held t _ sound sound.inRange kept rfl (fun k => ?_) (fun instant waiting other member => ?_)
        · have moved := serials_in_split e queue t.queue perm k
          simp only [held, ranEntries, serials_in_append]
          omega
        · exact armed instant waiting other (perm.mem_iff.mp (List.mem_cons_of_mem e member))
  | pop =>
      obtain rfl := Option.some.inj taken
      rcases dequeue_cases t.queue ordered with ⟨empty, -, none⟩ | ⟨e, -, perm, kept⟩
      · rw [none, ← empty]
        exact sound
      · refine sound_of_held t _ sound sound.inRange kept rfl (fun k => ?_) (fun instant waiting other member => ?_)
        · have moved := serials_in_split e _ t.queue perm k
          simp only [held, ranEntries]
          omega
        · exact armed instant waiting other (perm.mem_iff.mp (List.mem_cons_of_mem e member))
  | fire =>
      simp only [TimerQueue.step] at taken
      split at taken
      · split at taken
        · obtain rfl := Option.some.inj taken
          rcases dequeue_cases t.queue ordered with ⟨empty, head, none⟩ | ⟨e, head, perm, kept⟩
          · have same : t.fire = { t with worker := .scanning } := by
              simp [TimerQueue.fire, empty, dequeue]
            rw [same]
            exact sound_of_held t _ sound sound.inRange ordered rfl (fun _ => Nat.le_refl _) (by simp)
          · simp only [TimerQueue.fire, head, Option.toList_some]
            refine sound_of_held t _ sound sound.inRange kept rfl (fun k => ?_) (by simp)
            have moved := serials_in_split e _ t.queue perm k
            simp only [held, ranEntries, serials_in_append]
            omega
        · cases taken
      · cases taken
  | receive =>
      simp only [TimerQueue.step] at taken
      split at taken
      · rename_i item rest waiting pushed
        obtain rfl := Option.some.inj taken
        obtain ⟨perm, kept⟩ := enqueue_spec t.queue item ordered
        refine sound_of_held t _ sound sound.inRange kept rfl (fun k => ?_) (by simp)
        have moved := serials_in_perm _ _ perm k
        rw [serials_in_cons] at moved
        simp only [held, ranEntries, moved, pushed, serials_in_cons item rest]
        omega
      · cases taken
  | scan =>
      simp only [TimerQueue.step] at taken
      split at taken
      · cases taken
      · rename_i scanning
        obtain rfl := Option.some.inj taken
        rcases scan_cases t ordered with ⟨empty, same⟩ | ⟨m, head, ⟨-, perm, kept, same⟩ | ⟨-, same⟩⟩
        · rw [same]
          refine sound_of_held t _ sound sound.inRange ordered rfl (fun _ => Nat.le_refl _) (fun instant _ e member => ?_)
          have none : e ∈ t.queue := member
          rw [empty] at none
          cases none
        · rw [same]
          refine sound_of_held t _ sound sound.inRange kept rfl (fun k => ?_) (by simp [scanning])
          have moved := serials_in_split m _ t.queue perm k
          simp only [held, ranEntries, serials_in_append]
          omega
        · rw [same]
          refine sound_of_held t _ sound sound.inRange ordered rfl (fun _ => Nat.le_refl _) (fun instant waiting e member => ?_)
          obtain rfl := Worker.waiting.inj waiting
          exact head_due t.queue m ordered head e member
  | act index =>
      simp only [TimerQueue.step] at taken
      split at taken
      · cases taken
      · rename_i e found
        obtain rfl := Option.some.inj taken
        obtain ⟨inside, rfl⟩ := List.getElem?_eq_some_iff.mp found
        refine sound_of_held t _ sound sound.inRange ordered rfl (fun k => ?_) armed
        have moved := serials_in_split _ _ t.spawned (List.getElem_cons_eraseIdx_perm inside) k
        simp only [held, ranEntries, List.map_append, List.map_cons, List.map_nil, serials_in_append]
        omega

def StillDue (t : TimerQueue α) (queue : List (Entry α)) : Prop :=
  match t.worker with
  | .scanning => True
  | .waiting instant => queue = [] ∨ ∃ e ∈ queue, e.priority.toNat ≤ max instant t.now

def OrderlyEvent (t : TimerQueue α) : QueueEvent α → Prop
  | .push priority _ => priority.toNat < 2 ^ 63 + t.now
  | .cancel value => StillDue t (t.cancel value).1.queue
  | .pop => StillDue t (dequeue t.queue)
  | _ => True

structure Prompt (t : TimerQueue α) : Prop where
  sound : SoundQueue t
  near : ∀ e, e ∈ t.queue ∨ e ∈ t.pushCh → e.priority.toNat < 2 ^ 63 + t.now
  due : StillDue t t.queue
  spawned : ∀ e ∈ t.spawned, e.priority.toNat ≤ t.now
  ran : ∀ r ∈ t.ran, r.1.priority.toNat ≤ r.2

omit [DecidableEq α] in
theorem still_due_later (t : TimerQueue α) (now : Nat) (later : t.now ≤ now) (queue : List (Entry α))
    (due : StillDue t queue) : StillDue { t with now := now } queue := by
  unfold StillDue at due ⊢
  cases phase : t.worker with
  | scanning => trivial
  | waiting instant =>
      simp only [phase] at due ⊢
      cases due with
      | inl empty => exact .inl empty
      | inr soon =>
          obtain ⟨e, member, early⟩ := soon
          exact .inr ⟨e, member, by omega⟩

omit [DecidableEq α] in
theorem still_due_scanning (t : TimerQueue α) (queue : List (Entry α)) (scanning : t.worker = .scanning) : StillDue t queue := by
  unfold StillDue
  rw [scanning]
  trivial

theorem step_prompt (t : TimerQueue α) (event : QueueEvent α) (t' : TimerQueue α) (prompt : Prompt t)
    (orderly : OrderlyEvent t event) (taken : t.step event = some t') : Prompt t' := by
  have sound' := step_sound t event t' prompt.sound taken
  have ordered := prompt.sound.ordered
  obtain ⟨-, near, due, spawned, ran⟩ := prompt
  cases event with
  | advance duration =>
      simp only [TimerQueue.step] at taken
      split at taken
      · obtain rfl := Option.some.inj taken
        refine ⟨sound', fun e member => ?_, still_due_later t _ (Nat.le_add_right _ duration) _ due, fun e member => ?_, ran⟩
        · have before := near e member
          exact Nat.lt_of_lt_of_le before (Nat.add_le_add_left (Nat.le_add_right _ _) _)
        · exact Nat.le_trans (spawned e member) (Nat.le_add_right _ _)
      · cases taken
  | push priority value =>
      simp only [TimerQueue.step] at taken
      split at taken
      · obtain rfl := Option.some.inj taken
        refine ⟨sound', fun e member => ?_, due, spawned, ran⟩
        simp only [List.mem_append, List.mem_singleton] at member
        rcases member with queued | pushed | rfl
        · exact near e (.inl queued)
        · exact near e (.inr pushed)
        · exact orderly
      · cases taken
  | cancel value =>
      obtain rfl := Option.some.inj taken
      rcases cancel_cases t value ordered with ⟨-, same⟩ | ⟨e, queue, -, -, perm, -, same⟩
      · rw [same] at sound' ⊢
        exact ⟨sound', near, due, spawned, ran⟩
      · simp only [OrderlyEvent] at orderly
        rw [same] at sound' orderly ⊢
        refine ⟨sound', fun other member => ?_, orderly, spawned, ran⟩
        cases member with
        | inl queued => exact near other (.inl (perm.mem_iff.mp (List.mem_cons_of_mem e queued)))
        | inr pushed => exact near other (.inr pushed)
  | pop =>
      obtain rfl := Option.some.inj taken
      refine ⟨sound', fun other member => ?_, orderly, spawned, ran⟩
      cases member with
      | inl queued => exact near other (.inl ((dequeue_ordered t.queue ordered).2.subset queued))
      | inr pushed => exact near other (.inr pushed)
  | fire =>
      simp only [TimerQueue.step] at taken
      split at taken
      · rename_i instant waiting
        split at taken
        · rename_i fired
          obtain rfl := Option.some.inj taken
          refine ⟨sound', fun other member => ?_, still_due_scanning _ _ rfl, fun other member => ?_, ran⟩
          · cases member with
            | inl queued => exact near other (.inl ((dequeue_ordered t.queue ordered).2.subset queued))
            | inr pushed => exact near other (.inr pushed)
          · simp only [TimerQueue.fire, List.mem_append, Option.mem_toList] at member
            cases member with
            | inl before => exact spawned other before
            | inr head =>
                -- what was due when the timer was armed is not before the head
                simp only [StillDue, waiting] at due
                cases due with
                | inl empty => simp [empty] at head
                | inr soon =>
                    obtain ⟨e, queued, early⟩ := soon
                    have least := head_due t.queue other ordered head e queued
                    change other.priority.toNat ≤ t.now
                    omega
        · cases taken
      · cases taken
  | receive =>
      simp only [TimerQueue.step] at taken
      split at taken
      · rename_i item rest waiting pushed
        obtain rfl := Option.some.inj taken
        obtain ⟨perm, -⟩ := enqueue_spec t.queue item ordered
        refine ⟨sound', fun other member => ?_, still_due_scanning _ _ rfl, spawned, ran⟩
        rw [pushed] at near
        cases member with
        | inl queued =>
            cases List.mem_cons.mp (perm.mem_iff.mp queued) with
            | inl same => exact near other (.inr (same ▸ List.mem_cons_self))
            | inr before => exact near other (.inl before)
        | inr later => exact near other (.inr (List.mem_cons_of_mem item later))
      · cases taken
  | scan =>
      simp only [TimerQueue.step] at taken
      split at taken
      · cases taken
      · rename_i scanning
        obtain rfl := Option.some.inj taken
        rcases scan_cases t ordered with ⟨empty, same⟩ | ⟨m, head, ⟨passed, perm, -, same⟩ | ⟨-, same⟩⟩
        · rw [same] at sound' ⊢
          exact ⟨sound', near, .inl empty, spawned, ran⟩
        · rw [same] at sound' ⊢
          have queued : m ∈ t.queue := List.mem_of_mem_head? head
          refine ⟨sound', fun other member => ?_, still_due_scanning _ _ scanning, fun other member => ?_, ran⟩
          · cases member with
            | inl inner => exact near other (.inl (perm.mem_iff.mp (List.mem_cons_of_mem m inner)))
            | inr pushed => exact near other (.inr pushed)
          · cases List.mem_append.mp member with
            | inl before => exact spawned other before
            | inr new =>
                obtain rfl := List.mem_singleton.mp new
                exact not_early other.priority t.now (near other (.inl queued)) passed
        · rw [same] at sound' ⊢
          exact ⟨sound', near, .inr ⟨m, List.mem_of_mem_head? head, Nat.le_max_left _ _⟩, spawned, ran⟩
  | act index =>
      simp only [TimerQueue.step] at taken
      split at taken
      · cases taken
      · rename_i e found
        obtain rfl := Option.some.inj taken
        have member : e ∈ t.spawned := List.mem_of_getElem? found
        refine ⟨sound', near, due, fun other kept => spawned other (List.mem_of_mem_eraseIdx kept), fun r logged => ?_⟩
        cases List.mem_append.mp logged with
        | inl before => exact ran r before
        | inr new =>
            obtain rfl := List.mem_singleton.mp new
            exact spawned e member

end Steps

section Runs

variable {α : Type} [DecidableEq α]

structure Reliable (t : TimerQueue α) : Prop where
  once : (t.ran.map fun r => r.1.serial).Nodup
  cancelled : ∀ e ∈ t.cancelled, ∀ r ∈ t.ran, r.1 ≠ e
  armed : ∀ instant, t.worker = .waiting instant → ∀ e ∈ t.queue, instant ≤ e.priority.toNat

def NotEarly (t : TimerQueue α) : Prop := ∀ r ∈ t.ran, r.1.priority.toNat ≤ r.2

omit [DecidableEq α] in
theorem sound_reliable (t : TimerQueue α) (sound : SoundQueue t) : Reliable t := by
  refine ⟨?_, fun e gone r logged same => ?_, sound.armed⟩
  · refine List.nodup_iff_count_le_one.mpr fun k => ?_
    have serials : (t.ran.map fun r => r.1.serial) = (ranEntries t).map Entry.serial := by simp [ranEntries]
    have all := sound.unique k
    rw [serials]
    simp only [held, serialsIn] at all
    omega
  · have all := sound.unique e.serial
    have left := serials_in_of_mem e t.cancelled gone
    have right := serials_in_of_mem e (ranEntries t) (List.mem_map.mpr ⟨r, logged, same⟩)
    simp only [held] at all
    omega

omit [DecidableEq α] in
theorem new_timer_queue_prompt (start : Nat) (inRange : start < 2 ^ 63) : Prompt (newTimerQueue α start) := by
  have empty : ∀ k, held (newTimerQueue α start) k = 0 := fun _ => rfl
  refine ⟨⟨inRange, fun j _ below => ?_, fun k => ?_, fun k _ => empty k, ?_⟩, ?_, .inl rfl, ?_, ?_⟩
  · cases below
  · rw [empty]
    exact Nat.zero_le 1
  all_goals simp [newTimerQueue]

/-- The action runs at most once for a push and not for a cancelled one; it is not early in a run
in which the timer stays armed for an entry that is there. -/
theorem timer_queue_punctual (start : Nat) (inRange : start < 2 ^ 63) (events : List (QueueEvent α)) :
    Always TimerQueue.step Reliable (newTimerQueue α start) events ∧
      (Meets TimerQueue.step OrderlyEvent (newTimerQueue α start) events →
        Always TimerQueue.step NotEarly (newTimerQueue α start) events) := by
  have prompt : Prompt (newTimerQueue α start) := new_timer_queue_prompt start inRange
  constructor
  · refine always_of_invariant TimerQueue.step Reliable SoundQueue (fun _ _ => True) ?_ sound_reliable events _ prompt.sound
      (meets_always _ _ (fun _ _ => trivial) events _)
    intro t event t' sound _ taken
    exact step_sound t event t' sound taken
  · exact always_of_invariant TimerQueue.step NotEarly Prompt OrderlyEvent step_prompt (fun t prompt => prompt.ran) events _ prompt

instance (t : TimerQueue α) (queue : List (Entry α)) : Decidable (StillDue t queue) :=
  match phase : t.worker with
  | .scanning => isTrue (still_due_scanning t queue phase)
  | .waiting instant =>
      decidable_of_iff (queue = [] ∨ ∃ e ∈ queue, e.priority.toNat ≤ max instant t.now) (by simp [StillDue, phase])

instance (t : TimerQueue α) (event : QueueEvent α) : Decidable (OrderlyEvent t event) :=
  match event with
  | .push priority _ => inferInstanceAs (Decidable (priority.toNat < 2 ^ 63 + t.now))
  | .cancel value => inferInstanceAs (Decidable (StillDue t (t.cancel value).1.queue))
  | .pop => inferInstanceAs (Decidable (StillDue t (dequeue t.queue)))
  | .advance _ | .fire | .receive | .scan | .act _ => isTrue trivial

end Runs

def sampleQueueRun : List (QueueEvent Nat) :=
  [.push 5 1, .receive, .scan, .push 9 2, .receive, .scan, .cancel 2, .advance 5, .fire, .act 0]

theorem timer_queue_sample : ∃ final, run TimerQueue.step (newTimerQueue Nat 0) sampleQueueRun = some final ∧
    final.ran = [(⟨1, 5, 0⟩, 5)] ∧ NotEarly final := by
  have logged : (run TimerQueue.step (newTimerQueue Nat 0) sampleQueueRun).map TimerQueue.ran = some [(⟨1, 5, 0⟩, 5)] := by
    decide +kernel
  obtain ⟨final, reached, ran⟩ := Option.map_eq_some_iff.mp logged
  have always := (timer_queue_punctual 0 (by decide) sampleQueueRun).2 (by decide +kernel)
  exact ⟨final, reached, ran, always_final TimerQueue.step NotEarly sampleQueueRun _ final always reached⟩

/-- The earlier one is cancelled, and its timer fires for the later one. -/
theorem timer_queue_fires_early : ∃ final, run TimerQueue.step (newTimerQueue Nat 0)
    [.push 5 1, .receive, .scan, .push 9 2, .receive, .scan, .cancel 1, .advance 5, .fire, .act 0] = some final ∧
      final.ran = [(⟨2, 9, 1⟩, 5)] ∧ ¬ NotEarly final := by
  have logged : (run TimerQueue.step (newTimerQueue Nat 0)
      [.push 5 1, .receive, .scan, .push 9 2, .receive, .scan, .cancel 1, .advance 5, .fire, .act 0]).map TimerQueue.ran =
        some [(⟨2, 9, 1⟩, 5)] := by decide +kernel
  obtain ⟨final, reached, ran⟩ := Option.map_eq_some_iff.mp logged
  refine ⟨final, reached, ran, fun punctual => ?_⟩
  have early := punctual (⟨2, 9, 1⟩, 5) (by rw [ran]; exact List.mem_singleton.mpr rfl)
  exact absurd early (by decide)

end Katzenpost
