import Katzenpost.Replica.RetryQueue

set_option autoImplicit false

namespace Katzenpost

open Go

def ReplicaCommand.isTombstone : ReplicaCommand → Bool
  | .replicaWrite _ _ payload => payload.isEmpty
  | _ => false

-- The calls that change the retry queue, each with the time it reads. A pass of
-- processRetryQueue finds a connection for the entries at the given places.
inductive RetryEvent where
  | queueForRetry (now : Nat) (command : ReplicaCommand) (idHash : Digest)
  | prune (now : Nat)
  | processRetryQueue (now : Nat) (connected : List Nat)
deriving DecidableEq

def RetryEvent.now : RetryEvent → Nat
  | .queueForRetry now _ _ => now
  | .prune now => now
  | .processRetryQueue now _ => now

def dispatchBelow (connected : List Nat) : Nat → List RetryCommand → List RetryCommand
  | 0, queue => queue
  | i + 1, queue => dispatchBelow connected i (if i ∈ connected then queue.eraseIdx i else queue)

section Retry

variable (limits : RetryLimits)

def retryStep (queue : List RetryCommand) (event : RetryEvent) : List RetryCommand :=
  let kept := pruneRetryQueue limits event.now queue
  match event with
  | .queueForRetry now command idHash => queueForRetry limits now queue command idHash
  | .prune _ => kept
  | .processRetryQueue _ connected => dispatchBelow connected kept.length kept

def retryRun (events : List RetryEvent) : List RetryCommand := events.foldl (retryStep limits) []

structure WithinLimits (queue : List RetryCommand) : Prop where
  bounded : ∀ idHash : Digest, queue.countP (fun rc => rc.idHash = idHash) ≤ limits.maxRetryQueuePerPeer
  single : queue.Pairwise fun a b => a.idHash = b.idHash → (cmdIdentity a.cmd).isSome →
    cmdIdentity a.cmd ≠ cmdIdentity b.cmd

def KeepsOthers (queue : List RetryCommand) : RetryEvent → Prop
  | .queueForRetry now command idHash => ∀ rc ∈ queue, rc.idHash ≠ idHash → rc.expired limits now = false →
      rc ∈ retryStep limits queue (.queueForRetry now command idHash)
  | _ => True

def RetryEvent.takes (kept : List RetryCommand) (place : Nat) : RetryEvent → Prop
  | .queueForRetry _ command idHash =>
      kept.findIdx? (RetryCommand.collapses command idHash) = none ∧
        kept.countP (fun rc => rc.idHash = idHash) ≥ limits.maxRetryQueuePerPeer ∧
        kept.findIdx? (fun rc => rc.idHash = idHash) = some place
  | .prune _ => False
  | .processRetryQueue _ connected => place ∈ connected

def TombstonesStay (queue : List RetryCommand) (event : RetryEvent) : Prop :=
  ∀ (place : Nat) rc, (pruneRetryQueue limits event.now queue)[place]? = some rc → rc.cmd.isTombstone = true →
    event.takes limits (pruneRetryQueue limits event.now queue) place ∨
      ∃ rc' ∈ retryStep limits queue event, rc'.idHash = rc.idHash ∧
        cmdIdentity rc'.cmd = cmdIdentity rc.cmd ∧ rc'.cmd.isTombstone = true

def RepeatsTombstones (queue : List RetryCommand) : RetryEvent → Prop
  | .queueForRetry now command idHash => ∀ rc ∈ queue, rc.expired limits now = false →
      rc.collapses command idHash = true → rc.cmd.isTombstone = true → command.isTombstone = true
  | _ => True

theorem collapses_iff (cmd : ReplicaCommand) (idHash : Digest) (rc : RetryCommand) :
    rc.collapses cmd idHash = true ↔
      rc.idHash = idHash ∧ (cmdIdentity cmd).isSome ∧ cmdIdentity rc.cmd = cmdIdentity cmd := by
  simp [RetryCommand.collapses, and_assoc]

theorem mem_prune (now : Nat) (queue : List RetryCommand) (rc : RetryCommand) :
    rc ∈ pruneRetryQueue limits now queue ↔ rc ∈ queue ∧ rc.expired limits now = false := by
  simp [pruneRetryQueue]

theorem sublist_within (queue fewer : List RetryCommand) (sub : fewer.Sublist queue) (within : WithinLimits limits queue) :
    WithinLimits limits fewer :=
  ⟨fun idHash => (sub.countP_le).trans (within.bounded idHash), within.single.sublist sub⟩

theorem prune_within (now : Nat) (queue : List RetryCommand) (within : WithinLimits limits queue) :
    WithinLimits limits (pruneRetryQueue limits now queue) :=
  sublist_within limits queue _ List.filter_sublist within

theorem dispatch_sublist (connected : List Nat) (i : Nat) (queue : List RetryCommand) :
    (dispatchBelow connected i queue).Sublist queue := by
  induction i generalizing queue with
  | zero => exact List.Sublist.refl _
  | succ i ih =>
      rw [dispatchBelow]
      split
      · exact (ih _).trans (List.eraseIdx_sublist queue i)
      · exact ih _

theorem dispatch_passed (connected : List Nat) (i place : Nat) (queue : List RetryCommand) (rc : RetryCommand)
    (entry : queue[place]? = some rc) (passed : i ≤ place) : rc ∈ dispatchBelow connected i queue := by
  induction i generalizing queue place with
  | zero => exact List.mem_of_getElem? entry
  | succ i ih =>
      rw [dispatchBelow]
      split
      · refine ih (place - 1) (queue.eraseIdx i) ?_ (by omega)
        rw [List.getElem?_eraseIdx_of_ge (by omega), Nat.sub_add_cancel (by omega), entry]
      · exact ih place queue entry (by omega)

theorem dispatch_keeps (connected : List Nat) (i place : Nat) (queue : List RetryCommand) (rc : RetryCommand)
    (entry : queue[place]? = some rc) (away : place ∉ connected) : rc ∈ dispatchBelow connected i queue := by
  induction i generalizing queue with
  | zero => exact List.mem_of_getElem? entry
  | succ i ih =>
      rw [dispatchBelow]
      split
      · rename_i found
        rcases Nat.lt_trichotomy place i with before | same | after
        · exact ih (queue.eraseIdx i) (by rw [List.getElem?_eraseIdx_of_lt before, entry])
        · exact absurd (same ▸ found) away
        · refine dispatch_passed connected i (place - 1) (queue.eraseIdx i) rc ?_ (by omega)
          rw [List.getElem?_eraseIdx_of_ge (by omega), Nat.sub_add_cancel (by omega), entry]
      · exact ih queue entry

theorem single_place (queue : List RetryCommand) (within : WithinLimits limits queue) (i j : Nat) (a b : RetryCommand)
    (first : queue[i]? = some a) (second : queue[j]? = some b) (peer : a.idHash = b.idHash)
    (named : (cmdIdentity a.cmd).isSome) (same : cmdIdentity a.cmd = cmdIdentity b.cmd) : i = j := by
  obtain ⟨inI, rfl⟩ := List.getElem?_eq_some_iff.mp first
  obtain ⟨inJ, rfl⟩ := List.getElem?_eq_some_iff.mp second
  rcases Nat.lt_trichotomy i j with before | equal | after
  · exact absurd same (List.pairwise_iff_getElem.mp within.single i j inI inJ before peer named)
  · exact equal
  · exact absurd same.symm (List.pairwise_iff_getElem.mp within.single j i inJ inI after peer.symm (same ▸ named))

theorem modify_within (queue : List RetryCommand) (within : WithinLimits limits queue) (cmd : ReplicaCommand) (idHash : Digest)
    (i : Nat) (found : queue.findIdx? (RetryCommand.collapses cmd idHash) = some i) :
    WithinLimits limits (queue.modify i (RetryCommand.update cmd)) := by
  obtain ⟨bound, collapses, -⟩ := List.findIdx?_eq_some_iff_getElem.mp found
  obtain ⟨-, -, same⟩ := (collapses_iff cmd idHash _).mp collapses
  -- Peer and identity of every entry are what they were.
  have kept : ∀ (j : Nat) (inside : j < (queue.modify i (RetryCommand.update cmd)).length),
      ∃ old : j < queue.length, (queue.modify i (RetryCommand.update cmd))[j].idHash = queue[j].idHash ∧
        cmdIdentity (queue.modify i (RetryCommand.update cmd))[j].cmd = cmdIdentity queue[j].cmd := by
    intro j inside
    refine ⟨by simpa using inside, ?_⟩
    rw [List.getElem_modify]
    split
    · rename_i here
      subst here
      exact ⟨rfl, same.symm⟩
    · exact ⟨rfl, rfl⟩
  constructor
  · intro peer
    have counted : (queue.modify i (RetryCommand.update cmd)).map RetryCommand.idHash = queue.map RetryCommand.idHash := by
      apply List.ext_getElem
      · simp
      · intro j first second
        simp only [List.getElem_map]
        exact (kept j (by simpa using first)).2.1
    have counts : ∀ entries : List RetryCommand, entries.countP (fun rc => rc.idHash = peer) =
        (entries.map RetryCommand.idHash).countP (fun id => id = peer) := by
      intro entries
      rw [List.countP_map]
      rfl
    rw [counts, counted, ← counts]
    exact within.bounded peer
  · apply List.pairwise_iff_getElem.mpr
    intro a b inA inB before peer named
    obtain ⟨oldA, peerA, identA⟩ := kept a inA
    obtain ⟨oldB, peerB, identB⟩ := kept b inB
    rw [identA, identB]
    exact List.pairwise_iff_getElem.mp within.single a b oldA oldB before (peerA ▸ peerB ▸ peer) (identA ▸ named)

theorem append_within (queue : List RetryCommand) (within : WithinLimits limits queue) (cmd : ReplicaCommand) (idHash : Digest)
    (now : Nat) (new : ∀ rc ∈ queue, rc.collapses cmd idHash = false)
    (room : queue.countP (fun rc => rc.idHash = idHash) < limits.maxRetryQueuePerPeer) :
    WithinLimits limits (queue ++ [⟨cmd, idHash, now⟩]) := by
  constructor
  · intro peer
    rw [List.countP_append, List.countP_singleton]
    by_cases same : idHash = peer
    · subst same
      simp only [decide_true, if_true]
      exact room
    · simpa [same] using within.bounded peer
  · refine List.pairwise_append.mpr ⟨within.single, List.pairwise_singleton _ _, fun a member b last peer named same => ?_⟩
    cases List.mem_singleton.mp last
    have collapses := (collapses_iff cmd idHash a).mpr ⟨peer, same ▸ named, same⟩
    rw [new a member] at collapses
    cases collapses

theorem evict_counts (queue : List RetryCommand) (idHash : Digest)
    (some : 1 ≤ queue.countP (fun rc => rc.idHash = idHash)) :
    (queue.eraseP (fun rc => rc.idHash = idHash)).countP (fun rc => rc.idHash = idHash) + 1 =
      queue.countP (fun rc => rc.idHash = idHash) := by
  obtain ⟨rc, member, own⟩ := List.countP_pos_iff.mp some
  obtain ⟨oldest, before, after, -, holds, split, erased⟩ := List.exists_of_eraseP (p := fun rc => decide (rc.idHash = idHash)) member own
  rw [erased, split, List.countP_append, List.countP_append, List.countP_cons, if_pos holds, Nat.add_assoc]

theorem queue_within (positive : 1 ≤ limits.maxRetryQueuePerPeer) (queue : List RetryCommand)
    (within : WithinLimits limits queue) (now : Nat) (cmd : ReplicaCommand) (idHash : Digest) :
    WithinLimits limits (queueForRetry limits now queue cmd idHash) := by
  have pruned := prune_within limits now queue within
  unfold queueForRetry
  dsimp only
  split
  · rename_i i found
    exact modify_within limits _ pruned cmd idHash i found
  · rename_i missing
    have new : ∀ rc ∈ pruneRetryQueue limits now queue, rc.collapses cmd idHash = false :=
      fun rc member => by simpa using List.findIdx?_eq_none_iff.mp missing rc member
    split
    · rename_i full
      apply append_within limits _ (sublist_within limits _ _ List.eraseP_sublist pruned) cmd idHash now
      · exact fun rc member => new rc (List.mem_of_mem_eraseP member)
      · have evicted := evict_counts (pruneRetryQueue limits now queue) idHash (Nat.le_trans positive full)
        have bound := pruned.bounded idHash
        omega
    · rename_i room
      exact append_within limits _ pruned cmd idHash now new (Nat.lt_of_not_ge room)

theorem step_within (positive : 1 ≤ limits.maxRetryQueuePerPeer) (queue : List RetryCommand)
    (within : WithinLimits limits queue) (event : RetryEvent) : WithinLimits limits (retryStep limits queue event) := by
  cases event with
  | queueForRetry now command idHash => exact queue_within limits positive queue within now command idHash
  | prune now => exact prune_within limits now queue within
  | processRetryQueue now connected =>
      exact sublist_within limits _ _ (dispatch_sublist connected _ _) (prune_within limits now queue within)

theorem run_within (positive : 1 ≤ limits.maxRetryQueuePerPeer) (events : List RetryEvent) :
    WithinLimits limits (retryRun limits events) := by
  unfold retryRun
  have start : WithinLimits limits [] := ⟨fun _ => Nat.zero_le _, List.Pairwise.nil⟩
  generalize ([] : List RetryCommand) = queue at start
  induction events generalizing queue with
  | nil => exact start
  | cons event rest ih => exact ih _ (step_within limits positive queue start event)

theorem step_keeps_others (queue : List RetryCommand) (event : RetryEvent) : KeepsOthers limits queue event := by
  cases event with
  | queueForRetry now command idHash =>
      intro rc member different fresh
      have kept := (mem_prune limits now queue rc).mpr ⟨member, fresh⟩
      rw [retryStep, queueForRetry]
      split
      · rename_i i found
        obtain ⟨bound, collapses, -⟩ := List.findIdx?_eq_some_iff_getElem.mp found
        obtain ⟨j, entry⟩ := List.getElem?_of_mem kept
        have other : i ≠ j := by
          rintro rfl
          obtain ⟨inside, here⟩ := List.getElem?_eq_some_iff.mp entry
          exact different (here ▸ ((collapses_iff _ _ _).mp collapses).1)
        apply List.mem_of_getElem? (i := j)
        rw [List.getElem?_modify_ne _ _ other, entry]
      · split
        · refine List.mem_append_left _ ((List.mem_eraseP_of_neg ?_).mpr kept)
          simpa using different
        · exact List.mem_append_left _ kept
  | prune now => trivial
  | processRetryQueue now connected => trivial

theorem collapsed_tombstone (queue : List RetryCommand) (now : Nat) (command : ReplicaCommand) (idHash : Digest) (i : Nat)
    (within : WithinLimits limits (pruneRetryQueue limits now queue))
    (found : (pruneRetryQueue limits now queue).findIdx? (RetryCommand.collapses command idHash) = some i)
    (stay : TombstonesStay limits queue (.queueForRetry now command idHash)) (rc : RetryCommand)
    (kept : rc ∈ pruneRetryQueue limits now queue) (collapses : rc.collapses command idHash = true)
    (tombstone : rc.cmd.isTombstone = true) : command.isTombstone = true := by
  obtain ⟨place, entry⟩ := List.getElem?_of_mem kept
  obtain ⟨bound, first, -⟩ := List.findIdx?_eq_some_iff_getElem.mp found
  obtain ⟨peer, named, same⟩ := (collapses_iff _ _ _).mp collapses
  obtain ⟨peer', -, same'⟩ := (collapses_iff _ _ _).mp first
  have here : place = i := single_place limits _ within place i rc _ entry (List.getElem?_eq_getElem bound)
    (peer.trans peer'.symm) (same ▸ named) (same.trans same'.symm)
  rcases stay place rc entry tombstone with taken | ⟨left, member, peerLeft, sameLeft, still⟩
  · exact absurd (taken.1.symm.trans found) (by simp)
  · simp only [retryStep, queueForRetry, found] at member
    obtain ⟨j, entryLeft⟩ := List.getElem?_of_mem member
    by_cases updated : i = j
    · rw [updated, List.getElem?_modify_eq] at entryLeft
      obtain ⟨old, -, made⟩ := Option.map_eq_some_iff.mp entryLeft
      rw [← made] at still
      exact still
    · rw [List.getElem?_modify_ne _ _ updated] at entryLeft
      have again : place = j := single_place limits _ within place j rc left entry entryLeft peerLeft.symm (same ▸ named)
        sameLeft.symm
      exact absurd (here.symm.trans again) updated

theorem tombstones_stay_iff (queue : List RetryCommand) (within : WithinLimits limits queue) (event : RetryEvent) :
    TombstonesStay limits queue event ↔ RepeatsTombstones limits queue event := by
  cases event with
  | prune now =>
      refine iff_of_true (fun place rc entry tombstone => .inr ⟨rc, ?_, rfl, rfl, tombstone⟩) trivial
      exact List.mem_of_getElem? entry
  | processRetryQueue now connected =>
      refine iff_of_true (fun place rc entry tombstone => ?_) trivial
      by_cases found : place ∈ connected
      · exact .inl found
      · exact .inr ⟨rc, dispatch_keeps connected _ place _ rc entry found, rfl, rfl, tombstone⟩
  | queueForRetry now command idHash =>
      have pruned := prune_within limits now queue within
      constructor
      · intro stay rc member fresh collapses tombstone
        have kept := (mem_prune limits now queue rc).mpr ⟨member, fresh⟩
        cases found : (pruneRetryQueue limits now queue).findIdx? (RetryCommand.collapses command idHash) with
        | none => exact absurd (List.findIdx?_eq_none_iff.mp found rc kept) (by simp [collapses])
        | some i => exact collapsed_tombstone limits queue now command idHash i pruned found stay rc kept collapses tombstone
      · intro repeats place rc entry tombstone
        rw [RetryEvent.now] at entry
        have kept := List.mem_of_getElem? entry
        obtain ⟨member, fresh⟩ := (mem_prune limits now queue rc).mp kept
        rw [retryStep, queueForRetry]
        split
        · rename_i i found
          by_cases updated : i = place
          · -- The entry itself takes the new command, which is a tombstone.
            subst updated
            obtain ⟨bound, collapses, -⟩ := List.findIdx?_eq_some_iff_getElem.mp found
            obtain ⟨inside, rfl⟩ := List.getElem?_eq_some_iff.mp entry
            obtain ⟨-, -, same⟩ := (collapses_iff _ _ _).mp collapses
            have stored : (List.modify (pruneRetryQueue limits now queue) i (RetryCommand.update command))[i]? =
                some ((pruneRetryQueue limits now queue)[i].update command) := by
              rw [List.getElem?_modify_eq, entry]
              rfl
            exact .inr ⟨_, List.mem_of_getElem? stored, rfl, same.symm, repeats _ member fresh collapses tombstone⟩
          · refine .inr ⟨rc, List.mem_of_getElem? (i := place) ?_, rfl, rfl, tombstone⟩
            rw [List.getElem?_modify_ne _ _ updated, entry]
        · rename_i missing
          split
          · rename_i full
            by_cases oldest : (pruneRetryQueue limits now queue).findIdx? (fun rc => rc.idHash = idHash) = some place
            · exact .inl ⟨missing, full, oldest⟩
            · refine .inr ⟨rc, List.mem_append_left _ ?_, rfl, rfl, tombstone⟩
              rw [List.eraseP_eq_eraseIdx]
              split
              · exact kept
              · rename_i i first
                have elsewhere : i ≠ place := fun same => oldest (same ▸ first)
                exact List.mem_eraseIdx_iff_getElem?.mpr ⟨place, Ne.symm elsewhere, entry⟩
          · exact .inr ⟨rc, List.mem_append_left _ kept, rfl, rfl, tombstone⟩

/-- The queue keeps to its limits and one peer does not disturb another, and a tombstone stays
just if nothing but a tombstone is queued for its peer and box. -/
theorem retry_queue_sound_iff (positive : 1 ≤ limits.maxRetryQueuePerPeer) (events : List RetryEvent) (event : RetryEvent) :
    WithinLimits limits (retryRun limits events) ∧ KeepsOthers limits (retryRun limits events) event ∧
      (TombstonesStay limits (retryRun limits events) event ↔ RepeatsTombstones limits (retryRun limits events) event) :=
  have within := run_within limits positive events
  ⟨within, step_keeps_others limits _ event, tombstones_stay_iff limits _ within event⟩

end Retry

def retryLimits : RetryLimits := ⟨2000, 3600⟩

def tombstonePeer : Digest := ⟨List.replicate 32 1, rfl⟩

def tombstoneBox : Digest := ⟨List.replicate 32 6, rfl⟩

def queuedTombstone : List RetryEvent :=
  [.queueForRetry 0 (.replicaWrite tombstoneBox [] [5]) tombstonePeer, .queueForRetry 1 (.replicaWrite tombstoneBox [] []) tombstonePeer]

theorem repeated_tombstone_stays :
    TombstonesStay retryLimits (retryRun retryLimits queuedTombstone)
      (.queueForRetry 2 (.replicaWrite tombstoneBox [] []) tombstonePeer) := by
  refine (retry_queue_sound_iff retryLimits (by decide) queuedTombstone _).2.2.mpr ?_
  exact fun rc _ _ _ _ => rfl

/-- The write is queued again and takes the place of the tombstone. -/
theorem old_write_displaces_tombstone :
    retryRun retryLimits queuedTombstone = [⟨.replicaWrite tombstoneBox [] [], tombstonePeer, 0⟩] ∧
      retryStep retryLimits (retryRun retryLimits queuedTombstone)
        (.queueForRetry 2 (.replicaWrite tombstoneBox [] [5]) tombstonePeer) =
          [⟨.replicaWrite tombstoneBox [] [5], tombstonePeer, 0⟩] ∧
      ¬ TombstonesStay retryLimits (retryRun retryLimits queuedTombstone)
        (.queueForRetry 2 (.replicaWrite tombstoneBox [] [5]) tombstonePeer) := by
  have before : retryRun retryLimits queuedTombstone = [⟨.replicaWrite tombstoneBox [] [], tombstonePeer, 0⟩] := by
    decide +kernel
  have after : retryStep retryLimits (retryRun retryLimits queuedTombstone)
      (.queueForRetry 2 (.replicaWrite tombstoneBox [] [5]) tombstonePeer) =
        [⟨.replicaWrite tombstoneBox [] [5], tombstonePeer, 0⟩] := by decide +kernel
  refine ⟨before, after, fun stay => ?_⟩
  have entry : (pruneRetryQueue retryLimits 2 (retryRun retryLimits queuedTombstone))[0]? =
      some ⟨.replicaWrite tombstoneBox [] [], tombstonePeer, 0⟩ := by decide +kernel
  rcases stay 0 _ entry rfl with taken | ⟨rc, member, -, -, still⟩
  · exact absurd taken.1 (by decide +kernel)
  · rw [after] at member
    cases List.mem_singleton.mp member
    cases still

end Katzenpost
