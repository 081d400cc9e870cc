import Katzenpost.Replica.Store

set_option autoImplicit false

namespace Katzenpost.Replica

open Go Pigeonhole

section Moves

variable {s next : State}

inductive StoreMove (s : State) : StoreEvent → State → Prop where
  | stays (event : StoreEvent) : StoreMove s event s
  | writes (write : ReplicaWrite) (missing : s.newest write.boxID = none) :
      StoreMove s (.write write) (s.put (s.db.getD ∅) write.box)
  | deletes (boxID : Fixed 32) (signature : Fixed 64) :
      StoreMove s (.tombstone boxID signature) (s.put (s.db.getD ∅) (tombstoneBox boxID signature))
  | wipes : StoreMove s .wipeStaleBoxes s.wipeStaleBoxes.1
  | advances (epoch : UInt64) (forward : s.epoch ≤ epoch) : StoreMove s (.advance epoch) { s with epoch := epoch }
  | watches (full : Bool) : StoreMove s (.watch full) { s with storageFull := full }

theorem store_moves (sound : Sound s) (event : StoreEvent) (taken : s.step event = some next) : StoreMove s event next := by
  cases event with
  | write write =>
      cases taken
      cases found : s.newest write.boxID with
      | some box =>
          rw [write_kept sound write box found]
          exact .stays _
      | none =>
          rw [write_missing sound write found]
          split
          · exact .stays _
          · exact .writes write found
  | tombstone boxID signature =>
      cases taken
      rw [tombstone_put sound boxID signature]
      exact .deletes boxID signature
  | read boxID =>
      cases taken
      exact .stays _
  | wipeStaleBoxes =>
      cases taken
      exact .wipes
  | advance epoch =>
      rw [State.step] at taken
      split at taken
      · rename_i forward
        cases taken
        exact .advances epoch forward
      · cases taken
  | watch full =>
      cases taken
      exact .watches full

theorem sound_step (s next : State) (event : StoreEvent) (sound : Sound s) (taken : s.step event = some next) : Sound next := by
  cases store_moves sound event taken with
  | stays => exact sound
  | writes write _ => exact put_sound sound write.box (write_box_valid write)
  | deletes boxID signature => exact put_sound sound (tombstoneBox boxID signature) rfl
  | wipes => exact wipe_sound sound
  | advances epoch forward => exact advance_sound sound epoch forward
  | watches full => exact ⟨sound.opened, sound.records⟩

theorem unwatched_step (s next : State) (event : StoreEvent) (sound : Sound s) (unwatched : ∀ full, event ≠ .watch full)
    (taken : s.step event = some next) : next.storageFull = s.storageFull := by
  cases store_moves sound event taken with
  | stays => rfl
  | writes write _ => rfl
  | deletes boxID signature => rfl
  | wipes => exact (wipe_epoch s).2
  | advances epoch forward => rfl
  | watches full => exact absurd rfl (unwatched full)

end Moves

section Window

structure Held (boxID : Fixed 32) (since : UInt64) (first later : Box → Prop) (s : State) : Prop where
  sound : Sound s
  started : since ≤ s.epoch
  kept : s.epoch.toNat ≤ since.toNat + 1 →
    (∃ box, s.record since boxID = some box ∧ first box) ∧
    ∀ ep box, ep.toNat = since.toNat + 1 → s.record ep boxID = some box → later box

variable {boxID : Fixed 32} {since : UInt64} {first later : Box → Prop} {s : State}

theorem Held.newest (held : Held boxID since first later s) (window : s.epoch.toNat ≤ since.toNat + 1) :
    ∃ box, s.newest boxID = some box ∧ (first box ∨ later box) := by
  obtain ⟨⟨box, record, kind⟩, next⟩ := held.kept window
  have started := UInt64.le_iff_toNat_le.mp held.started
  rw [State.newest, keptEpochs]
  by_cases same : s.epoch = since
  · refine ⟨box, ?_, .inl kind⟩
    rw [same]
    split
    · rename_i zero
      rw [zero] at record
      simp only [List.findSome?_cons, record]
    · simp only [List.findSome?_cons, record]
  · have following : s.epoch.toNat = since.toNat + 1 := by
      have different : s.epoch.toNat ≠ since.toNat := fun equal => same (UInt64.toNat_inj.mp equal)
      omega
    have nonzero : s.epoch ≠ 0 := by
      intro zero
      rw [zero] at following
      cases following
    have older : s.epoch - 1 = since := by
      apply UInt64.toNat_inj.mp
      rw [kept_older s.epoch nonzero]
      omega
    rw [if_neg nonzero, older, List.findSome?_cons]
    cases newer : s.record s.epoch boxID with
    | some other => exact ⟨other, rfl, .inr (next s.epoch other following newer)⟩
    | none => exact ⟨box, by simp only [List.findSome?_cons, record], .inl kind⟩

theorem held_put (held : Held boxID since first later s) (box : Box) (valid : box.valid = true)
    (may : s.epoch.toNat ≤ since.toNat + 1 → box.boxID = boxID → first box ∧ later box) :
    Held boxID since first later (s.put (s.db.getD ∅) box) := by
  refine ⟨put_sound held.sound box valid, held.started, fun window => ?_⟩
  obtain ⟨⟨old, record, kind⟩, others⟩ := held.kept window
  simp only [put_record held.sound box valid]
  constructor
  · by_cases same : s.epoch = since ∧ box.boxID = boxID
    · exact ⟨box, if_pos same, (may window same.2).1⟩
    · exact ⟨old, by rw [if_neg same, record], kind⟩
  · intro ep other number found
    by_cases same : s.epoch = ep ∧ box.boxID = boxID
    · rw [if_pos same, Option.some_inj] at found
      exact found ▸ (may window same.2).2
    · rw [if_neg same] at found
      exact others ep other number found

theorem held_wipe (held : Held boxID since first later s) : Held boxID since first later s.wipeStaleBoxes.1 := by
  obtain ⟨epoch, _⟩ := wipe_epoch s
  refine ⟨wipe_sound held.sound, by rw [epoch]; exact held.started, fun window => ?_⟩
  rw [epoch] at window
  obtain ⟨stays, others⟩ := held.kept window
  rw [wipe_record held.sound since boxID window]
  refine ⟨stays, fun ep box number found => others ep box number ?_⟩
  rwa [wipe_record held.sound ep boxID (by omega)] at found

theorem held_step (tombstones : Fixed 64 → Prop) (deletes : ∀ signature, tombstones signature →
      first (tombstoneBox boxID signature) ∧ later (tombstoneBox boxID signature))
    (s next : State) (event : StoreEvent) (held : Held boxID since first later s)
    (condition : ∀ signature, event = .tombstone boxID signature → tombstones signature)
    (taken : s.step event = some next) : Held boxID since first later next := by
  cases store_moves held.sound event taken with
  | stays => exact held
  | writes write missing =>
      apply held_put held write.box (write_box_valid write)
      -- The box has a record as long as the window is open.
      intro window same
      obtain ⟨box, newest, _⟩ := held.newest window
      rw [show write.boxID = boxID from same, newest] at missing
      cases missing
  | deletes other signature =>
      apply held_put held (tombstoneBox other signature) rfl
      intro _ same
      have same : other = boxID := same
      subst same
      exact deletes signature (condition signature rfl)
  | wipes => exact held_wipe held
  | advances epoch forward =>
      have steps := UInt64.le_iff_toNat_le.mp forward
      exact ⟨advance_sound held.sound epoch forward, UInt64.le_trans held.started forward,
        fun window => held.kept (steps.trans window)⟩
  | watches full => exact ⟨⟨held.sound.opened, held.sound.records⟩, held.started, held.kept⟩

end Window

section Runs

variable {s t : State}

theorem new_state_sound (epoch : UInt64) : Sound (newState epoch) := by
  refine ⟨rfl, fun db opened key value found => ?_⟩
  cases opened
  rw [Std.ExtTreeMap.getElem?_empty] at found
  cases found

theorem Sound.future (sound : Sound s) (ep : UInt64) (boxID : Fixed 32) (ahead : s.epoch.toNat < ep.toNat) :
    s.record ep boxID = none := by
  obtain ⟨db, opened⟩ := Option.isSome_iff_exists.mp sound.opened
  obtain ⟨_, missing⟩ | ⟨_, _, _, _, _, past⟩ := get_cases sound db opened ep boxID
  · exact missing
  · exact absurd (UInt64.le_iff_toNat_le.mp past) (by omega)

theorem put_held (sound : Sound s) (box : Box) (valid : box.valid = true) (first later : Box → Prop) (kind : first box) :
    Held box.boxID s.epoch first later (s.put (s.db.getD ∅) box) := by
  refine ⟨put_sound sound box valid, UInt64.le_refl _, fun _ => ⟨⟨box, ?_, kind⟩, fun ep other number found => ?_⟩⟩
  · rw [put_record sound box valid, if_pos ⟨rfl, rfl⟩]
  · have ahead : s.epoch.toNat < ep.toNat := by omega
    rw [put_record sound box valid, if_neg (fun same => absurd (congrArg UInt64.toNat same.1) (by omega)),
      sound.future ep box.boxID ahead] at found
    cases found

theorem run_sound (epoch : UInt64) (events : List StoreEvent) (reached : run State.step (newState epoch) events = some s) : Sound s :=
  run_preserves State.step Sound (fun _ _ => True) (fun state event next sound _ taken => sound_step state next event sound taken)
    events (newState epoch) s (new_state_sound epoch) (meets_always _ _ (fun _ _ => trivial) _ _) reached

end Runs

section Immutability

def Holds (boxID : Fixed 32) (kind : Box → Prop) (refusal : StateError) (t : State) : Prop :=
  ∃ box, t.stateHandleReplicaRead boxID = .ok box ∧ kind box ∧
    ∀ write : ReplicaWrite, write.boxID = boxID → (box.payload ≠ write.payload ∨ box.signature ≠ write.signature) →
      t.handleReplicaWrite write = (t, .error refusal)

def State.refusal (t : State) : StateError := if t.storageFull then .storageFull else .boxAlreadyExists

variable {s t : State}

theorem held_holds {boxID : Fixed 32} {since : UInt64} {first later : Box → Prop} (held : Held boxID since first later t)
    (window : t.epoch.toNat ≤ since.toNat + 1) : Holds boxID (fun box => first box ∨ later box) t.refusal t := by
  obtain ⟨box, newest, kind⟩ := held.newest window
  refine ⟨box, ?_, kind, fun write same other => ?_⟩
  · rw [read_newest held.sound boxID, newest]
  · exact write_newest held.sound write box (by rw [same, newest]) other

theorem replica_boxes_immutable (epoch : UInt64) (before : List StoreEvent) (s : State)
    (reached : run State.step (newState epoch) before = some s) :
    (∀ write : ReplicaWrite, s.newest write.boxID = none → (s.handleReplicaWrite write).2 = .ok () →
      ∀ (events : List StoreEvent) (t : State), run State.step (s.handleReplicaWrite write).1 events = some t →
        t.epoch.toNat ≤ s.epoch.toNat + 1 →
        Holds write.boxID (fun box => (box.payload = write.payload ∧ box.signature = write.signature) ∨
          (box.payload = [] ∧ StoreEvent.tombstone write.boxID box.signature ∈ events)) t.refusal t) ∧
    ∀ (boxID : Fixed 32) (signature : Fixed 64) (events : List StoreEvent) (t : State),
      run State.step (s.handleReplicaTombstone boxID signature).1 events = some t → t.epoch.toNat ≤ s.epoch.toNat + 1 →
        Holds boxID (fun box => box.payload = []) t.refusal t := by
  have sound := run_sound epoch before reached
  constructor
  · intro write missing success events t later window
    rw [write_missing sound write missing] at success later
    have room : s.storageFull = false := by
      cases full : s.storageFull with
      | false => rfl
      | true =>
          rw [full, if_pos rfl] at success
          cases success
    rw [room, if_neg Bool.false_ne_true] at later
    have held := run_preserves State.step
      (Held write.boxID s.epoch
        (fun box => (box.payload = write.payload ∧ box.signature = write.signature) ∨
          (box.payload = [] ∧ StoreEvent.tombstone write.boxID box.signature ∈ events))
        (fun box => box.payload = [] ∧ StoreEvent.tombstone write.boxID box.signature ∈ events))
      (fun _ event => event ∈ events)
      (fun state event next held member taken =>
        held_step (fun signature => StoreEvent.tombstone write.boxID signature ∈ events)
          (fun signature deleted => ⟨.inr ⟨rfl, deleted⟩, rfl, deleted⟩) state next event held
          (fun signature same => same ▸ member) taken)
      events _ t (put_held sound write.box (write_box_valid write) _ _ (.inl ⟨rfl, rfl⟩))
      (meets_of_mem _ _ _ (fun _ _ member => member) _) later
    obtain ⟨box, read, kind, writes⟩ := held_holds held window
    exact ⟨box, read, kind.elim id .inr, writes⟩
  · intro boxID signature events t later window
    rw [tombstone_put sound boxID signature] at later
    have held := run_preserves State.step (Held boxID s.epoch (fun box => box.payload = []) (fun box => box.payload = []))
      (fun _ _ => True)
      (fun state event next held _ taken =>
        held_step (fun _ => True) (fun _ _ => ⟨rfl, rfl⟩) state next event held (fun _ _ => trivial) taken)
      events _ t (put_held sound (tombstoneBox boxID signature) rfl _ _ rfl) (meets_always _ _ (fun _ _ => trivial) _ _) later
    obtain ⟨box, read, kind, writes⟩ := held_holds held window
    exact ⟨box, read, kind.elim id id, writes⟩

theorem unwatched_run (events : List StoreEvent) (unwatched : ∀ full, .watch full ∉ events) (sound : Sound s)
    (room : s.storageFull = false) (reached : run State.step s events = some t) : t.storageFull = false := by
  have kept := run_preserves State.step (fun state => Sound state ∧ state.storageFull = false) (fun _ event => event ∈ events)
    (fun state event next inv member taken =>
      ⟨sound_step state next event inv.1 taken,
        (unwatched_step state next event inv.1 (fun full same => unwatched full (same ▸ member)) taken).trans inv.2⟩)
    events s t ⟨sound, room⟩ (meets_of_mem _ _ _ (fun _ _ member => member) _) reached
  exact kept.2

/-- Over whole runs a box stays what it was written as until it is deleted, stays deleted then,
and every other write of it is refused as one of a box that exists. -/
theorem unwatched_boxes_immutable (epoch : UInt64) (before : List StoreEvent) (s : State)
    (reached : run State.step (newState epoch) before = some s) (unwatched : ∀ full, .watch full ∉ before) :
    (∀ write : ReplicaWrite, s.newest write.boxID = none → (s.handleReplicaWrite write).2 = .ok () →
      ∀ (events : List StoreEvent) (t : State), (∀ full, .watch full ∉ events) →
        run State.step (s.handleReplicaWrite write).1 events = some t → t.epoch.toNat ≤ s.epoch.toNat + 1 →
        Holds write.boxID (fun box => (box.payload = write.payload ∧ box.signature = write.signature) ∨
          (box.payload = [] ∧ StoreEvent.tombstone write.boxID box.signature ∈ events)) .boxAlreadyExists t) ∧
    ∀ (boxID : Fixed 32) (signature : Fixed 64) (events : List StoreEvent) (t : State), (∀ full, .watch full ∉ events) →
      run State.step (s.handleReplicaTombstone boxID signature).1 events = some t → t.epoch.toNat ≤ s.epoch.toNat + 1 →
        Holds boxID (fun box => box.payload = []) .boxAlreadyExists t := by
  have sound := run_sound epoch before reached
  have room : s.storageFull = false := unwatched_run before unwatched (new_state_sound epoch) rfl reached
  obtain ⟨writes, tombstones⟩ := replica_boxes_immutable epoch before s reached
  -- The operation that begins the window is one more step without the watcher.
  have refused (event : StoreEvent) (next : State) (taken : s.step event = some next) (other : ∀ full, event ≠ .watch full)
      (events : List StoreEvent) (t : State) (quiet : ∀ full, .watch full ∉ events) (later : run State.step next events = some t) :
      t.refusal = .boxAlreadyExists := by
    have full := unwatched_run events quiet (sound_step s next event sound taken)
      ((unwatched_step s next event sound other taken).trans room) later
    rw [State.refusal, full, if_neg Bool.false_ne_true]
  constructor
  · intro write missing success events t quiet later window
    rw [← refused (.write write) _ rfl (fun _ same => by cases same) events t quiet later]
    exact writes write missing success events t later window
  · intro boxID signature events t quiet later window
    rw [← refused (.tombstone boxID signature) _ rfl (fun _ same => by cases same) events t quiet later]
    exact tombstones boxID signature events t later window

def plainWrite (byte : UInt8) : ReplicaWrite := ⟨⟨zeros 32, rfl⟩, ⟨zeros 64, rfl⟩, [byte], by simp⟩

theorem written_box_kept :
    ∃ t, run State.step ((newState 5).handleReplicaWrite (plainWrite 1)).1 [.advance 6, .wipeStaleBoxes] = some t ∧ t.epoch = 6 ∧
      Holds (plainWrite 1).boxID (fun box => (box.payload = [1] ∧ box.signature = (plainWrite 1).signature) ∨
        (box.payload = [] ∧ StoreEvent.tombstone (plainWrite 1).boxID box.signature ∈ [.advance 6, .wipeStaleBoxes]))
        .boxAlreadyExists t :=
  ⟨_, rfl, rfl, (unwatched_boxes_immutable 5 [] (newState 5) rfl (by simp)).1 (plainWrite 1) (by decide +kernel) (by rfl) _ _
    (by simp) rfl (by decide)⟩

end Immutability

end Katzenpost.Replica
