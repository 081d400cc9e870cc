import Katzenpost.Replica.Immutable

set_option autoImplicit false

namespace Katzenpost.Replica

open Go Pigeonhole

inductive Answer where
  | read (result : Except StateError Box)
  | verdict (result : Except StateError Unit)
deriving DecidableEq

def State.answer (s : State) : StoreEvent → Option Answer
  | .write write => some (.verdict (s.handleReplicaWrite write).2)
  | .tombstone boxID signature => some (.verdict (s.handleReplicaTombstone boxID signature).2)
  | .read boxID => some (.read (s.stateHandleReplicaRead boxID))
  | _ => none

def answers : State → List StoreEvent → List Answer
  | _, [] => []
  | s, event :: rest =>
      match s.step event with
      | none => []
      | some next => (s.answer event).toList ++ answers next rest

def withoutWipes (events : List StoreEvent) : List StoreEvent := events.filter (· ≠ .wipeStaleBoxes)

section Alike

def SameKept (epoch : UInt64) : Option Database → Option Database → Prop
  | none, none => True
  | some a, some b => ∀ (ep : UInt64) (boxID : Fixed 32), epoch.toNat ≤ ep.toNat + 1 → get a (boxKey ep boxID) = get b (boxKey ep boxID)
  | _, _ => False

structure Alike (a b : State) : Prop where
  epoch : a.epoch = b.epoch
  full : a.storageFull = b.storageFull
  kept : SameKept a.epoch a.db b.db

variable {a b : State}

theorem Alike.refl (s : State) : Alike s s := by
  refine ⟨rfl, rfl, ?_⟩
  cases s.db with
  | none => exact trivial
  | some db => exact fun _ _ _ => rfl

theorem kept_epoch_recent (current ep : UInt64) (member : ep ∈ keptEpochs current) : current.toNat ≤ ep.toNat + 1 := by
  rw [keptEpochs] at member
  split at member
  · rename_i zero
    rw [zero]
    exact Nat.zero_le _
  · rename_i some
    rcases List.mem_cons.mp member with rfl | member
    · omega
    · rw [List.mem_singleton.mp member, kept_older current some]
      omega

theorem read_kept_congr (x y : Database) (boxID : Fixed 32) (epochs : List UInt64)
    (same : ∀ ep ∈ epochs, get x (boxKey ep boxID) = get y (boxKey ep boxID)) : readKept x boxID epochs = readKept y boxID epochs := by
  induction epochs with
  | nil => rfl
  | cons ep older ih =>
      rw [readKept, readKept, same ep List.mem_cons_self, ih (fun ep' member => same ep' (List.mem_cons_of_mem ep member))]

theorem check_kept_congr (x y : Database) (write : ReplicaWrite) (epochs : List UInt64)
    (same : ∀ ep ∈ epochs, get x (boxKey ep write.boxID) = get y (boxKey ep write.boxID)) :
    checkKept x write epochs = checkKept y write epochs := by
  induction epochs with
  | nil => rfl
  | cons ep older ih =>
      rw [checkKept, checkKept, same ep List.mem_cons_self, ih (fun ep' member => same ep' (List.mem_cons_of_mem ep member))]

theorem Alike.cases (alike : Alike a b) :
    (a.db = none ∧ b.db = none) ∨ ∃ x y, a.db = some x ∧ b.db = some y ∧
      ∀ (ep : UInt64) (boxID : Fixed 32), a.epoch.toNat ≤ ep.toNat + 1 → get x (boxKey ep boxID) = get y (boxKey ep boxID) := by
  have kept := alike.kept
  cases openedA : a.db with
  | none =>
      cases openedB : b.db with
      | none => exact .inl ⟨rfl, rfl⟩
      | some y =>
          rw [openedA, openedB] at kept
          exact kept.elim
  | some x =>
      cases openedB : b.db with
      | none =>
          rw [openedA, openedB] at kept
          exact kept.elim
      | some y =>
          rw [openedA, openedB] at kept
          exact .inr ⟨x, y, rfl, rfl, kept⟩

theorem put_alike (alike : Alike a b) (x y : Database) (kept : SameKept a.epoch (some x) (some y)) (box : Box) :
    Alike (a.put x box) (b.put y box) := by
  refine ⟨alike.epoch, alike.full, fun ep boxID recent => ?_⟩
  have before := kept ep boxID recent
  simp only [get, alike.epoch, lookup_insert] at before ⊢
  split
  · rfl
  · exact before

theorem write_alike (alike : Alike a b) (write : ReplicaWrite) :
    (a.handleReplicaWrite write).2 = (b.handleReplicaWrite write).2 ∧
    Alike (a.handleReplicaWrite write).1 (b.handleReplicaWrite write).1 := by
  obtain ⟨closedA, closedB⟩ | ⟨x, y, openedA, openedB, kept⟩ := alike.cases
  · rw [State.handleReplicaWrite, State.handleReplicaWrite, closedA, closedB]
    exact ⟨rfl, alike⟩
  · have checks := check_kept_congr x y write (keptEpochs a.epoch)
      (fun ep member => kept ep write.boxID (kept_epoch_recent a.epoch ep member))
    rw [State.handleReplicaWrite, State.handleReplicaWrite, openedA, openedB, alike.full]
    dsimp only
    rw [checks, alike.epoch]
    split
    · exact ⟨rfl, alike⟩
    · split
      · exact ⟨rfl, alike⟩
      · exact ⟨rfl, put_alike alike x y kept write.box⟩

theorem tombstone_alike (alike : Alike a b) (boxID : Fixed 32) (signature : Fixed 64) :
    (a.handleReplicaTombstone boxID signature).2 = (b.handleReplicaTombstone boxID signature).2 ∧
    Alike (a.handleReplicaTombstone boxID signature).1 (b.handleReplicaTombstone boxID signature).1 := by
  obtain ⟨closedA, closedB⟩ | ⟨x, y, openedA, openedB, kept⟩ := alike.cases
  · rw [State.handleReplicaTombstone, State.handleReplicaTombstone, closedA, closedB]
    exact ⟨rfl, alike⟩
  · rw [State.handleReplicaTombstone, State.handleReplicaTombstone, openedA, openedB]
    exact ⟨rfl, put_alike alike x y kept _⟩

theorem read_alike (alike : Alike a b) (boxID : Fixed 32) : a.stateHandleReplicaRead boxID = b.stateHandleReplicaRead boxID := by
  obtain ⟨closedA, closedB⟩ | ⟨x, y, openedA, openedB, kept⟩ := alike.cases
  · rw [State.stateHandleReplicaRead, State.stateHandleReplicaRead, closedA, closedB]
  · rw [State.stateHandleReplicaRead, State.stateHandleReplicaRead, openedA, openedB, ← alike.epoch]
    exact read_kept_congr x y boxID (keptEpochs a.epoch) (fun ep member => kept ep boxID (kept_epoch_recent a.epoch ep member))

theorem advance_alike (alike : Alike a b) (epoch : UInt64) (forward : a.epoch ≤ epoch) :
    Alike { a with epoch := epoch } { b with epoch := epoch } := by
  have later := UInt64.le_iff_toNat_le.mp forward
  refine ⟨rfl, alike.full, ?_⟩
  obtain ⟨closedA, closedB⟩ | ⟨x, y, openedA, openedB, kept⟩ := alike.cases
  · rw [closedA, closedB]
    exact trivial
  · rw [openedA, openedB]
    exact fun ep boxID recent => kept ep boxID (later.trans recent)

theorem wipe_alike (alike : Alike a b) : Alike a.wipeStaleBoxes.1 b := by
  obtain ⟨epoch, full⟩ := wipe_epoch a
  refine ⟨epoch.trans alike.epoch, full.trans alike.full, ?_⟩
  obtain ⟨closedA, closedB⟩ | ⟨x, y, openedA, openedB, kept⟩ := alike.cases
  · rw [epoch, State.wipeStaleBoxes, closedA, closedB]
    dsimp only
    rw [closedA]
    exact trivial
  · rw [epoch, State.wipeStaleBoxes, openedA, openedB]
    dsimp only
    split
    · rw [openedA]
      exact kept
    · rename_i late
      intro ep boxID recent
      have outside := kept_outside a.epoch late ep boxID recent
      have before := kept ep boxID recent
      simp only [get, lookup_delete_range, outside, Bool.not_true, Bool.and_false, Bool.false_eq_true, if_false] at before ⊢
      exact before

theorem step_alike (alike : Alike a b) (event : StoreEvent) (other : event ≠ .wipeStaleBoxes) :
    a.answer event = b.answer event ∧
    ((a.step event = none ∧ b.step event = none) ∨ ∃ x y, a.step event = some x ∧ b.step event = some y ∧ Alike x y) := by
  cases event with
  | write write =>
      obtain ⟨same, after⟩ := write_alike alike write
      exact ⟨congrArg (fun result => some (Answer.verdict result)) same, .inr ⟨_, _, rfl, rfl, after⟩⟩
  | tombstone boxID signature =>
      obtain ⟨same, after⟩ := tombstone_alike alike boxID signature
      exact ⟨congrArg (fun result => some (Answer.verdict result)) same, .inr ⟨_, _, rfl, rfl, after⟩⟩
  | read boxID =>
      exact ⟨congrArg (fun result => some (Answer.read result)) (read_alike alike boxID), .inr ⟨_, _, rfl, rfl, alike⟩⟩
  | wipeStaleBoxes => exact absurd rfl other
  | advance epoch =>
      refine ⟨rfl, ?_⟩
      rw [State.step, State.step, ← alike.epoch]
      by_cases forward : a.epoch ≤ epoch
      · rw [if_pos forward, if_pos forward]
        exact .inr ⟨_, _, rfl, rfl, advance_alike alike epoch forward⟩
      · rw [if_neg forward, if_neg forward]
        exact .inl ⟨rfl, rfl⟩
  | watch full => exact ⟨rfl, .inr ⟨_, _, rfl, rfl, alike.epoch, rfl, alike.kept⟩⟩

theorem answers_without_wipes (events : List StoreEvent) (a b : State) (alike : Alike a b) :
    answers a events = answers b (withoutWipes events) := by
  induction events generalizing a b with
  | nil => rfl
  | cons event rest ih =>
      by_cases wipes : event = .wipeStaleBoxes
      · subst wipes
        have skipped : withoutWipes (.wipeStaleBoxes :: rest) = withoutWipes rest := List.filter_cons_of_neg (by decide)
        rw [skipped, ← ih _ _ (wipe_alike alike)]
        rfl
      · have taken : withoutWipes (event :: rest) = event :: withoutWipes rest := List.filter_cons_of_pos (by simpa using wipes)
        obtain ⟨same, ⟨stuckA, stuckB⟩ | ⟨x, y, stepA, stepB, after⟩⟩ := step_alike alike event wipes
        · rw [taken, answers, answers, stuckA, stuckB]
        · rw [taken, answers, answers, stepA, stepB, same]
          dsimp only
          rw [ih x y after]

end Alike

/-- Wiping at any times changes no answer, and leaves no key below the kept epochs. -/
theorem collection_invisible (s : State) :
    (∀ events inserted, withoutWipes inserted = withoutWipes events → answers s inserted = answers s events) ∧
    ∀ db (ep : UInt64) rest value, s.wipeStaleBoxes.1.db = some db → db[putUint64BE ep ++ rest]? = some value →
      s.epoch.toNat - 1 ≤ ep.toNat := by
  constructor
  · intro events inserted same
    rw [answers_without_wipes inserted s s (Alike.refl s), answers_without_wipes events s s (Alike.refl s), same]
  · intro db ep rest value left found
    rw [State.wipeStaleBoxes] at left
    split at left
    · rename_i closed
      rw [closed] at left
      cases left
    · split at left
      · rename_i early
        have bound := UInt64.lt_iff_toNat_lt.mp early
        have two : (2 : UInt64).toNat = 2 := rfl
        omega
      · rename_i late
        cases left
        rw [lookup_delete_range, epochPrefix, epochPrefix, numbered_key_le, numbered_key_le] at found
        by_contra below
        have old : ¬ s.epoch - 1 ≤ ep := by
          rw [UInt64.le_iff_toNat_le, cutoff_older s.epoch late]
          omega
        have zero : (0 : UInt64) ≤ ep := UInt64.le_iff_toNat_le.mpr (Nat.zero_le _)
        rw [decide_eq_true zero, decide_eq_false old] at found
        cases found

theorem wiped_run_answers :
    answers (newState 5) [.write (plainWrite 1), .advance 6, .wipeStaleBoxes, .read (plainWrite 1).boxID, .advance 7, .wipeStaleBoxes,
      .write (plainWrite 2), .read (plainWrite 2).boxID] =
    answers (newState 5) [.write (plainWrite 1), .advance 6, .read (plainWrite 1).boxID, .advance 7, .write (plainWrite 2),
      .read (plainWrite 2).boxID] :=
  (collection_invisible (newState 5)).1 _ _ (by rfl)

section Retention

variable {s : State}

def State.keptSince (s : State) (boxID : Fixed 32) : UInt64 :=
  if s.newest boxID = none ∨ (s.record s.epoch boxID).isSome then s.epoch else s.epoch - 1

theorem kept_since_recent (s : State) (boxID : Fixed 32) : s.epoch.toNat ≤ (s.keptSince boxID).toNat + 1 := by
  rw [State.keptSince]
  split
  · omega
  · by_cases zero : s.epoch = 0
    · rw [zero]
      exact Nat.zero_le _
    · rw [kept_older s.epoch zero]
      omega

theorem record_held (sound : Sound s) (boxID : Fixed 32) (ep : UInt64) (box : Box) (past : ep ≤ s.epoch)
    (record : s.record ep boxID = some box) (newest : ∀ later : UInt64, later.toNat = ep.toNat + 1 → s.record later boxID = none)
    (first : Box → Prop) (kind : first box) : Held boxID ep first (fun _ => False) s := by
  refine ⟨sound, past, fun _ => ⟨⟨box, record, kind⟩, fun later other number found => ?_⟩⟩
  rw [newest later number] at found
  cases found

theorem newest_cases (boxID : Fixed 32) (box : Box) (newest : s.newest boxID = some box) :
    s.record s.epoch boxID = some box ∨
    (s.record s.epoch boxID = none ∧ s.epoch ≠ 0 ∧ s.record (s.epoch - 1) boxID = some box) := by
  rw [State.newest, keptEpochs] at newest
  split at newest
  · rename_i zero
    rw [List.findSome?_cons] at newest
    cases current : s.record 0 boxID with
    | none =>
        rw [current] at newest
        cases newest
    | some found =>
        rw [current] at newest
        rw [zero, current]
        exact .inl newest
  · rename_i some
    rw [List.findSome?_cons] at newest
    cases current : s.record s.epoch boxID with
    | none =>
        rw [current] at newest
        dsimp only at newest
        rw [List.findSome?_cons] at newest
        cases older : s.record (s.epoch - 1) boxID with
        | none =>
            rw [older] at newest
            cases newest
        | some found =>
            rw [older] at newest
            exact .inr ⟨rfl, some, newest⟩
    | some found =>
        rw [current] at newest
        exact .inl newest

theorem acknowledged_held (sound : Sound s) (write : ReplicaWrite) (acknowledged : (s.handleReplicaWrite write).2 = .ok ()) :
    Held write.boxID (s.keptSince write.boxID) (fun box => box.payload = write.payload) (fun _ => False)
      (s.handleReplicaWrite write).1 := by
  cases newest : s.newest write.boxID with
  | none =>
      rw [write_missing sound write newest] at acknowledged ⊢
      rw [State.keptSince, if_pos (.inl newest)]
      split
      · rename_i full
        rw [if_pos full] at acknowledged
        cases acknowledged
      · exact put_held sound write.box (write_box_valid write) _ _ rfl
  | some box =>
      rw [write_kept sound write box newest]
      have matched : box.payload = write.payload := by
        by_contra other
        rw [write_newest sound write box newest (.inl other)] at acknowledged
        cases acknowledged
      rcases newest_cases write.boxID box newest with current | ⟨missing, some, older⟩
      · rw [State.keptSince, if_pos (.inr (by rw [current]; rfl))]
        exact record_held sound write.boxID s.epoch box (UInt64.le_refl _) current
          (fun later number => sound.future later write.boxID (by omega)) _ matched
      · have before := kept_older s.epoch some
        have positive : s.epoch.toNat ≠ 0 := fun zero => some (UInt64.toNat_inj.mp zero)
        rw [State.keptSince, if_neg (by rw [newest, missing]; exact fun either => either.elim nofun nofun)]
        refine record_held sound write.boxID (s.epoch - 1) box (UInt64.le_iff_toNat_le.mpr (by omega)) older
          (fun later number => ?_) _ matched
        have same : later = s.epoch := UInt64.toNat_inj.mp (by omega)
        rw [same, missing]

def Retained (after : State) (write : ReplicaWrite) (last : Nat) : Prop :=
  ∀ events t, run State.step after events = some t → (∀ signature, .tombstone write.boxID signature ∉ events) → t.epoch.toNat ≤ last →
    ∃ box, t.stateHandleReplicaRead write.boxID = .ok box ∧ box.payload = write.payload

theorem held_retained (after : State) (write : ReplicaWrite) (since : UInt64)
    (held : Held write.boxID since (fun box => box.payload = write.payload) (fun _ => False) after) :
    Retained after write (since.toNat + 1) := by
  intro events t reached alive window
  have still := run_preserves State.step
    (Held write.boxID since (fun box => box.payload = write.payload) (fun _ => False)) (fun _ event => event ∈ events)
    (fun state event next held member taken => held_step (fun _ => False) (fun _ => False.elim) state next event held
      (fun signature same => alive signature (same ▸ member)) taken)
    events after t held (meets_of_mem _ _ _ (fun _ _ member => member) _) reached
  obtain ⟨box, read, kind, _⟩ := held_holds still window
  exact ⟨box, read, kind.elim id False.elim⟩

theorem older_record_lost (sound : Sound s) (write : ReplicaWrite) (box : Box) (newest : s.newest write.boxID = some box)
    (missing : s.record s.epoch write.boxID = none) (next : UInt64) (number : next.toNat = s.epoch.toNat + 1) :
    ¬ Retained (s.handleReplicaWrite write).1 write (s.epoch.toNat + 1) := by
  intro retained
  rw [write_kept sound write box newest] at retained
  have forward : s.epoch ≤ next := UInt64.le_iff_toNat_le.mpr (by omega)
  have reached : run State.step s [.advance next] = some { s with epoch := next } := by
    simp only [run, State.step, if_pos forward]
  obtain ⟨_, read, _⟩ := retained _ _ reached (fun signature => by simp) number.le
  have later := advance_sound sound next forward
  have nonzero : next ≠ 0 := by
    rintro rfl
    cases number
  have back : next - 1 = s.epoch := by
    apply UInt64.toNat_inj.mp
    rw [kept_older next nonzero]
    omega
  have none : ({ s with epoch := next } : State).newest write.boxID = none := by
    have future : s.record next write.boxID = Option.none := sound.future next write.boxID (by omega)
    show List.findSome? (fun ep => s.record ep write.boxID) (keptEpochs next) = Option.none
    rw [keptEpochs, if_neg nonzero, back]
    simp only [List.findSome?_cons, future, missing, List.findSome?_nil]
  rw [read_newest later write.boxID, none] at read
  cases read

end Retention

/-- A write that succeeds is kept for the epoch after the one that its record is from. A record of
the epoch before is not renewed by a write that repeats it. -/
theorem acknowledged_write_kept (epoch : UInt64) (before : List StoreEvent) (s : State)
    (reached : run State.step (newState epoch) before = some s) (write : ReplicaWrite)
    (acknowledged : (s.handleReplicaWrite write).2 = .ok ()) :
    Retained (s.handleReplicaWrite write).1 write ((s.keptSince write.boxID).toNat + 1) ∧
    (Retained (s.handleReplicaWrite write).1 write (s.epoch.toNat + 1) ↔
      s.newest write.boxID = none ∨ (s.record s.epoch write.boxID).isSome ∨ s.epoch.toNat + 1 = 2 ^ 64) := by
  have sound := run_sound epoch before reached
  have held := acknowledged_held sound write acknowledged
  have retained := held_retained _ write _ held
  refine ⟨retained, fun survives => ?_, fun condition => ?_⟩
  · by_contra neither
    rw [not_or, not_or] at neither
    obtain ⟨found, missing, room⟩ := neither
    obtain ⟨box, newest⟩ := Option.ne_none_iff_exists'.mp found
    have bound := s.epoch.toNat_lt
    refine older_record_lost sound write box newest (Option.not_isSome_iff_eq_none.mp missing) (UInt64.ofNat (s.epoch.toNat + 1))
      ?_ survives
    rw [UInt64.toNat_ofNat_of_lt' (by omega : s.epoch.toNat + 1 < 2 ^ 64)]
  · rw [← or_assoc] at condition
    rcases condition with current | last
    · rwa [State.keptSince, if_pos current] at retained
    · -- There is no later epoch to come.
      intro events t reached alive _
      refine retained events t reached alive ?_
      have bound := t.epoch.toNat_lt
      have recent := kept_since_recent s write.boxID
      omega

theorem repeated_write_kept :
    ((newState 5).step (.write (plainWrite 1))).isSome ∧
    ∃ s, run State.step (newState 5) [.write (plainWrite 1)] = some s ∧ (s.handleReplicaWrite (plainWrite 1)).2 = .ok () ∧
      Retained (s.handleReplicaWrite (plainWrite 1)).1 (plainWrite 1) ((s.keptSince (plainWrite 1).boxID).toNat + 1) :=
  ⟨rfl, _, rfl, by rfl, (acknowledged_write_kept 5 [.write (plainWrite 1)] _ rfl (plainWrite 1) (by rfl)).1⟩

/-- Stored in epoch 5 and repeated in epoch 6, the write succeeds again, and a read in epoch 7
finds nothing. -/
theorem repeated_write_lost :
    ∃ s t, run State.step (newState 5) [.write (plainWrite 1), .advance 6] = some s ∧ s.epoch = 6 ∧
      (s.handleReplicaWrite (plainWrite 1)).2 = .ok () ∧
      run State.step (s.handleReplicaWrite (plainWrite 1)).1 [.advance 7] = some t ∧ t.epoch = 7 ∧
      t.stateHandleReplicaRead (plainWrite 1).boxID = .error .boxIDNotFound :=
  ⟨_, _, rfl, rfl, by rfl, rfl, rfl, by rfl⟩

end Katzenpost.Replica
