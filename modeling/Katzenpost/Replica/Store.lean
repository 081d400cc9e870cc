import Katzenpost.Core.Types
import Katzenpost.Go.KeyRange
import Katzenpost.Go.Run
import Katzenpost.Pigeonhole.Messages

set_option autoImplicit false

namespace Katzenpost.Replica

open Go Pigeonhole

def epochPrefix (epoch : UInt64) : Bytes := putUint64BE epoch

def boxKey (epoch : UInt64) (boxID : Fixed 32) : Bytes := putUint64BE epoch ++ boxID.bytes

def keptEpochs (current : UInt64) : List UInt64 := if current = 0 then [0] else [current, current - 1]

structure ReplicaWrite where
  boxID : Fixed 32
  signature : Fixed 64
  payload : Bytes
  small : payload.length < 2 ^ 32
deriving DecidableEq

inductive StateError where
  | boxIDNotFound
  | boxAlreadyExists
  | failedToDeserialize
  | dbClosed
  | storageFull
  | databaseClosed
deriving DecidableEq

structure State where
  db : Option Database
  storageFull : Bool
  epoch : UInt64

section Operations

variable (s : State)

-- db.Get gives no bytes for a key that is not there.
def get (db : Database) (key : Bytes) : Bytes := db[key]?.getD []

def readKept (db : Database) (boxID : Fixed 32) : List UInt64 → Except StateError Box
  | [] => .error .boxIDNotFound
  | ep :: older =>
      let value := get db (boxKey ep boxID)
      if value.length = 0 then readKept db boxID older
      else match boxFromBytes value with
        | .error _ => .error .failedToDeserialize
        | .ok box => .ok box

def State.stateHandleReplicaRead (boxID : Fixed 32) : Except StateError Box :=
  match s.db with
  | none => .error .dbClosed
  | some db => readKept db boxID (keptEpochs s.epoch)

def checkKept (db : Database) (write : ReplicaWrite) : List UInt64 → Option (Except StateError Unit)
  | [] => none
  | ep :: older =>
      let existing := get db (boxKey ep write.boxID)
      if existing.length = 0 then checkKept db write older
      else match boxFromBytes existing with
        | .error _ => some (.error .boxAlreadyExists)
        | .ok storedBox =>
            if storedBox.payload = write.payload ∧ storedBox.signature = write.signature then some (.ok ())
            else some (.error .boxAlreadyExists)

def State.put (db : Database) (box : Box) : State := { s with db := some (db.insert (boxKey s.epoch box.boxID) box.bytes) }

def ReplicaWrite.box (write : ReplicaWrite) : Box :=
  ⟨write.boxID, UInt32.ofNat write.payload.length, write.payload, write.signature⟩

def State.handleReplicaWrite (write : ReplicaWrite) : State × Except StateError Unit :=
  match s.db with
  | none => (s, .error .databaseClosed)
  | some db =>
      if s.storageFull then (s, .error .storageFull)
      else match checkKept db write (keptEpochs s.epoch) with
        | some result => (s, result)
        | none => (s.put db write.box, .ok ())

def tombstoneBox (boxID : Fixed 32) (signature : Fixed 64) : Box := ⟨boxID, 0, [], signature⟩

def State.handleReplicaTombstone (boxID : Fixed 32) (signature : Fixed 64) : State × Except StateError Unit :=
  match s.db with
  | none => (s, .error .databaseClosed)
  | some db => (s.put db (tombstoneBox boxID signature), .ok ())

def State.wipeStaleBoxes : State × Except StateError Unit :=
  match s.db with
  | none => (s, .error .databaseClosed)
  | some db =>
      if s.epoch < 2 then (s, .ok ())
      else ({ s with db := some (db.deleteRange (epochPrefix 0) (epochPrefix (s.epoch - 1))) }, .ok ())

end Operations

inductive StoreEvent where
  | write (write : ReplicaWrite)
  | tombstone (boxID : Fixed 32) (signature : Fixed 64)
  | read (boxID : Fixed 32)
  | wipeStaleBoxes
  | advance (epoch : UInt64)
  | watch (full : Bool)
deriving DecidableEq

def State.step (s : State) : StoreEvent → Option State
  | .write write => some (s.handleReplicaWrite write).1
  | .tombstone boxID signature => some (s.handleReplicaTombstone boxID signature).1
  | .read _ => some s
  | .wipeStaleBoxes => some s.wipeStaleBoxes.1
  | .advance epoch => if s.epoch ≤ epoch then some { s with epoch := epoch } else none
  | .watch full => some { s with storageFull := full }

def newState (epoch : UInt64) : State := ⟨some ∅, false, epoch⟩

section Records

def State.record (s : State) (ep : UInt64) (boxID : Fixed 32) : Option Box :=
  match s.db with
  | none => none
  | some db => (boxFromBytes (get db (boxKey ep boxID))).toOption

structure Sound (s : State) : Prop where
  opened : s.db.isSome = true
  records : ∀ db, s.db = some db → ∀ (key : Bytes) value, db[key]? = some value →
    ∃ (ep : UInt64) (box : Box), key = boxKey ep box.boxID ∧ value = box.bytes ∧ box.valid = true ∧ ep ≤ s.epoch

theorem box_key_injective (a b : UInt64) (x y : Fixed 32) (same : boxKey a x = boxKey b y) : a = b ∧ x = y := by
  have number := congrArg uint64BE same
  rw [boxKey, boxKey, uint64BE_put, uint64BE_put] at number
  subst number
  exact ⟨rfl, fixed_ext 32 x y (List.append_cancel_left same)⟩

variable {s : State}

theorem get_cases (sound : Sound s) (db : Database) (opened : s.db = some db) (ep : UInt64) (boxID : Fixed 32) :
    (get db (boxKey ep boxID) = [] ∧ s.record ep boxID = none) ∨
    ∃ box, get db (boxKey ep boxID) = box.bytes ∧ s.record ep boxID = some box ∧ box.boxID = boxID ∧ box.valid = true ∧ ep ≤ s.epoch := by
  rw [State.record, opened]
  cases found : db[boxKey ep boxID]? with
  | none =>
      left
      simp only [get, found, Option.getD_none, true_and]
      rfl
  | some value =>
      obtain ⟨ep', box, key, rfl, valid, past⟩ := sound.records db opened _ _ found
      obtain ⟨rfl, rfl⟩ := box_key_injective _ _ _ _ key
      right
      refine ⟨box, by rw [get, found]; rfl, ?_, rfl, valid, past⟩
      simp only [get, found, Option.getD_some, box_from_bytes box valid]
      rfl

def State.newest (s : State) (boxID : Fixed 32) : Option Box := (keptEpochs s.epoch).findSome? fun ep => s.record ep boxID

theorem read_kept (sound : Sound s) (db : Database) (opened : s.db = some db) (boxID : Fixed 32) (epochs : List UInt64) :
    readKept db boxID epochs = match epochs.findSome? fun ep => s.record ep boxID with
      | none => .error .boxIDNotFound
      | some box => .ok box := by
  induction epochs with
  | nil => rfl
  | cons ep older ih =>
      rw [readKept, List.findSome?_cons]
      obtain ⟨value, record⟩ | ⟨box, value, record, _, valid, _⟩ := get_cases sound db opened ep boxID
      · simp only [value, record, List.length_nil, if_true, ih]
      · have some := List.length_pos_iff.mpr (box_bytes_nonempty box valid)
        simp only [value, record, if_neg some.ne', box_from_bytes box valid]

theorem read_newest (sound : Sound s) (boxID : Fixed 32) :
    s.stateHandleReplicaRead boxID = match s.newest boxID with
      | none => .error .boxIDNotFound
      | some box => .ok box := by
  obtain ⟨db, opened⟩ := Option.isSome_iff_exists.mp sound.opened
  rw [State.stateHandleReplicaRead, opened]
  exact read_kept sound db opened boxID _

theorem check_kept (sound : Sound s) (db : Database) (opened : s.db = some db) (write : ReplicaWrite) (epochs : List UInt64) :
    checkKept db write epochs = (epochs.findSome? fun ep => s.record ep write.boxID).map fun box =>
      if box.payload = write.payload ∧ box.signature = write.signature then .ok () else .error .boxAlreadyExists := by
  induction epochs with
  | nil => rfl
  | cons ep older ih =>
      rw [checkKept, List.findSome?_cons]
      obtain ⟨value, record⟩ | ⟨box, value, record, _, valid, _⟩ := get_cases sound db opened ep write.boxID
      · simp only [value, record, List.length_nil, if_true, ih]
      · have some := List.length_pos_iff.mpr (box_bytes_nonempty box valid)
        simp only [value, record, if_neg some.ne', box_from_bytes box valid, Option.map_some]
        split <;> rfl

theorem write_newest (sound : Sound s) (write : ReplicaWrite) (found : Box) (kept : s.newest write.boxID = some found)
    (other : found.payload ≠ write.payload ∨ found.signature ≠ write.signature) :
    s.handleReplicaWrite write = (s, .error (if s.storageFull then .storageFull else .boxAlreadyExists)) := by
  obtain ⟨db, opened⟩ := Option.isSome_iff_exists.mp sound.opened
  have differs : ¬ (found.payload = write.payload ∧ found.signature = write.signature) := by
    rw [not_and_or]
    exact other
  rw [State.newest] at kept
  simp only [State.handleReplicaWrite, opened, check_kept sound db opened, kept, Option.map_some, if_neg differs]
  split <;> rfl

theorem write_kept (sound : Sound s) (write : ReplicaWrite) (found : Box) (kept : s.newest write.boxID = some found) :
    (s.handleReplicaWrite write).1 = s := by
  obtain ⟨db, opened⟩ := Option.isSome_iff_exists.mp sound.opened
  rw [State.newest] at kept
  simp only [State.handleReplicaWrite, opened, check_kept sound db opened, kept, Option.map_some]
  split <;> rfl

theorem write_missing (sound : Sound s) (write : ReplicaWrite) (missing : s.newest write.boxID = none) :
    s.handleReplicaWrite write =
      if s.storageFull then (s, .error .storageFull) else (s.put (s.db.getD ∅) write.box, .ok ()) := by
  obtain ⟨db, opened⟩ := Option.isSome_iff_exists.mp sound.opened
  rw [State.newest] at missing
  simp only [State.handleReplicaWrite, opened, check_kept sound db opened, missing, Option.map_none, Option.getD_some]

theorem tombstone_put (sound : Sound s) (boxID : Fixed 32) (signature : Fixed 64) :
    s.handleReplicaTombstone boxID signature = (s.put (s.db.getD ∅) (tombstoneBox boxID signature), .ok ()) := by
  obtain ⟨db, opened⟩ := Option.isSome_iff_exists.mp sound.opened
  simp only [State.handleReplicaTombstone, opened, Option.getD_some]

theorem write_box_valid (write : ReplicaWrite) : write.box.valid = true := by
  rw [Box.valid, decide_eq_true_eq, ReplicaWrite.box, UInt32.toNat_ofNat_of_lt' write.small]

theorem put_sound (sound : Sound s) (box : Box) (valid : box.valid = true) : Sound (s.put (s.db.getD ∅) box) := by
  obtain ⟨db, opened⟩ := Option.isSome_iff_exists.mp sound.opened
  refine ⟨rfl, fun db' opened' => ?_⟩
  rw [State.put, opened, Option.getD_some, Option.some_inj] at opened'
  subst opened'
  exact forall_insert db _ _ (fun key value found _ => sound.records db opened key value found) ⟨s.epoch, box, rfl, rfl, valid, UInt64.le_refl _⟩

theorem put_record (sound : Sound s) (box : Box) (valid : box.valid = true) (ep : UInt64) (boxID : Fixed 32) :
    (s.put (s.db.getD ∅) box).record ep boxID = if s.epoch = ep ∧ box.boxID = boxID then some box else s.record ep boxID := by
  obtain ⟨db, opened⟩ := Option.isSome_iff_exists.mp sound.opened
  simp only [State.record, State.put, opened, Option.getD_some, get, lookup_insert]
  by_cases same : s.epoch = ep ∧ box.boxID = boxID
  · obtain ⟨rfl, rfl⟩ := same
    simp only [and_self, if_true, Option.getD_some, box_from_bytes box valid]
    rfl
  · have other : boxKey s.epoch box.boxID ≠ boxKey ep boxID := fun key => same (box_key_injective _ _ _ _ key)
    rw [if_neg same, if_neg other]

theorem advance_sound (sound : Sound s) (epoch : UInt64) (forward : s.epoch ≤ epoch) : Sound { s with epoch := epoch } := by
  refine ⟨sound.opened, fun db opened key value found => ?_⟩
  obtain ⟨ep, box, key, value, valid, past⟩ := sound.records db opened key value found
  exact ⟨ep, box, key, value, valid, UInt64.le_trans past forward⟩

theorem wipe_epoch (s : State) : s.wipeStaleBoxes.1.epoch = s.epoch ∧ s.wipeStaleBoxes.1.storageFull = s.storageFull := by
  rw [State.wipeStaleBoxes]
  split
  · exact ⟨rfl, rfl⟩
  · split
    · exact ⟨rfl, rfl⟩
    · exact ⟨rfl, rfl⟩

theorem wipe_sound (sound : Sound s) : Sound s.wipeStaleBoxes.1 := by
  obtain ⟨db, opened⟩ := Option.isSome_iff_exists.mp sound.opened
  rw [State.wipeStaleBoxes, opened]
  simp only
  split
  · exact sound
  · refine ⟨rfl, fun db' opened' => ?_⟩
    cases opened'
    intro key value found
    rw [lookup_delete_range, Option.ite_none_left_eq_some] at found
    exact sound.records db opened key value found.2

theorem kept_older (current : UInt64) (some : current ≠ 0) : (current - 1).toNat = current.toNat - 1 := by
  have positive : 1 ≤ current := by
    rw [UInt64.le_iff_toNat_le]
    have nonzero : current.toNat ≠ 0 := fun zero => some (UInt64.toNat_inj.mp zero)
    exact Nat.one_le_iff_ne_zero.mpr nonzero
  rw [UInt64.toNat_sub_of_le _ _ positive]
  rfl

theorem cutoff_older (current : UInt64) (late : ¬ current < 2) : (current - 1).toNat = current.toNat - 1 := by
  refine kept_older current ?_
  rintro rfl
  exact late (by decide)

theorem kept_outside (current : UInt64) (late : ¬ current < 2) (ep : UInt64) (boxID : Fixed 32) (kept : current.toNat ≤ ep.toNat + 1) :
    bytesLE (epochPrefix (current - 1)) (boxKey ep boxID) = true := by
  rw [epochPrefix, boxKey, numbered_key_le, decide_eq_true_eq, UInt64.le_iff_toNat_le, cutoff_older current late]
  omega

theorem wipe_record (sound : Sound s) (ep : UInt64) (boxID : Fixed 32) (kept : s.epoch.toNat ≤ ep.toNat + 1) :
    s.wipeStaleBoxes.1.record ep boxID = s.record ep boxID := by
  obtain ⟨db, opened⟩ := Option.isSome_iff_exists.mp sound.opened
  rw [State.wipeStaleBoxes, opened]
  simp only
  split
  · rfl
  · rename_i late
    have outside := kept_outside s.epoch late ep boxID kept
    simp only [State.record, opened, get, lookup_delete_range, outside, Bool.not_true, Bool.and_false, Bool.false_eq_true, if_false]

end Records

end Katzenpost.Replica
