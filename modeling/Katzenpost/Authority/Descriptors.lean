import Katzenpost.Go.Run
import Katzenpost.Core.Reference
import Katzenpost.Authority.Tally

set_option autoImplicit false

namespace Katzenpost

open Go Std

structure DescriptorKind (δ : Type) where
  encode : δ → Bytes
  decode : Bytes → Option δ
  hash : δ → Digest
  authorized : δ → Bool

def mixKind (env : Env) (s : Server) : DescriptorKind MixDescriptor :=
  ⟨env.encodeMix, env.decodeMix, fun d => env.sum256 d.identity, isDescriptorAuthorized env s⟩

def replicaKind (env : Env) (s : Server) : DescriptorKind ReplicaDescriptor :=
  ⟨env.encodeReplica, env.decodeReplica, fun d => env.sum256 d.identity, isReplicaDescriptorAuthorized env s⟩

structure DescriptorUpload (δ : Type) where
  rawDesc : Bytes
  desc : δ
  epoch : UInt64

inductive DescriptorUploadError where
  | conflicting
  | late
deriving DecidableEq, Repr

-- Where a call is: about to check under the read lock, to persist without a
-- lock, to publish under the write lock, or returned.
inductive UploadPhase where
  | check
  | persist
  | publish
  | returned (result : Except DescriptorUploadError Unit)

structure DescriptorStore (δ : Type) where
  memory : UInt64 → Option (GoMap Digest δ)
  disk : UInt64 → Option (GoMap Digest Bytes)
  documents : UInt64 → Bool

structure UploadSystem (δ : Type) where
  store : DescriptorStore δ
  calls : List (DescriptorUpload δ × UploadPhase)

section Phases

variable {δ : Type} (kind : DescriptorKind δ)

def checkUpload (store : DescriptorStore δ) (call : DescriptorUpload δ) : UploadPhase :=
  match entry store.memory call.epoch (kind.hash call.desc) with
  | some d => if kind.encode d = call.rawDesc then .returned (.ok ()) else .returned (.error .conflicting)
  | none => if store.documents call.epoch then .returned (.error .late) else .persist

def persistUpload (store : DescriptorStore δ) (call : DescriptorUpload δ) : DescriptorStore δ :=
  { store with disk := setEntry store.disk call.epoch (kind.hash call.desc) call.rawDesc }

-- The second check looks only for the presence of a descriptor.
def publishUpload (store : DescriptorStore δ) (call : DescriptorUpload δ) : DescriptorStore δ :=
  let store := { store with memory := ensure store.memory call.epoch }
  match entry store.memory call.epoch (kind.hash call.desc) with
  | some _ => store
  | none => { store with memory := setEntry store.memory call.epoch (kind.hash call.desc) call.desc }

inductive UploadEvent (δ : Type) where
  | start (call : DescriptorUpload δ)
  | advance (index : Nat)
  | document (epoch : UInt64)

def uploadStep (system : UploadSystem δ) : UploadEvent δ → Option (UploadSystem δ)
  | .start call => some { system with calls := system.calls ++ [(call, .check)] }
  | .document epoch =>
      some { system with store := { system.store with documents := Function.update system.store.documents epoch true } }
  | .advance index =>
      match system.calls[index]? with
      | some (call, .check) =>
          some { system with calls := system.calls.set index (call, checkUpload kind system.store call) }
      | some (call, .persist) =>
          some ⟨persistUpload kind system.store call, system.calls.set index (call, .publish)⟩
      | some (call, .publish) =>
          some ⟨publishUpload kind system.store call, system.calls.set index (call, .returned (.ok ()))⟩
      | _ => none

end Phases

structure PersistedState where
  version : Option Bytes
  descriptors : UInt64 → Option (GoMap Digest Bytes)
  replicaDescriptors : UInt64 → Option (GoMap Digest Bytes)
  documents : UInt64 → Option Bytes

structure RestoredState where
  descriptors : UInt64 → Option (GoMap Digest MixDescriptor)
  replicaDescriptors : UInt64 → Option (GoMap Digest ReplicaDescriptor)
  documents : UInt64 → Option Document

def emptyState : RestoredState := ⟨fun _ => none, fun _ => none, fun _ => none⟩

structure Boot where
  version : Bytes
  now : UInt64
  keys : UInt64 → Range Digest PublicKey
  verify : UInt64 → PublicKey → Range Digest Signature
  parse : UInt64 → Range Digest Signature

def Boot.epochs (boot : Boot) : List UInt64 := [boot.now - 1, boot.now, boot.now + 1]

section Restore

variable {δ : Type} (kind : DescriptorKind δ)

def validEntry (wantHash : Digest) (rawDesc : Bytes) : Option δ :=
  match kind.decode rawDesc with
  | none => none
  | some desc =>
      if wantHash ≠ kind.hash desc then none
      else if !kind.authorized desc then none
      else some desc

def restoreEntry (epoch : UInt64) (m : UInt64 → Option (GoMap Digest δ)) (stored : Digest × Bytes) : UInt64 → Option (GoMap Digest δ) :=
  match validEntry kind stored.1 stored.2 with
  | none => m
  | some desc => setEntry m epoch (kind.hash desc) desc

def restoreBucket (epoch : UInt64) (bucket : Option (GoMap Digest Bytes)) (m : UInt64 → Option (GoMap Digest δ)) :
    UInt64 → Option (GoMap Digest δ) :=
  match bucket with
  | none => m
  | some bucket => bucket.toList.foldl (restoreEntry kind epoch) m

variable (env : Env) (s : Server) (boot : Boot) (db : PersistedState)

def documentVerified (epoch : UInt64) : Bool :=
  match db.documents epoch with
  | none => true
  | some rawDoc =>
      (verifyThreshold env (boot.verify epoch) boot.now (getVerifiers env s (boot.keys epoch)) (threshold env s) rawDoc).err.isNone

def restoreDocument (epoch : UInt64) (documents : UInt64 → Option Document) : UInt64 → Option Document :=
  match db.documents epoch with
  | none => documents
  | some rawDoc =>
      match parseDocument env (boot.parse epoch) boot.now rawDoc with
      | .error _ => documents
      | .ok doc => if doc.epoch ≠ epoch then documents else Function.update documents epoch (some doc)

def restoreReplicas : List UInt64 → RestoredState → RestoredState
  | [], st => st
  | epoch :: rest, st =>
      restoreReplicas rest { st with
        replicaDescriptors := restoreBucket (replicaKind env s) epoch (db.replicaDescriptors epoch) st.replicaDescriptors }

-- A document without enough signatures ends the loop, and with it the descriptors of its
-- epoch and of the later ones.
def restoreMixes : List UInt64 → RestoredState → RestoredState
  | [], st => st
  | epoch :: rest, st =>
      if !documentVerified env s boot db epoch then st
      else restoreMixes rest { st with
        documents := restoreDocument env boot db epoch st.documents
        descriptors := restoreBucket (mixKind env s) epoch (db.descriptors epoch) st.descriptors }

def restorePersistence : RestoredState × PersistedState :=
  if db.version = some boot.version then
    (restoreMixes env s boot db boot.epochs (restoreReplicas env s db boot.epochs emptyState), db)
  else (emptyState, { db with version := some boot.version })

def reachesEpoch (epoch : UInt64) : Bool := (boot.epochs.takeWhile (· ≠ epoch) ++ [epoch]).all (documentVerified env s boot db)

theorem valid_entry_own (wantHash : Digest) (rawDesc : Bytes) (desc : δ) (valid : validEntry kind wantHash rawDesc = some desc) :
    kind.hash desc = wantHash := by
  unfold validEntry at valid
  split at valid
  · cases valid
  · split at valid
    · cases valid
    · rename_i own
      split at valid
      · cases valid
      · cases valid
        exact (not_not.mp own).symm

theorem restore_entry_lookup (epoch e : UInt64) (m : UInt64 → Option (GoMap Digest δ)) (stored : Digest × Bytes) (pk : Digest) :
    entry (restoreEntry kind epoch m stored) e pk =
      if e = epoch ∧ stored.1 = pk then (validEntry kind stored.1 stored.2).or (entry m e pk) else entry m e pk := by
  unfold restoreEntry
  cases valid : validEntry kind stored.1 stored.2 with
  | none => simp
  | some desc => rw [entry_setEntry, valid_entry_own kind _ _ desc valid, Option.some_or]

theorem restore_all_other (epoch e : UInt64) (list : List (Digest × Bytes)) (m : UInt64 → Option (GoMap Digest δ)) (pk : Digest)
    (absent : e = epoch → pk ∉ list.map Prod.fst) : entry (list.foldl (restoreEntry kind epoch) m) e pk = entry m e pk := by
  induction list generalizing m with
  | nil => rfl
  | cons head rest ih =>
      rw [List.foldl_cons, ih _ fun here later => absent here (List.mem_cons_of_mem _ later), restore_entry_lookup, if_neg]
      rintro ⟨here, rfl⟩
      exact absent here List.mem_cons_self

theorem restore_all_stored (epoch : UInt64) (list : List (Digest × Bytes)) (m : UInt64 → Option (GoMap Digest δ)) (pk : Digest)
    (rawDesc : Bytes) (distinct : (list.map Prod.fst).Nodup) (stored : (pk, rawDesc) ∈ list) :
    entry (list.foldl (restoreEntry kind epoch) m) epoch pk = (validEntry kind pk rawDesc).or (entry m epoch pk) := by
  induction list generalizing m with
  | nil => cases stored
  | cons head rest ih =>
      rw [List.map_cons, List.nodup_cons] at distinct
      rw [List.foldl_cons]
      rcases List.mem_cons.mp stored with rfl | later
      · rw [restore_all_other kind epoch epoch rest _ pk fun _ => distinct.1, restore_entry_lookup, if_pos ⟨rfl, rfl⟩]
      · have apart : head.1 ≠ pk := by
          rintro rfl
          exact distinct.1 (List.mem_map.mpr ⟨_, later, rfl⟩)
        rw [ih _ distinct.2 later, restore_entry_lookup, if_neg fun here => apart here.2]

theorem restore_bucket_lookup (epoch e : UInt64) (buckets : UInt64 → Option (GoMap Digest Bytes)) (m : UInt64 → Option (GoMap Digest δ))
    (pk : Digest) :
    entry (restoreBucket kind epoch (buckets epoch) m) e pk =
      if e = epoch then ((entry buckets epoch pk).bind (validEntry kind pk)).or (entry m e pk) else entry m e pk := by
  unfold restoreBucket entry
  cases buckets epoch with
  | none => simp
  | some bucket =>
      by_cases here : e = epoch
      · subst here
        rw [if_pos rfl, Option.bind_some]
        cases stored : bucket[pk]? with
        | some rawDesc =>
            exact restore_all_stored kind e bucket.toList m pk rawDesc (toList_keys_nodup bucket)
              (ExtTreeMap.mem_toList_iff_getElem?_eq_some.mpr stored)
        | none =>
            refine restore_all_other kind e e bucket.toList m pk fun _ listed => ?_
            obtain ⟨⟨_, rawDesc⟩, member, rfl⟩ := List.mem_map.mp listed
            rw [ExtTreeMap.mem_toList_iff_getElem?_eq_some.mp member] at stored
            cases stored
      · rw [if_neg here]
        exact restore_all_other kind epoch e bucket.toList m pk fun same => absurd same here

theorem restore_replicas_lookup (epochs : List UInt64) (st : RestoredState) (distinct : epochs.Nodup) (e : UInt64) (pk : Digest) :
    entry (restoreReplicas env s db epochs st).replicaDescriptors e pk =
      if e ∈ epochs then ((entry db.replicaDescriptors e pk).bind (validEntry (replicaKind env s) pk)).or (entry st.replicaDescriptors e pk)
      else entry st.replicaDescriptors e pk := by
  induction epochs generalizing st with
  | nil => rfl
  | cons epoch rest ih =>
      rw [List.nodup_cons] at distinct
      rw [restoreReplicas, ih _ distinct.2, restore_bucket_lookup]
      by_cases here : e = epoch
      · subst here
        simp [distinct.1]
      · simp [here]

theorem restore_mixes_keeps (epochs : List UInt64) (st : RestoredState) :
    (restoreMixes env s boot db epochs st).replicaDescriptors = st.replicaDescriptors := by
  induction epochs generalizing st with
  | nil => rfl
  | cons epoch rest ih =>
      rw [restoreMixes]
      split
      · rfl
      · rw [ih]

theorem restore_mixes_lookup (epochs : List UInt64) (st : RestoredState) (distinct : epochs.Nodup) (e : UInt64) (pk : Digest) :
    entry (restoreMixes env s boot db epochs st).descriptors e pk =
      if e ∈ epochs ∧ (epochs.takeWhile (· ≠ e) ++ [e]).all (documentVerified env s boot db) = true then
        ((entry db.descriptors e pk).bind (validEntry (mixKind env s) pk)).or (entry st.descriptors e pk)
      else entry st.descriptors e pk := by
  induction epochs generalizing st with
  | nil => simp [restoreMixes]
  | cons epoch rest ih =>
      rw [List.nodup_cons] at distinct
      rw [restoreMixes]
      cases verified : documentVerified env s boot db epoch with
      | false =>
          rw [Bool.not_false, if_pos rfl, if_neg]
          rintro ⟨_, all⟩
          by_cases here : e = epoch
          · subst here
            simp [verified] at all
          · simp [Ne.symm here, verified] at all
      | true =>
          rw [Bool.not_true, if_neg Bool.false_ne_true, ih _ distinct.2, restore_bucket_lookup]
          by_cases here : e = epoch
          · subst here
            simp [distinct.1, verified]
          · simp [here, Ne.symm here, verified]

theorem boot_epochs_nodup : boot.epochs.Nodup := by
  simp only [Boot.epochs, List.nodup_cons, List.mem_cons, List.not_mem_nil, or_false, not_or, List.nodup_nil, and_true, not_false_eq_true]
  refine ⟨⟨?_, ?_⟩, ?_⟩ <;> grind

theorem restored_mix (e : UInt64) (pk : Digest) :
    entry (restorePersistence env s boot db).1.descriptors e pk =
      if db.version = some boot.version ∧ e ∈ boot.epochs ∧ reachesEpoch env s boot db e = true then
        (entry db.descriptors e pk).bind (validEntry (mixKind env s) pk)
      else none := by
  have untouched (epochs : List UInt64) (st : RestoredState) :
      (restoreReplicas env s db epochs st).descriptors = st.descriptors := by
    induction epochs generalizing st with
    | nil => rfl
    | cons epoch rest ih => rw [restoreReplicas, ih]
  by_cases same : db.version = some boot.version
  · rw [restorePersistence, if_pos same, restore_mixes_lookup env s boot db boot.epochs _ (boot_epochs_nodup boot), untouched]
    have none : entry emptyState.descriptors e pk = none := rfl
    simp only [none, Option.or_none, same, true_and, reachesEpoch]
  · rw [restorePersistence, if_neg same, if_neg fun restored => same restored.1]
    rfl

theorem restored_replica (e : UInt64) (pk : Digest) :
    entry (restorePersistence env s boot db).1.replicaDescriptors e pk =
      if db.version = some boot.version ∧ e ∈ boot.epochs then
        (entry db.replicaDescriptors e pk).bind (validEntry (replicaKind env s) pk)
      else none := by
  by_cases same : db.version = some boot.version
  · rw [restorePersistence, if_pos same, restore_mixes_keeps,
      restore_replicas_lookup env s db boot.epochs _ (boot_epochs_nodup boot)]
    have none : entry emptyState.replicaDescriptors e pk = none := rfl
    simp only [none, Option.or_none, same, true_and]
  · rw [restorePersistence, if_neg same, if_neg fun restored => same restored.1]
    rfl

end Restore

section Runs

variable {δ : Type} (kind : DescriptorKind δ)

def InFlight (phase : UploadPhase) : Prop := phase = .persist ∨ phase = .publish

def SameNode (a b : DescriptorUpload δ) : Prop := a.epoch = b.epoch ∧ kind.hash a.desc = kind.hash b.desc

def CarefulUpload (system : UploadSystem δ) (event : UploadEvent δ) : Prop :=
  ∀ index call, event = .advance index → system.calls[index]? = some (call, .check) →
    checkUpload kind system.store call = .persist →
      call.rawDesc = kind.encode call.desc ∧
      ∀ other phase, (other, phase) ∈ system.calls → InFlight phase → SameNode kind other call → other.rawDesc = call.rawDesc

structure Coherent (system : UploadSystem δ) : Prop where
  agree : ∀ a b p q, (a, p) ∈ system.calls → (b, q) ∈ system.calls → InFlight p → InFlight q → SameNode kind a b →
    a.rawDesc = b.rawDesc
  canonical : ∀ a p, (a, p) ∈ system.calls → InFlight p → a.rawDesc = kind.encode a.desc
  persisted : ∀ a, (a, .publish) ∈ system.calls → entry system.store.disk a.epoch (kind.hash a.desc) = some a.rawDesc
  memory : ∀ e pk d, entry system.store.memory e pk = some d →
    kind.hash d = pk ∧ entry system.store.disk e pk = some (kind.encode d) ∧
      ∀ a p, (a, p) ∈ system.calls → InFlight p → a.epoch = e → kind.hash a.desc = pk → a.rawDesc = kind.encode d
  acknowledged : ∀ a, (a, .returned (.ok ())) ∈ system.calls →
    ∃ d, entry system.store.memory a.epoch (kind.hash a.desc) = some d ∧ kind.encode d = a.rawDesc

theorem not_in_flight_check : ¬ InFlight .check := by simp [InFlight]

theorem not_in_flight_returned (result : Except DescriptorUploadError Unit) : ¬ InFlight (.returned result) := by
  simp [InFlight]

theorem publish_disk (store : DescriptorStore δ) (call : DescriptorUpload δ) :
    (publishUpload kind store call).disk = store.disk := by
  simp only [publishUpload]
  split <;> rfl

theorem publish_memory (store : DescriptorStore δ) (call : DescriptorUpload δ) (e : UInt64) (pk : Digest) :
    (∀ d, entry store.memory e pk = some d → entry (publishUpload kind store call).memory e pk = some d) ∧
    (∀ d, entry (publishUpload kind store call).memory e pk = some d → entry store.memory e pk = some d ∨
      entry store.memory e pk = none ∧ e = call.epoch ∧ kind.hash call.desc = pk ∧ d = call.desc) ∧
    (∃ d, entry (publishUpload kind store call).memory call.epoch (kind.hash call.desc) = some d) := by
  unfold publishUpload
  simp only [entry_ensure]
  cases present : entry store.memory call.epoch (kind.hash call.desc) with
  | some d =>
      simp only [entry_ensure, present]
      exact ⟨fun _ stored => stored, fun _ found => .inl found, d, rfl⟩
  | none =>
      simp only [entry_setEntry, entry_ensure, and_self, if_true]
      refine ⟨fun d stored => ?_, fun d found => ?_, _, rfl⟩
      · rw [if_neg, stored]
        rintro ⟨rfl, rfl⟩
        simp [present] at stored
      · split at found
        · rename_i here
          obtain ⟨rfl, rfl⟩ := here
          exact .inr ⟨present, rfl, rfl, (Option.some.inj found).symm⟩
        · exact .inl found

variable {kind}

theorem coherent_start (system : UploadSystem δ) (call : DescriptorUpload δ) (coherent : Coherent kind system) :
    Coherent kind { system with calls := system.calls ++ [(call, .check)] } := by
  have old : ∀ a p, (a, p) ∈ system.calls ++ [(call, .check)] → p ≠ .check → (a, p) ∈ system.calls := by
    intro a p member moved
    rcases List.mem_append.mp member with before | last
    · exact before
    · exact absurd (Prod.mk.inj (List.mem_singleton.mp last)).2 moved
  have moved : ∀ p, InFlight p → p ≠ .check := by
    rintro p flying rfl
    exact not_in_flight_check flying
  refine ⟨?_, ?_, ?_, ?_, ?_⟩
  · intro a b p q memberA memberB flyA flyB
    exact coherent.agree a b p q (old a p memberA (moved p flyA)) (old b q memberB (moved q flyB)) flyA flyB
  · intro a p member fly
    exact coherent.canonical a p (old a p member (moved p fly)) fly
  · intro a member
    exact coherent.persisted a (old a _ member (by simp))
  · intro e pk d stored
    obtain ⟨own, onDisk, inFlight⟩ := coherent.memory e pk d stored
    exact ⟨own, onDisk, fun a p member fly => inFlight a p (old a p member (moved p fly)) fly⟩
  · intro a member
    exact coherent.acknowledged a (old a _ member (by simp))

theorem coherent_check (system : UploadSystem δ) (index : Nat) (call : DescriptorUpload δ)
    (coherent : Coherent kind system)
    (careful : checkUpload kind system.store call = .persist → call.rawDesc = kind.encode call.desc ∧
      ∀ other phase, (other, phase) ∈ system.calls → InFlight phase → SameNode kind other call →
        other.rawDesc = call.rawDesc) :
    Coherent kind { system with calls := system.calls.set index (call, checkUpload kind system.store call) } := by
  have split : ∀ a p, (a, p) ∈ system.calls.set index (call, checkUpload kind system.store call) →
      (a, p) ∈ system.calls ∨ a = call ∧ p = checkUpload kind system.store call := by
    intro a p member
    rcases List.mem_or_eq_of_mem_set member with before | now
    · exact .inl before
    · exact .inr (Prod.mk.inj now)
  -- the call is in flight afterwards only if there is nothing in memory
  have passes : InFlight (checkUpload kind system.store call) → checkUpload kind system.store call = .persist ∧
      entry system.store.memory call.epoch (kind.hash call.desc) = none := by
    intro fly
    unfold checkUpload at fly ⊢
    cases present : entry system.store.memory call.epoch (kind.hash call.desc) with
    | some d =>
        simp only [present] at fly
        split at fly <;> exact absurd fly (not_in_flight_returned _)
    | none =>
        simp only [present] at fly ⊢
        split at fly
        · exact absurd fly (not_in_flight_returned _)
        · rename_i noDocument
          simp [noDocument]
  refine ⟨?_, ?_, ?_, ?_, ?_⟩
  · intro a b p q memberA memberB flyA flyB same
    rcases split a p memberA with oldA | ⟨rfl, rfl⟩
    · rcases split b q memberB with oldB | ⟨rfl, rfl⟩
      · exact coherent.agree a b p q oldA oldB flyA flyB same
      · exact (careful (passes flyB).1).2 a p oldA flyA same
    · rcases split b q memberB with oldB | ⟨rfl, rfl⟩
      · exact ((careful (passes flyA).1).2 b q oldB flyB ⟨same.1.symm, same.2.symm⟩).symm
      · rfl
  · intro a p member fly
    rcases split a p member with old | ⟨rfl, rfl⟩
    · exact coherent.canonical a p old fly
    · exact (careful (passes fly).1).1
  · intro a member
    rcases split a _ member with old | ⟨rfl, phase⟩
    · exact coherent.persisted a old
    · have proceeds := (passes (phase ▸ .inr rfl)).1
      rw [proceeds] at phase
      cases phase
  · intro e pk d stored
    obtain ⟨own, onDisk, inFlight⟩ := coherent.memory e pk d stored
    refine ⟨own, onDisk, fun a p member fly epoch hash => ?_⟩
    rcases split a p member with old | ⟨rfl, rfl⟩
    · exact inFlight a p old fly epoch hash
    · have absent := (passes fly).2
      rw [epoch, hash, stored] at absent
      cases absent
  · intro a member
    rcases split a _ member with old | ⟨rfl, phase⟩
    · exact coherent.acknowledged a old
    · unfold checkUpload at phase
      cases present : entry system.store.memory a.epoch (kind.hash a.desc) with
      | some d =>
          simp only [present] at phase
          split at phase
          · rename_i same
            exact ⟨d, rfl, same⟩
          · simp at phase
      | none =>
          simp only [present] at phase
          split at phase <;> simp at phase

theorem coherent_persist (system : UploadSystem δ) (index : Nat) (call : DescriptorUpload δ)
    (coherent : Coherent kind system) (here : (call, .persist) ∈ system.calls) :
    Coherent kind ⟨persistUpload kind system.store call, system.calls.set index (call, .publish)⟩ := by
  have flying : InFlight .persist := .inl rfl
  have split : ∀ a p, (a, p) ∈ system.calls.set index (call, .publish) →
      (a, p) ∈ system.calls ∨ a = call ∧ p = .publish := by
    intro a p member
    rcases List.mem_or_eq_of_mem_set member with before | now
    · exact .inl before
    · exact .inr (Prod.mk.inj now)
  -- every call in flight was in flight before
  have before : ∀ a p, (a, p) ∈ system.calls.set index (call, .publish) → InFlight p →
      ∃ q, (a, q) ∈ system.calls ∧ InFlight q := by
    intro a p member fly
    rcases split a p member with old | ⟨rfl, -⟩
    · exact ⟨p, old, fly⟩
    · exact ⟨.persist, here, flying⟩
  have disk : ∀ e pk, entry (persistUpload kind system.store call).disk e pk =
      if e = call.epoch ∧ kind.hash call.desc = pk then some call.rawDesc else entry system.store.disk e pk :=
    fun e pk => entry_setEntry _ _ _ _ _ _
  refine ⟨?_, ?_, ?_, ?_, ?_⟩
  · intro a b p q memberA memberB flyA flyB same
    obtain ⟨p', oldA, flyA'⟩ := before a p memberA flyA
    obtain ⟨q', oldB, flyB'⟩ := before b q memberB flyB
    exact coherent.agree a b p' q' oldA oldB flyA' flyB' same
  · intro a p member fly
    obtain ⟨p', old, fly'⟩ := before a p member fly
    exact coherent.canonical a p' old fly'
  · intro a member
    rw [disk]
    split_ifs with same
    · obtain ⟨q, old, fly⟩ := before a .publish member (.inr rfl)
      rw [coherent.agree call a .persist q here old flying fly ⟨same.1.symm, same.2⟩]
    · rcases split a _ member with old | ⟨rfl, -⟩
      · exact coherent.persisted a old
      · exact absurd ⟨rfl, rfl⟩ same
  · intro e pk d stored
    obtain ⟨own, onDisk, inFlight⟩ := coherent.memory e pk d stored
    refine ⟨own, ?_, fun a p member fly => ?_⟩
    · rw [disk]
      split_ifs with same
      · rw [inFlight call .persist here flying same.1.symm same.2]
      · exact onDisk
    · obtain ⟨q, old, fly'⟩ := before a p member fly
      exact inFlight a q old fly'
  · intro a member
    rcases split a _ member with old | ⟨-, phase⟩
    · exact coherent.acknowledged a old
    · cases phase

theorem coherent_publish (system : UploadSystem δ) (index : Nat) (call : DescriptorUpload δ)
    (coherent : Coherent kind system) (here : (call, .publish) ∈ system.calls) :
    Coherent kind ⟨publishUpload kind system.store call, system.calls.set index (call, .returned (.ok ()))⟩ := by
  have flying : InFlight .publish := .inr rfl
  have split : ∀ a p, (a, p) ∈ system.calls.set index (call, .returned (.ok ())) →
      (a, p) ∈ system.calls ∨ a = call ∧ p = .returned (.ok ()) := by
    intro a p member
    rcases List.mem_or_eq_of_mem_set member with before | now
    · exact .inl before
    · exact .inr (Prod.mk.inj now)
  have old : ∀ a p, (a, p) ∈ system.calls.set index (call, .returned (.ok ())) → InFlight p → (a, p) ∈ system.calls := by
    intro a p member fly
    rcases split a p member with before | ⟨-, rfl⟩
    · exact before
    · exact absurd fly (not_in_flight_returned _)
  have memory := publish_memory kind system.store call
  refine ⟨?_, ?_, ?_, ?_, ?_⟩
  · intro a b p q memberA memberB flyA flyB
    exact coherent.agree a b p q (old a p memberA flyA) (old b q memberB flyB) flyA flyB
  · intro a p member fly
    exact coherent.canonical a p (old a p member fly) fly
  · intro a member
    rw [publish_disk]
    exact coherent.persisted a (old a _ member flying)
  · intro e pk d stored
    rw [publish_disk]
    rcases (memory e pk).2.1 d stored with before | ⟨-, rfl, rfl, rfl⟩
    · obtain ⟨own, onDisk, inFlight⟩ := coherent.memory e pk d before
      exact ⟨own, onDisk, fun a p member fly => inFlight a p (old a p member fly) fly⟩
    · have raw := coherent.canonical call .publish here flying
      refine ⟨rfl, raw ▸ coherent.persisted call here, fun a p member fly epoch hash => ?_⟩
      rw [← raw]
      exact coherent.agree a call p .publish (old a p member fly) here fly flying ⟨epoch, hash⟩
  · intro a member
    rcases split a _ member with before | ⟨rfl, -⟩
    · obtain ⟨d, stored, same⟩ := coherent.acknowledged a before
      exact ⟨d, (memory _ _).1 d stored, same⟩
    · obtain ⟨d, stored⟩ := (memory a.epoch (kind.hash a.desc)).2.2
      refine ⟨d, stored, ?_⟩
      rcases (memory _ _).2.1 d stored with before | ⟨-, -, -, rfl⟩
      · exact ((coherent.memory _ _ d before).2.2 a .publish here flying rfl rfl).symm
      · exact (coherent.canonical a .publish here flying).symm

theorem upload_step_coherent (system : UploadSystem δ) (event : UploadEvent δ) (next : UploadSystem δ)
    (coherent : Coherent kind system) (careful : CarefulUpload kind system event)
    (taken : uploadStep kind system event = some next) : Coherent kind next := by
  cases event with
  | start call =>
      obtain rfl := Option.some.inj taken
      exact coherent_start system call coherent
  | document epoch =>
      obtain rfl := Option.some.inj taken
      exact ⟨coherent.agree, coherent.canonical, coherent.persisted, coherent.memory, coherent.acknowledged⟩
  | advance index =>
      rw [uploadStep] at taken
      split at taken
      · rename_i call found
        obtain rfl := Option.some.inj taken
        exact coherent_check system index call coherent (careful index call rfl found)
      · rename_i call found
        obtain rfl := Option.some.inj taken
        exact coherent_persist system index call coherent (List.mem_of_getElem? found)
      · rename_i call found
        obtain rfl := Option.some.inj taken
        exact coherent_publish system index call coherent (List.mem_of_getElem? found)
      · cases taken

variable (kind) in
structure NoReneging (system : UploadSystem δ) : Prop where
  same : ∀ a b, (a, .returned (.ok ())) ∈ system.calls → (b, .returned (.ok ())) ∈ system.calls → SameNode kind a b →
    a.rawDesc = b.rawDesc
  held : ∀ a, (a, .returned (.ok ())) ∈ system.calls →
    ∃ d, entry system.store.memory a.epoch (kind.hash a.desc) = some d ∧ kind.encode d = a.rawDesc ∧
      entry system.store.disk a.epoch (kind.hash a.desc) = some a.rawDesc

variable (kind) in
def Restarts (system : UploadSystem δ) (restored : UInt64 → Option (GoMap Digest δ)) (restores : UInt64 → Prop) : Prop :=
  ∀ a, (a, .returned (.ok ())) ∈ system.calls →
    ∃ d, entry system.store.memory a.epoch (kind.hash a.desc) = some d ∧ kind.encode d = a.rawDesc ∧
      (entry restored a.epoch (kind.hash a.desc) = some d ↔ kind.authorized d = true ∧ restores a.epoch)

theorem coherent_no_reneging (system : UploadSystem δ) (coherent : Coherent kind system) : NoReneging kind system := by
  constructor
  · intro a b memberA memberB sameNode
    obtain ⟨d, stored, rawA⟩ := coherent.acknowledged a memberA
    obtain ⟨d', stored', rawB⟩ := coherent.acknowledged b memberB
    rw [sameNode.1, sameNode.2, stored'] at stored
    rw [← rawA, ← rawB, Option.some.inj stored]
  · intro a member
    obtain ⟨d, stored, raw⟩ := coherent.acknowledged a member
    obtain ⟨own, onDisk, -⟩ := coherent.memory _ _ d stored
    exact ⟨d, stored, raw, raw ▸ onDisk⟩

theorem valid_entry_encoded (law : ∀ d, kind.decode (kind.encode d) = some d) (d : δ) :
    validEntry kind (kind.hash d) (kind.encode d) = some d ↔ kind.authorized d = true := by
  rw [validEntry, law]
  cases allowed : kind.authorized d <;> simp [allowed]

theorem coherent_restarts (law : ∀ d, kind.decode (kind.encode d) = some d) (system : UploadSystem δ) (coherent : Coherent kind system)
    (restored : UInt64 → Option (GoMap Digest δ)) (restores : UInt64 → Prop) [DecidablePred restores]
    (read : ∀ e pk, entry restored e pk = if restores e then (entry system.store.disk e pk).bind (validEntry kind pk) else none) :
    Restarts kind system restored restores := by
  intro a member
  obtain ⟨d, stored, raw⟩ := coherent.acknowledged a member
  obtain ⟨own, onDisk, -⟩ := coherent.memory _ _ d stored
  refine ⟨d, stored, raw, ?_⟩
  rw [read, onDisk, Option.bind_some, ← own]
  by_cases restoring : restores a.epoch
  · rw [if_pos restoring, valid_entry_encoded law d, and_iff_left restoring]
  · simp [restoring]

def idleSystem (disk : UInt64 → Option (GoMap Digest Bytes)) (documents : UInt64 → Bool) : UploadSystem δ :=
  ⟨⟨fun _ => none, disk, documents⟩, []⟩

theorem idle_coherent (disk : UInt64 → Option (GoMap Digest Bytes)) (documents : UInt64 → Bool) :
    Coherent kind (idleSystem disk documents) :=
  ⟨by simp [idleSystem], by simp [idleSystem], by simp [idleSystem], by simp [idleSystem, entry], by simp [idleSystem]⟩

theorem careful_uploads_coherent (disk : UInt64 → Option (GoMap Digest Bytes)) (documents : UInt64 → Bool) (events : List (UploadEvent δ))
    (final : UploadSystem δ) (careful : Meets (uploadStep kind) (CarefulUpload kind) (idleSystem disk documents) events)
    (reached : run (uploadStep kind) (idleSystem disk documents) events = some final) : Coherent kind final :=
  run_preserves (uploadStep kind) (Coherent kind) (CarefulUpload kind) upload_step_coherent events _ final
    (idle_coherent disk documents) careful reached

end Runs

/-- Careful uploads are kept, and a restart restores them under the same version, for the epochs
around now; the mixes only as long as no document before theirs is refused. -/
theorem descriptor_uploads_never_renege (env : Env) (s : Server) (codec : Codec env)
    (disk : UInt64 → Option (GoMap Digest Bytes)) (documents : UInt64 → Bool) :
    (∀ events final, Meets (uploadStep (mixKind env s)) (CarefulUpload (mixKind env s)) (idleSystem disk documents) events →
      run (uploadStep (mixKind env s)) (idleSystem disk documents) events = some final →
        NoReneging (mixKind env s) final ∧
        ∀ boot db, db.descriptors = final.store.disk →
          Restarts (mixKind env s) final (restorePersistence env s boot db).1.descriptors fun epoch =>
            db.version = some boot.version ∧ epoch ∈ boot.epochs ∧ reachesEpoch env s boot db epoch = true) ∧
    (∀ events final,
      Meets (uploadStep (replicaKind env s)) (CarefulUpload (replicaKind env s)) (idleSystem disk documents) events →
        run (uploadStep (replicaKind env s)) (idleSystem disk documents) events = some final →
          NoReneging (replicaKind env s) final ∧
          ∀ boot db, db.replicaDescriptors = final.store.disk →
            Restarts (replicaKind env s) final (restorePersistence env s boot db).1.replicaDescriptors fun epoch =>
              db.version = some boot.version ∧ epoch ∈ boot.epochs) := by
  refine ⟨fun events final careful reached => ?_, fun events final careful reached => ?_⟩
  · have coherent := careful_uploads_coherent disk documents events final careful reached
    refine ⟨coherent_no_reneging final coherent, fun boot db same => ?_⟩
    exact coherent_restarts codec.mix final coherent _ _ fun e pk => same ▸ restored_mix env s boot db e pk
  · have coherent := careful_uploads_coherent disk documents events final careful reached
    refine ⟨coherent_no_reneging final coherent, fun boot db same => ?_⟩
    exact coherent_restarts codec.replica final coherent _ _ fun e pk => same ▸ restored_replica env s boot db e pk

def sampleUpload (linkKey : Bytes) : DescriptorUpload MixDescriptor :=
  let desc := { sampleMix 9 with linkKey := some linkKey }
  ⟨referenceEnv.encodeMix desc, desc, 9⟩

def emptySystem : UploadSystem MixDescriptor := idleSystem (fun _ => none) (fun _ => false)

theorem alone_careful {δ : Type} (kind : DescriptorKind δ) (call : DescriptorUpload δ)
    (canonical : call.rawDesc = kind.encode call.desc) (indexes : List Nat) (system : UploadSystem δ) (phase : UploadPhase)
    (alone : system.calls = [(call, phase)]) :
    Meets (uploadStep kind) (CarefulUpload kind) system (indexes.map .advance) := by
  induction indexes generalizing system phase with
  | nil => trivial
  | cons index rest ih =>
      refine ⟨?_, fun next taken => ?_⟩
      · intro index' call' _ found _
        have member := List.mem_of_getElem? found
        rw [alone] at member
        obtain ⟨rfl, rfl⟩ := Prod.mk.inj (List.mem_singleton.mp member)
        refine ⟨canonical, fun other p listed fly _ => ?_⟩
        rw [alone] at listed
        obtain ⟨-, rfl⟩ := Prod.mk.inj (List.mem_singleton.mp listed)
        exact absurd fly not_in_flight_check
      · have stays : ∃ phase, next.calls = [(call, phase)] := by
          rw [uploadStep, alone] at taken
          cases index with
          | zero =>
              cases phase with
              | check => exact ⟨_, by rw [← Option.some.inj taken]; rfl⟩
              | persist => exact ⟨_, by rw [← Option.some.inj taken]; rfl⟩
              | publish => exact ⟨_, by rw [← Option.some.inj taken]; rfl⟩
              | returned result => cases taken
          | succ index => simp at taken
        obtain ⟨phase', alone'⟩ := stays
        exact ih next phase' alone'

theorem single_upload_acknowledged :
    ∃ final, run (uploadStep (mixKind referenceEnv (sampleServer 0))) emptySystem
        [.start (sampleUpload [1]), .advance 0, .advance 0, .advance 0] = some final ∧
      NoReneging (mixKind referenceEnv (sampleServer 0)) final ∧
      (sampleUpload [1], .returned (.ok ())) ∈ final.calls := by
  have careful : Meets (uploadStep (mixKind referenceEnv (sampleServer 0)))
      (CarefulUpload (mixKind referenceEnv (sampleServer 0))) emptySystem
      [.start (sampleUpload [1]), .advance 0, .advance 0, .advance 0] := by
    refine ⟨nofun, fun next taken => ?_⟩
    exact alone_careful _ (sampleUpload [1]) rfl [0, 0, 0] next .check (by rw [← Option.some.inj taken]; rfl)
  refine ⟨_, rfl, ?_, ?_⟩
  · exact ((descriptor_uploads_never_renege referenceEnv (sampleServer 0) reference_codec _ _).1 _ _ careful rfl).1
  · exact List.mem_singleton.mpr rfl

/-- Both pass the check before either is published. Both are acknowledged, the first stays in
memory, the second on disk. -/
theorem conflicting_uploads_acknowledged :
    ∃ final, run (uploadStep (mixKind referenceEnv (sampleServer 0))) emptySystem
        [.start (sampleUpload [1]), .start (sampleUpload [2]), .advance 0, .advance 1, .advance 0, .advance 0, .advance 1,
          .advance 1] = some final ∧
      final.calls = [(sampleUpload [1], .returned (.ok ())), (sampleUpload [2], .returned (.ok ()))] ∧
      (sampleUpload [1]).rawDesc ≠ (sampleUpload [2]).rawDesc ∧
      entry final.store.memory 9 (referenceEnv.sum256 [11]) = some (sampleUpload [1]).desc ∧
      entry final.store.disk 9 (referenceEnv.sum256 [11]) = some (sampleUpload [2]).rawDesc := by
  refine ⟨_, rfl, ?_, ?_, ?_, ?_⟩
  · rfl
  · decide +kernel
  · rfl
  · rfl

end Katzenpost
