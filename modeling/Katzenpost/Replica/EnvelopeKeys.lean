import Katzenpost.Go.Bytes
import Katzenpost.Go.Map
import Katzenpost.Go.Run

set_option autoImplicit false

namespace Katzenpost.Replica

open Go

structure EnvelopeKey (σ π : Type) where
  privateKey : σ
  publicKey : π
deriving DecidableEq

structure NikePem (σ π : Type) where
  privateToPem : σ → Bytes
  privateFromPem : Bytes → Option σ
  publicToPem : π → Bytes
  publicFromPem : Bytes → Option π

structure PemLaws {σ π : Type} (pem : NikePem σ π) : Prop where
  private_round_trip : ∀ key, pem.privateFromPem (pem.privateToPem key) = some key
  public_round_trip : ∀ key, pem.publicFromPem (pem.publicToPem key) = some key

inductive KeyError where
  | filesNotExist
  | onlyOneFile
  | privatePem
  | publicPem
  | failedPrivate
  | failedPublic
  | foundOnlyOne
  | noKeyForEpoch
deriving DecidableEq

-- The key files of the data directory, replica.%d.private.pem and replica.%d.public.pem,
-- by the epoch in their names.
structure KeyFiles where
  privateFiles : GoMap UInt64 Bytes
  publicFiles : GoMap UInt64 Bytes

section Files

variable {σ π : Type} (pem : NikePem σ π) (files : KeyFiles) (epoch : UInt64)

def readPair (badPrivate badPublic : KeyError) (privatePem publicPem : Bytes) : Except KeyError (EnvelopeKey σ π) :=
  match pem.privateFromPem privatePem with
  | none => .error badPrivate
  | some privateKey =>
      match pem.publicFromPem publicPem with
      | none => .error badPublic
      | some publicKey => .ok ⟨privateKey, publicKey⟩

def envelopeKeyFromFiles : Except KeyError (EnvelopeKey σ π) :=
  match files.privateFiles[epoch]?, files.publicFiles[epoch]? with
  | some privatePem, some publicPem => readPair pem .privatePem .publicPem privatePem publicPem
  | none, none => .error .filesNotExist
  | _, _ => .error .onlyOneFile

def KeyFiles.store (key : EnvelopeKey σ π) : KeyFiles :=
  ⟨files.privateFiles.insert epoch (pem.privateToPem key.privateKey), files.publicFiles.insert epoch (pem.publicToPem key.publicKey)⟩

def writeKeyFiles (drawn : EnvelopeKey σ π) : Except KeyError (EnvelopeKey σ π × KeyFiles) :=
  match files.privateFiles[epoch]?, files.publicFiles[epoch]? with
  | some privatePem, some publicPem => (readPair pem .failedPrivate .failedPublic privatePem publicPem).map fun key => (key, files)
  | none, none => .ok (drawn, files.store pem epoch drawn)
  | _, _ => .error .foundOnlyOne

def KeyFiles.purge : KeyFiles := ⟨files.privateFiles.erase epoch, files.publicFiles.erase epoch⟩

end Files

structure EnvelopeKeys (σ π : Type) where
  files : KeyFiles
  keys : Option (GoMap UInt64 (EnvelopeKey σ π))
  now : UInt64

-- NewEnvelopeKeys after a restart, the calls, and the clock. A call that may generate a
-- keypair brings the one that WriteKeyFiles would draw; the one of NewEnvelopeKey is
-- always overwritten.
inductive KeysEvent (σ π : Type) where
  | boot (drawn : EnvelopeKey σ π)
  | ensureKey (replicaEpoch : UInt64) (drawn : EnvelopeKey σ π)
  | getKeypair (replicaEpoch : UInt64)
  | generate (replicaEpoch : UInt64) (drawn : EnvelopeKey σ π)
  | prune (order : Range UInt64 (EnvelopeKey σ π))
  | clock (epoch : UInt64)

section Calls

variable {σ π : Type} (pem : NikePem σ π)

abbrev KeysResult (σ π : Type) := EnvelopeKeys σ π × Except KeyError (Option (EnvelopeKey σ π))

def generateKey (files : KeyFiles) (keys : GoMap UInt64 (EnvelopeKey σ π)) (replicaEpoch : UInt64) (drawn : EnvelopeKey σ π) :
    Except KeyError (KeyFiles × GoMap UInt64 (EnvelopeKey σ π)) := do
  let (keypair, written) ← writeKeyFiles pem files replicaEpoch drawn
  return (written, keys.insert replicaEpoch keypair)

def getKeypair (keys : GoMap UInt64 (EnvelopeKey σ π)) (replicaEpoch : UInt64) : Except KeyError (EnvelopeKey σ π) :=
  match keys[replicaEpoch]? with
  | none => .error .noKeyForEpoch
  | some keypair => .ok keypair

def loadOrGenerate (files : KeyFiles) (epoch : UInt64) (drawn : EnvelopeKey σ π) :
    Except KeyError (KeyFiles × GoMap UInt64 (EnvelopeKey σ π)) :=
  match envelopeKeyFromFiles pem files epoch with
  | .ok keypair => .ok (files, (∅ : GoMap UInt64 (EnvelopeKey σ π)).insert epoch keypair)
  | .error _ => generateKey pem files ∅ epoch drawn

def newEnvelopeKeys (files : KeyFiles) (epoch : UInt64) (drawn : EnvelopeKey σ π) :
    Except KeyError (KeyFiles × GoMap UInt64 (EnvelopeKey σ π)) := do
  let (written, keys) ← loadOrGenerate pem files epoch drawn
  if epoch > 0 then
    match envelopeKeyFromFiles pem written (epoch - 1) with
    | .ok prevKey => return (written, keys.insert (epoch - 1) prevKey)
    | .error _ => return (written, keys)
  else return (written, keys)

def ensureKey (files : KeyFiles) (keys : GoMap UInt64 (EnvelopeKey σ π)) (currentEpoch replicaEpoch : UInt64)
    (drawn : EnvelopeKey σ π) : (KeyFiles × GoMap UInt64 (EnvelopeKey σ π)) × Except KeyError (EnvelopeKey σ π) :=
  if replicaEpoch < currentEpoch then ((files, keys), getKeypair keys replicaEpoch)
  else
    match getKeypair keys replicaEpoch with
    | .ok keypair => ((files, keys), .ok keypair)
    | .error _ =>
        match generateKey pem files keys replicaEpoch drawn with
        | .error e => ((files, keys), .error e)
        | .ok (written, loaded) => ((written, loaded), getKeypair loaded replicaEpoch)

def pruneTurn (epoch : UInt64) (acc : (KeyFiles × GoMap UInt64 (EnvelopeKey σ π)) × Bool) (entry : UInt64 × EnvelopeKey σ π) :
    (KeyFiles × GoMap UInt64 (EnvelopeKey σ π)) × Bool :=
  if entry.1 < epoch - 1 then ((acc.1.1.purge entry.1, acc.1.2.erase entry.1), true) else acc

def pruneKeys (order : Range UInt64 (EnvelopeKey σ π)) (files : KeyFiles) (keys : GoMap UInt64 (EnvelopeKey σ π)) (epoch : UInt64) :
    (KeyFiles × GoMap UInt64 (EnvelopeKey σ π)) × Bool :=
  (order.order keys).foldl (pruneTurn epoch) ((files, keys), false)

def EnvelopeKeys.call (s : EnvelopeKeys σ π) : KeysEvent σ π → Option (KeysResult σ π)
  | .boot drawn =>
      match newEnvelopeKeys pem s.files s.now drawn with
      | .error e => some ({ s with keys := none }, .error e)
      | .ok (files, keys) => some (⟨files, some keys, s.now⟩, .ok none)
  | .ensureKey replicaEpoch drawn =>
      s.keys.map fun keys =>
        let ensured := ensureKey pem s.files keys s.now replicaEpoch drawn
        (⟨ensured.1.1, some ensured.1.2, s.now⟩, ensured.2.map some)
  | .getKeypair replicaEpoch => s.keys.map fun keys => (s, (getKeypair keys replicaEpoch).map some)
  | .generate replicaEpoch drawn =>
      s.keys.map fun keys =>
        match generateKey pem s.files keys replicaEpoch drawn with
        | .error e => (s, .error e)
        | .ok (files, keys) => (⟨files, some keys, s.now⟩, .ok none)
  | .prune order =>
      s.keys.map fun keys =>
        let pruned := pruneKeys order s.files keys s.now
        (⟨pruned.1.1, some pruned.1.2, s.now⟩, .ok none)
  | .clock epoch => if s.now ≤ epoch then some ({ s with now := epoch }, .ok none) else none

def EnvelopeKeys.step (s : EnvelopeKeys σ π) (event : KeysEvent σ π) : Option (EnvelopeKeys σ π) := (s.call pem event).map Prod.fst

def stopped (files : KeyFiles) (now : UInt64) : EnvelopeKeys σ π := ⟨files, none, now⟩

def KeysEvent.asks (replicaEpoch : UInt64) : KeysEvent σ π → Prop
  | .ensureKey epoch _ => epoch = replicaEpoch
  | .getKeypair epoch => epoch = replicaEpoch
  | _ => False

def EnvelopeKeys.prunes (s : EnvelopeKeys σ π) (epoch : UInt64) : KeysEvent σ π → Prop
  | .prune _ => epoch.toNat + 1 < s.now.toNat ∧ ∃ keys, s.keys = some keys ∧ epoch ∈ keys
  | _ => False

end Calls

section Files

variable {σ π : Type} (pem : NikePem σ π) (laws : PemLaws pem) (files : KeyFiles)

theorem read_pair_ok (badPrivate badPublic otherPrivate otherPublic : KeyError) (privatePem publicPem : Bytes) (key : EnvelopeKey σ π)
    (read : readPair pem badPrivate badPublic privatePem publicPem = .ok key) :
    readPair pem otherPrivate otherPublic privatePem publicPem = .ok key := by
  unfold readPair at read ⊢
  cases parsed : pem.privateFromPem privatePem with
  | none => simp [parsed] at read
  | some privateKey =>
      cases other : pem.publicFromPem publicPem with
      | none => simp [parsed, other] at read
      | some publicKey => simpa [parsed, other] using read

def KeyFiles.Holds (epoch : UInt64) (key : EnvelopeKey σ π) : Prop := envelopeKeyFromFiles pem files epoch = .ok key

theorem holds_unique (epoch : UInt64) (a b : EnvelopeKey σ π) (first : files.Holds pem epoch a) (second : files.Holds pem epoch b) :
    a = b := Except.ok.inj (first.symm.trans second)

theorem holds_congr (other : KeyFiles) (epoch : UInt64) (key : EnvelopeKey σ π)
    (privateSame : other.privateFiles[epoch]? = files.privateFiles[epoch]?)
    (publicSame : other.publicFiles[epoch]? = files.publicFiles[epoch]?) (holds : files.Holds pem epoch key) :
    other.Holds pem epoch key := by
  unfold KeyFiles.Holds envelopeKeyFromFiles at holds ⊢
  rw [privateSame, publicSame]
  exact holds

include laws in
theorem store_holds (epoch : UInt64) (key : EnvelopeKey σ π) : (files.store pem epoch key).Holds pem epoch key := by
  simp only [KeyFiles.Holds, envelopeKeyFromFiles, KeyFiles.store, lookup_insert, if_true, readPair, laws.private_round_trip,
    laws.public_round_trip]

include laws in
theorem write_key_files_ok (epoch : UInt64) (drawn key : EnvelopeKey σ π) (written : KeyFiles)
    (wrote : writeKeyFiles pem files epoch drawn = .ok (key, written)) :
    written.Holds pem epoch key ∧ ∀ other kept, files.Holds pem other kept → written.Holds pem other kept := by
  unfold writeKeyFiles at wrote
  cases privateFile : files.privateFiles[epoch]? with
  | some privatePem =>
      cases publicFile : files.publicFiles[epoch]? with
      | some publicPem =>
          simp only [privateFile, publicFile] at wrote
          cases read : readPair pem .failedPrivate .failedPublic privatePem publicPem with
          | error e => simp [read, Except.map] at wrote
          | ok loaded =>
              simp only [read, Except.map, Except.ok.injEq, Prod.mk.injEq] at wrote
              obtain ⟨rfl, rfl⟩ := wrote
              refine ⟨?_, fun other kept holds => holds⟩
              simp only [KeyFiles.Holds, envelopeKeyFromFiles, privateFile, publicFile]
              exact read_pair_ok pem _ _ _ _ _ _ _ read
      | none => simp [privateFile, publicFile] at wrote
  | none =>
      cases publicFile : files.publicFiles[epoch]? with
      | some publicPem => simp [privateFile, publicFile] at wrote
      | none =>
          simp only [privateFile, publicFile, Except.ok.injEq, Prod.mk.injEq] at wrote
          obtain ⟨rfl, rfl⟩ := wrote
          refine ⟨store_holds pem laws files epoch drawn, fun other kept holds => ?_⟩
          -- The files of the epoch did not hold a keypair.
          have differs : epoch ≠ other := by
            rintro rfl
            simp [KeyFiles.Holds, envelopeKeyFromFiles, privateFile, publicFile] at holds
          exact holds_congr pem files _ other kept (by rw [KeyFiles.store, lookup_insert, if_neg differs])
            (by rw [KeyFiles.store, lookup_insert, if_neg differs]) holds

end Files

section Memory

variable {σ π : Type} (pem : NikePem σ π) (laws : PemLaws pem)

def Loaded (files : KeyFiles) (keys : GoMap UInt64 (EnvelopeKey σ π)) : Prop :=
  ∀ epoch key, keys[epoch]? = some key → files.Holds pem epoch key

def KeepsFiles (before after : KeyFiles) : Prop :=
  ∀ epoch (key : EnvelopeKey σ π), before.Holds pem epoch key → after.Holds pem epoch key

theorem loaded_insert (before after : KeyFiles) (keys : GoMap UInt64 (EnvelopeKey σ π)) (epoch : UInt64) (key : EnvelopeKey σ π)
    (loaded : Loaded pem before keys) (keeps : KeepsFiles pem before after) (holds : after.Holds pem epoch key) :
    Loaded pem after (keys.insert epoch key) :=
  forall_insert keys epoch key (fun other found lookup _ => keeps other found (loaded other found lookup)) holds

include laws in
theorem generate_key_ok (files written : KeyFiles) (keys more : GoMap UInt64 (EnvelopeKey σ π)) (epoch : UInt64)
    (drawn : EnvelopeKey σ π) (loaded : Loaded pem files keys) (made : generateKey pem files keys epoch drawn = .ok (written, more)) :
    Loaded pem written more ∧ KeepsFiles pem files written ∧ ∃ key, more = keys.insert epoch key := by
  unfold generateKey at made
  cases wrote : writeKeyFiles pem files epoch drawn with
  | error e => simp [wrote, bind, Except.bind] at made
  | ok result =>
      obtain ⟨keypair, stored⟩ := result
      simp only [wrote, bind, Except.bind, pure, Except.pure, Except.ok.injEq, Prod.mk.injEq] at made
      obtain ⟨rfl, rfl⟩ := made
      obtain ⟨holds, keeps⟩ := write_key_files_ok pem laws files epoch drawn keypair stored wrote
      exact ⟨loaded_insert pem files stored keys epoch keypair loaded keeps holds, keeps, keypair, rfl⟩

include laws in
theorem load_or_generate_ok (files written : KeyFiles) (keys : GoMap UInt64 (EnvelopeKey σ π)) (epoch : UInt64)
    (drawn : EnvelopeKey σ π) (made : loadOrGenerate pem files epoch drawn = .ok (written, keys)) :
    Loaded pem written keys ∧ KeepsFiles pem files written := by
  have empty : Loaded pem files (∅ : GoMap UInt64 (EnvelopeKey σ π)) := by
    intro epoch key lookup
    simp at lookup
  unfold loadOrGenerate at made
  cases read : envelopeKeyFromFiles pem files epoch with
  | ok keypair =>
      simp only [read, Except.ok.injEq, Prod.mk.injEq] at made
      obtain ⟨rfl, rfl⟩ := made
      exact ⟨loaded_insert pem files files ∅ epoch keypair empty (fun _ _ holds => holds) read, fun _ _ holds => holds⟩
  | error e =>
      simp only [read] at made
      obtain ⟨holds, keeps, _⟩ := generate_key_ok pem laws files written ∅ keys epoch drawn empty made
      exact ⟨holds, keeps⟩

include laws in
theorem new_envelope_keys_ok (files written : KeyFiles) (keys : GoMap UInt64 (EnvelopeKey σ π)) (epoch : UInt64)
    (drawn : EnvelopeKey σ π) (made : newEnvelopeKeys pem files epoch drawn = .ok (written, keys)) :
    Loaded pem written keys ∧ KeepsFiles pem files written := by
  unfold newEnvelopeKeys at made
  cases began : loadOrGenerate pem files epoch drawn with
  | error e => simp [began, bind, Except.bind] at made
  | ok result =>
      obtain ⟨stored, loaded⟩ := result
      obtain ⟨holds, keeps⟩ := load_or_generate_ok pem laws files stored loaded epoch drawn began
      simp only [began, bind, Except.bind] at made
      by_cases later : epoch > 0
      · simp only [if_pos later] at made
        cases read : envelopeKeyFromFiles pem stored (epoch - 1) with
        | ok prevKey =>
            simp only [read, pure, Except.pure, Except.ok.injEq, Prod.mk.injEq] at made
            obtain ⟨rfl, rfl⟩ := made
            exact ⟨loaded_insert pem stored stored loaded _ prevKey holds (fun _ _ there => there) read, keeps⟩
        | error e =>
            simp only [read, pure, Except.pure, Except.ok.injEq, Prod.mk.injEq] at made
            obtain ⟨rfl, rfl⟩ := made
            exact ⟨holds, keeps⟩
      · simp only [if_neg later, pure, Except.pure, Except.ok.injEq, Prod.mk.injEq] at made
        obtain ⟨rfl, rfl⟩ := made
        exact ⟨holds, keeps⟩

theorem get_keypair_ok (keys : GoMap UInt64 (EnvelopeKey σ π)) (epoch : UInt64) (key : EnvelopeKey σ π)
    (got : getKeypair keys epoch = .ok key) : keys[epoch]? = some key := by
  unfold getKeypair at got
  cases lookup : keys[epoch]? with
  | none => simp [lookup] at got
  | some found =>
      rw [lookup] at got
      exact congrArg some (Except.ok.inj got)

include laws in
theorem ensure_key_ok (files : KeyFiles) (keys : GoMap UInt64 (EnvelopeKey σ π)) (current epoch : UInt64) (drawn : EnvelopeKey σ π)
    (loaded : Loaded pem files keys) :
    Loaded pem (ensureKey pem files keys current epoch drawn).1.1 (ensureKey pem files keys current epoch drawn).1.2 ∧
      KeepsFiles pem files (ensureKey pem files keys current epoch drawn).1.1 ∧
      ∀ key, (ensureKey pem files keys current epoch drawn).2 = .ok key →
        (ensureKey pem files keys current epoch drawn).1.1.Holds pem epoch key := by
  have unchanged : Loaded pem files keys ∧ KeepsFiles pem files files := ⟨loaded, fun _ _ holds => holds⟩
  unfold ensureKey
  by_cases past : epoch < current
  · rw [if_pos past]
    exact ⟨unchanged.1, unchanged.2, fun key got => loaded epoch key (get_keypair_ok keys epoch key got)⟩
  · rw [if_neg past]
    cases got : getKeypair keys epoch with
    | ok keypair =>
        refine ⟨unchanged.1, unchanged.2, fun key same => ?_⟩
        exact loaded epoch key (get_keypair_ok keys epoch key (got.trans same))
    | error e =>
        cases made : generateKey pem files keys epoch drawn with
        | error e => exact ⟨unchanged.1, unchanged.2, fun key same => nomatch same⟩
        | ok result =>
            obtain ⟨written, more⟩ := result
            obtain ⟨holds, keeps, _⟩ := generate_key_ok pem laws files written keys more epoch drawn loaded made
            exact ⟨holds, keeps, fun key got => holds epoch key (get_keypair_ok more epoch key got)⟩

end Memory

section Prune

variable {σ π : Type}

theorem prune_lookup {v : Type} (m : GoMap UInt64 v) (epoch first other : UInt64) (rest : List UInt64) (old : first < epoch - 1) :
    (if other ∈ rest ∧ other < epoch - 1 then none else (m.erase first)[other]?) =
      if other ∈ first :: rest ∧ other < epoch - 1 then none else m[other]? := by
  rw [lookup_erase]
  by_cases same : first = other
  · subst same
    rw [if_pos rfl, ite_self, if_pos ⟨List.mem_cons_self, old⟩]
  · simp only [same, if_false, List.mem_cons, Ne.symm same, false_or]

theorem prune_lookup_young {v : Type} (m : GoMap UInt64 v) (epoch first other : UInt64) (rest : List UInt64)
    (young : ¬ first < epoch - 1) :
    (if other ∈ rest ∧ other < epoch - 1 then none else m[other]?) =
      if other ∈ first :: rest ∧ other < epoch - 1 then none else m[other]? := by
  by_cases same : other = first
  · subst same
    rw [if_neg fun gone => young gone.2, if_neg fun gone => young gone.2]
  · simp only [List.mem_cons, same, false_or]

theorem prune_loop (epoch : UInt64) (entries : List (UInt64 × EnvelopeKey σ π))
    (acc : (KeyFiles × GoMap UInt64 (EnvelopeKey σ π)) × Bool) (other : UInt64) :
    (entries.foldl (pruneTurn epoch) acc).1.2[other]? =
      (if other ∈ entries.map Prod.fst ∧ other < epoch - 1 then none else acc.1.2[other]?) ∧
    (entries.foldl (pruneTurn epoch) acc).1.1.privateFiles[other]? =
      (if other ∈ entries.map Prod.fst ∧ other < epoch - 1 then none else acc.1.1.privateFiles[other]?) ∧
    (entries.foldl (pruneTurn epoch) acc).1.1.publicFiles[other]? =
      (if other ∈ entries.map Prod.fst ∧ other < epoch - 1 then none else acc.1.1.publicFiles[other]?) := by
  induction entries generalizing acc with
  | nil => simp
  | cons entry rest ih =>
      obtain ⟨memory, private', public'⟩ := ih (pruneTurn epoch acc entry)
      rw [List.foldl_cons, memory, private', public', List.map_cons]
      by_cases old : entry.1 < epoch - 1
      · rw [pruneTurn, if_pos old]
        exact ⟨prune_lookup _ _ _ _ _ old, prune_lookup _ _ _ _ _ old, prune_lookup _ _ _ _ _ old⟩
      · rw [pruneTurn, if_neg old]
        exact ⟨prune_lookup_young _ _ _ _ _ old, prune_lookup_young _ _ _ _ _ old, prune_lookup_young _ _ _ _ _ old⟩

theorem before_previous (now epoch : UInt64) (started : 1 ≤ now.toNat) : epoch < now - 1 ↔ epoch.toNat + 1 < now.toNat := by
  have bound := now.toNat_lt
  rw [UInt64.lt_iff_toNat_lt, UInt64.toNat_sub]
  have one : (1 : UInt64).toNat = 1 := rfl
  omega

theorem prune_exact (order : Range UInt64 (EnvelopeKey σ π)) (files : KeyFiles) (keys : GoMap UInt64 (EnvelopeKey σ π)) (now : UInt64)
    (started : 1 ≤ now.toNat) (epoch : UInt64) :
    (pruneKeys order files keys now).1.2[epoch]? = (if epoch.toNat + 1 < now.toNat then none else keys[epoch]?) ∧
    (pruneKeys order files keys now).1.1.privateFiles[epoch]? =
      (if epoch ∈ keys ∧ epoch.toNat + 1 < now.toNat then none else files.privateFiles[epoch]?) ∧
    (pruneKeys order files keys now).1.1.publicFiles[epoch]? =
      (if epoch ∈ keys ∧ epoch.toNat + 1 < now.toNat then none else files.publicFiles[epoch]?) := by
  have listed : epoch ∈ (order.order keys).map Prod.fst ↔ epoch ∈ keys := by
    rw [List.mem_map, mem_iff_lookup]
    constructor
    · rintro ⟨⟨key, value⟩, member, rfl⟩
      exact ⟨value, (order_mem order keys key value).mp member⟩
    · rintro ⟨value, lookup⟩
      exact ⟨(epoch, value), (order_mem order keys epoch value).mpr lookup, rfl⟩
  obtain ⟨memory, private', public'⟩ := prune_loop now (order.order keys) ((files, keys), false) epoch
  simp only [listed, before_previous now epoch started] at memory private' public'
  refine ⟨memory.trans ?_, private', public'⟩
  by_cases loaded : epoch ∈ keys
  · simp only [loaded, true_and]
  · have absent : keys[epoch]? = none := by
      rw [← Option.not_isSome_iff_eq_none, Std.ExtTreeMap.isSome_getElem?_iff_mem]
      exact loaded
    simp only [absent, ite_self]

end Prune

section Runs

variable {σ π : Type} (pem : NikePem σ π) (laws : PemLaws pem)

structure KeysSound (s : EnvelopeKeys σ π) : Prop where
  started : 1 ≤ s.now.toNat
  loaded : ∀ keys, s.keys = some keys → Loaded pem s.files keys

structure CallKeeps (s : EnvelopeKeys σ π) (event : KeysEvent σ π) (next : EnvelopeKeys σ π)
    (result : Except KeyError (Option (EnvelopeKey σ π))) : Prop where
  sound : KeysSound pem next
  kept : ∀ epoch key, ¬ s.prunes epoch event → s.files.Holds pem epoch key → next.files.Holds pem epoch key
  answered : ∀ epoch key, event.asks epoch → result = .ok (some key) → next.files.Holds pem epoch key

variable (s : EnvelopeKeys σ π)

theorem prune_keeps (order : Range UInt64 (EnvelopeKey σ π)) (keys : GoMap UInt64 (EnvelopeKey σ π)) (running : s.keys = some keys)
    (sound : KeysSound pem s) :
    CallKeeps pem s (.prune order) ⟨(pruneKeys order s.files keys s.now).1.1, some (pruneKeys order s.files keys s.now).1.2, s.now⟩
      (.ok none) := by
  have kept : ∀ epoch key, ¬ (epoch ∈ keys ∧ epoch.toNat + 1 < s.now.toNat) → s.files.Holds pem epoch key →
      (pruneKeys order s.files keys s.now).1.1.Holds pem epoch key := by
    intro epoch key stays holds
    obtain ⟨_, private', public'⟩ := prune_exact order s.files keys s.now sound.started epoch
    rw [if_neg stays] at private' public'
    exact holds_congr pem s.files _ epoch key private' public' holds
  refine ⟨⟨sound.started, fun left same epoch key lookup => ?_⟩, fun epoch key stays holds => ?_, fun _ _ asks => asks.elim⟩
  · obtain rfl := Option.some.inj same
    have memory := (prune_exact order s.files keys s.now sound.started epoch).1
    rw [lookup] at memory
    by_cases old : epoch.toNat + 1 < s.now.toNat
    · rw [if_pos old] at memory
      cases memory
    · rw [if_neg old] at memory
      exact kept epoch key (fun gone => old gone.2) (sound.loaded keys running epoch key memory.symm)
  · exact kept epoch key (fun gone => stays ⟨gone.2, keys, running, gone.1⟩) holds

include laws in
theorem call_keeps (event : KeysEvent σ π) (next : EnvelopeKeys σ π) (result : Except KeyError (Option (EnvelopeKey σ π)))
    (sound : KeysSound pem s) (called : s.call pem event = some (next, result)) : CallKeeps pem s event next result := by
  have same : ∀ epoch (key : EnvelopeKey σ π), s.files.Holds pem epoch key → s.files.Holds pem epoch key := fun _ _ holds => holds
  cases event with
  | boot drawn =>
      rw [EnvelopeKeys.call] at called
      cases made : newEnvelopeKeys pem s.files s.now drawn with
      | error e =>
          simp only [made, Option.some.injEq, Prod.mk.injEq] at called
          obtain ⟨rfl, rfl⟩ := called
          exact ⟨⟨sound.started, fun keys running => nomatch running⟩, fun epoch key _ => same epoch key, fun _ _ asks => asks.elim⟩
      | ok booted =>
          obtain ⟨written, keys⟩ := booted
          simp only [made, Option.some.injEq, Prod.mk.injEq] at called
          obtain ⟨rfl, rfl⟩ := called
          obtain ⟨loaded, keeps⟩ := new_envelope_keys_ok pem laws s.files written keys s.now drawn made
          refine ⟨⟨sound.started, fun keys running => ?_⟩, fun epoch key _ => keeps epoch key, fun _ _ asks => asks.elim⟩
          cases running
          exact loaded
  | clock epoch =>
      rw [EnvelopeKeys.call, Option.ite_none_right_eq_some, Option.some.injEq, Prod.mk.injEq] at called
      obtain ⟨later, rfl, rfl⟩ := called
      exact ⟨⟨sound.started.trans (UInt64.le_iff_toNat_le.mp later), sound.loaded⟩, fun epoch key _ => same epoch key,
        fun _ _ asks => asks.elim⟩
  | getKeypair epoch =>
      obtain ⟨keys, running, answer⟩ := Option.map_eq_some_iff.mp called
      obtain ⟨rfl, rfl⟩ := Prod.mk.inj answer
      refine ⟨sound, fun epoch key _ => same epoch key, fun other key asks got => ?_⟩
      obtain rfl : epoch = other := asks
      cases found : getKeypair keys epoch with
      | error e => simp [found, Except.map] at got
      | ok keypair =>
          simp only [found, Except.map, Except.ok.injEq, Option.some.injEq] at got
          subst got
          exact sound.loaded keys running epoch keypair (get_keypair_ok keys epoch keypair found)
  | ensureKey epoch drawn =>
      obtain ⟨keys, running, answer⟩ := Option.map_eq_some_iff.mp called
      have ensured := ensure_key_ok pem laws s.files keys s.now epoch drawn (sound.loaded keys running)
      dsimp only at answer
      generalize ensureKey pem s.files keys s.now epoch drawn = r at ensured answer
      obtain ⟨loaded, keeps, returned⟩ := ensured
      obtain ⟨rfl, rfl⟩ := Prod.mk.inj answer
      refine ⟨⟨sound.started, fun more running => ?_⟩, fun epoch key _ => keeps epoch key, fun other key asks got => ?_⟩
      · cases running
        exact loaded
      · obtain rfl : epoch = other := asks
        cases ensured : r.2 with
        | error e => simp [ensured, Except.map] at got
        | ok keypair =>
            simp only [ensured, Except.map, Except.ok.injEq, Option.some.injEq] at got
            exact returned key (got ▸ ensured)
  | generate epoch drawn =>
      obtain ⟨keys, running, answer⟩ := Option.map_eq_some_iff.mp called
      cases made : generateKey pem s.files keys epoch drawn with
      | error e =>
          simp only [made, Prod.mk.injEq] at answer
          obtain ⟨rfl, rfl⟩ := answer
          exact ⟨sound, fun epoch key _ => same epoch key, fun _ _ asks => asks.elim⟩
      | ok result =>
          obtain ⟨written, more⟩ := result
          simp only [made, Prod.mk.injEq] at answer
          obtain ⟨rfl, rfl⟩ := answer
          obtain ⟨loaded, keeps, _⟩ := generate_key_ok pem laws s.files written keys more epoch drawn (sound.loaded keys running) made
          refine ⟨⟨sound.started, fun keys running => ?_⟩, fun epoch key _ => keeps epoch key, fun _ _ asks => asks.elim⟩
          cases running
          exact loaded
  | prune order =>
      obtain ⟨keys, running, answer⟩ := Option.map_eq_some_iff.mp called
      obtain ⟨rfl, rfl⟩ := Prod.mk.inj answer
      exact prune_keeps pem s order keys running sound

include laws in
theorem step_keeps (event : KeysEvent σ π) (next : EnvelopeKeys σ π) (sound : KeysSound pem s)
    (taken : s.step pem event = some next) :
    ∃ result, CallKeeps pem s event next result := by
  obtain ⟨⟨after, result⟩, called, same⟩ := Option.map_eq_some_iff.mp taken
  cases same
  exact ⟨result, call_keeps pem laws s event after result sound called⟩

include laws in
theorem run_keeps (epoch : UInt64) (key : EnvelopeKey σ π) (events : List (KeysEvent σ π)) (final : EnvelopeKeys σ π)
    (sound : KeysSound pem s) (holds : s.files.Holds pem epoch key)
    (unpruned : Meets (EnvelopeKeys.step pem) (fun state event => ¬ state.prunes epoch event) s events)
    (reached : run (EnvelopeKeys.step pem) s events = some final) : KeysSound pem final ∧ final.files.Holds pem epoch key := by
  refine run_preserves (EnvelopeKeys.step pem) (fun state => KeysSound pem state ∧ state.files.Holds pem epoch key) _ ?_ events s
    final
    ⟨sound, holds⟩ unpruned reached
  rintro state event next ⟨sound, holds⟩ stays taken
  obtain ⟨_, keeps⟩ := step_keeps pem laws state event next sound taken
  exact ⟨keeps.sound, keeps.kept epoch key stays holds⟩

include laws in
theorem run_keys_sound (events : List (KeysEvent σ π)) (final : EnvelopeKeys σ π) (sound : KeysSound pem s)
    (reached : run (EnvelopeKeys.step pem) s events = some final) : KeysSound pem final := by
  refine run_preserves (EnvelopeKeys.step pem) (KeysSound pem) (fun _ _ => True) ?_ events s final sound
    (meets_always _ _ (fun _ _ => trivial) _ _) reached
  intro state event next sound _ taken
  obtain ⟨_, keeps⟩ := step_keeps pem laws state event next sound taken
  exact keeps.sound

theorem past_epoch_unchanged (epoch : UInt64) (drawn : EnvelopeKey σ π) (next : EnvelopeKeys σ π)
    (result : Except KeyError (Option (EnvelopeKey σ π))) (past : epoch < s.now)
    (called : s.call pem (.ensureKey epoch drawn) = some (next, result)) : next = s := by
  obtain ⟨keys, running, answer⟩ := Option.map_eq_some_iff.mp called
  have unchanged : ensureKey pem s.files keys s.now epoch drawn = ((s.files, keys), getKeypair keys epoch) := if_pos past
  dsimp only at answer
  rw [unchanged] at answer
  obtain ⟨rfl, _⟩ := Prod.mk.inj answer
  rw [← running]

end Runs

/-- Over restarts, calls and the passing of epochs: two calls for an epoch return the same keypair
unless it was pruned between them, Prune removes exactly the loaded keys from before the previous
epoch, and EnsureKey changes nothing for a past epoch. -/
theorem envelope_keys_stable {σ π : Type} (pem : NikePem σ π) (laws : PemLaws pem) (files : KeyFiles) (start : UInt64)
    (started : 1 ≤ start.toNat) (events : List (KeysEvent σ π)) (s : EnvelopeKeys σ π)
    (reached : run (EnvelopeKeys.step pem) (stopped files start) events = some s) :
    (∀ epoch first second s₁ s₂ s₃ later key again, first.asks epoch → s.call pem first = some (s₁, .ok (some key)) →
      Meets (EnvelopeKeys.step pem) (fun state event => ¬ state.prunes epoch event) s₁ later →
      run (EnvelopeKeys.step pem) s₁ later = some s₂ →
      second.asks epoch → s₂.call pem second = some (s₃, .ok (some again)) → again = key) ∧
    (∀ order next result, s.call pem (.prune order) = some (next, result) →
      ∃ keys left, s.keys = some keys ∧ next.keys = some left ∧ ∀ epoch,
        left[epoch]? = (if epoch.toNat + 1 < s.now.toNat then none else keys[epoch]?) ∧
        next.files.privateFiles[epoch]? =
          (if epoch ∈ keys ∧ epoch.toNat + 1 < s.now.toNat then none else s.files.privateFiles[epoch]?) ∧
        next.files.publicFiles[epoch]? =
          (if epoch ∈ keys ∧ epoch.toNat + 1 < s.now.toNat then none else s.files.publicFiles[epoch]?)) ∧
    (∀ epoch drawn next result, epoch < s.now → s.call pem (.ensureKey epoch drawn) = some (next, result) → next = s) := by
  have sound : KeysSound pem s :=
    run_keys_sound pem laws (stopped files start) events s ⟨started, fun keys running => nomatch running⟩ reached
  refine ⟨?_, fun order next result called => ?_, past_epoch_unchanged pem s⟩
  · intro epoch first second s₁ s₂ s₃ later key again asked called unpruned ran askedAgain calledAgain
    have before := call_keeps pem laws s first s₁ _ sound called
    obtain ⟨soundThen, holds⟩ :=
      run_keeps pem laws s₁ epoch key later s₂ before.sound (before.answered epoch key asked rfl) unpruned ran
    have after := call_keeps pem laws s₂ second s₃ _ soundThen calledAgain
    have stays : ¬ s₂.prunes epoch second := by
      cases second with
      | prune order => exact askedAgain.elim
      | _ => exact id
    exact holds_unique pem s₃.files epoch again key (after.answered epoch again askedAgain rfl) (after.kept epoch key stays holds)
  · obtain ⟨keys, running, answer⟩ := Option.map_eq_some_iff.mp called
    obtain ⟨rfl, _⟩ := Prod.mk.inj answer
    exact ⟨keys, _, running, rfl, prune_exact order s.files keys s.now sound.started⟩

def bytePem : NikePem UInt8 UInt8 := ⟨fun key => [key], List.head?, fun key => [key], List.head?⟩

theorem byte_pem_laws : PemLaws bytePem := ⟨fun _ => rfl, fun _ => rfl⟩

theorem restarted_key_kept :
    ∃ s s₁ s₂ s₃ key again, run (EnvelopeKeys.step bytePem) (stopped ⟨∅, ∅⟩ 5) [.boot ⟨1, 1⟩] = some s ∧
      s.call bytePem (.ensureKey 6 ⟨2, 2⟩) = some (s₁, .ok (some key)) ∧
      run (EnvelopeKeys.step bytePem) s₁ [.boot ⟨3, 3⟩] = some s₂ ∧
      s₂.call bytePem (.ensureKey 6 ⟨4, 4⟩) = some (s₃, .ok (some again)) ∧ again = key :=
  ⟨_, _, _, _, _, _, rfl, rfl, rfl, rfl,
    (envelope_keys_stable bytePem byte_pem_laws ⟨∅, ∅⟩ 5 (by decide) [.boot ⟨1, 1⟩] _ rfl).1 6 (.ensureKey 6 ⟨2, 2⟩)
      (.ensureKey 6 ⟨4, 4⟩) _ _ _ [.boot ⟨3, 3⟩] _ _ rfl rfl ⟨id, fun _ _ => trivial⟩ rfl rfl rfl⟩

end Katzenpost.Replica
