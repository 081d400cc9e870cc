import Katzenpost.Go.Map
import Katzenpost.Go.Bytes

set_option autoImplicit false

namespace Katzenpost

open Go

structure BloomFilter (F : Type) where
  entries : F → Nat
  maxEntries : F → Nat
  test : F → Bytes → Bool
  add : F → Bytes → F

structure BloomLaws {F : Type} (bloom : BloomFilter F) : Prop where
  added : ∀ f tag, bloom.test (bloom.add f tag) tag = true
  kept : ∀ f tag other, bloom.test f other = true → bloom.test (bloom.add f tag) other = true

-- A key object. The private key is made with the object, so that the object
-- stands for it, until forceClose resets it.
structure MixKey (F : Type) where
  epoch : UInt64
  filter : F
  refCount : Int
  closed : Bool
deriving DecidableEq

abbrev KeyRef := Nat

def tagLength : Nat := 32

def numMixKeys : UInt64 := 3

section MixKey

variable {F : Type} (bloom : BloomFilter F)

def MixKey.isReplay (k : MixKey F) (rawTag : Bytes) : Option (Bool × MixKey F) :=
  if rawTag.length ≠ tagLength then some (true, k)
  else if bloom.entries k.filter ≥ bloom.maxEntries k.filter then none
  else some (bloom.test k.filter rawTag, { k with filter := bloom.add k.filter rawTag })

def int32 (i : Int) : Int := i.bmod (2 ^ 32)

def MixKey.deref (k : MixKey F) : Option (MixKey F) :=
  let i := int32 (k.refCount - 1)
  if i = 0 then some { k with refCount := i, closed := true }
  else if i < 0 then none
  else some { k with refCount := i }

def MixKey.ref (k : MixKey F) : Option (MixKey F) :=
  let i := int32 (k.refCount + 1)
  if i ≤ 1 then none else some { k with refCount := i }

end MixKey

section Store

variable {F : Type}

-- All key objects made so far, and the map of a holder: the store itself, or
-- the shadow of a crypto worker.
abbrev KeyHeap (F : Type) := List (MixKey F)

abbrev KeyMap := GoMap UInt64 KeyRef

def modifyKey (heap : KeyHeap F) (ref : KeyRef) (method : MixKey F → Option (MixKey F)) : Option (KeyHeap F) :=
  match heap[ref]? with
  | none => none
  | some k => (method k).map fun k => heap.set ref k

-- The loops that give up the keys of some epochs: Deref and delete. No two
-- epochs have the same object, so that the order does not matter.
def release (heap : KeyHeap F) (keys : KeyMap) : List UInt64 → Option (KeyHeap F × KeyMap)
  | [] => some (heap, keys)
  | epoch :: rest =>
      match keys[epoch]? with
      | none => release heap keys rest
      | some ref =>
          match modifyKey heap ref MixKey.deref with
          | none => none
          | some heap => release heap (keys.erase epoch) rest

def generatedEpochs (baseEpoch : UInt64) : List UInt64 :=
  if baseEpoch < baseEpoch + numMixKeys then [baseEpoch, baseEpoch + 1, baseEpoch + 2] else []

def generateFrom (new : UInt64 → Option F) (baseEpoch : UInt64) (heap : KeyHeap F) (keys : KeyMap) :
    List UInt64 → Option (KeyHeap F × KeyMap)
  | [] => some (heap, keys)
  | e :: rest =>
      if e ∈ keys then generateFrom new baseEpoch heap keys rest
      else
        match new e with
        | none => release heap keys (generatedEpochs baseEpoch)
        | some filter =>
            generateFrom new baseEpoch (heap ++ [⟨e, filter, 1, false⟩]) (keys.insert e heap.length) rest

def generate (new : UInt64 → Option F) (baseEpoch : UInt64) (heap : KeyHeap F) (keys : KeyMap) :
    Option (KeyHeap F × KeyMap) :=
  generateFrom new baseEpoch heap keys (generatedEpochs baseEpoch)

def prune (epoch : UInt64) (heap : KeyHeap F) (keys : KeyMap) : Option (KeyHeap F × KeyMap) :=
  release heap keys (keys.keys.filter fun idx => idx < epoch - 1)

def releaseAll (heap : KeyHeap F) (keys : KeyMap) : Option (KeyHeap F × KeyMap) := release heap keys keys.keys

def shadowListed (heap : KeyHeap F) (dst : KeyMap) : List (UInt64 × KeyRef) → Option (KeyHeap F × KeyMap)
  | [] => some (heap, dst)
  | (epoch, ref) :: rest =>
      if epoch ∈ dst then shadowListed heap dst rest
      else
        match modifyKey heap ref MixKey.ref with
        | none => none
        | some heap => shadowListed heap (dst.insert epoch ref) rest

-- Shadow: an epoch that is still listed keeps the object dst has for it, also
-- if the store has made another one since.
def shadow (heap : KeyHeap F) (keys dst : KeyMap) : Option (KeyHeap F × KeyMap) :=
  match release heap dst (dst.keys.filter fun epoch => epoch ∉ keys) with
  | none => none
  | some (heap, dst) => shadowListed heap dst keys.toList

def Remembers (bloom : BloomFilter F) (before after : KeyHeap F) : Prop :=
  ∀ (ref : KeyRef) (k : MixKey F), before[ref]? = some k → ∃ k' : MixKey F, after[ref]? = some k' ∧
    ∀ tag, bloom.test k.filter tag = true → bloom.test k'.filter tag = true

end Store

section Remembers

variable {F : Type} (bloom : BloomFilter F)

theorem remembers_refl (heap : KeyHeap F) : Remembers bloom heap heap := fun _ k found => ⟨k, found, fun _ seen => seen⟩

theorem remembers_trans (a b c : KeyHeap F) (first : Remembers bloom a b) (second : Remembers bloom b c) :
    Remembers bloom a c := by
  intro ref k found
  obtain ⟨k', found', seen'⟩ := first ref k found
  obtain ⟨k'', found'', seen''⟩ := second ref k' found'
  exact ⟨k'', found'', fun tag seen => seen'' tag (seen' tag seen)⟩

theorem remembers_append (heap : KeyHeap F) (k : MixKey F) : Remembers bloom heap (heap ++ [k]) := by
  intro ref k' found
  refine ⟨k', ?_, fun _ seen => seen⟩
  rw [List.getElem?_append_left (List.getElem?_eq_some_iff.mp found).1]
  exact found

theorem set_remembers (heap : KeyHeap F) (ref : KeyRef) (k k' : MixKey F) (here : heap[ref]? = some k)
    (keeps : ∀ tag, bloom.test k.filter tag = true → bloom.test k'.filter tag = true) :
    Remembers bloom heap (heap.set ref k') := by
  intro other found lookup
  by_cases same : other = ref
  · cases same
    cases here.symm.trans lookup
    exact ⟨k', List.getElem?_set_self (List.getElem?_eq_some_iff.mp here).1, keeps⟩
  · exact ⟨found, by rw [List.getElem?_set_ne (Ne.symm same), lookup], fun _ seen => seen⟩

theorem modify_key_remembers (heap after : KeyHeap F) (ref : KeyRef) (method : MixKey F → Option (MixKey F))
    (keeps : ∀ k k', method k = some k' → k'.filter = k.filter)
    (modified : modifyKey heap ref method = some after) : Remembers bloom heap after := by
  unfold modifyKey at modified
  cases here : heap[ref]? with
  | none => simp [here] at modified
  | some k =>
      simp only [here, Option.map_eq_some_iff] at modified
      obtain ⟨k', called, rfl⟩ := modified
      apply set_remembers bloom heap ref k k' here
      intro tag seen
      rw [keeps k k' called]
      exact seen

theorem deref_filter (k k' : MixKey F) (called : k.deref = some k') : k'.filter = k.filter := by
  simp only [MixKey.deref] at called
  split at called
  · cases called
    rfl
  · split at called
    · cases called
    · cases called
      rfl

theorem ref_filter (k k' : MixKey F) (called : k.ref = some k') : k'.filter = k.filter := by
  simp only [MixKey.ref] at called
  split at called
  · cases called
  · cases called
    rfl

theorem release_remembers (heap after : KeyHeap F) (keys keys' : KeyMap) (epochs : List UInt64)
    (released : release heap keys epochs = some (after, keys')) : Remembers bloom heap after := by
  induction epochs generalizing heap keys with
  | nil =>
      cases released
      exact remembers_refl bloom after
  | cons epoch rest ih =>
      rw [release] at released
      split at released
      · exact ih heap keys released
      · split at released
        · cases released
        · rename_i mid modified
          have first := modify_key_remembers bloom heap mid _ MixKey.deref deref_filter modified
          exact remembers_trans bloom _ _ _ first (ih mid _ released)

theorem generate_from_remembers (new : UInt64 → Option F) (baseEpoch : UInt64) (heap after : KeyHeap F)
    (keys keys' : KeyMap) (epochs : List UInt64)
    (generated : generateFrom new baseEpoch heap keys epochs = some (after, keys')) : Remembers bloom heap after := by
  induction epochs generalizing heap keys with
  | nil =>
      cases generated
      exact remembers_refl bloom after
  | cons e rest ih =>
      rw [generateFrom] at generated
      split at generated
      · exact ih heap keys generated
      · split at generated
        · exact release_remembers bloom _ _ _ _ _ generated
        · exact remembers_trans bloom _ _ _ (remembers_append bloom heap _) (ih _ _ generated)

theorem shadow_listed_remembers (heap after : KeyHeap F) (dst dst' : KeyMap) (listed : List (UInt64 × KeyRef))
    (shadowed : shadowListed heap dst listed = some (after, dst')) : Remembers bloom heap after := by
  induction listed generalizing heap dst with
  | nil =>
      cases shadowed
      exact remembers_refl bloom after
  | cons entry rest ih =>
      rw [shadowListed] at shadowed
      split at shadowed
      · exact ih heap dst shadowed
      · split at shadowed
        · cases shadowed
        · rename_i mid modified
          have first := modify_key_remembers bloom heap mid _ MixKey.ref ref_filter modified
          exact remembers_trans bloom _ _ _ first (ih mid _ shadowed)

theorem shadow_remembers (heap after : KeyHeap F) (keys dst dst' : KeyMap)
    (shadowed : shadow heap keys dst = some (after, dst')) : Remembers bloom heap after := by
  unfold shadow at shadowed
  split at shadowed
  · cases shadowed
  · rename_i mid kept released
    exact remembers_trans bloom _ _ _ (release_remembers bloom _ _ _ _ _ released)
      (shadow_listed_remembers bloom _ _ _ _ _ shadowed)

theorem is_replay_sets (laws : BloomLaws bloom) (k k' : MixKey F) (tag : Bytes) (replay : Bool)
    (checked : k.isReplay bloom tag = some (replay, k')) :
    (∀ other, bloom.test k.filter other = true → bloom.test k'.filter other = true) ∧
      (replay = false → bloom.test k.filter tag = false ∧ bloom.test k'.filter tag = true) := by
  simp only [MixKey.isReplay] at checked
  split at checked
  · cases checked
    exact ⟨fun _ seen => seen, fun impossible => nomatch impossible⟩
  · split at checked
    · cases checked
    · cases checked
      exact ⟨laws.kept k.filter tag, fun fresh => ⟨fresh, laws.added k.filter tag⟩⟩

end Remembers

end Katzenpost
