import Katzenpost.Core.Types
import Katzenpost.Go.While
import Katzenpost.Pigeonhole.Messages
import Katzenpost.Replica.Sharding

set_option autoImplicit false

namespace Katzenpost.Pigeonhole

open Go

section Shards

variable (sum256 : Bytes → Fixed 32)

def getConfiguredReplicaKeys (doc : Document) : Except String (List Bytes) :=
  if doc.configuredReplicaIdentityKeys.length < 2 then .error "GetConfiguredReplicaKeys: insufficient configured replicas"
  else .ok doc.configuredReplicaIdentityKeys

def replicaNodeByKeyHash (keyHash : Fixed 32) : List ReplicaDescriptor → Except String ReplicaDescriptor
  | [] => .error "pki: replica not found"
  | v :: rest =>
      match v.identityKey with
      | none => .error "pki: document contains invalid descriptors"
      | some key => if sum256 key = keyHash then .ok v else replicaNodeByKeyHash keyHash rest

-- A replica that is not in the document is offline and left out.
def getShards (boxID : Fixed 32) (doc : Document) : Except String (List ReplicaDescriptor) := do
  let replicaKeys ← getConfiguredReplicaKeys doc
  let shards := (Replica.shard2 sum256 boxID replicaKeys).filterMap fun key =>
    (replicaNodeByKeyHash sum256 (sum256 (key.getD [])) doc.storageReplicas).toOption
  if shards.length = 0 then .error "GetShards: no shard replicas are currently online" else .ok shards

end Shards

section Random

variable (draws : Nat → UInt64)

def accepted (n : Nat) (v : UInt64) : Bool :=
  let un := UInt64.ofNat n
  let r := (0 - un) % un
  r = 0 ∨ v < 0 - r

def drawnIndex (n : Nat) (v : UInt64) : Nat := (v % UInt64.ofNat n).toNat

def drawIndex (n : Nat) : Nat → Nat → Except (Stop String) (Nat × Nat)
  | 0, _ => .error .unfinished
  | fuel + 1, pos => if accepted n (draws pos) then .ok (drawnIndex n (draws pos), pos + 1) else drawIndex n fuel (pos + 1)

def cryptoRandIndex (n fuel pos : Nat) : Except (Stop String) (Nat × Nat) :=
  if n = 0 then .error (.fails s!"CryptoRandIndex: n must be > 0, got {n}") else drawIndex draws n fuel pos

-- The inner loop may take as many turns as the outer one.
def pickLoop (allReplicaIDs exclude : List UInt8) (turns : Nat) : Nat → Nat → Except (Stop String) (UInt8 × Nat)
  | 0, _ => .error .unfinished
  | fuel + 1, pos => do
      let (idx, next) ← cryptoRandIndex draws allReplicaIDs.length turns pos
      match allReplicaIDs[idx]? with
      | none => .error .outOfRange
      | some candidate => if candidate ∈ exclude then pickLoop allReplicaIDs exclude turns fuel next else .ok (candidate, next)

def pickRandomReplicaID (allReplicaIDs exclude : List UInt8) (fuel pos : Nat) : Except (Stop String) (UInt8 × Nat) :=
  pickLoop draws allReplicaIDs exclude fuel fuel pos

end Random

section Intermediates

variable {κ : Type}

variable (sum256 : Bytes → Fixed 32) (unmarshal : Bytes → Option κ) (replicaEpoch : UInt64) (doc : Document)

def replicaNum (replicaID : UInt8) : Except String ReplicaDescriptor :=
  match doc.storageReplicas.find? (·.replicaID = replicaID) with
  | none => .error s!"replica with ID {replicaID} not found"
  | some replica => .ok replica

def envelopeKey (replicaNum : UInt8) (desc : ReplicaDescriptor) : Except String κ :=
  match (desc.envelopeKeys.getD ∅)[replicaEpoch]? with
  | none => .error s!"no envelope key found for replica {replicaNum} at epoch {replicaEpoch}"
  | some keyBytes =>
      if keyBytes.length = 0 then .error s!"empty envelope key for replica {replicaNum} at epoch {replicaEpoch}"
      else match unmarshal keyBytes with
        | none => .error s!"failed to unmarshal key for replica {replicaNum} (keySize={keyBytes.length})"
        | some key => .ok key

def replicaPubKey (replicaID : UInt8) : Except String κ := do
  let desc ← replicaNum doc replicaID
  envelopeKey unmarshal replicaEpoch replicaID desc

def getReplicaPubKeys (replica1 replica2 : UInt8) : Except String (κ × κ) := do
  let key1 ← replicaPubKey unmarshal replicaEpoch doc replica1
  let key2 ← replicaPubKey unmarshal replicaEpoch doc replica2
  return (key1, key2)

def shardReplicaIDs (shards : List ReplicaDescriptor) : List UInt8 :=
  shards.filterMap fun shard => (doc.storageReplicas.find? fun replica => shard.identity = replica.identity).map (·.replicaID)

structure Intermediates (κ : Type) where
  replica1 : UInt8
  replica2 : UInt8
  keys : κ × κ

def withKeys (replica1 replica2 : UInt8) : Except (Stop String) (Intermediates κ) :=
  match getReplicaPubKeys unmarshal replicaEpoch doc replica1 replica2 with
  | .error err => .error (.fails err)
  | .ok keys => .ok ⟨replica1, replica2, keys⟩

def getRandomIntermediateReplicas (draws : Nat → UInt64) (boxID : Fixed 32) (pos fuel : Nat) : Except (Stop String) (Intermediates κ) :=
  let numReplicas := UInt8.ofNat doc.storageReplicas.length
  match getShards sum256 boxID doc with
  | .error err => .error (.fails err)
  | .ok shards =>
      let shardIDs := shardReplicaIDs doc shards
      let allReplicaIDs := doc.storageReplicas.map (·.replicaID)
      if numReplicas < 2 then .error (.fails "insufficient storage replicas: need at least 2 replicas")
      else if numReplicas = 2 then
        match allReplicaIDs with
        | replica1 :: replica2 :: _ => withKeys unmarshal replicaEpoch doc replica1 replica2
        | _ => .error .outOfRange
      else if numReplicas = 3 then
        match shardIDs with
        | replica1 :: _ => do
            let (replica2, _) ← pickRandomReplicaID draws allReplicaIDs [replica1] fuel pos
            withKeys unmarshal replicaEpoch doc replica1 replica2
        | [] => do
            let (replica1, next) ← pickRandomReplicaID draws allReplicaIDs [] fuel pos
            let (replica2, _) ← pickRandomReplicaID draws allReplicaIDs [replica1] fuel next
            withKeys unmarshal replicaEpoch doc replica1 replica2
      else do
        let (replica1, next) ← pickRandomReplicaID draws allReplicaIDs shardIDs fuel pos
        let (replica2, _) ← pickRandomReplicaID draws allReplicaIDs (replica1 :: shardIDs) fuel next
        withKeys unmarshal replicaEpoch doc replica1 replica2

end Intermediates

def Fair (draws : Nat → UInt64) (n : Nat) : Prop :=
  ∀ pos idx, idx < n → ∃ q, pos ≤ q ∧ accepted n (draws q) = true ∧ drawnIndex n (draws q) = idx

section Picks

variable {draws : Nat → UInt64}

theorem drawn_index_lt (n : Nat) (positive : 0 < n) (small : n < 2 ^ 64) (v : UInt64) : drawnIndex n v < n := by
  rw [drawnIndex, UInt64.toNat_mod, UInt64.toNat_ofNat_of_lt' small]
  exact Nat.mod_lt _ positive

theorem draw_index_ends (n q pos : Nat) (reach : pos ≤ q) (good : accepted n (draws q) = true) :
    ∃ p, pos ≤ p ∧ p ≤ q ∧ accepted n (draws p) = true ∧
      ∀ fuel, q < fuel + pos → drawIndex draws n fuel pos = .ok (drawnIndex n (draws p), p + 1) := by
  induction left : q - pos generalizing pos with
  | zero =>
      have same : pos = q := by omega
      subst same
      refine ⟨pos, le_rfl, le_rfl, good, fun fuel enough => ?_⟩
      obtain ⟨k, rfl⟩ := Nat.exists_eq_add_of_le' (by omega : 1 ≤ fuel)
      rw [drawIndex, if_pos good]
  | succ left ih =>
      cases here : accepted n (draws pos) with
      | true =>
          refine ⟨pos, le_rfl, reach, here, fun fuel enough => ?_⟩
          obtain ⟨k, rfl⟩ := Nat.exists_eq_add_of_le' (by omega : 1 ≤ fuel)
          rw [drawIndex, if_pos here]
      | false =>
          obtain ⟨p, after, before, found, ends⟩ := ih (pos + 1) (by omega) (by omega)
          refine ⟨p, by omega, before, found, fun fuel enough => ?_⟩
          obtain ⟨k, rfl⟩ := Nat.exists_eq_add_of_le' (by omega : 1 ≤ fuel)
          rw [drawIndex, here, if_neg Bool.false_ne_true]
          exact ends k (by omega)

theorem pick_loop_ends (ids exclude : List UInt8) (some : 0 < ids.length) (small : ids.length < 2 ^ 64) (q pos : Nat) (reach : pos ≤ q)
    (good : accepted ids.length (draws q) = true) (admissible : ∀ id, ids[drawnIndex ids.length (draws q)]? = .some id → id ∉ exclude) :
    ∃ id next, id ∈ ids ∧ id ∉ exclude ∧
      ∀ turns fuel, q < turns → q < fuel + pos → pickLoop draws ids exclude turns fuel pos = .ok (id, next) := by
  induction left : q - pos using Nat.strong_induction_on generalizing pos with
  | _ left ih =>
      obtain ⟨p, after, before, found, ends⟩ := draw_index_ends ids.length q pos reach good
      have drawn : ∀ turns, q < turns → cryptoRandIndex draws ids.length turns pos = .ok (drawnIndex ids.length (draws p), p + 1) := by
        intro turns enough
        rw [cryptoRandIndex, if_neg some.ne']
        exact ends turns (by omega)
      have inside := drawn_index_lt ids.length some small (draws p)
      obtain ⟨candidate, entry⟩ : ∃ candidate, ids[drawnIndex ids.length (draws p)]? = .some candidate :=
        ⟨_, List.getElem?_eq_getElem inside⟩
      by_cases excluded : candidate ∈ exclude
      · have earlier : p ≠ q := by
          rintro rfl
          exact admissible candidate entry excluded
        obtain ⟨id, next, member, outside, rest⟩ := ih (q - (p + 1)) (by omega) (p + 1) (by omega) rfl
        refine ⟨id, next, member, outside, fun turns fuel many enough => ?_⟩
        obtain ⟨k, rfl⟩ := Nat.exists_eq_add_of_le' (by omega : 1 ≤ fuel)
        rw [pickLoop, drawn turns many]
        simp only [bind, Except.bind, entry, excluded, if_true]
        exact rest turns k many (by omega)
      · refine ⟨candidate, p + 1, List.mem_of_getElem? entry, excluded, fun turns fuel many enough => ?_⟩
        obtain ⟨k, rfl⟩ := Nat.exists_eq_add_of_le' (by omega : 1 ≤ fuel)
        rw [pickLoop, drawn turns many]
        simp only [bind, Except.bind, entry, excluded, if_false]

variable (draws) in
theorem pick_settles (ids exclude : List UInt8) (small : ids.length < 2 ^ 64) (fair : Fair draws ids.length)
    (candidate : ∃ id ∈ ids, id ∉ exclude) (pos : Nat) :
    ∃ id next, Settles (fun fuel => pickRandomReplicaID draws ids exclude fuel pos) (.ok (id, next)) ∧ id ∈ ids ∧ id ∉ exclude := by
  obtain ⟨good, member, outside⟩ := candidate
  obtain ⟨index, inside, entry⟩ := List.mem_iff_getElem.mp member
  obtain ⟨q, reach, found, drawn⟩ := fair pos index inside
  obtain ⟨id, next, member, admissible, ends⟩ := pick_loop_ends ids exclude (Nat.zero_lt_of_lt inside) small q pos reach found (by
    intro id listed
    rw [drawn, List.getElem?_eq_getElem inside, entry, Option.some_inj] at listed
    exact listed ▸ outside)
  exact ⟨id, next, ⟨q + 1, fun fuel enough => ends fuel fuel enough (by omega)⟩, member, admissible⟩

theorem someone_left (ids exclude : List UInt8) (distinct : ids.Nodup) (fewer : exclude.length < ids.length) :
    ∃ id ∈ ids, id ∉ exclude := by
  by_contra none
  push Not at none
  have bound := (distinct.subperm none).length_le
  omega

end Picks

section Selection

variable {sum256 : Bytes → Fixed 32} {doc : Document} {boxID : Fixed 32} {shards : List ReplicaDescriptor}

theorem node_by_key_hash_mem (keyHash : Fixed 32) (nodes : List ReplicaDescriptor) (desc : ReplicaDescriptor)
    (found : replicaNodeByKeyHash sum256 keyHash nodes = .ok desc) : desc ∈ nodes := by
  induction nodes with
  | nil => cases found
  | cons node rest ih =>
      rw [replicaNodeByKeyHash] at found
      split at found
      · cases found
      · split at found
        · cases found
          exact List.mem_cons_self
        · exact List.mem_cons_of_mem node (ih found)

theorem get_shards_ok (found : getShards sum256 boxID doc = .ok shards) :
    shards ≠ [] ∧ shards.length ≤ 2 ∧ ∀ shard ∈ shards, shard ∈ doc.storageReplicas := by
  obtain ⟨keys, _, found⟩ := of_bind_ok _ _ _ found
  dsimp only at found
  split at found
  · cases found
  · rename_i some
    cases found
    refine ⟨fun empty => some (by rw [empty, List.length_nil]), List.length_filterMap_le _ _, fun shard member => ?_⟩
    obtain ⟨key, _, node⟩ := List.mem_filterMap.mp member
    cases looked : replicaNodeByKeyHash sum256 (sum256 (key.getD [])) doc.storageReplicas with
    | error err =>
        rw [looked] at node
        cases node
    | ok desc =>
        rw [looked] at node
        cases node
        exact node_by_key_hash_mem _ _ _ looked

theorem find_own {α κ : Type} [DecidableEq κ] (key : α → κ) (items : List α) (distinct : (items.map key).Nodup) (item : α)
    (member : item ∈ items) : (items.find? fun other => key item = key other) = some item := by
  induction items with
  | nil => cases member
  | cons head rest ih =>
      rw [List.map_cons, List.nodup_cons] at distinct
      rcases List.mem_cons.mp member with rfl | member
      · exact List.find?_cons_of_pos (by simp)
      · have other : key item ≠ key head := fun same => distinct.1 (same ▸ List.mem_map_of_mem member)
        rw [List.find?_cons_of_neg (by simpa using other)]
        exact ih distinct.2 member

theorem shard_replica_ids (distinct : (doc.storageReplicas.map ReplicaDescriptor.identity).Nodup)
    (online : ∀ shard ∈ shards, shard ∈ doc.storageReplicas) :
    shardReplicaIDs doc shards = shards.map (·.replicaID) := by
  rw [shardReplicaIDs, List.filterMap_congr (g := fun shard => some shard.replicaID), List.filterMap_eq_map']
  intro shard member
  rw [find_own ReplicaDescriptor.identity _ distinct shard (online shard member)]
  rfl

end Selection

section Choice

variable {κ : Type} (unmarshal : Bytes → Option κ) (replicaEpoch : UInt64) (doc : Document)

def KeyOf (replicaID : UInt8) (key : κ) : Prop :=
  ∃ desc ∈ doc.storageReplicas, desc.replicaID = replicaID ∧ envelopeKey unmarshal replicaEpoch replicaID desc = .ok key

def MissingKey : Prop :=
  ∃ desc ∈ doc.storageReplicas, ∃ err, (envelopeKey unmarshal replicaEpoch desc.replicaID desc : Except String κ) = .error err

structure SoundChoice (shards : List ReplicaDescriptor) (choice : Intermediates κ) : Prop where
  different : choice.replica1 ≠ choice.replica2
  first : KeyOf unmarshal replicaEpoch doc choice.replica1 choice.keys.1
  second : KeyOf unmarshal replicaEpoch doc choice.replica2 choice.keys.2
  apart : 4 ≤ doc.storageReplicas.length → ∀ shard ∈ shards, choice.replica1 ≠ shard.replicaID ∧ choice.replica2 ≠ shard.replicaID
  three : doc.storageReplicas.length = 3 → ∃ shard ∈ shards, choice.replica1 = shard.replicaID

def Chosen (shards : List ReplicaDescriptor) (outcome : Except (Stop String) (Intermediates κ)) : Prop :=
  (∃ choice, outcome = .ok choice ∧ SoundChoice unmarshal replicaEpoch doc shards choice) ∨
  ∃ err, outcome = .error (.fails err) ∧ MissingKey unmarshal replicaEpoch doc

variable {doc}

theorem replica_pub_key_cases (replicaID : UInt8) (listed : replicaID ∈ doc.storageReplicas.map (·.replicaID)) :
    (∃ key, replicaPubKey unmarshal replicaEpoch doc replicaID = .ok key ∧ KeyOf unmarshal replicaEpoch doc replicaID key) ∨
    ∃ err, replicaPubKey unmarshal replicaEpoch doc replicaID = .error err ∧ MissingKey unmarshal replicaEpoch doc := by
  obtain ⟨node, member, same⟩ := List.mem_map.mp listed
  obtain ⟨desc, found⟩ : ∃ desc, doc.storageReplicas.find? (·.replicaID = replicaID) = some desc :=
    Option.isSome_iff_exists.mp (List.find?_isSome.mpr ⟨node, member, by simpa using same⟩)
  have number : desc.replicaID = replicaID := by simpa using List.find?_some found
  have looked : replicaPubKey unmarshal replicaEpoch doc replicaID = envelopeKey unmarshal replicaEpoch replicaID desc := by
    rw [replicaPubKey, replicaNum, found]
    rfl
  rw [looked]
  cases result : envelopeKey unmarshal replicaEpoch replicaID desc with
  | ok key => exact .inl ⟨key, rfl, desc, List.mem_of_find?_eq_some found, number, result⟩
  | error err => exact .inr ⟨err, rfl, desc, List.mem_of_find?_eq_some found, err, number ▸ result⟩

theorem with_keys_cases (replica1 replica2 : UInt8) (first : replica1 ∈ doc.storageReplicas.map (·.replicaID))
    (second : replica2 ∈ doc.storageReplicas.map (·.replicaID)) :
    (∃ keys, withKeys unmarshal replicaEpoch doc replica1 replica2 = .ok ⟨replica1, replica2, keys⟩ ∧
      KeyOf unmarshal replicaEpoch doc replica1 keys.1 ∧ KeyOf unmarshal replicaEpoch doc replica2 keys.2) ∨
    ∃ err, withKeys unmarshal replicaEpoch doc replica1 replica2 = .error (.fails err) ∧ MissingKey unmarshal replicaEpoch doc := by
  rcases replica_pub_key_cases unmarshal replicaEpoch replica1 first with ⟨key1, got1, own1⟩ | ⟨err, failed, missing⟩
  · rcases replica_pub_key_cases unmarshal replicaEpoch replica2 second with ⟨key2, got2, own2⟩ | ⟨err, failed, missing⟩
    · refine .inl ⟨(key1, key2), ?_, own1, own2⟩
      rw [withKeys, getReplicaPubKeys, got1, got2]
      rfl
    · refine .inr ⟨err, ?_, missing⟩
      rw [withKeys, getReplicaPubKeys, got1, failed]
      rfl
  · refine .inr ⟨err, ?_, missing⟩
    rw [withKeys, getReplicaPubKeys, failed]
    rfl

theorem with_keys_chosen (shards : List ReplicaDescriptor) (replica1 replica2 : UInt8)
    (first : replica1 ∈ doc.storageReplicas.map (·.replicaID)) (second : replica2 ∈ doc.storageReplicas.map (·.replicaID))
    (different : replica1 ≠ replica2)
    (apart : 4 ≤ doc.storageReplicas.length → ∀ shard ∈ shards, replica1 ≠ shard.replicaID ∧ replica2 ≠ shard.replicaID)
    (three : doc.storageReplicas.length = 3 → ∃ shard ∈ shards, replica1 = shard.replicaID) :
    Chosen unmarshal replicaEpoch doc shards (withKeys unmarshal replicaEpoch doc replica1 replica2) := by
  rcases with_keys_cases unmarshal replicaEpoch replica1 replica2 first second with ⟨keys, returned, own1, own2⟩ | failed
  · exact .inl ⟨_, returned, different, own1, own2, apart, three⟩
  · exact .inr failed

variable {sum256 : Bytes → Fixed 32} {boxID : Fixed 32} {shards : List ReplicaDescriptor} {draws : Nat → UInt64}

theorem two_replicas (size : doc.storageReplicas.length = 2) (numbers : (doc.storageReplicas.map (·.replicaID)).Nodup)
    (found : getShards sum256 boxID doc = .ok shards) (pos : Nat) :
    ∃ outcome, Settles (getRandomIntermediateReplicas sum256 unmarshal replicaEpoch doc draws boxID pos) outcome ∧
      Chosen unmarshal replicaEpoch doc shards outcome := by
  obtain ⟨a, b, listed⟩ := List.length_eq_two.mp size
  refine ⟨withKeys unmarshal replicaEpoch doc a.replicaID b.replicaID, ⟨0, fun fuel _ => ?_⟩, ?_⟩
  · rw [getRandomIntermediateReplicas, found, size]
    dsimp only
    rw [if_neg (by decide), if_pos (by decide), listed]
    rfl
  · rw [listed] at numbers
    have different : a.replicaID ≠ b.replicaID := by simpa using numbers
    apply with_keys_chosen unmarshal replicaEpoch
    · rw [listed]
      exact List.mem_cons_self
    · rw [listed]
      exact List.mem_cons_of_mem _ List.mem_cons_self
    · exact different
    · omega
    · omega

theorem three_replicas (size : doc.storageReplicas.length = 3) (numbers : (doc.storageReplicas.map (·.replicaID)).Nodup)
    (identities : (doc.storageReplicas.map ReplicaDescriptor.identity).Nodup)
    (found : getShards sum256 boxID doc = .ok shards) (fair : Fair draws doc.storageReplicas.length) (pos : Nat) :
    ∃ outcome, Settles (getRandomIntermediateReplicas sum256 unmarshal replicaEpoch doc draws boxID pos) outcome ∧
      Chosen unmarshal replicaEpoch doc shards outcome := by
  obtain ⟨some, _, online⟩ := get_shards_ok found
  have ids := shard_replica_ids identities online
  obtain ⟨shard, others, rfl⟩ := List.exists_cons_of_ne_nil some
  have count : (doc.storageReplicas.map (·.replicaID)).length = doc.storageReplicas.length := List.length_map _
  obtain ⟨replica2, next, settles, member, outside⟩ := pick_settles draws (doc.storageReplicas.map (·.replicaID))
    [shard.replicaID] (by rw [count]; omega) (count ▸ fair)
    (someone_left _ _ numbers (by rw [count, size, List.length_singleton]; decide)) pos
  refine ⟨withKeys unmarshal replicaEpoch doc shard.replicaID replica2, ?_, ?_⟩
  · have call : getRandomIntermediateReplicas sum256 unmarshal replicaEpoch doc draws boxID pos = fun fuel =>
        pickRandomReplicaID draws (doc.storageReplicas.map (·.replicaID)) [shard.replicaID] fuel pos >>= fun (replica2, _) =>
          withKeys unmarshal replicaEpoch doc shard.replicaID replica2 := by
      funext fuel
      rw [getRandomIntermediateReplicas, found, size]
      dsimp only
      rw [if_neg (by decide), if_neg (by decide), if_pos (by decide), ids]
      rfl
    rw [call]
    exact settles_bind _ _ (replica2, next) _ settles (settles_const _)
  · apply with_keys_chosen unmarshal replicaEpoch
    · exact List.mem_map_of_mem (online shard List.mem_cons_self)
    · exact member
    · exact fun same => outside (List.mem_singleton.mpr same.symm)
    · omega
    · exact fun _ => ⟨shard, List.mem_cons_self, rfl⟩

theorem more_replicas (size : 4 ≤ doc.storageReplicas.length) (small : doc.storageReplicas.length ≤ 255)
    (numbers : (doc.storageReplicas.map (·.replicaID)).Nodup)
    (identities : (doc.storageReplicas.map ReplicaDescriptor.identity).Nodup)
    (found : getShards sum256 boxID doc = .ok shards) (fair : Fair draws doc.storageReplicas.length) (pos : Nat) :
    ∃ outcome, Settles (getRandomIntermediateReplicas sum256 unmarshal replicaEpoch doc draws boxID pos) outcome ∧
      Chosen unmarshal replicaEpoch doc shards outcome := by
  obtain ⟨_, few, online⟩ := get_shards_ok found
  have ids := shard_replica_ids identities online
  have count : (doc.storageReplicas.map (·.replicaID)).length = doc.storageReplicas.length := List.length_map _
  have shardCount : (shards.map (·.replicaID)).length = shards.length := List.length_map _
  obtain ⟨replica1, next, settles1, member1, outside1⟩ := pick_settles draws (doc.storageReplicas.map (·.replicaID))
    (shards.map (·.replicaID)) (by rw [count]; omega) (count ▸ fair) (someone_left _ _ numbers (by rw [count, shardCount]; omega)) pos
  obtain ⟨replica2, last, settles2, member2, outside2⟩ := pick_settles draws (doc.storageReplicas.map (·.replicaID))
    (replica1 :: shards.map (·.replicaID)) (by rw [count]; omega) (count ▸ fair)
    (someone_left _ _ numbers (by rw [count, List.length_cons, shardCount]; omega)) next
  refine ⟨withKeys unmarshal replicaEpoch doc replica1 replica2, ?_, ?_⟩
  · have call : getRandomIntermediateReplicas sum256 unmarshal replicaEpoch doc draws boxID pos = fun fuel =>
        pickRandomReplicaID draws (doc.storageReplicas.map (·.replicaID)) (shards.map (·.replicaID)) fuel pos >>= fun (replica1, next) =>
          pickRandomReplicaID draws (doc.storageReplicas.map (·.replicaID)) (replica1 :: shards.map (·.replicaID)) fuel next >>=
            fun (replica2, _) => withKeys unmarshal replicaEpoch doc replica1 replica2 := by
      have number : (UInt8.ofNat doc.storageReplicas.length).toNat = doc.storageReplicas.length :=
        UInt8.toNat_ofNat_of_lt' (Nat.lt_succ_of_le small)
      have notFew : ¬ UInt8.ofNat doc.storageReplicas.length < 2 := by
        have two : (2 : UInt8).toNat = 2 := rfl
        rw [UInt8.lt_iff_toNat_lt, number, two]
        omega
      have notTwo : UInt8.ofNat doc.storageReplicas.length ≠ 2 := by
        intro same
        rw [← UInt8.toNat_inj, number] at same
        exact absurd (same ▸ size) (by decide)
      have notThree : UInt8.ofNat doc.storageReplicas.length ≠ 3 := by
        intro same
        rw [← UInt8.toNat_inj, number] at same
        exact absurd (same ▸ size) (by decide)
      funext fuel
      rw [getRandomIntermediateReplicas, found]
      dsimp only
      rw [if_neg notFew, if_neg notTwo, if_neg notThree, ids]
    rw [call]
    exact settles_bind _ _ (replica1, next) _ settles1 (settles_bind _ _ (replica2, last) _ settles2 (settles_const _))
  · apply with_keys_chosen unmarshal replicaEpoch
    · exact member1
    · exact member2
    · exact fun same => outside2 (List.mem_cons.mpr (.inl same.symm))
    · intro _ shard chosen
      have listed : shard.replicaID ∈ shards.map (·.replicaID) := List.mem_map_of_mem chosen
      exact ⟨fun same => outside1 (same ▸ listed), fun same => outside2 (List.mem_cons_of_mem _ (same ▸ listed))⟩
    · omega

end Choice

section Samples

def sampleReplica (n : UInt8) : ReplicaDescriptor := ⟨[n], n, 0, some [n], none, some ((∅ : GoMap UInt64 Bytes).insert 7 [n]), ∅⟩

def fourReplicas : Document :=
  { blankDocument with
    storageReplicas := [sampleReplica 9, sampleReplica 4, sampleReplica 0, sampleReplica 7]
    configuredReplicaIdentityKeys := [[9], [4], [0], [7]] }

def counting (k : Nat) : UInt64 := UInt64.ofNat (k % 4)

theorem counting_fair : Fair counting 4 := by
  intro pos idx inside
  have number : (4 * pos + idx) % 4 = idx := by omega
  refine ⟨4 * pos + idx, by omega, rfl, ?_⟩
  rw [drawnIndex, counting, number, UInt64.toNat_mod, UInt64.toNat_ofNat_of_lt' (by omega : idx < 2 ^ 64)]
  exact Nat.mod_eq_of_lt inside

end Samples

end Katzenpost.Pigeonhole
