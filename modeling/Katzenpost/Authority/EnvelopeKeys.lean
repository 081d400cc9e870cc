import Katzenpost.Go.Cells
import Katzenpost.Core.Types

set_option autoImplicit false

namespace Katzenpost

open Go Std

structure EnvelopeRanges where
  cached : ReplicaDescriptor → Range UInt64 Bytes
  added : ReplicaDescriptor → Range UInt64 Bytes
  cache : Range UInt8 (GoMap UInt64 Bytes)
  cacheKeys : UInt8 → Range UInt64 Bytes

def minReplicaEpoch (current : UInt64) : UInt64 := if current > 0 then current - 1 else 0

def addKey (minEpoch maxEpoch : UInt64) (replicaID : UInt8) (result : EnvelopeKeys) (entry : UInt64 × Bytes) :
    EnvelopeKeys :=
  if entry.1 < minEpoch ∨ entry.1 > maxEpoch then result
  else
    let keys := result.getD replicaID ∅
    result.insert replicaID (if entry.1 ∈ keys then keys else keys.insert entry.1 entry.2)

def cacheEnvelopeKeys (r : Range UInt64 Bytes) (cache : EnvelopeKeys) (desc : ReplicaDescriptor) : EnvelopeKeys :=
  cache.insert desc.replicaID ((r.order (desc.envelopeKeys.getD ∅)).foldl
    (fun keys entry => keys.insert entry.1 entry.2) (cache.getD desc.replicaID ∅))

-- One cached key: in range it supplements the result, below it is pruned.
def supplementKey (minEpoch maxEpoch : UInt64) (replicaID : UInt8) (acc : EnvelopeKeys × EnvelopeKeys)
    (entry : UInt64 × Bytes) : EnvelopeKeys × EnvelopeKeys :=
  if entry.1 ≥ minEpoch ∧ entry.1 ≤ maxEpoch then (acc.1, addKey minEpoch maxEpoch replicaID acc.2 entry)
  else if entry.1 < minEpoch then (acc.1.insert replicaID ((acc.1.getD replicaID ∅).erase entry.1), acc.2)
  else acc

-- Returns the cache and the keys for the document.
def buildReplicaEnvelopeKeys (r : EnvelopeRanges) (cache : EnvelopeKeys) (tallied : List ReplicaDescriptor)
    (current : UInt64) : EnvelopeKeys × EnvelopeKeys :=
  let minEpoch := minReplicaEpoch current
  let maxEpoch := current + 1
  let authoritative := tallied.foldl (fun (acc : EnvelopeKeys × EnvelopeKeys) desc =>
    (cacheEnvelopeKeys (r.cached desc) acc.1 desc,
      ((r.added desc).order (desc.envelopeKeys.getD ∅)).foldl (addKey minEpoch maxEpoch desc.replicaID) acc.2)) (cache, ∅)
  (r.cache.order authoritative.1).foldl (fun acc entry =>
    ((r.cacheKeys entry.1).order entry.2).foldl (supplementKey minEpoch maxEpoch entry.1) acc) authoritative

def descriptorKeys (desc : ReplicaDescriptor) : GoMap UInt64 Bytes := desc.envelopeKeys.getD ∅

def talliedKey (tallied : List ReplicaDescriptor) (replicaID : UInt8) (epoch : UInt64) : Option Bytes :=
  source (·.replicaID) descriptorKeys tallied replicaID epoch

def addWrite (minEpoch maxEpoch epoch : UInt64) (key : Bytes) (old : Option Bytes) : Option Bytes :=
  if epoch < minEpoch ∨ epoch > maxEpoch then old else old.or (some key)

def cacheWrite (_epoch : UInt64) (key : Bytes) (_old : Option Bytes) : Option Bytes := some key

def pruneWrite (minEpoch epoch : UInt64) (_key : Bytes) (old : Option Bytes) : Option Bytes :=
  if epoch < minEpoch then none else old

theorem add_key_cell (minEpoch maxEpoch : UInt64) (replicaID : UInt8) (result : EnvelopeKeys) (entry : UInt64 × Bytes)
    (other : UInt8) (epoch : UInt64) :
    cell (addKey minEpoch maxEpoch replicaID result entry) other epoch =
      if replicaID = other ∧ entry.1 = epoch then addWrite minEpoch maxEpoch entry.1 entry.2 (cell result other epoch)
      else cell result other epoch := by
  unfold addKey addWrite
  by_cases outside : entry.1 < minEpoch ∨ entry.1 > maxEpoch
  · simp only [if_pos outside, ite_self]
  · rw [if_neg outside, if_neg outside, cell_insert]
    by_cases same : replicaID = other
    · subst same
      rw [if_pos rfl]
      by_cases present : entry.1 ∈ result.getD replicaID ∅
      · obtain ⟨value, found⟩ := (mem_iff_lookup _ _).mp present
        rw [if_pos present]
        by_cases here : entry.1 = epoch
        · rw [if_pos ⟨rfl, here⟩, ← here, cell, found, Option.some_or]
        · rw [if_neg fun h => here h.2, cell]
      · have missing : (result.getD replicaID ∅)[entry.1]? = none := ExtTreeMap.getElem?_eq_none present
        rw [if_neg present, lookup_insert]
        by_cases here : entry.1 = epoch
        · rw [if_pos here, if_pos ⟨rfl, here⟩, ← here, cell, missing, Option.none_or]
        · rw [if_neg here, if_neg fun h => here h.2, cell]
    · rw [if_neg same, if_neg fun h => same h.1]

theorem added_cells (minEpoch maxEpoch : UInt64) (r : Range UInt64 Bytes) (keys : GoMap UInt64 Bytes) (result : EnvelopeKeys)
    (replicaID other : UInt8) (epoch : UInt64) :
    cell ((r.order keys).foldl (addKey minEpoch maxEpoch replicaID) result) other epoch =
      if replicaID = other then overwrite (addWrite minEpoch maxEpoch) epoch keys[epoch]? (cell result other epoch)
      else cell result other epoch :=
  cell_range (addKey minEpoch maxEpoch) (addWrite minEpoch maxEpoch)
    (fun replicaID m entry other key => add_key_cell minEpoch maxEpoch replicaID m entry other key)
    r keys result replicaID other epoch

theorem cached_cells (r : Range UInt64 Bytes) (cache : EnvelopeKeys) (desc : ReplicaDescriptor) (other : UInt8)
    (epoch : UInt64) :
    cell (cacheEnvelopeKeys r cache desc) other epoch =
      if desc.replicaID = other then overwrite cacheWrite epoch (descriptorKeys desc)[epoch]? (cell cache other epoch)
      else cell cache other epoch := by
  unfold cacheEnvelopeKeys
  rw [cell_insert]
  by_cases same : desc.replicaID = other
  · rw [if_pos same, if_pos same, ← same]
    have inserted := read_foldl (fun (keys : GoMap UInt64 Bytes) k => keys[k]?) (fun keys entry => keys.insert entry.1 entry.2)
      Prod.fst (fun entry _ => some entry.2) (fun keys entry k => lookup_insert keys entry.1 k entry.2)
      (r.order (descriptorKeys desc)) (order_keys_nodup r _) (cache.getD desc.replicaID ∅) epoch
    rw [order_find] at inserted
    rw [← descriptorKeys, inserted]
    cases (descriptorKeys desc)[epoch]? <;> rfl
  · rw [if_neg same, if_neg same]

def pruneKey (minEpoch : UInt64) (replicaID : UInt8) (cache : EnvelopeKeys) (entry : UInt64 × Bytes) : EnvelopeKeys :=
  if entry.1 < minEpoch then cache.insert replicaID ((cache.getD replicaID ∅).erase entry.1) else cache

theorem supplement_key (minEpoch maxEpoch : UInt64) (replicaID : UInt8) (acc : EnvelopeKeys × EnvelopeKeys)
    (entry : UInt64 × Bytes) :
    supplementKey minEpoch maxEpoch replicaID acc entry =
      (pruneKey minEpoch replicaID acc.1 entry, addKey minEpoch maxEpoch replicaID acc.2 entry) := by
  unfold supplementKey pruneKey
  by_cases old : entry.1 < minEpoch
  · have outside : ¬ (entry.1 ≥ minEpoch ∧ entry.1 ≤ maxEpoch) := fun h => UInt64.not_lt.mpr h.1 old
    rw [if_neg outside, if_pos old, if_pos old, addKey, if_pos (.inl old)]
  · by_cases late : entry.1 > maxEpoch
    · have outside : ¬ (entry.1 ≥ minEpoch ∧ entry.1 ≤ maxEpoch) := fun h => UInt64.not_lt.mpr h.2 late
      rw [if_neg outside, if_neg old, if_neg old, addKey, if_pos (.inr late)]
    · rw [if_pos ⟨UInt64.not_lt.mp old, UInt64.not_lt.mp late⟩, if_neg old]

theorem prune_key_cell (minEpoch : UInt64) (replicaID : UInt8) (cache : EnvelopeKeys) (entry : UInt64 × Bytes)
    (other : UInt8) (epoch : UInt64) :
    cell (pruneKey minEpoch replicaID cache entry) other epoch =
      if replicaID = other ∧ entry.1 = epoch then pruneWrite minEpoch entry.1 entry.2 (cell cache other epoch)
      else cell cache other epoch := by
  unfold pruneKey pruneWrite
  by_cases old : entry.1 < minEpoch
  · rw [if_pos old, if_pos old, cell_insert]
    by_cases same : replicaID = other
    · subst same
      by_cases here : entry.1 = epoch
      · rw [if_pos rfl, if_pos ⟨rfl, here⟩, lookup_erase, if_pos here]
      · rw [if_pos rfl, if_neg fun h => here h.2, lookup_erase, if_neg here, cell]
    · rw [if_neg same, if_neg fun h => same h.1]
  · simp only [if_neg old, ite_self]

theorem pruned_cells (minEpoch : UInt64) (r : Range UInt64 Bytes) (keys : GoMap UInt64 Bytes) (cache : EnvelopeKeys)
    (replicaID other : UInt8) (epoch : UInt64) :
    cell ((r.order keys).foldl (pruneKey minEpoch replicaID) cache) other epoch =
      if replicaID = other then overwrite (pruneWrite minEpoch) epoch keys[epoch]? (cell cache other epoch)
      else cell cache other epoch :=
  cell_range (pruneKey minEpoch) (pruneWrite minEpoch)
    (fun replicaID m entry other key => prune_key_cell minEpoch replicaID m entry other key)
    r keys cache replicaID other epoch

def cacheTally (r : EnvelopeRanges) (cache : EnvelopeKeys) (tallied : List ReplicaDescriptor) : EnvelopeKeys :=
  tallied.foldl (fun acc desc => cacheEnvelopeKeys (r.cached desc) acc desc) cache

def addTally (r : EnvelopeRanges) (minEpoch maxEpoch : UInt64) (tallied : List ReplicaDescriptor) : EnvelopeKeys :=
  tallied.foldl (fun acc desc =>
    ((r.added desc).order (descriptorKeys desc)).foldl (addKey minEpoch maxEpoch desc.replicaID) acc) ∅

theorem build_envelope_keys (r : EnvelopeRanges) (cache : EnvelopeKeys) (tallied : List ReplicaDescriptor) (current : UInt64) :
    buildReplicaEnvelopeKeys r cache tallied current =
      ((r.cache.order (cacheTally r cache tallied)).foldl (fun acc entry =>
          ((r.cacheKeys entry.1).order entry.2).foldl (pruneKey (minReplicaEpoch current) entry.1) acc)
        (cacheTally r cache tallied),
       (r.cache.order (cacheTally r cache tallied)).foldl (fun acc entry =>
          ((r.cacheKeys entry.1).order entry.2).foldl (addKey (minReplicaEpoch current) (current + 1) entry.1) acc)
        (addTally r (minReplicaEpoch current) (current + 1) tallied)) := by
  have tally : tallied.foldl (fun (acc : EnvelopeKeys × EnvelopeKeys) desc =>
      (cacheEnvelopeKeys (r.cached desc) acc.1 desc, ((r.added desc).order (desc.envelopeKeys.getD ∅)).foldl
        (addKey (minReplicaEpoch current) (current + 1) desc.replicaID) acc.2)) (cache, ∅) =
      (cacheTally r cache tallied, addTally r (minReplicaEpoch current) (current + 1) tallied) :=
    List.foldl_hom₂ tallied Prod.mk _ _ _ cache ∅ fun _ _ _ => rfl
  unfold buildReplicaEnvelopeKeys
  dsimp only
  rw [tally]
  refine List.foldl_hom₂ _ Prod.mk _ _ _ _ _ fun pruned added entry => ?_
  refine (List.foldl_hom₂ _ Prod.mk _ _ _ _ _ fun pruned added key => ?_).symm
  rw [supplement_key]

theorem cache_tally_cell (r : EnvelopeRanges) (cache : EnvelopeKeys) (tallied : List ReplicaDescriptor)
    (distinct : (tallied.map (·.replicaID)).Nodup) (replicaID : UInt8) (epoch : UInt64) :
    cell (cacheTally r cache tallied) replicaID epoch =
      (talliedKey tallied replicaID epoch).or (cell cache replicaID epoch) := by
  rw [cacheTally, cell_items (·.replicaID) descriptorKeys cacheWrite _
    (fun m desc other key => cached_cells (r.cached desc) m desc other key) tallied distinct, talliedKey]
  cases source (·.replicaID) descriptorKeys tallied replicaID epoch <;> rfl

theorem add_tally_cell (r : EnvelopeRanges) (minEpoch maxEpoch : UInt64) (tallied : List ReplicaDescriptor)
    (distinct : (tallied.map (·.replicaID)).Nodup) (replicaID : UInt8) (epoch : UInt64) :
    cell (addTally r minEpoch maxEpoch tallied) replicaID epoch =
      overwrite (addWrite minEpoch maxEpoch) epoch (talliedKey tallied replicaID epoch) none := by
  rw [addTally, cell_items (·.replicaID) descriptorKeys (addWrite minEpoch maxEpoch) _
    (fun m desc other key => added_cells minEpoch maxEpoch (r.added desc) (descriptorKeys desc) m desc.replicaID other key)
    tallied distinct, cell_empty, talliedKey]

theorem document_key (r : EnvelopeRanges) (cache : EnvelopeKeys) (tallied : List ReplicaDescriptor) (current : UInt64)
    (distinct : (tallied.map (·.replicaID)).Nodup) (replicaID : UInt8) (epoch : UInt64) :
    cell (buildReplicaEnvelopeKeys r cache tallied current).2 replicaID epoch =
      if epoch < minReplicaEpoch current ∨ epoch > current + 1 then none
      else (talliedKey tallied replicaID epoch).or (cell cache replicaID epoch) := by
  rw [build_envelope_keys, cell_items Prod.fst Prod.snd (addWrite (minReplicaEpoch current) (current + 1)) _
    (fun m entry other key => added_cells _ _ (r.cacheKeys entry.1) entry.2 m entry.1 other key) _
    (order_keys_nodup r.cache _), source_order, cache_tally_cell r cache tallied distinct,
    add_tally_cell r _ _ tallied distinct]
  by_cases outside : epoch < minReplicaEpoch current ∨ epoch > current + 1
  · cases talliedKey tallied replicaID epoch <;> cases cell cache replicaID epoch <;>
      simp [overwrite, addWrite, outside]
  · cases talliedKey tallied replicaID epoch <;> cases cell cache replicaID epoch <;>
      simp only [overwrite, addWrite, if_neg outside, Option.elim, Option.or]

theorem cache_key (r : EnvelopeRanges) (cache : EnvelopeKeys) (tallied : List ReplicaDescriptor) (current : UInt64)
    (distinct : (tallied.map (·.replicaID)).Nodup) (replicaID : UInt8) (epoch : UInt64) :
    cell (buildReplicaEnvelopeKeys r cache tallied current).1 replicaID epoch =
      if epoch < minReplicaEpoch current then none
      else (talliedKey tallied replicaID epoch).or (cell cache replicaID epoch) := by
  rw [build_envelope_keys, cell_items Prod.fst Prod.snd (pruneWrite (minReplicaEpoch current)) _
    (fun m entry other key => pruned_cells _ (r.cacheKeys entry.1) entry.2 m entry.1 other key) _
    (order_keys_nodup r.cache _), source_order, cache_tally_cell r cache tallied distinct]
  cases (talliedKey tallied replicaID epoch).or (cell cache replicaID epoch) <;> simp [overwrite, pruneWrite]

theorem min_replica_epoch (current : UInt64) : (minReplicaEpoch current).toNat = current.toNat - 1 := by
  unfold minReplicaEpoch
  by_cases positive : current > 0
  · rw [if_pos positive, UInt64.toNat_sub_of_le]
    · rfl
    · exact UInt64.le_iff_toNat_le.mpr (UInt64.lt_iff_toNat_lt.mp positive)
  · have zero : current.toNat = 0 := Nat.le_zero.mp (Nat.not_lt.mp fun h => positive (UInt64.lt_iff_toNat_lt.mpr h))
    rw [if_neg positive, zero]
    rfl

def ascendingEnvelopes : EnvelopeRanges := ⟨fun _ => ascending, fun _ => ascending, ascending, fun _ => ascending⟩

def keyed (replicaID : UInt8) (epoch : UInt64) (key : Bytes) : ReplicaDescriptor :=
  ⟨[], replicaID, 0, none, none, some ((∅ : GoMap UInt64 Bytes).insert epoch key), ∅⟩

def oneCached (replicaID : UInt8) (epoch : UInt64) (key : Bytes) : EnvelopeKeys :=
  (∅ : EnvelopeKeys).insert replicaID ((∅ : GoMap UInt64 Bytes).insert epoch key)

end Katzenpost
