import Katzenpost.Go.KeyRange
import Katzenpost.Go.Smallest
import Katzenpost.Go.Sort

set_option autoImplicit false

namespace Katzenpost.Replica

open Go

def slicesCompare (a b : Bytes) : Int :=
  match compare a b with
  | .lt => -1
  | .eq => 0
  | .gt => 1

def maxHash : Fixed 32 := ⟨List.replicate 32 0xff, List.length_replicate⟩

-- The index that a comparison selects: (c & 2) >> 1 of an int.
def cmpIndex (c : Int) : Fin 2 := Fin.ofNat 2 ((BitVec.ofInt 64 c &&& 2) >>> 1).toNat

structure Shards where
  hashes : Fin 2 → Fixed 32
  keys : Fin 2 → Option Bytes

section Sharding

variable (sum256 : Bytes → Fixed 32) (boxID : Fixed 32)

def serverHash (key : Bytes) : Fixed 32 := sum256 (key ++ boxID.bytes)

def shard2Turn (s : Shards) (key : Bytes) : Shards :=
  let hash := serverHash sum256 boxID key
  if slicesCompare (s.hashes 1).bytes hash.bytes = -1 then s
  else
    let cmpidx := cmpIndex (slicesCompare (s.hashes 0).bytes hash.bytes)
    let moved : Shards := ⟨Function.update s.hashes (1 - cmpidx) (s.hashes 0), Function.update s.keys (1 - cmpidx) (s.keys 0)⟩
    ⟨Function.update moved.hashes cmpidx hash, Function.update moved.keys cmpidx (some key)⟩

def shard2 (serverIdKeys : List Bytes) : List (Option Bytes) :=
  let kept := serverIdKeys.foldl (shard2Turn sum256 boxID) ⟨fun _ => maxHash, fun _ => none⟩
  [kept.keys 0, kept.keys 1]

-- Shard; indexing fewer than two servers panics.
def shard (serverIdKeys : List Bytes) : Option (List Bytes) :=
  match sortSlice (keyLE fun key => (serverHash sum256 boxID key).bytes) serverIdKeys with
  | first :: second :: _ => some [first, second]
  | _ => none

def hashRank (key : Bytes) : Nat := bigValue (serverHash sum256 boxID key).bytes

section Hashes

theorem slices_compare_eq (x y : Fixed 32) :
    slicesCompare x.bytes y.bytes =
      if bigValue x.bytes < bigValue y.bytes then -1 else if bigValue x.bytes = bigValue y.bytes then 0 else 1 := by
  rw [slicesCompare, compare_big_value x.bytes y.bytes (x.size.trans y.size.symm)]
  rcases Nat.lt_trichotomy (bigValue x.bytes) (bigValue y.bytes) with less | equal | more
  · rw [Nat.compare_eq_lt.mpr less, if_pos less]
  · rw [Nat.compare_eq_eq.mpr equal, if_neg equal.not_lt, if_pos equal]
  · rw [Nat.compare_eq_gt.mpr more, if_neg more.asymm, if_neg more.ne']

theorem slices_compare_less (x y : Fixed 32) : slicesCompare x.bytes y.bytes = -1 ↔ bigValue x.bytes < bigValue y.bytes := by
  rw [slices_compare_eq]
  split
  · rename_i less
    exact ⟨fun _ => less, fun _ => rfl⟩
  · rename_i notLess
    refine ⟨fun negative => ?_, fun less => absurd less notLess⟩
    split at negative
    · cases negative
    · cases negative

theorem cmp_index_eq (x y : Fixed 32) :
    cmpIndex (slicesCompare x.bytes y.bytes) = if bigValue x.bytes < bigValue y.bytes then 1 else 0 := by
  rw [slices_compare_eq]
  split
  · rfl
  · split
    · rfl
    · rfl

theorem hash_le_rank (x y : Fixed 32) : bytesLE x.bytes y.bytes = true ↔ bigValue x.bytes ≤ bigValue y.bytes := by
  rw [bytesLE, compare_big_value x.bytes y.bytes (x.size.trans y.size.symm), Nat.isLE_compare]

theorem max_hash_rank (x : Fixed 32) : bigValue x.bytes ≤ bigValue maxHash.bytes := by
  have bound := big_value_lt x.bytes
  have highest : bigValue maxHash.bytes = 256 ^ 32 - 1 := by decide +kernel
  rw [x.size] at bound
  omega

theorem hash_rank_injective (x y : Bytes) (same : hashRank sum256 boxID x = hashRank sum256 boxID y) :
    serverHash sum256 boxID x = serverHash sum256 boxID y := by
  have order := compare_big_value (serverHash sum256 boxID x).bytes (serverHash sum256 boxID y).bytes
    ((serverHash sum256 boxID x).size.trans (serverHash sum256 boxID y).size.symm)
  rw [hashRank, hashRank] at same
  rw [same, Nat.compare_eq_eq.mpr rfl] at order
  exact fixed_ext 32 _ _ (Std.LawfulEqOrd.eq_of_compare order)

end Hashes

section Loop

variable {sum256 boxID}

theorem turn_skips (s : Shards) (key : Bytes) (above : bigValue (s.hashes 1).bytes < hashRank sum256 boxID key) :
    shard2Turn sum256 boxID s key = s := by
  rw [shard2Turn, if_pos ((slices_compare_less _ _).mpr above)]

theorem turn_second (s : Shards) (key : Bytes) (below : ¬ bigValue (s.hashes 1).bytes < hashRank sum256 boxID key)
    (above : bigValue (s.hashes 0).bytes < hashRank sum256 boxID key) :
    shard2Turn sum256 boxID s key =
      ⟨Function.update s.hashes 1 (serverHash sum256 boxID key), Function.update s.keys 1 (some key)⟩ := by
  rw [shard2Turn, if_neg (fun less => below ((slices_compare_less _ _).mp less)), cmp_index_eq, if_pos (by exact above)]
  have index : (1 : Fin 2) - 1 = 0 := rfl
  simp only [index, Function.update_eq_self]

theorem turn_first (s : Shards) (key : Bytes) (below : ¬ bigValue (s.hashes 1).bytes < hashRank sum256 boxID key)
    (least : ¬ bigValue (s.hashes 0).bytes < hashRank sum256 boxID key) :
    shard2Turn sum256 boxID s key =
      ⟨Function.update (Function.update s.hashes 1 (s.hashes 0)) 0 (serverHash sum256 boxID key),
        Function.update (Function.update s.keys 1 (s.keys 0)) 0 (some key)⟩ := by
  rw [shard2Turn, if_neg (fun less => below ((slices_compare_less _ _).mp less)), cmp_index_eq, if_neg (by exact least)]
  have index : (1 : Fin 2) - 0 = 1 := rfl
  simp only [index]

variable (sum256 boxID)

inductive KeptShards : List Bytes → Shards → Prop where
  | empty : KeptShards [] ⟨fun _ => maxHash, fun _ => none⟩
  | one (key : Bytes) (s : Shards) (hash : s.hashes 0 = serverHash sum256 boxID key) (room : s.hashes 1 = maxHash)
      (kept : s.keys 0 = some key) : KeptShards [key] s
  | two (done : List Bytes) (a b : Bytes) (s : Shards) (smallest : Smallest (hashRank sum256 boxID) done a b)
      (first : s.hashes 0 = serverHash sum256 boxID a) (second : s.hashes 1 = serverHash sum256 boxID b)
      (keptFirst : s.keys 0 = some a) (keptSecond : s.keys 1 = some b) : KeptShards done s

variable {sum256 boxID}

theorem not_above_max (key : Bytes) : ¬ bigValue maxHash.bytes < hashRank sum256 boxID key :=
  not_lt.mpr (max_hash_rank _)

theorem turn_kept (done : List Bytes) (s : Shards) (key : Bytes) (kept : KeptShards sum256 boxID done s)
    (fresh : ∀ other ∈ done, hashRank sum256 boxID other ≠ hashRank sum256 boxID key) :
    KeptShards sum256 boxID (key :: done) (shard2Turn sum256 boxID s key) := by
  cases kept with
  | empty =>
      rw [turn_first _ key (not_above_max key) (not_above_max key)]
      exact .one key _ (by simp) (by simp) (by simp)
  | one other _ hash room held =>
      have different := fresh other List.mem_cons_self
      have below : ¬ bigValue (s.hashes 1).bytes < hashRank sum256 boxID key := room ▸ not_above_max key
      by_cases above : bigValue (s.hashes 0).bytes < hashRank sum256 boxID key
      · rw [turn_second s key below above]
        rw [hash] at above
        exact .two _ other key _ (.pair above) (by simp [hash]) (by simp) (by simp [held]) (by simp)
      · rw [turn_first s key below above]
        rw [hash] at above
        have less : hashRank sum256 boxID key < hashRank sum256 boxID other := lt_of_le_of_ne (not_lt.mp above) different.symm
        refine .two _ key other _ ?_ (by simp) (by simp [hash]) (by simp) (by simp [held])
        exact (Smallest.pair less).perm (List.Perm.swap other key [])
  | two _ a b _ smallest first second keptFirst keptSecond =>
      have differentA := fresh a smallest.first
      have differentB := fresh b smallest.second
      by_cases aboveB : bigValue (s.hashes 1).bytes < hashRank sum256 boxID key
      · rw [turn_skips s key aboveB]
        rw [second] at aboveB
        exact .two _ a b s (smallest.add_above aboveB) first second keptFirst keptSecond
      · by_cases aboveA : bigValue (s.hashes 0).bytes < hashRank sum256 boxID key
        · rw [turn_second s key aboveB aboveA]
          rw [first] at aboveA
          rw [second] at aboveB
          have less : hashRank sum256 boxID key < hashRank sum256 boxID b := lt_of_le_of_ne (not_lt.mp aboveB) differentB.symm
          exact .two _ a key _ (smallest.add_between aboveA less) (by simp [first]) (by simp) (by simp [keptFirst]) (by simp)
        · rw [turn_first s key aboveB aboveA]
          rw [first] at aboveA
          have less : hashRank sum256 boxID key < hashRank sum256 boxID a := lt_of_le_of_ne (not_lt.mp aboveA) differentA.symm
          exact .two _ key a _ (smallest.add_below less) (by simp) (by simp [first]) (by simp) (by simp [keptFirst])

def DistinctHashes (sum256 : Bytes → Fixed 32) (boxID : Fixed 32) (keys : List Bytes) : Prop :=
  (keys.map (serverHash sum256 boxID)).Nodup

theorem fold_kept (keys done : List Bytes) (s : Shards) (kept : KeptShards sum256 boxID done s)
    (distinct : DistinctHashes sum256 boxID (keys.reverse ++ done)) :
    KeptShards sum256 boxID (keys.reverse ++ done) (keys.foldl (shard2Turn sum256 boxID) s) := by
  induction keys generalizing done s with
  | nil => exact kept
  | cons key rest ih =>
      have shape : (key :: rest).reverse ++ done = rest.reverse ++ (key :: done) := by simp
      rw [shape] at distinct ⊢
      refine ih (key :: done) _ (turn_kept done s key kept ?_) distinct
      intro other member same
      rw [DistinctHashes, List.map_append, List.map_cons, List.nodup_append, List.nodup_cons] at distinct
      have equal := hash_rank_injective sum256 boxID other key same
      exact distinct.2.1.1 (equal ▸ List.mem_map_of_mem member)

theorem distinct_perm (keys other : List Bytes) (distinct : DistinctHashes sum256 boxID keys) (same : other.Perm keys) :
    DistinctHashes sum256 boxID other := ((same.map _).nodup_iff).mpr distinct

theorem shard2_smallest (keys : List Bytes) (enough : 2 ≤ keys.length) (distinct : DistinctHashes sum256 boxID keys) :
    ∃ a b, shard2 sum256 boxID keys = [some a, some b] ∧ Smallest (hashRank sum256 boxID) keys a b := by
  have turned : (keys.reverse ++ []).Perm keys := by
    rw [List.append_nil]
    exact keys.reverse_perm
  have kept := fold_kept keys [] _ .empty (distinct_perm keys _ distinct turned)
  rw [List.append_nil] at kept
  rw [shard2]
  generalize keys.foldl (shard2Turn sum256 boxID) ⟨fun _ => maxHash, fun _ => none⟩ = last at kept ⊢
  generalize listed : keys.reverse = done at kept
  have count : done.length = keys.length := by rw [← listed, List.length_reverse]
  cases kept with
  | empty =>
      rw [List.length_nil] at count
      omega
  | one key _ _ _ _ =>
      rw [List.length_singleton] at count
      omega
  | two _ a b _ smallest _ _ keptFirst keptSecond =>
      exact ⟨a, b, by rw [keptFirst, keptSecond], smallest.perm (listed ▸ keys.reverse_perm.symm)⟩

theorem shard2_of_smallest (keys : List Bytes) (a b : Bytes) (distinct : DistinctHashes sum256 boxID keys)
    (smallest : Smallest (hashRank sum256 boxID) keys a b) : shard2 sum256 boxID keys = [some a, some b] := by
  obtain ⟨c, d, result, other⟩ := shard2_smallest keys smallest.enough distinct
  obtain ⟨rfl, rfl⟩ := smallest.unique other
  exact result

theorem shard_smallest (keys : List Bytes) (a b : Bytes) (distinct : DistinctHashes sum256 boxID keys)
    (smallest : Smallest (hashRank sum256 boxID) keys a b) : shard sum256 boxID keys = some [a, b] := by
  have perm := sort_slice_perm (keyLE fun key => (serverHash sum256 boxID key).bytes) keys
  have ordered := sort_slice_sorted _ (key_le_preorder fun key => (serverHash sum256 boxID key).bytes) keys
  rw [shard]
  generalize sortSlice (keyLE fun key => (serverHash sum256 boxID key).bytes) keys = sorted at perm ordered ⊢
  have distinct := distinct_perm keys sorted distinct perm
  have strict : sorted.Pairwise fun x y => hashRank sum256 boxID x < hashRank sum256 boxID y := by
    rw [DistinctHashes, List.nodup_iff_pairwise_ne, List.pairwise_map] at distinct
    refine (ordered.and distinct).imp (fun {x y} both => ?_)
    have different : hashRank sum256 boxID x ≠ hashRank sum256 boxID y := fun same => both.2 (hash_rank_injective sum256 boxID x y same)
    exact lt_of_le_of_ne ((hash_le_rank _ _).mp both.1) different
  match sorted, perm, strict with
  | [], perm, _ =>
      have none := perm.mem_iff.mpr smallest.first
      cases none
  | [only], perm, _ =>
      have two := smallest.enough
      rw [← perm.length_eq, List.length_singleton] at two
      omega
  | first :: second :: rest, perm, strict =>
      obtain ⟨rfl, rfl⟩ := (smallest.perm perm).unique (Smallest.sorted rest strict)
      rfl

theorem shard2_remove (before after : List Bytes) (key a b : Bytes) (distinct : DistinctHashes sum256 boxID (before ++ key :: after))
    (smallest : Smallest (hashRank sum256 boxID) (before ++ key :: after) a b) (notFirst : key ≠ a) (notSecond : key ≠ b) :
    shard2 sum256 boxID (before ++ after) = [some a, some b] := by
  have front : (before ++ key :: after).Perm (key :: (before ++ after)) := List.perm_middle
  have fewer := distinct_perm _ _ distinct front.symm
  rw [DistinctHashes, List.map_cons, List.nodup_cons] at fewer
  exact shard2_of_smallest _ a b fewer.2 ((smallest.perm front.symm).remove notFirst notSecond)

theorem shard2_add (before after : List Bytes) (key a b : Bytes) (distinct : DistinctHashes sum256 boxID (before ++ key :: after))
    (smallest : Smallest (hashRank sum256 boxID) (before ++ after) a b) :
    shard2 sum256 boxID (before ++ key :: after) ∈ [[some a, some b], [some a, some key], [some key, some a]] := by
  have front : (before ++ key :: after).Perm (key :: (before ++ after)) := List.perm_middle
  have fresh : ∀ other ∈ before ++ after, hashRank sum256 boxID other ≠ hashRank sum256 boxID key := by
    have more := distinct_perm _ _ distinct front.symm
    rw [DistinctHashes, List.map_cons, List.nodup_cons] at more
    exact fun other member same => more.1 (hash_rank_injective sum256 boxID other key same ▸ List.mem_map_of_mem member)
  rcases lt_or_gt_of_ne (fresh b smallest.second) with above | below
  · rw [shard2_of_smallest _ a b distinct ((smallest.add_above above).perm front)]
    simp
  · rcases lt_or_gt_of_ne (fresh a smallest.first) with above | least
    · rw [shard2_of_smallest _ a key distinct ((smallest.add_between above below).perm front)]
      simp
    · rw [shard2_of_smallest _ key a distinct ((smallest.add_below least).perm front)]
      simp

end Loop

end Sharding

/-- The single pass gives what sorting gives, whatever the order of the keys; a key that is not
chosen is not missed, and a key that is added takes the place of at most one. -/
theorem shard2_consistent (sum256 : Bytes → Fixed 32) (boxID : Fixed 32) (keys : List Bytes) (enough : 2 ≤ keys.length)
    (distinct : DistinctHashes sum256 boxID keys) :
    ∃ a b, shard2 sum256 boxID keys = [some a, some b] ∧ shard sum256 boxID keys = some [a, b] ∧
      Smallest (hashRank sum256 boxID) keys a b ∧
      (∀ other : List Bytes, other.Perm keys → shard2 sum256 boxID other = shard2 sum256 boxID keys) ∧
      (∀ before key after, keys = before ++ key :: after → some key ∉ shard2 sum256 boxID keys →
        shard2 sum256 boxID (before ++ after) = shard2 sum256 boxID keys) ∧
      ∀ before key after, keys = before ++ after → DistinctHashes sum256 boxID (before ++ key :: after) →
        shard2 sum256 boxID (before ++ key :: after) ∈ [[some a, some b], [some a, some key], [some key, some a]] := by
  obtain ⟨a, b, result, smallest⟩ := shard2_smallest keys enough distinct
  refine ⟨a, b, result, shard_smallest keys a b distinct smallest, smallest, fun other same => ?_, ?_, ?_⟩
  · rw [result]
    exact shard2_of_smallest other a b (distinct_perm keys other distinct same) (smallest.perm same)
  · rintro before key after rfl unused
    rw [result] at unused ⊢
    exact shard2_remove before after key a b distinct smallest (fun same => unused (by simp [same])) (fun same => unused (by simp [same]))
  · rintro before key after rfl more
    exact shard2_add before after key a b more smallest

def frontHash (data : Bytes) : Fixed 32 := Fixed.copy 32 data

theorem three_keys_sharded :
    ∃ a b, shard2 frontHash maxHash [[3], [1], [2]] = [some a, some b] ∧ shard frontHash maxHash [[3], [1], [2]] = some [a, b] ∧
      shard2 frontHash maxHash [[1], [2]] = [some a, some b] := by
  obtain ⟨a, b, single, sorted, _, _, remove, _⟩ := shard2_consistent frontHash maxHash [[3], [1], [2]] (by decide)
    (by rw [DistinctHashes]; decide +kernel)
  refine ⟨a, b, single, sorted, ?_⟩
  rw [← single]
  exact remove [] [3] [[1], [2]] rfl (by decide +kernel)

end Katzenpost.Replica
