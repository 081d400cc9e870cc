import Katzenpost.Authority.CommitsSound

set_option autoImplicit false

namespace Katzenpost

open Go Std

theorem digest_ext (a b : Digest) (same : a.bytes = b.bytes) : a = b := by
  cases a
  cases b
  simpa using same

section SharedValue

variable (env : Env) (now : UInt64)

def certifiedDigest (signedReveal : Bytes) : Bytes :=
  match getCertified env now signedReveal with
  | .error _ => []
  | .ok digest => digest

def openedReveal (reveal : Digest × Bytes) : Digest × Bytes := (reveal.1, certifiedDigest env now reveal.2)

def DigestsDiffer (reveals : GoMap Digest Bytes) : Prop :=
  ∀ (pk pk' : Digest) (srr srr' : Bytes), reveals[pk]? = some srr → reveals[pk']? = some srr' →
    certifiedDigest env now srr = certifiedDigest env now srr' → pk = pk'

theorem open_reveals_all (entries : List (Digest × Bytes)) (sane : ∀ entry ∈ entries, ∃ digest, getCertified env now entry.2 = .ok digest) :
    openReveals env now entries = .ok (entries.map (openedReveal env now)) := by
  induction entries with
  | nil => rfl
  | cons entry rest ih =>
      obtain ⟨digest, certified⟩ := sane entry List.mem_cons_self
      rw [openReveals, certified, ih (fun other member => sane other (List.mem_cons_of_mem entry member)), List.map_cons, openedReveal,
        certifiedDigest, certified]
      rfl

-- The hashed bytes tell the keys in their order: a key has a fixed width, and the
-- digests after the keys are the same.
theorem reveal_bytes_injective (a b : List (Digest × Bytes)) (digests : a.map Prod.snd = b.map Prod.snd)
    (flat : a.flatMap (fun reveal => reveal.1.bytes ++ reveal.2) = b.flatMap (fun reveal => reveal.1.bytes ++ reveal.2)) : a = b := by
  induction a generalizing b with
  | nil => exact (List.map_eq_nil_iff.mp digests.symm).symm
  | cons x xs ih =>
      cases b with
      | nil => cases digests
      | cons y ys =>
          obtain ⟨digest, rest⟩ := List.cons.inj digests
          rw [List.flatMap_cons, List.flatMap_cons, List.append_assoc, List.append_assoc] at flat
          obtain ⟨keys, tails⟩ := List.append_inj flat (by rw [x.1.size, y.1.size])
          rw [digest, List.append_cancel_left_eq] at tails
          have heads : x = y := Prod.ext (digest_ext _ _ keys) digest
          rw [heads, ih ys rest tails]

variable (s : Server) (epoch : UInt64) (commits reveals : GoMap Digest Bytes) (previous : Option Document)

theorem shared_random_value (r : Range Digest Bytes) (enough : ¬ commits.size < threshold env s)
    (sane : ∀ (pk : Digest) srr, reveals[pk]? = some srr → ∃ digest, getCertified env now srr = .ok digest) :
    computeSharedRandom env s r now epoch commits reveals previous =
      .ok (env.blake2b (sharedRandomInput epoch ((r.order reveals).map (openedReveal env now))
        ((previous.map Document.sharedRandomValue).getD priorZeros))).bytes := by
  have opened := open_reveals_all env now (r.order reveals)
    (fun entry member => sane entry.1 entry.2 ((order_mem r reveals entry.1 entry.2).mp member))
  rw [computeSharedRandom, if_neg enough, opened]

theorem differing_digests_sorted (r r' : Range Digest Bytes) (differ : DigestsDiffer env now reveals) (prior : Bytes) :
    sharedRandomInput epoch ((r.order reveals).map (openedReveal env now)) prior =
      sharedRandomInput epoch ((r'.order reveals).map (openedReveal env now)) prior := by
  have perm : ((r.order reveals).map (openedReveal env now)).Perm ((r'.order reveals).map (openedReveal env now)) :=
    ((r.perm reveals).trans (r'.perm reveals).symm).map _
  have noTies : ∀ a ∈ (r.order reveals).map (openedReveal env now), ∀ b ∈ (r.order reveals).map (openedReveal env now),
      keyGE Prod.snd a b → keyGE Prod.snd b a → a = b := by
    intro a memberA b memberB left right
    obtain ⟨⟨pk, srr⟩, storedA, rfl⟩ := List.mem_map.mp memberA
    obtain ⟨⟨pk', srr'⟩, storedB, rfl⟩ := List.mem_map.mp memberB
    have digests := bytes_le_antisymm _ _ right left
    have keys := differ pk pk' srr srr' ((order_mem r reveals pk srr).mp storedA) ((order_mem r reveals pk' srr').mp storedB) digests
    exact Prod.ext keys digests
  rw [sharedRandomInput, sharedRandomInput, sort_slice_unique _ (key_ge_preorder Prod.snd) _ _ perm noTies]

-- Two authorities with one digest can be sorted either way: there is an order of the
-- reveals, and another with the two exchanged, that are both sorted.
theorem equal_digests_exchanged (pk pk' : Digest) (srr srr' : Bytes) (stored : reveals[pk]? = some srr)
    (stored' : reveals[pk']? = some srr') (digests : certifiedDigest env now srr = certifiedDigest env now srr') (different : pk ≠ pk')
    (prior : Bytes) :
    ∃ r r' : Range Digest Bytes, sharedRandomInput epoch ((r.order reveals).map (openedReveal env now)) prior ≠
      sharedRandomInput epoch ((r'.order reveals).map (openedReveal env now)) prior := by
  let entries := sortSlice (keyGE fun entry : Digest × Bytes => certifiedDigest env now entry.2) reveals.toList
  let exchange := Equiv.swap (pk, srr) (pk', srr')
  have perm : entries.Perm reveals.toList := sort_slice_perm _ _
  have member : ∀ key value, (key, value) ∈ entries ↔ reveals[key]? = some value := by
    intro key value
    rw [perm.mem_iff, ExtTreeMap.mem_toList_iff_getElem?_eq_some]
  have distinct : entries.Nodup := perm.nodup_iff.mpr (List.Nodup.of_map _ (toList_keys_nodup reveals))
  have same : ∀ entry, certifiedDigest env now (exchange entry).2 = certifiedDigest env now entry.2 := by
    intro entry
    rw [Equiv.swap_apply_def]
    split
    · rename_i here
      rw [here, digests]
    · split
      · rename_i here
        rw [here, digests]
      · rfl
  have exchanged : (entries.map exchange).Perm entries := by
    rw [List.perm_ext_iff_of_nodup (distinct.map exchange.injective) distinct]
    intro entry
    rw [List.mem_map_of_involutive (Equiv.swap_apply_self _ _)]
    have back : exchange entry = entry ∨ (entry = (pk, srr) ∧ exchange entry = (pk', srr')) ∨
        (entry = (pk', srr') ∧ exchange entry = (pk, srr)) := by
      rw [Equiv.swap_apply_def]
      split
      · exact .inr (.inl ⟨‹_›, rfl⟩)
      · split
        · exact .inr (.inr ⟨‹_›, rfl⟩)
        · exact .inl rfl
    obtain here | ⟨here, there⟩ | ⟨here, there⟩ := back
    · rw [here]
    · rw [here] at there ⊢
      rw [there]
      exact ⟨fun _ => (member _ _).mpr stored, fun _ => (member _ _).mpr stored'⟩
    · rw [here] at there ⊢
      rw [there]
      exact ⟨fun _ => (member _ _).mpr stored', fun _ => (member _ _).mpr stored⟩
  -- Both are sorted already, since only the digests count.
  have sorted : ∀ l : List (Digest × Bytes), l.map (fun entry => certifiedDigest env now entry.2) =
        entries.map (fun entry => certifiedDigest env now entry.2) →
      sortSlice (keyGE Prod.snd) (l.map (openedReveal env now)) = l.map (openedReveal env now) := by
    intro l keys
    have order := sort_slice_sorted _ (key_ge_preorder fun entry : Digest × Bytes => certifiedDigest env now entry.2) reveals.toList
    apply List.Pairwise.insertionSort_eq
    have pairs : (entries.map fun entry => certifiedDigest env now entry.2).Pairwise (fun a b => bytesLE b a = true) :=
      List.pairwise_map.mpr order
    rw [← keys, List.pairwise_map] at pairs
    exact List.pairwise_map.mpr pairs
  obtain ⟨r, order⟩ := range_of_perm reveals entries perm
  obtain ⟨r', order'⟩ := range_of_perm reveals (entries.map exchange) (exchanged.trans perm)
  refine ⟨r, r', fun equal => different ?_⟩
  rw [order, order', sharedRandomInput, sharedRandomInput, sorted entries rfl, sorted (entries.map exchange) (by
    rw [List.map_map]
    exact List.map_congr_left fun entry _ => same entry), List.append_cancel_right_eq, List.append_cancel_left_eq] at equal
  have opened := reveal_bytes_injective _ _ (by
    simp only [List.map_map]
    exact List.map_congr_left fun entry _ => (same entry).symm) equal
  rw [List.map_map] at opened
  have here := List.map_inj_left.mp opened (pk, srr) ((member _ _).mpr stored)
  rw [Function.comp_apply, show exchange (pk, srr) = (pk', srr') from Equiv.swap_apply_left _ _] at here
  exact congrArg Prod.fst here

/-- With a hash that tells the orders apart, the value depends on the order exactly if two
authorities reveal one digest. -/
theorem shared_random_order_independent_iff
    (sane : ∀ (pk : Digest) srr, reveals[pk]? = some srr → ∃ digest, getCertified env now srr = .ok digest)
    (collisionFree : ∀ r r' : Range Digest Bytes,
      env.blake2b (sharedRandomInput epoch ((r.order reveals).map (openedReveal env now))
        ((previous.map Document.sharedRandomValue).getD priorZeros)) =
      env.blake2b (sharedRandomInput epoch ((r'.order reveals).map (openedReveal env now))
        ((previous.map Document.sharedRandomValue).getD priorZeros)) →
      sharedRandomInput epoch ((r.order reveals).map (openedReveal env now)) ((previous.map Document.sharedRandomValue).getD priorZeros) =
      sharedRandomInput epoch ((r'.order reveals).map (openedReveal env now)) ((previous.map Document.sharedRandomValue).getD priorZeros)) :
    (∀ r r' : Range Digest Bytes, computeSharedRandom env s r now epoch commits reveals previous =
      computeSharedRandom env s r' now epoch commits reveals previous) ↔
    commits.size < threshold env s ∨ DigestsDiffer env now reveals := by
  by_cases few : commits.size < threshold env s
  · refine ⟨fun _ => .inl few, fun _ r r' => ?_⟩
    rw [computeSharedRandom, computeSharedRandom, if_pos few, if_pos few]
  · simp only [shared_random_value env now s epoch commits reveals previous _ few sane, few, false_or]
    constructor
    · intro same pk pk' srr srr' stored stored' digests
      by_contra different
      obtain ⟨r, r', differ⟩ := equal_digests_exchanged env now epoch reveals pk pk' srr srr' stored stored' digests different
        ((previous.map Document.sharedRandomValue).getD priorZeros)
      exact differ (collisionFree r r' (digest_ext _ _ (Except.ok.inj (same r r'))))
    · intro differ r r'
      rw [differing_digests_sorted env now epoch reveals r r' differ]

end SharedValue

def twoCommits : GoMap Digest Bytes := ExtTreeMap.ofList [(sampleHash 1, sampleCommit 1), (sampleHash 2, sampleCommit 2)]

def twoReveals : GoMap Digest Bytes := (ExtTreeMap.ofList [(sampleHash 1, sampleReveal 1)]).insert (sampleHash 2) (sampleReveal 2)

theorem two_reveals_found (pk : Digest) (srr : Bytes) (stored : twoReveals[pk]? = some srr) :
    (pk = sampleHash 1 ∧ srr = sampleReveal 1) ∨ (pk = sampleHash 2 ∧ srr = sampleReveal 2) := by
  rw [twoReveals, lookup_insert] at stored
  split at stored
  · rename_i second
    exact .inr ⟨second.symm, (Option.some.inj stored).symm⟩
  · obtain ⟨first, value⟩ := (lookup_single _ _ _ _).mp stored
    exact .inl ⟨first.symm, value.symm⟩

theorem two_reveals_differ : DigestsDiffer referenceEnv 8 twoReveals := by
  have apart : certifiedDigest referenceEnv 8 (sampleReveal 1) ≠ certifiedDigest referenceEnv 8 (sampleReveal 2) := by decide +kernel
  intro pk pk' srr srr' stored stored' digests
  obtain ⟨rfl, rfl⟩ | ⟨rfl, rfl⟩ := two_reveals_found pk srr stored <;>
    obtain ⟨rfl, rfl⟩ | ⟨rfl, rfl⟩ := two_reveals_found pk' srr' stored'
  · rfl
  · exact absurd digests apart
  · exact absurd digests.symm apart
  · rfl

theorem two_reveals_one_value :
    computeSharedRandom referenceEnv (sampleServer 0) ascending 8 9 twoCommits twoReveals none =
      computeSharedRandom referenceEnv (sampleServer 0) descending 8 9 twoCommits twoReveals none := by
  refine (shared_random_order_independent_iff referenceEnv 8 (sampleServer 0) 9 twoCommits twoReveals none ?_ ?_).mpr
    (.inr two_reveals_differ) ascending descending
  · intro pk srr stored
    obtain ⟨_, rfl⟩ | ⟨_, rfl⟩ := two_reveals_found pk srr stored
    · exact ⟨(newCommit referenceEnv 9 [1]).reveal, by decide +kernel⟩
    · exact ⟨(newCommit referenceEnv 9 [2]).reveal, by decide +kernel⟩
  · exact fun r r' _ => differing_digests_sorted referenceEnv 8 9 twoReveals r r' two_reveals_differ _

def copiedReveals : GoMap Digest Bytes :=
  ExtTreeMap.ofList [(sampleHash 1, sampleReveal 1), (sampleHash 2, sampleSigned 2 (newCommit referenceEnv 9 [1]).reveal)]

/-- The second authority signs the digest that the first one revealed. -/
theorem copied_reveal_two_values :
    computeSharedRandom referenceEnv (sampleServer 0) ascending 8 9 twoCommits copiedReveals none ≠
      computeSharedRandom referenceEnv (sampleServer 0) descending 8 9 twoCommits copiedReveals none ∧
    (computeSharedRandom referenceEnv (sampleServer 0) ascending 8 9 twoCommits copiedReveals none).isOk = true := by
  constructor <;> decide +kernel

end Katzenpost
