import Katzenpost.Core.Reference
import Katzenpost.Authority.Tally

set_option autoImplicit false

namespace Katzenpost

open Go Std

section Listed

variable {δ : Type} [DecidableEq δ] (encode : δ → Bytes) (decode : Bytes → Option δ) (listed : Document → List δ)

def occurrences (votes : List Document) (desc : δ) : Nat := (votes.map fun vote => (listed vote).count desc).sum

def votesListing (votes : List Document) (desc : δ) : Nat := votes.countP fun vote => desc ∈ listed vote

theorem occurrences_of_nodup (votes : List Document) (desc : δ) (distinct : ∀ vote ∈ votes, (listed vote).Nodup) :
    occurrences listed votes desc = votesListing listed votes desc := by
  induction votes with
  | nil => rfl
  | cons vote rest ih =>
      have tail := ih fun other member => distinct other (List.mem_cons_of_mem _ member)
      have head := (distinct vote List.mem_cons_self).count (a := desc)
      simp only [votesListing, occurrences, List.countP_cons, List.map_cons, List.sum_cons, decide_eq_true_eq] at tail ⊢
      omega

omit [DecidableEq δ] in
theorem tally_listed_eq (votes : List Document) :
    tallyListed encode listed votes =
      tallyAll ∅ (votes.flatMap fun vote => (listed vote).map fun desc => (encode desc, vote)) := by
  simp [tallyListed, tallyAll, List.foldl_flatMap, List.foldl_map]

variable (law : ∀ desc, decode (encode desc) = some desc)

include law in
theorem filed_length (votes : List Document) (desc : δ) :
    (filed (votes.flatMap fun vote => (listed vote).map fun desc => (encode desc, vote)) (encode desc)).length =
      occurrences listed votes desc := by
  have injective : ∀ other, encode other = encode desc ↔ other = desc := by
    intro other
    constructor
    · intro same
      exact Option.some.inj ((law other).symm.trans ((congrArg decode same).trans (law desc)))
    · rintro rfl
      rfl
  rw [filed_length_flat, occurrences]
  congr 1
  apply List.map_congr_left
  intro vote _
  simp only [filed, List.length_map, List.filter_map, List.count_eq_length_filter]
  congr 1
  apply List.filter_congr
  intro other _
  simp [injective, beq_eq_decide]

include law in
theorem tally_listed_entry (votes : List Document) (rawDesc : Bytes) (docs : List Document) :
    (tallyListed encode listed votes)[rawDesc]? = some docs →
      ∃ desc, rawDesc = encode desc ∧ docs.length = occurrences listed votes desc := by
  rw [tally_listed_eq, tally_all_entry]
  rintro ⟨rfl, vote, member⟩
  simp only [List.mem_flatMap, List.mem_map, Prod.mk.injEq] at member
  obtain ⟨_, _, desc, _, rfl, rfl⟩ := member
  exact ⟨desc, rfl, filed_length encode decode listed law votes desc⟩

include law in
theorem tally_listed_present (votes : List Document) (desc : δ) (positive : 0 < occurrences listed votes desc) :
    ∃ docs, (tallyListed encode listed votes)[encode desc]? = some docs ∧
      docs.length = occurrences listed votes desc := by
  have length := filed_length encode decode listed law votes desc
  rw [tally_listed_eq, tally_all_lookup]
  refine ⟨_, if_neg ?_, length⟩
  intro empty
  rw [empty] at length
  simp at length
  omega

def included (bound : Nat) (authorized : δ → Bool) (entry : Bytes × List Document) : Option δ :=
  if entry.2.length ≥ bound then (decode entry.1).filter authorized else none

omit [DecidableEq δ] in
theorem include_nodes_eq (bound : Nat) (authorized : δ → Bool) (entries : List (Bytes × List Document))
    (decodable : ∀ entry ∈ entries, ∃ desc, decode entry.1 = some desc) :
    includeNodes bound decode authorized entries = some (entries.filterMap (included decode bound authorized)) := by
  induction entries with
  | nil => rfl
  | cons entry rest ih =>
      obtain ⟨rawDesc, docs⟩ := entry
      obtain ⟨desc, decoded⟩ := decodable _ List.mem_cons_self
      have tail := ih fun other member => decodable other (List.mem_cons_of_mem _ member)
      have decoded : decode rawDesc = some desc := decoded
      by_cases enough : docs.length ≥ bound
      · by_cases kept : authorized desc = true <;>
          simp [includeNodes, enough, decoded, tail, included, kept, Option.filter]
      · simp [includeNodes, enough, tail, included]

include law in
theorem include_nodes_tally (bound : Nat) (positive : 0 < bound) (authorized : δ → Bool)
    (r : Range Bytes (List Document)) (votes : List Document) :
    ∃ nodes, includeNodes bound decode authorized (r.order (tallyListed encode listed votes)) = some nodes ∧
      nodes.Nodup ∧
      ∀ desc, desc ∈ nodes ↔ authorized desc = true ∧ bound ≤ occurrences listed votes desc := by
  have keyed : ∀ entry ∈ r.order (tallyListed encode listed votes),
      ∃ desc, entry.1 = encode desc ∧ entry.2.length = occurrences listed votes desc := fun entry member =>
    tally_listed_entry encode decode listed law votes entry.1 entry.2 ((order_mem r _ _ _).mp member)
  refine ⟨_, include_nodes_eq decode bound authorized _ ?_, ?_, ?_⟩
  · intro entry member
    obtain ⟨desc, key, _⟩ := keyed entry member
    exact ⟨desc, key ▸ law desc⟩
  · -- entries have different keys, and each key determines its descriptor
    rw [List.Nodup, List.pairwise_filterMap]
    refine List.Pairwise.imp_of_mem ?_ (List.pairwise_map.mp (order_keys_nodup r (tallyListed encode listed votes)))
    intro a b memberA memberB different x keepsX y keepsY same
    obtain ⟨descA, keyA, _⟩ := keyed a memberA
    obtain ⟨descB, keyB, _⟩ := keyed b memberB
    simp only [included, keyA, keyB, law] at keepsX keepsY
    split at keepsX
    · split at keepsY
      · rw [Option.filter_eq_some_iff] at keepsX keepsY
        apply different
        rw [keyA, keyB, Option.some.inj keepsX.1, Option.some.inj keepsY.1, same]
      · cases keepsY
    · cases keepsX
  · intro desc
    rw [List.mem_filterMap]
    constructor
    · rintro ⟨entry, member, keeps⟩
      obtain ⟨other, key, length⟩ := keyed entry member
      simp only [included, key, law] at keeps
      split at keeps
      · rename_i enough
        obtain ⟨same, kept⟩ := Option.filter_eq_some_iff.mp keeps
        obtain rfl := Option.some.inj same
        exact ⟨kept, length ▸ enough⟩
      · cases keeps
    · rintro ⟨kept, enough⟩
      obtain ⟨docs, stored, length⟩ := tally_listed_present encode decode listed law votes desc (by omega)
      refine ⟨(encode desc, docs), (order_mem r _ _ _).mpr stored, ?_⟩
      simp [included, length, enough, law, Option.filter, kept]

end Listed

section Parameters

def votedParameters (lambdaG : Float64) (vote : Document) : Parameters := gobDecode (gobEncode (voteParameters lambdaG vote))

theorem gob_decode_encode_inj (p q : Parameters) (same : gobDecode (gobEncode p) = gobDecode (gobEncode q)) :
    gobEncode p = gobEncode q := by
  simp only [gobDecode, gobEncode, Parameters.mk.injEq, List.getD_cons_zero, List.getD_cons_succ] at same
  simp only [gobEncode, List.cons.injEq, and_true]
  exact same

theorem tally_parameters_eq (lambdaG : Float64) (votes : List Document) :
    tallyParameters lambdaG votes =
      tallyAll ∅ (votes.map fun vote => (gobEncode (voteParameters lambdaG vote), vote)) := by
  simp [tallyParameters, tallyAll, List.foldl_map]

theorem filed_parameters_length (lambdaG : Float64) (votes : List Document) (p : Parameters) :
    (filed (votes.map fun vote => (gobEncode (voteParameters lambdaG vote), vote)) (gobEncode p)).length =
      votes.countP fun vote => votedParameters lambdaG vote = gobDecode (gobEncode p) := by
  simp only [filed, List.length_map, List.filter_map, List.countP_eq_length_filter]
  congr 1
  apply List.filter_congr
  intro vote _
  exact decide_eq_decide.mpr ⟨fun same => congrArg gobDecode same, gob_decode_encode_inj _ _⟩

theorem choose_parameters_some (bound : Nat) (entries : List (List UInt64 × List Document)) (p : Parameters)
    (chosen : chooseParameters bound entries = some p) :
    ∃ entry ∈ entries, bound ≤ entry.2.length ∧ p = gobDecode entry.1 := by
  induction entries with
  | nil => cases chosen
  | cons entry rest ih =>
      rw [chooseParameters] at chosen
      split at chosen
      · rename_i enough
        exact ⟨entry, List.mem_cons_self, enough, (Option.some.inj chosen).symm⟩
      · obtain ⟨other, member, found⟩ := ih chosen
        exact ⟨other, List.mem_cons_of_mem _ member, found⟩

theorem choose_parameters_exists (bound : Nat) (entries : List (List UInt64 × List Document))
    (entry : List UInt64 × List Document) (member : entry ∈ entries) (enough : bound ≤ entry.2.length) :
    ∃ p, chooseParameters bound entries = some p := by
  induction entries with
  | nil => cases member
  | cons head rest ih =>
      rw [chooseParameters]
      split
      · exact ⟨_, rfl⟩
      · rename_i few
        rcases List.mem_cons.mp member with rfl | later
        · exact absurd enough few
        · exact ih later

theorem choose_parameters_tally (bound : Nat) (positive : 0 < bound) (lambdaG : Float64)
    (r : Range (List UInt64) (List Document)) (votes : List Document) :
    (∀ p, chooseParameters bound (r.order (tallyParameters lambdaG votes)) = some p →
      bound ≤ votes.countP fun vote => votedParameters lambdaG vote = p) ∧
    ((∃ p, bound ≤ votes.countP fun vote => votedParameters lambdaG vote = p) →
      ∃ p, chooseParameters bound (r.order (tallyParameters lambdaG votes)) = some p) := by
  constructor
  · intro p chosen
    obtain ⟨⟨fields, docs⟩, member, enough, rfl⟩ := choose_parameters_some bound _ p chosen
    rw [order_mem, tally_parameters_eq, tally_all_entry] at member
    obtain ⟨rfl, vote, listed⟩ := member
    obtain ⟨_, _, same⟩ := List.mem_map.mp listed
    obtain ⟨rfl, -⟩ := Prod.mk.inj same
    rwa [filed_parameters_length] at enough
  · rintro ⟨p, enough⟩
    obtain ⟨vote, member, same⟩ := List.countP_pos_iff.mp (Nat.lt_of_lt_of_le positive enough)
    obtain rfl := of_decide_eq_true same
    let entries := votes.map fun vote => (gobEncode (voteParameters lambdaG vote), vote)
    let fields := gobEncode (voteParameters lambdaG vote)
    refine choose_parameters_exists bound _ (fields, filed entries fields) ?_ ?_
    · rw [order_mem, tally_parameters_eq, tally_all_entry]
      exact ⟨rfl, vote, List.mem_map.mpr ⟨vote, member, rfl⟩⟩
    · exact (filed_parameters_length lambdaG votes _).symm ▸ enough

end Parameters

section Votes

variable (env : Env) (s : Server)

def votesOf (votes : GoMap Digest Document) : List Document := votes.toList.map Prod.snd

def authoritiesListing {δ : Type} [DecidableEq δ] (listed : Document → List δ) (votes : GoMap Digest Document)
    (desc : δ) : Nat := votesListing listed (votesOf votes) desc

def authoritiesFor (votes : GoMap Digest Document) (p : Parameters) : Nat :=
  match computeLambdaG env s.cfg with
  | none => 0
  | some lambdaG => (votesOf votes).countP fun vote => votedParameters lambdaG vote = p

theorem threshold_pos : 0 < threshold env s := Nat.succ_pos _

theorem occurrences_perm {δ : Type} [DecidableEq δ] (listed : Document → List δ) (votes other : List Document)
    (same : votes.Perm other) (desc : δ) : occurrences listed votes desc = occurrences listed other desc :=
  (same.map _).sum_eq

structure TallyOf (votes : GoMap Digest Document) (t : Tally) : Prop where
  nodup : t.nodes.Nodup
  mixes : ∀ desc, desc ∈ t.nodes ↔
    isDescriptorAuthorized env s desc = true ∧ threshold env s ≤ occurrences listedMixes (votesOf votes) desc
  replicaNodup : t.replicaNodes.Nodup
  replicas : ∀ desc, desc ∈ t.replicaNodes ↔
    isReplicaDescriptorAuthorized env s desc = true ∧
      threshold env s ≤ occurrences Document.storageReplicas (votesOf votes) desc
  parameters : threshold env s ≤ authoritiesFor env s votes t.parameters

theorem tally_votes_of (codec : Codec env) (r : TallyRanges) (votes : GoMap Digest Document) (t : Tally)
    (tallied : tallyVotes env s r (some votes) = some (.ok t)) : TallyOf env s votes t := by
  have perm : ((r.votes.order votes).map Prod.snd).Perm (votesOf votes) := (r.votes.perm votes).map Prod.snd
  simp only [tallyVotes] at tallied
  split at tallied
  · cases tallied
  · split at tallied
    · cases tallied
    · rename_i lambdaG computes
      obtain ⟨nodes, mixesIncluded, nodup, mixes⟩ := include_nodes_tally env.encodeMix env.decodeMix listedMixes
        codec.mix (threshold env s) (threshold_pos env s) (isDescriptorAuthorized env s) r.mixes
        ((r.votes.order votes).map Prod.snd)
      obtain ⟨replicaNodes, replicasIncluded, replicaNodup, replicas⟩ := include_nodes_tally env.encodeReplica
        env.decodeReplica Document.storageReplicas codec.replica (threshold env s) (threshold_pos env s)
        (isReplicaDescriptorAuthorized env s) r.replicas ((r.votes.order votes).map Prod.snd)
      rw [tallyMixes, mixesIncluded] at tallied
      simp only [tallyReplicas, replicasIncluded] at tallied
      split at tallied
      · cases tallied
      · rename_i p chosen
        obtain rfl := Except.ok.inj (Option.some.inj tallied)
        have counted := (choose_parameters_tally _ (threshold_pos env s) lambdaG r.parameters _).1 p chosen
        refine ⟨?_, fun desc => ?_, ?_, fun desc => ?_, ?_⟩
        · exact (sort_slice_perm _ nodes).nodup_iff.mpr nodup
        · rw [← occurrences_perm listedMixes _ _ perm desc, ← mixes]
          exact (sort_slice_perm _ nodes).mem_iff
        · exact (sort_slice_perm _ replicaNodes).nodup_iff.mpr replicaNodup
        · rw [← occurrences_perm Document.storageReplicas _ _ perm desc, ← replicas]
          exact (sort_slice_perm _ replicaNodes).mem_iff
        · simpa only [authoritiesFor, computes, perm.countP_eq] using counted

theorem tally_votes_returns (codec : Codec env) (r : TallyRanges) (votes : GoMap Digest Document)
    (agreed : ∃ p, threshold env s ≤ authoritiesFor env s votes p) :
    ∃ t, tallyVotes env s r (some votes) = some (.ok t) := by
  have perm : ((r.votes.order votes).map Prod.snd).Perm (votesOf votes) := (r.votes.perm votes).map Prod.snd
  obtain ⟨p, agreed⟩ := agreed
  cases computes : computeLambdaG env s.cfg with
  | none =>
      have positive := threshold_pos env s
      simp only [authoritiesFor, computes] at agreed
      omega
  | some lambdaG =>
      simp only [authoritiesFor, computes, ← perm.countP_eq] at agreed
      have enough : ¬ votes.size < threshold env s := by
        have most := agreed.trans List.countP_le_length
        rw [List.length_map, order_length] at most
        exact Nat.not_lt.mpr most
      obtain ⟨nodes, mixesIncluded, -⟩ := include_nodes_tally env.encodeMix env.decodeMix listedMixes
        codec.mix (threshold env s) (threshold_pos env s) (isDescriptorAuthorized env s) r.mixes
        ((r.votes.order votes).map Prod.snd)
      obtain ⟨replicaNodes, replicasIncluded, -⟩ := include_nodes_tally env.encodeReplica
        env.decodeReplica Document.storageReplicas codec.replica (threshold env s) (threshold_pos env s)
        (isReplicaDescriptorAuthorized env s) r.replicas ((r.votes.order votes).map Prod.snd)
      obtain ⟨chosen, choice⟩ := (choose_parameters_tally _ (threshold_pos env s) lambdaG r.parameters _).2 ⟨p, agreed⟩
      refine ⟨⟨sortNodesByPublicKey env nodes, sortReplicaNodesByPublicKey env replicaNodes, chosen⟩, ?_⟩
      simp only [tallyVotes, enough, if_false, computes, tallyMixes, mixesIncluded, tallyReplicas, replicasIncluded,
        choice]

structure TallySound (votes : GoMap Digest Document) (t : Tally) : Prop where
  mixes : ∀ desc ∈ t.nodes, threshold env s ≤ authoritiesListing listedMixes votes desc
  replicas : ∀ desc ∈ t.replicaNodes, threshold env s ≤ authoritiesListing Document.storageReplicas votes desc
  mixesAuthorized : ∀ desc ∈ t.nodes, isDescriptorAuthorized env s desc = true
  replicasAuthorized : ∀ desc ∈ t.replicaNodes, isReplicaDescriptorAuthorized env s desc = true
  identities : t.nodes.Pairwise fun a b => a.identity ≠ b.identity
  parameters : threshold env s ≤ authoritiesFor env s votes t.parameters

structure CountedByVote (votes : GoMap Digest Document) : Prop where
  mixes : ∀ desc, isDescriptorAuthorized env s desc = true →
    threshold env s ≤ occurrences listedMixes (votesOf votes) desc →
      threshold env s ≤ authoritiesListing listedMixes votes desc
  replicas : ∀ desc, isReplicaDescriptorAuthorized env s desc = true →
    threshold env s ≤ occurrences Document.storageReplicas (votesOf votes) desc →
      threshold env s ≤ authoritiesListing Document.storageReplicas votes desc
  identities : ∀ a b, isDescriptorAuthorized env s a = true → isDescriptorAuthorized env s b = true →
    threshold env s ≤ occurrences listedMixes (votesOf votes) a →
      threshold env s ≤ occurrences listedMixes (votesOf votes) b → a.identity = b.identity → a = b

/-- All that any tally returns is in the votes of a threshold of authorities just if, wherever
enough authorities agree on parameters, what the votes list often enough is in as many different
votes, and no two of these mixes have one identity. -/
theorem tally_votes_sound_iff (codec : Codec env) (votes : GoMap Digest Document) :
    (∀ (r : TallyRanges) (t : Tally), tallyVotes env s r (some votes) = some (.ok t) → TallySound env s votes t) ↔
      ((∃ p, threshold env s ≤ authoritiesFor env s votes p) → CountedByVote env s votes) := by
  constructor
  · intro sound agreed
    let r : TallyRanges := ⟨ascending, ascending, ascending, ascending⟩
    obtain ⟨t, tallied⟩ := tally_votes_returns env s codec r votes agreed
    have result := tally_votes_of env s codec r votes t tallied
    obtain ⟨mixes, replicas, -, -, identities, -⟩ := sound r t tallied
    refine ⟨fun desc allowed often => ?_, fun desc allowed often => ?_, fun a b allowedA allowedB oftenA oftenB same => ?_⟩
    · exact mixes desc ((result.mixes desc).mpr ⟨allowed, often⟩)
    · exact replicas desc ((result.replicas desc).mpr ⟨allowed, often⟩)
    · by_contra different
      have memberA := (result.mixes a).mpr ⟨allowedA, oftenA⟩
      have memberB := (result.mixes b).mpr ⟨allowedB, oftenB⟩
      have : Std.Symm fun a b : MixDescriptor => a.identity ≠ b.identity := ⟨fun _ _ => Ne.symm⟩
      exact identities.forall memberA memberB different same
  · intro counted r t tallied
    have result := tally_votes_of env s codec r votes t tallied
    obtain ⟨mixes, replicas, identities⟩ := counted ⟨_, result.parameters⟩
    refine ⟨fun desc member => ?_, fun desc member => ?_, fun desc member => ?_, fun desc member => ?_, ?_,
      result.parameters⟩
    · obtain ⟨allowed, often⟩ := (result.mixes desc).mp member
      exact mixes desc allowed often
    · obtain ⟨allowed, often⟩ := (result.replicas desc).mp member
      exact replicas desc allowed often
    · exact ((result.mixes desc).mp member).1
    · exact ((result.replicas desc).mp member).1
    · refine List.Pairwise.imp_of_mem ?_ result.nodup
      intro a b memberA memberB different same
      obtain ⟨allowedA, oftenA⟩ := (result.mixes a).mp memberA
      obtain ⟨allowedB, oftenB⟩ := (result.mixes b).mp memberB
      exact different (identities a b allowedA allowedB oftenA oftenB same)

end Votes

def gatewayVote (listed : List MixDescriptor) : Document := { blankDocument with gatewayNodes := listed }

def gatewayVotes (first second : List MixDescriptor) : GoMap Digest Document :=
  ExtTreeMap.ofList [(keyHash referenceEnv (sampleKey 1), gatewayVote first),
    (keyHash referenceEnv (sampleKey 2), gatewayVote second)]

theorem tally_votes_once_each :
    CountedByVote referenceEnv (sampleServer 0) (gatewayVotes [sampleGateway 9] [sampleGateway 9]) ∧
    ∀ (r : TallyRanges) (t : Tally),
      tallyVotes referenceEnv (sampleServer 0) r (some (gatewayVotes [sampleGateway 9] [sampleGateway 9])) =
        some (.ok t) → TallySound referenceEnv (sampleServer 0) (gatewayVotes [sampleGateway 9] [sampleGateway 9]) t := by
  have votes : votesOf (gatewayVotes [sampleGateway 9] [sampleGateway 9]) =
      [gatewayVote [sampleGateway 9], gatewayVote [sampleGateway 9]] := by decide +kernel
  have counted : CountedByVote referenceEnv (sampleServer 0) (gatewayVotes [sampleGateway 9] [sampleGateway 9]) := by
    refine ⟨?_, ?_, ?_⟩
    · intro desc _ often
      rwa [authoritiesListing, ← occurrences_of_nodup _ _ _ (by rw [votes]; decide +kernel)]
    · intro desc _ often
      rwa [authoritiesListing, ← occurrences_of_nodup _ _ _ (by rw [votes]; decide +kernel)]
    · intro a b _ _ oftenA oftenB _
      have only : ∀ desc, 2 ≤ occurrences listedMixes (votesOf (gatewayVotes [sampleGateway 9] [sampleGateway 9])) desc →
          desc = sampleGateway 9 := by
        intro desc often
        rw [votes] at often
        by_contra other
        have none : occurrences listedMixes [gatewayVote [sampleGateway 9], gatewayVote [sampleGateway 9]] desc = 0 := by
          simp [occurrences, listedMixes, gatewayVote, blankDocument, Ne.symm other]
        omega
      rw [only a oftenA, only b oftenB]
  exact ⟨counted, (tally_votes_sound_iff referenceEnv (sampleServer 0) reference_codec _).mpr fun _ => counted⟩

/-- Three authorities, a threshold of two: a gateway that one vote lists twice. -/
theorem tally_votes_listed_twice :
    ∃ t, tallyVotes referenceEnv (sampleServer 0) ⟨ascending, ascending, ascending, ascending⟩
        (some (gatewayVotes [sampleGateway 9, sampleGateway 9] [])) = some (.ok t) ∧
      sampleGateway 9 ∈ t.nodes ∧ threshold referenceEnv (sampleServer 0) = 2 ∧
      authoritiesListing listedMixes (gatewayVotes [sampleGateway 9, sampleGateway 9] []) (sampleGateway 9) = 1 := by
  refine ⟨⟨[sampleGateway 9], [], gobDecode []⟩, ?_, ?_, ?_, ?_⟩ <;> decide +kernel

end Katzenpost
