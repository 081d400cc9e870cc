import Katzenpost.Core.Reference
import Katzenpost.Core.Cert

set_option autoImplicit false

namespace Katzenpost

open Go Std

def UniqueClaims (m : GoMap Digest Signature) : Prop :=
  ∀ (slot other : Digest) (e e' : Signature), m[slot]? = some e → m[other]? = some e' →
    e.publicKeySum256 = e'.publicKeySum256 → slot = other

def Claimed (m : GoMap Digest Signature) (id : Digest) : Prop :=
  ∃ (slot : Digest) (e : Signature), m[slot]? = some e ∧ e.publicKeySum256 = id

section Signers

variable (env : Env) (now : UInt64)

def SignedAt (c : Certificate) (slot : Digest) (v : PublicKey) : Prop :=
  ∃ e : Signature, c.signatures[slot]? = some e ∧ e.publicKeySum256 = keyHash env v ∧
    env.verifyWith v (message c) e.payload = true

def CarriesSignature (c : Certificate) (v : PublicKey) : Prop := ∃ slot, SignedAt env c slot v

def Sane (raw : Bytes) (c : Certificate) : Prop := env.decodeCertificate raw = some c ∧ sanityCheck now c = .ok ()

def GoodSigner (raw : Bytes) (v : PublicKey) : Prop := ∀ r, ∃ data, verify env r now v raw = .ok data

theorem sane_unique (raw : Bytes) (c c' : Certificate) (sane : Sane env now raw c) (sane' : Sane env now raw c') : c = c' :=
  Option.some.inj (sane.1.symm.trans sane'.1)

theorem verify_sane (r : Range Digest Signature) (v : PublicKey) (raw : Bytes) (c : Certificate) (sane : Sane env now raw c) :
    verify env r now v raw = verifyLoop env v c (r.order c.signatures) := by
  rw [verify, (decode_sane_ok env now raw .impossibleEncode c).mpr sane]

theorem verify_loop_claimed (v : PublicKey) (c : Certificate) (entries : List (Digest × Signature))
    (claimed : ∃ entry ∈ entries, entry.2.publicKeySum256 = keyHash env v)
    (valid : ∀ entry ∈ entries, entry.2.publicKeySum256 = keyHash env v →
      env.verifyWith v (message c) entry.2.payload = true) :
    verifyLoop env v c entries = .ok c.certified := by
  induction entries with
  | nil => simp at claimed
  | cons head rest ih =>
      obtain ⟨slot, sig⟩ := head
      rw [verifyLoop]
      by_cases claims : keyHash env v = sig.publicKeySum256
      · rw [if_pos claims, if_pos (valid (slot, sig) List.mem_cons_self claims.symm)]
      · rw [if_neg claims]
        refine ih ?_ fun entry member => valid entry (List.mem_cons_of_mem _ member)
        obtain ⟨entry, member, claim⟩ := claimed
        rcases List.mem_cons.mp member with rfl | later
        · exact absurd claim.symm claims
        · exact ⟨entry, later, claim⟩

theorem verify_claimed (r : Range Digest Signature) (v : PublicKey) (raw : Bytes) (c : Certificate)
    (sane : Sane env now raw c) (claimed : Claimed c.signatures (keyHash env v))
    (valid : ∀ (slot : Digest) (e : Signature), c.signatures[slot]? = some e → e.publicKeySum256 = keyHash env v →
      env.verifyWith v (message c) e.payload = true) : verify env r now v raw = .ok c.certified := by
  rw [verify_sane env now r v raw c sane]
  refine verify_loop_claimed env v c _ ?_ fun entry member => valid entry.1 entry.2 ((order_mem r _ _ _).mp member)
  obtain ⟨slot, e, found, claim⟩ := claimed
  exact ⟨(slot, e), (order_mem r _ _ _).mpr found, claim⟩

theorem good_signer_iff (v : PublicKey) (raw : Bytes) (c : Certificate) (sane : Sane env now raw c) :
    GoodSigner env now raw v ↔ Claimed c.signatures (keyHash env v) ∧
      ∀ (slot : Digest) (e : Signature), c.signatures[slot]? = some e → e.publicKeySum256 = keyHash env v →
        env.verifyWith v (message c) e.payload = true := by
  constructor
  · intro good
    refine ⟨?_, fun slot e found claim => ?_⟩
    · obtain ⟨data, accepted⟩ := good ascending
      obtain ⟨c', decoded, -, -, slot, e, found, claim, -⟩ := verify_ok env ascending now v raw data accepted
      rw [Option.some.inj (sane.1.symm.trans decoded)]
      exact ⟨slot, e, found, claim⟩
    · obtain ⟨r, rest, first⟩ := range_first c.signatures slot e found
      obtain ⟨data, accepted⟩ := good r
      rw [verify_sane env now r v raw c sane, first, verifyLoop, if_pos claim.symm] at accepted
      by_contra invalid
      rw [if_neg invalid] at accepted
      cases accepted
  · rintro ⟨claimed, valid⟩ r
    exact ⟨c.certified, verify_claimed env now r v raw c sane claimed valid⟩

theorem carried_valid (v : PublicKey) (c : Certificate) (unique : UniqueClaims c.signatures) (signed : CarriesSignature env c v)
    (slot : Digest) (e : Signature) (found : c.signatures[slot]? = some e) (claim : e.publicKeySum256 = keyHash env v) :
    env.verifyWith v (message c) e.payload = true := by
  obtain ⟨own, e', found', claim', valid⟩ := signed
  have same : own = slot := unique own slot e' e found' found (claim'.trans claim.symm)
  rw [same, found] at found'
  rwa [Option.some.inj found']

theorem verify_signed (r : Range Digest Signature) (v : PublicKey) (raw : Bytes) (c : Certificate)
    (sane : Sane env now raw c) (unique : UniqueClaims c.signatures) (signed : CarriesSignature env c v) :
    verify env r now v raw = .ok c.certified := by
  have valid := carried_valid env v c unique signed
  obtain ⟨slot, e, found, claim, -⟩ := signed
  exact verify_claimed env now r v raw c sane ⟨slot, e, found, claim⟩ valid

theorem verify_unique (r : Range Digest Signature) (v : PublicKey) (raw : Bytes)
    (unique : ∀ c, env.decodeCertificate raw = some c → UniqueClaims c.signatures) :
    (∃ data, verify env r now v raw = .ok data) ↔ ∃ c, Sane env now raw c ∧ CarriesSignature env c v := by
  constructor
  · rintro ⟨data, accepted⟩
    obtain ⟨c, decoded, sane, -, slot, e, found, claim, valid⟩ := verify_ok env r now v raw data accepted
    exact ⟨c, ⟨decoded, sane⟩, slot, e, found, claim, valid⟩
  · rintro ⟨c, sane, signed⟩
    exact ⟨c.certified, verify_signed env now r v raw c sane (unique c sane.1) signed⟩

theorem good_signer_unique (v : PublicKey) (raw : Bytes) (c : Certificate) (sane : Sane env now raw c)
    (unique : UniqueClaims c.signatures) : GoodSigner env now raw v ↔ CarriesSignature env c v := by
  constructor
  · intro good
    obtain ⟨⟨slot, e, found, claim⟩, valid⟩ := (good_signer_iff env now v raw c sane).mp good
    exact ⟨slot, e, found, claim, valid slot e found claim⟩
  · intro signed r
    exact ⟨c.certified, verify_signed env now r v raw c sane unique signed⟩

section Threshold

variable (raw : Bytes) (unique : ∀ c, env.decodeCertificate raw = some c → UniqueClaims c.signatures)
variable (r : PublicKey → Range Digest Signature) (verifiers : List PublicKey) (threshold : Int)

def EnoughSigners (c : Certificate) : Prop :=
  ∃ chosen : List PublicKey, (∀ v ∈ chosen, v ∈ verifiers ∧ CarriesSignature env c v) ∧
    (chosen.map (keyHash env)).Nodup ∧ threshold ≤ chosen.length

def CountsSigners : Prop :=
  ((verifyThreshold env r now verifiers threshold raw).err = none ↔ threshold ≤ verifiers.length ∧
    ∃ c, Sane env now raw c ∧ EnoughSigners env verifiers threshold c) ∧
  ((verifyThreshold env r now verifiers threshold raw).err = none → ∃ c, env.decodeCertificate raw = some c ∧
    (verifyThreshold env r now verifiers threshold raw).certified = some c.certified)

include unique in
theorem good_hashes_signed (id : Digest) :
    id ∈ goodHashes env r now raw verifiers ↔
      ∃ v ∈ verifiers, keyHash env v = id ∧ ∃ c, Sane env now raw c ∧ CarriesSignature env c v := by
  simp only [mem_good_hashes, verify_unique env now _ _ raw unique]

include unique in
theorem enough_signers_iff (positive : 0 < threshold) :
    (∃ c, Sane env now raw c ∧ EnoughSigners env verifiers threshold c) ↔
      threshold ≤ (goodHashes env r now raw verifiers).card := by
  constructor
  · rintro ⟨c, sane, chosen, signed, distinct, enough⟩
    have subset : (chosen.map (keyHash env)).toFinset ⊆ goodHashes env r now raw verifiers := by
      intro id member
      obtain ⟨v, listed, hash⟩ := List.mem_map.mp (List.mem_toFinset.mp member)
      exact (good_hashes_signed env now raw unique r verifiers id).mpr ⟨v, (signed v listed).1, hash, c, sane, (signed v listed).2⟩
    have bound := Finset.card_le_card subset
    rw [List.toFinset_card_of_nodup distinct, List.length_map] at bound
    omega
  · intro enough
    have pick : ∀ id ∈ (goodHashes env r now raw verifiers).toList, ∃ v, v ∈ verifiers ∧ keyHash env v = id ∧
        ∃ c, Sane env now raw c ∧ CarriesSignature env c v := by
      intro id member
      obtain ⟨v, listed, rest⟩ := (good_hashes_signed env now raw unique r verifiers id).mp (Finset.mem_toList.mp member)
      exact ⟨v, listed, rest⟩
    obtain ⟨first, good⟩ := Finset.card_pos.mp (by omega : 0 < (goodHashes env r now raw verifiers).card)
    obtain ⟨v, -, -, c, sane, -⟩ := pick first (Finset.mem_toList.mpr good)
    have : Nonempty PublicKey := ⟨v⟩
    choose! signer listed hash certified using pick
    refine ⟨c, sane, (goodHashes env r now raw verifiers).toList.map signer, fun v chosen => ?_, ?_, ?_⟩
    · obtain ⟨id, good, rfl⟩ := List.mem_map.mp chosen
      obtain ⟨c', sane', signed⟩ := certified id good
      rw [← sane_unique env now raw c c' sane sane'] at signed
      exact ⟨listed id good, signed⟩
    · have hashes : ((goodHashes env r now raw verifiers).toList.map signer).map (keyHash env) =
          (goodHashes env r now raw verifiers).toList := by
        rw [List.map_map]
        exact (List.map_congr_left hash).trans (List.map_id' _)
      rw [hashes]
      exact Finset.nodup_toList _
    · rw [List.length_map, Finset.length_toList]
      exact enough

include unique in
theorem counts_signers_iff : CountsSigners env now raw r verifiers threshold ↔
    0 < threshold ∨ ∃ c, Sane env now raw c ∧ ∃ v ∈ verifiers, CarriesSignature env c v := by
  have signed_good : ∀ c, Sane env now raw c →
      (goodHashes env r now raw verifiers ≠ ∅ ↔ ∃ v ∈ verifiers, CarriesSignature env c v) := by
    intro c sane
    rw [← Finset.nonempty_iff_ne_empty]
    constructor
    · rintro ⟨id, good⟩
      obtain ⟨v, listed, -, c', sane', signed⟩ := (good_hashes_signed env now raw unique r verifiers id).mp good
      exact ⟨v, listed, sane_unique env now raw c c' sane sane' ▸ signed⟩
    · rintro ⟨v, listed, signed⟩
      exact ⟨keyHash env v, (good_hashes_signed env now raw unique r verifiers _).mpr ⟨v, listed, rfl, c, sane, signed⟩⟩
  constructor
  · rintro ⟨exact, data⟩
    by_cases positive : 0 < threshold
    · exact .inl positive
    · -- A threshold that is not positive is met by any bytes.
      have success : (verifyThreshold env r now verifiers threshold raw).err = none :=
        (verify_threshold_err env r now raw verifiers threshold).mpr ⟨by omega, by omega⟩
      obtain ⟨-, c, sane, -⟩ := exact.mp success
      obtain ⟨c', decoded, returned⟩ := data success
      rw [verify_threshold_data env r now raw verifiers threshold c sane.1 success,
        ← Option.some.inj (sane.1.symm.trans decoded)] at returned
      refine .inr ⟨c, sane, (signed_good c sane).mp fun empty => ?_⟩
      rw [if_pos empty, Option.some_inj] at returned
      exact ((sanity_check_ok now c).mp sane.2).2.2.2 returned.symm
  · intro condition
    have sane_of_success : (verifyThreshold env r now verifiers threshold raw).err = none →
        ∃ c, Sane env now raw c ∧ ∃ v ∈ verifiers, CarriesSignature env c v := by
      intro success
      rcases condition with positive | signed
      · have enough := ((verify_threshold_err env r now raw verifiers threshold).mp success).2
        obtain ⟨id, good⟩ := Finset.card_pos.mp (by omega : 0 < (goodHashes env r now raw verifiers).card)
        obtain ⟨v, listed, -, c, sane, signed⟩ := (good_hashes_signed env now raw unique r verifiers id).mp good
        exact ⟨c, sane, v, listed, signed⟩
      · exact signed
    refine ⟨?_, fun success => ?_⟩
    · rw [verify_threshold_err]
      refine and_congr_right fun within => ?_
      by_cases positive : 0 < threshold
      · exact (enough_signers_iff env now raw unique r verifiers threshold positive).symm
      · obtain ⟨c, sane, -⟩ := condition.resolve_left positive
        exact ⟨fun _ => ⟨c, sane, [], by simp, by simp, by simpa using positive⟩, fun _ => by omega⟩
    · obtain ⟨c, sane, signed⟩ := sane_of_success success
      refine ⟨c, sane.1, ?_⟩
      rw [verify_threshold_data env r now raw verifiers threshold c sane.1 success,
        if_neg ((signed_good c sane).mpr signed)]

end Threshold

section Adding

variable (codec : Codec env)

def AddKeeps (r : Range Digest Signature) (verifier : PublicKey) (signature : Signature) (raw : Bytes) : Prop :=
  ∀ raw', addSignature env r now verifier signature raw = .ok raw' → ∀ v, GoodSigner env now raw v → GoodSigner env now raw' v

def SignKeeps (signer : PrivateKey) (verifier : PublicKey) (raw : Bytes) : Prop :=
  ∀ raw', signMulti env now signer verifier raw = .ok raw' → ∀ v, GoodSigner env now raw v → GoodSigner env now raw' v

theorem sane_of_good (v : PublicKey) (raw : Bytes) (good : GoodSigner env now raw v) : ∃ c, Sane env now raw c := by
  obtain ⟨data, accepted⟩ := good ascending
  obtain ⟨c, decoded, sane, -⟩ := verify_ok env ascending now v raw data accepted
  exact ⟨c, decoded, sane⟩

include codec in
theorem sane_inserted (raw : Bytes) (c : Certificate) (sane : Sane env now raw c) (slot : Digest) (e : Signature) :
    Sane env now (env.encodeCertificate { c with signatures := c.signatures.insert slot e })
      { c with signatures := c.signatures.insert slot e } :=
  ⟨codec.certificate _, sane.2⟩

include codec in
theorem good_inserted (raw : Bytes) (c : Certificate) (sane : Sane env now raw c) (new : Signature) (v : PublicKey) :
    GoodSigner env now (env.encodeCertificate { c with signatures := c.signatures.insert new.publicKeySum256 new }) v ↔
      (new.publicKeySum256 = keyHash env v ∨
        ∃ (slot : Digest) (e : Signature), slot ≠ new.publicKeySum256 ∧ c.signatures[slot]? = some e ∧
          e.publicKeySum256 = keyHash env v) ∧
      (new.publicKeySum256 = keyHash env v → env.verifyWith v (message c) new.payload = true) ∧
      ∀ (slot : Digest) (e : Signature), slot ≠ new.publicKeySum256 → c.signatures[slot]? = some e →
        e.publicKeySum256 = keyHash env v → env.verifyWith v (message c) e.payload = true := by
  rw [good_signer_iff env now v _ _ (sane_inserted env now codec raw c sane _ new)]
  have here : (c.signatures.insert new.publicKeySum256 new)[new.publicKeySum256]? = some new := by
    rw [lookup_insert, if_pos rfl]
  have elsewhere : ∀ slot, slot ≠ new.publicKeySum256 →
      (c.signatures.insert new.publicKeySum256 new)[slot]? = c.signatures[slot]? := by
    intro slot other
    rw [lookup_insert, if_neg other.symm]
  refine and_congr ?_ ⟨fun valid => ⟨valid _ new here, fun slot e other found => ?_⟩, ?_⟩
  · constructor
    · rintro ⟨slot, e, found, claim⟩
      by_cases same : slot = new.publicKeySum256
      · rw [same] at found
        exact .inl (Option.some.inj (here.symm.trans found) ▸ claim)
      · exact .inr ⟨slot, e, same, elsewhere slot same ▸ found, claim⟩
    · rintro (claim | ⟨slot, e, other, found, claim⟩)
      · exact ⟨_, new, here, claim⟩
      · exact ⟨slot, e, (elsewhere slot other).trans found, claim⟩
  · exact valid slot e ((elsewhere slot other).trans found)
  · rintro ⟨first, rest⟩ slot e found claim
    by_cases same : slot = new.publicKeySum256
    · rw [same] at found
      obtain rfl := Option.some.inj (here.symm.trans found)
      exact first claim
    · exact rest slot e same (elsewhere slot same ▸ found) claim

theorem add_signature_sane (r : Range Digest Signature) (verifier : PublicKey) (signature : Signature) (raw raw' : Bytes)
    (c : Certificate) (sane : Sane env now raw c) :
    addSignature env r now verifier signature raw = .ok raw' ↔
      ¬ Claimed c.signatures signature.publicKeySum256 ∧ env.verifyWith verifier (message c) signature.payload = true ∧
        raw' = env.encodeCertificate
          { c with signatures := c.signatures.insert signature.publicKeySum256 signature } := by
  have dedup : (r.order c.signatures).any (fun entry => entry.2.publicKeySum256 = signature.publicKeySum256) = true ↔
      Claimed c.signatures signature.publicKeySum256 := by
    simp only [List.any_eq_true, decide_eq_true_eq, Claimed, Prod.exists, order_mem]
  rw [addSignature, (decode_sane_ok env now raw .impossibleDecode c).mpr sane]
  dsimp only
  by_cases claimed : Claimed c.signatures signature.publicKeySum256
  · rw [if_pos (dedup.mpr claimed)]
    simp [claimed]
  · rw [if_neg (fun found => claimed (dedup.mp found))]
    by_cases valid : env.verifyWith verifier (message c) signature.payload = true
    · rw [if_pos valid, Except.ok.injEq, eq_comm]
      simp [claimed, valid]
    · simp [valid]

include codec in
theorem add_keeps_iff (r : Range Digest Signature) (verifier : PublicKey) (signature : Signature) (raw : Bytes)
    (unique : ∀ c, env.decodeCertificate raw = some c → UniqueClaims c.signatures) :
    AddKeeps env now r verifier signature raw ↔ ∀ c, Sane env now raw c →
      ¬ Claimed c.signatures signature.publicKeySum256 → env.verifyWith verifier (message c) signature.payload = true →
        ∀ v, ¬ SignedAt env c signature.publicKeySum256 v := by
  constructor
  · rintro keeps c sane unclaimed valid v ⟨e, found, claim, signs⟩
    have good := (good_signer_unique env now v raw c sane (unique c sane.1)).mpr ⟨_, e, found, claim, signs⟩
    have kept := keeps _ ((add_signature_sane env now r verifier signature raw _ c sane).mpr ⟨unclaimed, valid, rfl⟩) v good
    obtain ⟨hit | ⟨slot, e', other, found', claim'⟩, -⟩ := (good_inserted env now codec raw c sane signature v).mp kept
    · exact unclaimed ⟨_, e, found, claim.trans hit.symm⟩
    · exact other (unique c sane.1 slot _ e' e found' found (claim'.trans claim.symm))
  · intro condition raw' added v good
    obtain ⟨c, sane⟩ := sane_of_good env now v raw good
    obtain ⟨unclaimed, valid, rfl⟩ := (add_signature_sane env now r verifier signature raw raw' c sane).mp added
    obtain ⟨slot, e, found, claim, signs⟩ := (good_signer_unique env now v raw c sane (unique c sane.1)).mp good
    have another : signature.publicKeySum256 ≠ keyHash env v := fun hit => unclaimed ⟨slot, e, found, claim.trans hit.symm⟩
    have elsewhere : slot ≠ signature.publicKeySum256 := by
      rintro rfl
      exact condition c sane unclaimed valid v ⟨e, found, claim, signs⟩
    refine (good_inserted env now codec raw c sane signature v).mpr
      ⟨.inr ⟨slot, e, elsewhere, found, claim⟩, fun hit => absurd hit another, fun slot' e' _ found' claim' => ?_⟩
    exact carried_valid env v c (unique c sane.1) ⟨slot, e, found, claim, signs⟩ slot' e' found' claim'

theorem sign_multi_sane (signer : PrivateKey) (verifier : PublicKey) (raw raw' : Bytes) (c : Certificate)
    (sane : Sane env now raw c) :
    signMulti env now signer verifier raw = .ok raw' ↔
      signer.scheme = c.keyType ∧ raw' = env.encodeCertificate (withSignature env signer verifier c) := by
  rw [signMulti, (decode_sane_ok env now raw .impossibleDecode c).mpr sane]
  dsimp only
  by_cases same : signer.scheme = c.keyType
  · rw [if_neg (not_not.mpr same), Except.ok.injEq, eq_comm]
    simp [same]
  · rw [if_pos same]
    simp [same]

include codec in
theorem sign_keeps_iff (signer : PrivateKey) (verifier : PublicKey) (raw : Bytes)
    (unique : ∀ c, env.decodeCertificate raw = some c → UniqueClaims c.signatures) :
    SignKeeps env now signer verifier raw ↔ ∀ c, Sane env now raw c → signer.scheme = c.keyType →
      ∀ slot v, SignedAt env c slot v → (slot = keyHash env verifier → keyHash env v = keyHash env verifier) ∧
        (keyHash env v = keyHash env verifier → env.verifyWith v (message c) (env.signWith signer (message c)) = true) := by
  constructor
  · rintro keeps c sane scheme slot v ⟨e, found, claim, signs⟩
    have good := (good_signer_unique env now v raw c sane (unique c sane.1)).mpr ⟨slot, e, found, claim, signs⟩
    have kept := keeps _ ((sign_multi_sane env now signer verifier raw _ c sane).mpr ⟨scheme, rfl⟩) v good
    obtain ⟨present, valid, -⟩ :=
      (good_inserted env now codec raw c sane ⟨keyHash env verifier, env.signWith signer (message c)⟩ v).mp kept
    refine ⟨fun here => ?_, fun hit => valid hit.symm⟩
    rcases present with hit | ⟨slot', e', other, found', claim'⟩
    · exact hit.symm
    · exact absurd ((unique c sane.1 slot' slot e' e found' found (claim'.trans claim.symm)).trans here) other
  · intro condition raw' signed v good
    obtain ⟨c, sane⟩ := sane_of_good env now v raw good
    obtain ⟨scheme, rfl⟩ := (sign_multi_sane env now signer verifier raw raw' c sane).mp signed
    have by_v := (good_signer_unique env now v raw c sane (unique c sane.1)).mp good
    have others := carried_valid env v c (unique c sane.1) by_v
    obtain ⟨slot, e, found, claim, signs⟩ := by_v
    obtain ⟨taken, resigned⟩ := condition c sane scheme slot v ⟨e, found, claim, signs⟩
    refine (good_inserted env now codec raw c sane ⟨keyHash env verifier, env.signWith signer (message c)⟩ v).mpr
      ⟨?_, fun hit => resigned hit.symm, fun slot' e' _ found' claim' => others slot' e' found' claim'⟩
    by_cases here : slot = keyHash env verifier
    · exact .inl (taken here).symm
    · exact .inr ⟨slot, e, here, found, claim⟩

include codec in
/-- VerifyThreshold counts distinct signers for a positive threshold. Adding a signature keeps the
good signers unless it takes the slot of one, or is a second entry for one that does not verify.
-/
theorem distinct_signers_counted_iff (raw : Bytes)
    (unique : ∀ c, env.decodeCertificate raw = some c → UniqueClaims c.signatures) :
    (∀ r verifiers threshold, CountsSigners env now raw r verifiers threshold ↔
      0 < threshold ∨ ∃ c, Sane env now raw c ∧ ∃ v ∈ verifiers, CarriesSignature env c v) ∧
    (∀ r verifier signature, AddKeeps env now r verifier signature raw ↔ ∀ c, Sane env now raw c →
      ¬ Claimed c.signatures signature.publicKeySum256 → env.verifyWith verifier (message c) signature.payload = true →
        ∀ v, ¬ SignedAt env c signature.publicKeySum256 v) ∧
    (∀ signer verifier, SignKeeps env now signer verifier raw ↔ ∀ c, Sane env now raw c → signer.scheme = c.keyType →
      ∀ slot v, SignedAt env c slot v → (slot = keyHash env verifier → keyHash env v = keyHash env verifier) ∧
        (keyHash env v = keyHash env verifier → env.verifyWith v (message c) (env.signWith signer (message c)) = true)) :=
  ⟨fun r verifiers threshold => counts_signers_iff env now raw unique r verifiers threshold,
    fun r verifier signature => add_keeps_iff env now codec r verifier signature raw unique,
    fun signer verifier => sign_keeps_iff env now codec signer verifier raw unique⟩

end Adding

end Signers

def plainKey (n : UInt8) : PublicKey := ⟨ed25519, [n]⟩

def plainPrivate (n : UInt8) : PrivateKey := ⟨ed25519, [n]⟩

def plainCertificate : Certificate := ⟨certVersion, 9, ed25519, [1], ∅⟩

def plainSignature (n : UInt8) : Signature :=
  ⟨keyHash referenceEnv (plainKey n), referenceEnv.signWith (plainPrivate n) (message plainCertificate)⟩

def signedInSlot (n : UInt8) : Certificate :=
  { plainCertificate with signatures :=
      (ExtTreeMap.ofList [(keyHash referenceEnv (plainKey n), plainSignature 2)] : GoMap Digest Signature) }

theorem signed_in_slot_unique (n : UInt8) (c : Certificate)
    (decoded : referenceEnv.decodeCertificate (referenceEnv.encodeCertificate (signedInSlot n)) = some c) :
    UniqueClaims c.signatures := by
  rw [reference_codec.certificate, Option.some_inj] at decoded
  subst decoded
  intro slot other e e' found found' _
  exact ((lookup_single _ _ _ _).mp found).1.symm.trans ((lookup_single _ _ _ _).mp found').1

theorem one_signer_counted :
    CountsSigners referenceEnv 8 (referenceEnv.encodeCertificate (signedInSlot 2)) (fun _ => ascending)
      [plainKey 2, plainKey 2] 1 :=
  ((distinct_signers_counted_iff referenceEnv 8 reference_codec _ (signed_in_slot_unique 2)).1 _ _ 1).mpr (.inl Int.one_pos)

theorem returned_with {α ε : Type} (P : α → Prop) [DecidablePred P] (outcome : Except ε α)
    (checked : outcome.toOption.any (fun value => decide (P value)) = true) : ∃ value, outcome = .ok value ∧ P value := by
  cases outcome with
  | error e => cases checked
  | ok value => exact ⟨value, rfl, of_decide_eq_true checked⟩

/-- The signature of the first key goes to the slot that holds the second's; and a threshold of
zero accepts bytes that are no certificate. -/
theorem added_signature_displaces :
    (∃ raw', addSignature referenceEnv ascending 8 (plainKey 1) (plainSignature 1)
        (referenceEnv.encodeCertificate (signedInSlot 1)) = .ok raw' ∧
      verify referenceEnv ascending 8 (plainKey 2) (referenceEnv.encodeCertificate (signedInSlot 1)) = .ok [1] ∧
      verify referenceEnv ascending 8 (plainKey 2) raw' = .error .identitySignatureNotFound) ∧
    (verifyThreshold referenceEnv (fun _ => ascending) 8 [plainKey 1] 0 []).err = none := by
  refine ⟨returned_with (fun raw' =>
    verify referenceEnv ascending 8 (plainKey 2) (referenceEnv.encodeCertificate (signedInSlot 1)) = .ok [1] ∧
    verify referenceEnv ascending 8 (plainKey 2) raw' = .error .identitySignatureNotFound) _ ?_, ?_⟩
  · decide +kernel
  · decide +kernel

end Katzenpost
