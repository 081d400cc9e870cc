import Katzenpost.Core.Signers

set_option autoImplicit false

namespace Katzenpost

open Go Std

inductive ConsensusError where
  | cbor
  | version
  | expired
  | keyType (keyType : Text)
  | trustAnchorLength
  | publicKey
  | invalidThreshold
  | signature
  | thresholdNotMet
deriving DecidableEq

def ed25519PublicKeyLen : Nat := 32

def ed25519SignatureLen : Nat := 64

def asciiLower (b : UInt8) : UInt8 := if 65 ≤ b ∧ b ≤ 90 then b + 32 else b

def eqIgnoreAsciiCase (a b : Bytes) : Bool := a.map asciiLower = b.map asciiLower

def certificateMessage (cert : Certificate) : Bytes :=
  putUint32LE cert.version ++ putUint64LE cert.expiration ++ cert.keyType.bytes ++ cert.certified

def chunksExact (size : Nat) (raw : Bytes) : List Bytes :=
  (List.range (raw.length / size)).map fun i => (raw.drop (i * size)).take size

def verifyingKeys (isPoint : Bytes → Bool) : List Bytes → Except ConsensusError (List PublicKey)
  | [] => .ok []
  | chunk :: rest =>
      if isPoint chunk then (verifyingKeys isPoint rest).map fun keys => ⟨ed25519, chunk⟩ :: keys
      else .error .publicKey

def parseTrustAnchors (isPoint : Bytes → Bool) (raw : Bytes) : Except ConsensusError (List PublicKey) :=
  if raw.length % ed25519PublicKeyLen ≠ 0 then .error .trustAnchorLength
  else verifyingKeys isPoint (chunksExact ed25519PublicKeyLen raw)

section Verify

variable (env : Env)

def firstClaim (cert : Certificate) (anchor : PublicKey) : Option Signature :=
  (cert.signatures.toList.map Prod.snd).find? fun sig => sig.publicKeySum256 = keyHash env anchor

def countGood (cert : Certificate) : List PublicKey → Nat → Except ConsensusError Nat
  | [], good => .ok good
  | anchor :: rest, good =>
      match firstClaim env cert anchor with
      | none => countGood cert rest good
      | some sig =>
          if sig.payload.length ≠ ed25519SignatureLen then .error .signature
          else if env.verifyWith anchor (certificateMessage cert) sig.payload then countGood cert rest (good + 1)
          else countGood cert rest good

-- verify_certificate up to the parsing of the document. Both decoders are
-- taken to be the same function, and both Ed25519 verifiers as well.
def verifyCertificate (isPoint : Bytes → Bool) (raw trustAnchors : Bytes) (threshold : Nat) (currentEpoch : UInt64) :
    Except ConsensusError (Certificate × Nat) :=
  match env.decodeCertificate raw with
  | none => .error .cbor
  | some cert =>
      if cert.version ≠ certVersion then .error .version
      else if currentEpoch ≥ cert.expiration then .error .expired
      else if !eqIgnoreAsciiCase cert.keyType.bytes (ascii "ed25519") then .error (.keyType cert.keyType)
      else
        match parseTrustAnchors isPoint trustAnchors with
        | .error e => .error e
        | .ok anchors =>
            if threshold > anchors.length then .error .invalidThreshold
            else
              match countGood env cert anchors 0 with
              | .error e => .error e
              | .ok good => if good < threshold then .error .thresholdNotMet else .ok (cert, good)

end Verify

structure TrustAnchor (isPoint : Bytes → Bool) where
  raw : Bytes
  size : raw.length = ed25519PublicKeyLen
  point : isPoint raw = true

def TrustAnchor.key {isPoint : Bytes → Bool} (anchor : TrustAnchor isPoint) : PublicKey := ⟨ed25519, anchor.raw⟩

section Anchors

variable {isPoint : Bytes → Bool}

theorem chunks_exact_cons (size : Nat) (chunk rest : Bytes) (positive : 0 < size) (sized : chunk.length = size) :
    chunksExact size (chunk ++ rest) = chunk :: chunksExact size rest := by
  have count : (chunk ++ rest).length / size = rest.length / size + 1 := by
    rw [List.length_append, sized, Nat.add_comm, Nat.add_div_right _ positive]
  rw [chunksExact, count, List.range_succ_eq_map, List.map_cons, List.map_map, Nat.zero_mul, List.drop_zero, ← sized,
    List.take_left, chunksExact]
  refine congrArg _ (List.map_congr_left fun i _ => ?_)
  rw [Function.comp_apply, Nat.succ_mul, Nat.add_comm, ← List.drop_drop, List.drop_left]

theorem parse_trust_anchors (anchors : List (TrustAnchor isPoint)) :
    parseTrustAnchors isPoint (anchors.flatMap TrustAnchor.raw) = .ok (anchors.map TrustAnchor.key) := by
  have whole : (anchors.flatMap TrustAnchor.raw).length = anchors.length * ed25519PublicKeyLen := by
    induction anchors with
    | nil => rfl
    | cons anchor rest ih => rw [List.flatMap_cons, List.length_append, anchor.size, ih, List.length_cons, Nat.succ_mul, Nat.add_comm]
  rw [parseTrustAnchors, whole, Nat.mul_mod_left, if_neg (by decide)]
  clear whole
  induction anchors with
  | nil => simp [chunksExact, verifyingKeys]
  | cons anchor rest ih =>
      rw [List.flatMap_cons, chunks_exact_cons _ _ _ (by decide) anchor.size, verifyingKeys, if_pos anchor.point, ih]
      rfl

end Anchors

section Counting

variable (env : Env) (cert : Certificate)

def firstSized (anchor : PublicKey) : Bool := (firstClaim env cert anchor).all fun sig => sig.payload.length = ed25519SignatureLen

def firstVerifies (anchor : PublicKey) : Bool :=
  (firstClaim env cert anchor).any fun sig => env.verifyWith anchor (message cert) sig.payload

theorem certificate_message_eq : certificateMessage cert = message cert := rfl

theorem count_good_eq (anchors : List PublicKey) (good : Nat) :
    (∀ anchor ∈ anchors, firstSized env cert anchor = true) →
      countGood env cert anchors good = .ok (good + anchors.countP (firstVerifies env cert)) := by
  induction anchors generalizing good with
  | nil => exact fun _ => rfl
  | cons anchor rest ih =>
      intro sized
      have here := sized anchor List.mem_cons_self
      have others := fun good => ih good fun other member => sized other (List.mem_cons_of_mem _ member)
      rw [countGood, List.countP_cons]
      cases claim : firstClaim env cert anchor with
      | none =>
          rw [others]
          simp [firstVerifies, claim]
      | some sig =>
          simp only [firstSized, claim, Option.all_some, decide_eq_true_eq] at here
          simp only [here, ne_eq, not_true, if_false, others, firstVerifies, claim, Option.any_some, certificate_message_eq]
          split
          · rw [Nat.add_right_comm, Nat.add_assoc]
          · rfl

theorem count_good_missized (anchors : List PublicKey) (good : Nat) (anchor : PublicKey) (member : anchor ∈ anchors)
    (missized : firstSized env cert anchor = false) : countGood env cert anchors good = .error .signature := by
  induction anchors generalizing good with
  | nil => cases member
  | cons head rest ih =>
      rw [countGood]
      cases List.mem_cons.mp member with
      | inl same =>
          subst same
          cases claim : firstClaim env cert anchor with
          | none => simp [firstSized, claim] at missized
          | some sig =>
              simp only [firstSized, claim, Option.all_some, decide_eq_false_iff_not] at missized
              exact if_pos missized
      | inr later =>
          split
          · exact ih good later
          · split
            · rfl
            · split
              · exact ih _ later
              · exact ih _ later

end Counting

section ClaimedSignatures

variable (env : Env) (cert : Certificate) (v : PublicKey)

def claims : List Signature := (cert.signatures.toList.map Prod.snd).filter fun sig => sig.publicKeySum256 = keyHash env v

def allVerify : Bool :=
  claims env cert v ≠ [] && (claims env cert v).all fun sig => env.verifyWith v (message cert) sig.payload

def someVerifies : Bool := (claims env cert v).any fun sig => env.verifyWith v (message cert) sig.payload

theorem mem_claims (sig : Signature) :
    sig ∈ claims env cert v ↔ sig.publicKeySum256 = keyHash env v ∧ ∃ slot : Digest, cert.signatures[slot]? = some sig := by
  simp only [claims, List.mem_filter, List.mem_map, Prod.exists, ExtTreeMap.mem_toList_iff_getElem?_eq_some,
    exists_eq_right, decide_eq_true_eq]
  exact and_comm

theorem verify_loop_all (r : Range Digest Signature) (all : allVerify env cert v = true) :
    verifyLoop env v cert (r.order cert.signatures) = .ok cert.certified := by
  simp only [allVerify, Bool.and_eq_true, decide_eq_true_eq, List.all_eq_true] at all
  obtain ⟨claimed, verify⟩ := all
  have sound : ∀ entry ∈ r.order cert.signatures, entry.2.publicKeySum256 = keyHash env v →
      env.verifyWith v (message cert) entry.2.payload = true := by
    intro entry member claim
    exact verify entry.2 ((mem_claims env cert v entry.2).mpr ⟨claim, entry.1, (order_mem r _ _ _).mp member⟩)
  have present : ∃ entry ∈ r.order cert.signatures, entry.2.publicKeySum256 = keyHash env v := by
    obtain ⟨sig, member⟩ := List.exists_mem_of_ne_nil _ claimed
    obtain ⟨claim, slot, found⟩ := (mem_claims env cert v sig).mp member
    exact ⟨(slot, sig), (order_mem r _ _ _).mpr found, claim⟩
  exact verify_loop_claimed env v cert _ present sound

theorem verify_loop_some (r : Range Digest Signature) (data : Bytes)
    (accepted : verifyLoop env v cert (r.order cert.signatures) = .ok data) : someVerifies env cert v = true := by
  obtain ⟨_, slot, sig, member, claim, verified⟩ := verify_loop_ok env v cert _ data accepted
  rw [someVerifies, List.any_eq_true]
  exact ⟨sig, (mem_claims env cert v sig).mpr ⟨claim, slot, (order_mem r _ _ _).mp member⟩, verified⟩

theorem order_for (some : someVerifies env cert v = true) :
    ∃ r : Range Digest Signature, verifyLoop env v cert (r.order cert.signatures) = .ok cert.certified := by
  rw [someVerifies, List.any_eq_true] at some
  obtain ⟨sig, member, verified⟩ := some
  obtain ⟨claim, slot, found⟩ := (mem_claims env cert v sig).mp member
  obtain ⟨r, rest, order⟩ := range_first cert.signatures slot sig found
  exact ⟨r, by rw [order, verifyLoop, if_pos claim.symm, if_pos verified]⟩

theorem order_against (notAll : allVerify env cert v = false) :
    ∃ r : Range Digest Signature, ∀ data, verifyLoop env v cert (r.order cert.signatures) ≠ .ok data := by
  by_cases unclaimed : claims env cert v = []
  · refine ⟨ascending, fun data accepted => ?_⟩
    have some := verify_loop_some env cert v ascending data accepted
    rw [someVerifies, unclaimed] at some
    cases some
  · have bad : ∃ sig ∈ claims env cert v, env.verifyWith v (message cert) sig.payload = false := by
      simpa [allVerify, unclaimed] using notAll
    obtain ⟨sig, member, unverified⟩ := bad
    obtain ⟨claim, slot, found⟩ := (mem_claims env cert v sig).mp member
    obtain ⟨r, rest, order⟩ := range_first cert.signatures slot sig found
    refine ⟨r, fun data accepted => ?_⟩
    rw [order, verifyLoop, if_pos claim.symm, unverified] at accepted
    cases accepted

end ClaimedSignatures

section Hashes

variable (env : Env) (cert : Certificate) (verifiers : List PublicKey)

def hashesOf (kind : PublicKey → Bool) : Finset Digest := ((verifiers.filter kind).map (keyHash env)).toFinset

theorem mem_hashes_of (kind : PublicKey → Bool) (id : Digest) :
    id ∈ hashesOf env verifiers kind ↔ ∃ v ∈ verifiers, kind v = true ∧ keyHash env v = id := by
  simp only [hashesOf, List.mem_toFinset, List.mem_map, List.mem_filter, and_assoc]

variable (now : UInt64) (raw : Bytes) (decoded : env.decodeCertificate raw = some cert) (sane : sanityCheck now cert = .ok ())

include decoded sane

theorem good_hashes_least (r : PublicKey → Range Digest Signature) :
    hashesOf env verifiers (allVerify env cert) ⊆ goodHashes env r now raw verifiers := by
  intro id member
  obtain ⟨v, listed, all, hash⟩ := (mem_hashes_of env verifiers _ id).mp member
  refine (mem_good_hashes env r now raw verifiers id).mpr ⟨v, listed, hash, cert.certified, ?_⟩
  rw [verify_sane env now _ _ raw cert ⟨decoded, sane⟩]
  exact verify_loop_all env cert v (r v) all

theorem good_hashes_most (r : PublicKey → Range Digest Signature) :
    goodHashes env r now raw verifiers ⊆ hashesOf env verifiers (someVerifies env cert) := by
  intro id member
  obtain ⟨v, listed, hash, data, accepted⟩ := (mem_good_hashes env r now raw verifiers id).mp member
  rw [verify_sane env now _ _ raw cert ⟨decoded, sane⟩] at accepted
  exact (mem_hashes_of env verifiers _ id).mpr ⟨v, listed, verify_loop_some env cert v (r v) data accepted, hash⟩

theorem good_hashes_least_attained :
    ∃ r, goodHashes env r now raw verifiers = hashesOf env verifiers (allVerify env cert) := by
  have orders : ∀ v, ∃ r : Range Digest Signature, ∀ data, verifyLoop env v cert (r.order cert.signatures) = .ok data →
      allVerify env cert v = true := by
    intro v
    cases all : allVerify env cert v with
    | true => exact ⟨ascending, fun _ _ => rfl⟩
    | false =>
        obtain ⟨r, against⟩ := order_against env cert v all
        exact ⟨r, fun data accepted => absurd accepted (against data)⟩
  choose r only using orders
  refine ⟨r, Finset.Subset.antisymm (fun id member => ?_) (good_hashes_least env cert verifiers now raw decoded sane r)⟩
  obtain ⟨v, listed, hash, data, accepted⟩ := (mem_good_hashes env r now raw verifiers id).mp member
  rw [verify_sane env now _ _ raw cert ⟨decoded, sane⟩] at accepted
  exact (mem_hashes_of env verifiers _ id).mpr ⟨v, listed, only v data accepted, hash⟩

theorem good_hashes_most_attained :
    ∃ r, goodHashes env r now raw verifiers = hashesOf env verifiers (someVerifies env cert) := by
  have orders : ∀ v, ∃ r : Range Digest Signature, someVerifies env cert v = true →
      verifyLoop env v cert (r.order cert.signatures) = .ok cert.certified := by
    intro v
    cases some : someVerifies env cert v with
    | true =>
        obtain ⟨r, accepted⟩ := order_for env cert v some
        exact ⟨r, fun _ => accepted⟩
    | false => exact ⟨ascending, nofun⟩
  choose r accepts using orders
  refine ⟨r, Finset.Subset.antisymm (good_hashes_most env cert verifiers now raw decoded sane r) (fun id member => ?_)⟩
  obtain ⟨v, listed, some, hash⟩ := (mem_hashes_of env verifiers _ id).mp member
  refine (mem_good_hashes env r now raw verifiers id).mpr ⟨v, listed, hash, cert.certified, ?_⟩
  rw [verify_sane env now _ _ raw cert ⟨decoded, sane⟩]
  exact accepts v some

end Hashes

section Agreement

variable (env : Env) {isPoint : Bytes → Bool} (anchors : List (TrustAnchor isPoint)) (threshold : Nat) (epoch : UInt64) (raw : Bytes)

def Agree (r : PublicKey → Range Digest Signature) : Prop :=
  let go := verifyThreshold env r epoch (anchors.map TrustAnchor.key) threshold raw
  match verifyCertificate env isPoint raw (anchors.flatMap TrustAnchor.raw) threshold epoch with
  | .ok (cert, _) =>
      go.err = none ∧ go.certified = some cert.certified ∧ env.decodeCertificate raw = some cert ∧
        certificateMessage cert = message cert
  | .error _ => go.err ≠ none

-- What the certificate, the anchors, the threshold and the epoch must be like.
-- If no anchor's first claim is of the wrong length and enough anchors,
-- repeated ones counted as often, have a first claim that verifies, then enough
-- different anchors must have only claims that do, over a document that is not
-- empty; and if not, then too few anchors must have a claim that verifies.
@[irreducible] def SameVerdict : Option Certificate → Prop
  | none => 0 < threshold
  | some cert =>
      let verifiers := anchors.map TrustAnchor.key
      if cert.version ≠ certVersion ∨ cert.expiration ≤ epoch then 0 < threshold
      else if anchors.length < threshold then True
      else if (∀ v ∈ verifiers, firstSized env cert v = true) ∧ threshold ≤ verifiers.countP (firstVerifies env cert) then
        (threshold = 0 ∧ cert.certified = []) ∨
          (cert.certified ≠ [] ∧ max threshold 1 ≤ (hashesOf env verifiers (allVerify env cert)).card)
      else 0 < threshold ∧ (cert.certified = [] ∨ (hashesOf env verifiers (someVerifies env cert)).card < threshold)

theorem none_good_refused_iff (r : PublicKey → Range Digest Signature) (verifiers : List PublicKey)
    (none_good : goodHashes env r epoch raw verifiers = ∅) :
    (verifyThreshold env r epoch verifiers threshold raw).err ≠ none ↔ 0 < threshold := by
  rw [ne_eq, verify_threshold_err env r epoch raw verifiers threshold, none_good, Finset.card_empty]
  omega

theorem good_hashes_refused (r : PublicKey → Range Digest Signature) (verifiers : List PublicKey)
    (refused : ∀ cert, env.decodeCertificate raw = some cert → sanityCheck epoch cert ≠ .ok ()) :
    goodHashes env r epoch raw verifiers = ∅ := by
  rw [Finset.eq_empty_iff_forall_notMem]
  intro id member
  obtain ⟨v, _, _, data, accepted⟩ := (mem_good_hashes env r epoch raw verifiers id).mp member
  obtain ⟨cert, decoded, sane, _⟩ := verify_ok env (r v) epoch v raw data accepted
  exact refused cert decoded sane

theorem verify_certificate_current (cert : Certificate) (decoded : env.decodeCertificate raw = some cert)
    (keyed : cert.keyType = ed25519) (version : cert.version = certVersion) (current : epoch < cert.expiration) :
    verifyCertificate env isPoint raw (anchors.flatMap TrustAnchor.raw) threshold epoch =
      if threshold > anchors.length then .error .invalidThreshold
      else
        match countGood env cert (anchors.map TrustAnchor.key) 0 with
        | .error e => .error e
        | .ok good => if good < threshold then .error .thresholdNotMet else .ok (cert, good) := by
  have named : eqIgnoreAsciiCase cert.keyType.bytes (ascii "ed25519") = true := by
    rw [keyed]
    decide
  simp only [verifyCertificate, decoded, version, ne_eq, not_true, if_false, ge_iff_le, UInt64.not_le.mpr current, named,
    Bool.not_true, Bool.false_eq_true, parse_trust_anchors, List.length_map]

theorem agree_refused_iff (r : PublicKey → Range Digest Signature) (e : ConsensusError)
    (refused : verifyCertificate env isPoint raw (anchors.flatMap TrustAnchor.raw) threshold epoch = .error e) :
    Agree env anchors threshold epoch raw r ↔
      (verifyThreshold env r epoch (anchors.map TrustAnchor.key) threshold raw).err ≠ none := by
  simp only [Agree, refused]

theorem refused_with_none_good (e : ConsensusError)
    (refused : verifyCertificate env isPoint raw (anchors.flatMap TrustAnchor.raw) threshold epoch = .error e)
    (insane : ∀ cert, env.decodeCertificate raw = some cert → sanityCheck epoch cert ≠ .ok ()) :
    (∀ r, Agree env anchors threshold epoch raw r) ↔ 0 < threshold := by
  have exactly : ∀ r, Agree env anchors threshold epoch raw r ↔ 0 < threshold := by
    intro r
    rw [agree_refused_iff env anchors threshold epoch raw r e refused]
    exact none_good_refused_iff env threshold epoch raw r _ (good_hashes_refused env epoch raw r _ insane)
  exact ⟨fun all => (exactly fun _ => ascending).mp (all _), fun positive r => (exactly r).mpr positive⟩

theorem refused_current_iff (cert : Certificate) (decoded : env.decodeCertificate raw = some cert)
    (keyed : cert.keyType = ed25519) (version : cert.version = certVersion) (current : epoch < cert.expiration)
    (within : threshold ≤ anchors.length) (e : ConsensusError)
    (refused : verifyCertificate env isPoint raw (anchors.flatMap TrustAnchor.raw) threshold epoch = .error e) :
    (∀ r, Agree env anchors threshold epoch raw r) ↔
      0 < threshold ∧ (cert.certified = [] ∨
        (hashesOf env (anchors.map TrustAnchor.key) (someVerifies env cert)).card < threshold) := by
  by_cases empty : cert.certified = []
  · have insane : ∀ other, env.decodeCertificate raw = some other → sanityCheck epoch other ≠ .ok () := by
      intro other found sane
      cases decoded.symm.trans found
      exact ((sanity_check_ok epoch cert).mp sane).2.2.2 empty
    rw [refused_with_none_good env anchors threshold epoch raw e refused insane]
    exact ⟨fun positive => ⟨positive, Or.inl empty⟩, fun both => both.1⟩
  · have sane : sanityCheck epoch cert = .ok () :=
      (sanity_check_ok epoch cert).mpr ⟨version, current, by rw [keyed]; decide, empty⟩
    have reach : threshold ≤ (anchors.map TrustAnchor.key).length := by rwa [List.length_map]
    simp only [agree_refused_iff env anchors threshold epoch raw _ e refused, ne_eq,
      verify_threshold_err env _ epoch raw _ threshold, Nat.cast_le, reach, true_and, Nat.not_le]
    constructor
    · intro all
      obtain ⟨r, most⟩ := good_hashes_most_attained env cert (anchors.map TrustAnchor.key) epoch raw decoded sane
      have few := all r
      rw [most] at few
      exact ⟨Nat.zero_lt_of_lt few, Or.inr few⟩
    · intro ⟨_, few⟩ r
      exact Nat.lt_of_le_of_lt (Finset.card_le_card (good_hashes_most env cert _ epoch raw decoded sane r)) (few.resolve_left empty)

theorem accepted_current_iff (cert : Certificate) (decoded : env.decodeCertificate raw = some cert)
    (keyed : cert.keyType = ed25519) (version : cert.version = certVersion) (current : epoch < cert.expiration)
    (within : threshold ≤ anchors.length) (good : Nat)
    (accepted : verifyCertificate env isPoint raw (anchors.flatMap TrustAnchor.raw) threshold epoch = .ok (cert, good)) :
    (∀ r, Agree env anchors threshold epoch raw r) ↔
      (threshold = 0 ∧ cert.certified = []) ∨ (cert.certified ≠ [] ∧
        max threshold 1 ≤ (hashesOf env (anchors.map TrustAnchor.key) (allVerify env cert)).card) := by
  have reach : threshold ≤ (anchors.map TrustAnchor.key).length := by rwa [List.length_map]
  have exactly : ∀ r, Agree env anchors threshold epoch raw r ↔
      threshold ≤ (goodHashes env r epoch raw (anchors.map TrustAnchor.key)).card ∧
        (goodHashes env r epoch raw (anchors.map TrustAnchor.key) = ∅ → cert.certified = []) := by
    intro r
    have passes := verify_threshold_err env r epoch raw (anchors.map TrustAnchor.key) threshold
    rw [Nat.cast_le, Nat.cast_le, and_iff_right reach] at passes
    simp only [Agree, accepted, decoded, certificate_message_eq, and_true, passes]
    refine and_congr_right fun enough => ?_
    rw [verify_threshold_data env r epoch raw _ threshold cert decoded (passes.mpr enough), Option.some_inj]
    split
    · rename_i none_good
      simp [none_good, eq_comm]
    · rename_i some_good
      simp [some_good]
  simp only [exactly]
  by_cases empty : cert.certified = []
  · have none_good : ∀ r, goodHashes env r epoch raw (anchors.map TrustAnchor.key) = ∅ := by
      intro r
      apply good_hashes_refused
      intro other found sane
      cases decoded.symm.trans found
      exact ((sanity_check_ok epoch cert).mp sane).2.2.2 empty
    simp only [none_good, Finset.card_empty, empty, implies_true, and_true, ne_eq, not_true, false_and, or_false]
    exact ⟨fun all => Nat.le_zero.mp (all fun _ => ascending), fun zero _ => Nat.le_zero.mpr zero⟩
  · have sane : sanityCheck epoch cert = .ok () :=
      (sanity_check_ok epoch cert).mpr ⟨version, current, by rw [keyed]; decide, empty⟩
    simp only [empty, and_false, false_or, ne_eq, not_false_eq_true, true_and, imp_false, Nat.max_le]
    constructor
    · intro all
      obtain ⟨r, least⟩ := good_hashes_least_attained env cert (anchors.map TrustAnchor.key) epoch raw decoded sane
      obtain ⟨enough, some_good⟩ := all r
      rw [least] at enough some_good
      exact ⟨enough, Finset.card_pos.mpr (Finset.nonempty_iff_ne_empty.mpr some_good)⟩
    · intro ⟨enough, some_good⟩ r
      have least := good_hashes_least env cert (anchors.map TrustAnchor.key) epoch raw decoded sane r
      refine ⟨Nat.le_trans enough (Finset.card_le_card least), fun none_good => ?_⟩
      rw [none_good, Finset.subset_empty] at least
      rw [least, Finset.card_empty] at some_good
      omega

/-- The verifier of the browser and the one in Go give the same verdict in every order of the
signatures just under the given condition on the certificate and the anchors. -/
theorem browser_agrees_iff (keyed : ∀ cert, env.decodeCertificate raw = some cert → cert.keyType = ed25519) :
    (∀ r, Agree env anchors threshold epoch raw r) ↔
      SameVerdict env anchors threshold epoch (env.decodeCertificate raw) := by
  cases decoded : env.decodeCertificate raw with
  | none =>
      rw [SameVerdict]
      apply refused_with_none_good env anchors threshold epoch raw .cbor
      · simp only [verifyCertificate, decoded]
      · intro cert found
        cases decoded.symm.trans found
  | some cert =>
      simp only [SameVerdict]
      by_cases stale : cert.version ≠ certVersion ∨ cert.expiration ≤ epoch
      · have insane : ∀ other, env.decodeCertificate raw = some other → sanityCheck epoch other ≠ .ok () := by
          intro other found sane
          cases decoded.symm.trans found
          obtain ⟨version, current, _⟩ := (sanity_check_ok epoch cert).mp sane
          exact stale.elim (fun wrong => wrong version) (fun expired => UInt64.not_le.mpr current expired)
        rw [if_pos stale]
        by_cases version : cert.version = certVersion
        · apply refused_with_none_good env anchors threshold epoch raw .expired _ insane
          have expired := stale.resolve_left (not_not.mpr version)
          simp only [verifyCertificate, decoded, version, ne_eq, not_true, if_false, ge_iff_le, expired, if_true]
        · apply refused_with_none_good env anchors threshold epoch raw .version _ insane
          simp only [verifyCertificate, decoded, ne_eq, version, not_false_eq_true, if_true]
      · rw [if_neg stale]
        obtain ⟨version, current⟩ := not_or.mp stale
        have named := keyed cert decoded
        have browser := verify_certificate_current env anchors threshold epoch raw cert decoded named (not_not.mp version)
          (UInt64.not_le.mp current)
        by_cases beyond : anchors.length < threshold
        · rw [if_pos beyond, iff_true]
          rw [if_pos beyond] at browser
          intro r
          rw [agree_refused_iff env anchors threshold epoch raw r _ browser, verifyThreshold,
            if_pos (by rw [List.length_map]; omega)]
          simp
        · rw [if_neg beyond]
          rw [if_neg beyond] at browser
          have within := Nat.le_of_not_lt beyond
          split
          · rename_i enough
            rw [count_good_eq env cert _ 0 enough.1, Nat.zero_add] at browser
            dsimp only at browser
            rw [if_neg (Nat.not_lt.mpr enough.2)] at browser
            exact accepted_current_iff env anchors threshold epoch raw cert decoded named (not_not.mp version)
              (UInt64.not_le.mp current) within _ browser
          · rename_i lacking
            have refused : ∃ e, verifyCertificate env isPoint raw (anchors.flatMap TrustAnchor.raw) threshold epoch = .error e := by
              by_cases sized : ∀ v ∈ anchors.map TrustAnchor.key, firstSized env cert v = true
              · rw [count_good_eq env cert _ 0 sized, Nat.zero_add] at browser
                dsimp only at browser
                rw [if_pos (Nat.lt_of_not_le fun few => lacking ⟨sized, few⟩)] at browser
                exact ⟨_, browser⟩
              · rw [not_forall] at sized
                obtain ⟨v, missized⟩ := sized
                obtain ⟨member, missized⟩ := Classical.not_imp.mp missized
                rw [count_good_missized env cert _ 0 v member (Bool.eq_false_of_not_eq_true missized)] at browser
                exact ⟨_, browser⟩
            obtain ⟨e, refused⟩ := refused
            exact refused_current_iff env anchors threshold epoch raw cert decoded named (not_not.mp version)
              (UInt64.not_le.mp current) within e refused

end Agreement

def sampleAnchor (byte : UInt8) : TrustAnchor fun _ => true := ⟨List.replicate 32 byte, rfl, rfl⟩

def onceSigned : Certificate :=
  withSignature referenceEnv ⟨ed25519, (sampleAnchor 1).raw⟩ (sampleAnchor 1).key ⟨certVersion, 9, ed25519, [7], ∅⟩

def onceSignedRaw : Bytes := referenceEnv.encodeCertificate onceSigned

theorem once_signed_decoded : referenceEnv.decodeCertificate onceSignedRaw = some onceSigned :=
  reference_codec.certificate onceSigned

theorem once_signed_keyed (cert : Certificate) (decoded : referenceEnv.decodeCertificate onceSignedRaw = some cert) :
    cert.keyType = ed25519 := by
  cases once_signed_decoded.symm.trans decoded
  rfl

theorem once_signed_verdict : SameVerdict referenceEnv [sampleAnchor 1, sampleAnchor 2] 1 3 (some onceSigned) := by
  simp only [SameVerdict]
  decide +kernel

theorem distinct_anchors_agree :
    onceSigned.keyType = ed25519 ∧ ∀ r, Agree referenceEnv [sampleAnchor 1, sampleAnchor 2] 1 3 onceSignedRaw r := by
  constructor
  · rfl
  · rw [browser_agrees_iff referenceEnv [sampleAnchor 1, sampleAnchor 2] 1 3 onceSignedRaw once_signed_keyed,
      once_signed_decoded]
    exact once_signed_verdict

/-- The same anchor given twice counts twice in the browser and once in Go. -/
theorem repeated_anchor_counts_twice :
    (verifyCertificate referenceEnv (fun _ => true) onceSignedRaw
        ([sampleAnchor 1, sampleAnchor 1].flatMap TrustAnchor.raw) 2 3).isOk = true ∧
      (verifyThreshold referenceEnv (fun _ => ascending) 3 ([sampleAnchor 1, sampleAnchor 1].map TrustAnchor.key) 2
        onceSignedRaw).err = some .thresholdNotMet := by
  constructor
  · rw [verify_certificate_current referenceEnv _ 2 3 onceSignedRaw onceSigned once_signed_decoded rfl rfl (by decide)]
    decide +kernel
  · simp only [verifyThreshold, verifyEach, verify, decodeSane, once_signed_decoded, List.map_cons, List.map_nil]
    decide +kernel

end Katzenpost
