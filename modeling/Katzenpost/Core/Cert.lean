import Katzenpost.Core.Types

set_option autoImplicit false

namespace Katzenpost

open Go Std

inductive CertError where
  | impossibleDecode
  | impossibleEncode
  | badSignature
  | duplicateSignature
  | invalidCertified
  | keyTypeMismatch
  | invalidKeyType
  | versionMismatch
  | certificateExpired
  | identitySignatureNotFound
  | invalidThreshold
  | thresholdNotMet
deriving DecidableEq, Repr

def certVersion : UInt32 := 0

def message (c : Certificate) : Bytes :=
  putUint32LE c.version ++ putUint64LE c.expiration ++ c.keyType.bytes ++ c.certified

-- now is the epoch that epochtime.Now returns to the caller.
def sanityCheck (now : UInt64) (c : Certificate) : Except CertError Unit :=
  if c.version ≠ certVersion then .error .versionMismatch
  else if now ≥ c.expiration then .error .certificateExpired
  else if c.keyType.bytes = [] then .error .invalidKeyType
  else if c.certified = [] then .error .invalidCertified
  else .ok ()

def decodeSane (env : Env) (now : UInt64) (raw : Bytes) (undecodable : CertError) : Except CertError Certificate :=
  match env.decodeCertificate raw with
  | none => .error undecodable
  | some c => (sanityCheck now c).map fun _ => c

def newCertificate (signer : PrivateKey) (data : Bytes) (expiration : UInt64) : Certificate :=
  ⟨certVersion, expiration, signer.scheme, data, ∅⟩

def withSignature (env : Env) (signer : PrivateKey) (verifier : PublicKey) (c : Certificate) : Certificate :=
  let own : Signature := ⟨keyHash env verifier, env.signWith signer (message c)⟩
  { c with signatures := c.signatures.insert own.publicKeySum256 own }

def sign (env : Env) (now : UInt64) (signer : PrivateKey) (verifier : PublicKey) (data : Bytes)
    (expiration : UInt64) : Except CertError Bytes :=
  let c := newCertificate signer data expiration
  (sanityCheck now c).map fun _ => env.encodeCertificate (withSignature env signer verifier c)

def getCertified (env : Env) (now : UInt64) (raw : Bytes) : Except CertError Bytes :=
  (decodeSane env now raw .impossibleDecode).map Certificate.certified

def getSignatures (env : Env) (r : Range Digest Signature) (now : UInt64) (raw : Bytes) :
    Except CertError (List Signature) :=
  (decodeSane env now raw .impossibleDecode).map fun c => (r.order c.signatures).map Prod.snd

def signMulti (env : Env) (now : UInt64) (signer : PrivateKey) (verifier : PublicKey) (raw : Bytes) :
    Except CertError Bytes :=
  match decodeSane env now raw .impossibleDecode with
  | .error e => .error e
  | .ok c =>
      if signer.scheme ≠ c.keyType then .error .keyTypeMismatch
      else .ok (env.encodeCertificate (withSignature env signer verifier c))

-- The loop that looks for a signature already present tests the identity a
-- signature claims, not the key it is stored under.
def addSignature (env : Env) (r : Range Digest Signature) (now : UInt64) (verifier : PublicKey)
    (signature : Signature) (raw : Bytes) : Except CertError Bytes :=
  match decodeSane env now raw .impossibleDecode with
  | .error e => .error e
  | .ok c =>
      if (r.order c.signatures).any (fun entry => entry.2.publicKeySum256 = signature.publicKeySum256) then
        .error .duplicateSignature
      else if env.verifyWith verifier (message c) signature.payload then
        .ok (env.encodeCertificate
          { c with signatures := c.signatures.insert signature.publicKeySum256 signature })
      else .error .badSignature

def verifyLoop (env : Env) (verifier : PublicKey) (c : Certificate) :
    List (Digest × Signature) → Except CertError Bytes
  | [] => .error .identitySignatureNotFound
  | (_, sig) :: rest =>
      if keyHash env verifier = sig.publicKeySum256 then
        if env.verifyWith verifier (message c) sig.payload then .ok c.certified else .error .badSignature
      else verifyLoop env verifier c rest

def verify (env : Env) (r : Range Digest Signature) (now : UInt64) (verifier : PublicKey) (raw : Bytes) :
    Except CertError Bytes :=
  match decodeSane env now raw .impossibleEncode with
  | .error e => .error e
  | .ok c => verifyLoop env verifier c (r.order c.signatures)

structure ThresholdResult where
  certified : Option Bytes
  good : GoMap Digest PublicKey
  bad : List PublicKey
  err : Option CertError

-- Each verifier's call of Verify decodes the certificate anew, so each has an
-- iteration order of its own.
def verifyEach (env : Env) (r : PublicKey → Range Digest Signature) (now : UInt64) (raw : Bytes) :
    List PublicKey → ThresholdResult → ThresholdResult
  | [], acc => acc
  | verifier :: rest, acc =>
      match verify env (r verifier) now verifier raw with
      | .error _ => verifyEach env r now raw rest { acc with bad := acc.bad ++ [verifier] }
      | .ok certified => verifyEach env r now raw rest
          { acc with certified := some certified, good := acc.good.insert (keyHash env verifier) verifier }

def verifyThreshold (env : Env) (r : PublicKey → Range Digest Signature) (now : UInt64)
    (verifiers : List PublicKey) (threshold : Int) (raw : Bytes) : ThresholdResult :=
  if threshold > verifiers.length then ⟨none, ∅, [], some .invalidThreshold⟩
  else
    let acc := verifyEach env r now raw verifiers ⟨some [], ∅, [], none⟩
    if (acc.good.size : Int) ≥ threshold then acc
    else { acc with certified := none, err := some .thresholdNotMet }

theorem sanity_check_ok (now : UInt64) (c : Certificate) :
    sanityCheck now c = .ok () ↔
      c.version = certVersion ∧ now < c.expiration ∧ c.keyType.bytes ≠ [] ∧ c.certified ≠ [] := by
  unfold sanityCheck
  split
  · simp_all
  · split
    · simp_all [← UInt64.not_lt]
    · split
      · simp_all
      · split <;> simp_all [← UInt64.not_le]

theorem decode_sane_ok (env : Env) (now : UInt64) (raw : Bytes) (undecodable : CertError) (c : Certificate) :
    decodeSane env now raw undecodable = .ok c ↔
      env.decodeCertificate raw = some c ∧ sanityCheck now c = .ok () := by
  unfold decodeSane
  cases decoded : env.decodeCertificate raw with
  | none => simp
  | some other =>
      cases sane : sanityCheck now other with
      | error e =>
          simp only [sane, Except.map, Option.some.injEq, reduceCtorEq, false_iff, not_and]
          rintro rfl
          simp [sane]
      | ok u =>
          simp only [sane, Except.map, Except.ok.injEq, Option.some.injEq, iff_self_and]
          rintro rfl
          exact sane

theorem verify_loop_ok (env : Env) (verifier : PublicKey) (c : Certificate) (entries : List (Digest × Signature))
    (data : Bytes) (accepted : verifyLoop env verifier c entries = .ok data) :
    data = c.certified ∧ ∃ slot sig, (slot, sig) ∈ entries ∧ sig.publicKeySum256 = keyHash env verifier ∧
      env.verifyWith verifier (message c) sig.payload = true := by
  induction entries with
  | nil => simp [verifyLoop] at accepted
  | cons head rest ih =>
      obtain ⟨slot, sig⟩ := head
      rw [verifyLoop] at accepted
      split at accepted
      · rename_i claims
        split at accepted
        · rename_i valid
          exact ⟨(Except.ok.inj accepted).symm, slot, sig, List.mem_cons_self, claims.symm, valid⟩
        · simp at accepted
      · obtain ⟨same, slot', sig', member, rest'⟩ := ih accepted
        exact ⟨same, slot', sig', List.mem_cons_of_mem _ member, rest'⟩

theorem verify_ok (env : Env) (r : Range Digest Signature) (now : UInt64) (verifier : PublicKey)
    (raw data : Bytes) (accepted : verify env r now verifier raw = .ok data) :
    ∃ c, env.decodeCertificate raw = some c ∧ sanityCheck now c = .ok () ∧ data = c.certified ∧
      ∃ (slot : Digest) (sig : Signature), c.signatures[slot]? = some sig ∧
        sig.publicKeySum256 = keyHash env verifier ∧ env.verifyWith verifier (message c) sig.payload = true := by
  unfold verify at accepted
  cases decoded : decodeSane env now raw .impossibleEncode with
  | error e => simp [decoded] at accepted
  | ok c =>
      rw [decoded] at accepted
      obtain ⟨present, sane⟩ := (decode_sane_ok env now raw _ c).mp decoded
      obtain ⟨same, slot, sig, member, claims, valid⟩ := verify_loop_ok env verifier c _ data accepted
      exact ⟨c, present, sane, same, slot, sig, (order_mem r c.signatures slot sig).mp member, claims, valid⟩

section Threshold

variable (env : Env) (r : PublicKey → Range Digest Signature) (now : UInt64) (raw : Bytes) (verifiers : List PublicKey)

theorem verify_each_good (acc : ThresholdResult) (id : Digest) :
    id ∈ (verifyEach env r now raw verifiers acc).good ↔ id ∈ acc.good ∨
      ∃ v ∈ verifiers, keyHash env v = id ∧ ∃ data, verify env (r v) now v raw = .ok data := by
  induction verifiers generalizing acc with
  | nil => simp [verifyEach]
  | cons v rest ih =>
      rw [verifyEach]
      cases result : verify env (r v) now v raw with
      | error e =>
          rw [ih]
          simp [result]
      | ok data =>
          rw [ih, ExtTreeMap.mem_insert, Std.compare_eq_iff_eq]
          simp only [List.mem_cons, exists_eq_or_imp, result, Except.ok.injEq, exists_eq', and_true]
          tauto

theorem verify_each_err (acc : ThresholdResult) : (verifyEach env r now raw verifiers acc).err = acc.err := by
  induction verifiers generalizing acc with
  | nil => rfl
  | cons v rest ih =>
      rw [verifyEach]
      split
      · exact ih _
      · exact ih _

theorem verify_each_certified (acc : ThresholdResult) (data : Bytes)
    (same : ∀ v other, verify env (r v) now v raw = .ok other → other = data) :
    (verifyEach env r now raw verifiers acc).certified =
      if verifiers.any fun v => (verify env (r v) now v raw).isOk then some data else acc.certified := by
  induction verifiers generalizing acc with
  | nil => rfl
  | cons v rest ih =>
      rw [verifyEach, List.any_cons]
      cases result : verify env (r v) now v raw with
      | error e => exact ih _
      | ok other =>
          rw [ih, same v other result]
          exact ite_self _

def goodHashes : Finset Digest :=
  ((verifiers.filter fun v => (verify env (r v) now v raw).isOk).map (keyHash env)).toFinset

theorem mem_good_hashes (id : Digest) :
    id ∈ goodHashes env r now raw verifiers ↔
      ∃ v ∈ verifiers, keyHash env v = id ∧ ∃ data, verify env (r v) now v raw = .ok data := by
  have succeeds : ∀ v, (verify env (r v) now v raw).isOk = true ↔ ∃ data, verify env (r v) now v raw = .ok data := by
    intro v
    cases verify env (r v) now v raw with
    | error e => simp [Except.isOk, Except.toBool]
    | ok data => simp [Except.isOk, Except.toBool]
  simp only [goodHashes, List.mem_toFinset, List.mem_map, List.mem_filter, succeeds]
  constructor
  · intro ⟨v, ⟨member, accepted⟩, hash⟩
    exact ⟨v, member, hash, accepted⟩
  · intro ⟨v, member, hash, accepted⟩
    exact ⟨v, ⟨member, accepted⟩, hash⟩

theorem verify_each_size :
    (verifyEach env r now raw verifiers ⟨some [], ∅, [], none⟩).good.size = (goodHashes env r now raw verifiers).card := by
  have keys : goodHashes env r now raw verifiers =
      (verifyEach env r now raw verifiers ⟨some [], ∅, [], none⟩).good.keys.toFinset := by
    ext id
    rw [mem_good_hashes, List.mem_toFinset, ExtTreeMap.mem_keys, verify_each_good]
    simp
  rw [keys, List.toFinset_card_of_nodup, ExtTreeMap.length_keys]
  exact ExtTreeMap.distinct_keys.imp fun differ same => differ (Std.compare_eq_iff_eq.mpr same)

theorem verify_threshold_err (threshold : Int) :
    (verifyThreshold env r now verifiers threshold raw).err = none ↔
      threshold ≤ verifiers.length ∧ threshold ≤ (goodHashes env r now raw verifiers).card := by
  unfold verifyThreshold
  by_cases many : threshold > verifiers.length
  · simp only [if_pos many, reduceCtorEq, false_iff]
    omega
  · simp only [if_neg many, verify_each_size]
    by_cases enough : ((goodHashes env r now raw verifiers).card : Int) ≥ threshold
    · simp only [if_pos enough, verify_each_err, true_iff]
      omega
    · simp only [if_neg enough, reduceCtorEq, false_iff]
      omega

theorem verify_threshold_data (threshold : Int) (c : Certificate) (decoded : env.decodeCertificate raw = some c)
    (success : (verifyThreshold env r now verifiers threshold raw).err = none) :
    (verifyThreshold env r now verifiers threshold raw).certified =
      some (if goodHashes env r now raw verifiers = ∅ then [] else c.certified) := by
  obtain ⟨within, enough⟩ := (verify_threshold_err env r now raw verifiers threshold).mp success
  have same : ∀ v other, verify env (r v) now v raw = .ok other → other = c.certified := by
    intro v other accepted
    obtain ⟨c', decoded', -, same, -⟩ := verify_ok env (r v) now v raw other accepted
    rw [same, Option.some.inj (decoded.symm.trans decoded')]
  have any_good : goodHashes env r now raw verifiers = ∅ ↔
      ¬ (verifiers.any fun v => (verify env (r v) now v raw).isOk) = true := by
    simp [goodHashes]
  have possible : ¬ threshold > verifiers.length := by omega
  have met : ((goodHashes env r now raw verifiers).card : Int) ≥ threshold := enough
  simp only [verifyThreshold, if_neg possible, verify_each_size, if_pos met,
    verify_each_certified env r now raw verifiers _ c.certified same, any_good]
  split
  · rfl
  · rfl

end Threshold

end Katzenpost
