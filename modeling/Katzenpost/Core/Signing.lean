import Katzenpost.Core.Cert
import Katzenpost.Core.Reference

set_option autoImplicit false

namespace Katzenpost

open Go Std

inductive SigningCall where
  | sign (now : UInt64) (data : Bytes) (expiration : UInt64)
  | signMulti (now : UInt64) (raw : Bytes)

def callResult (env : Env) (signer : PrivateKey) (verifier : PublicKey) : SigningCall → Except CertError Bytes
  | .sign now data expiration => sign env now signer verifier data expiration
  | .signMulti now raw => signMulti env now signer verifier raw

def signedCertificate (env : Env) (signer : PrivateKey) : SigningCall → Option Certificate
  | .sign now data expiration =>
      (sanityCheck now (newCertificate signer data expiration)).toOption.map fun _ =>
        newCertificate signer data expiration
  | .signMulti now raw => (decodeSane env now raw .impossibleDecode).toOption.filter (signer.scheme = ·.keyType)

def Unforgeable (env : Env) (signer : PrivateKey) (verifier : PublicKey) (calls : List SigningCall) : Prop :=
  ∀ mesg payload, env.verifyWith verifier mesg payload = true →
    ∃ call ∈ calls, ∃ c, signedCertificate env signer call = some c ∧ message c = mesg

def SignedAs (env : Env) (signer : PrivateKey) (calls : List SigningCall) (data : Bytes)
    (keyType : Text) (expiration : UInt64) : Prop :=
  ∃ call ∈ calls, ∃ c, signedCertificate env signer call = some c ∧
    c.certified = data ∧ c.keyType = keyType ∧ c.expiration = expiration

theorem signed_certificate_key_type (env : Env) (signer : PrivateKey) (call : SigningCall) (c : Certificate)
    (signed : signedCertificate env signer call = some c) : c.keyType = signer.scheme := by
  cases call with
  | sign now data expiration =>
      obtain ⟨_, _, rfl⟩ := Option.map_eq_some_iff.mp signed
      rfl
  | signMulti now raw =>
      have kept := (Option.filter_eq_some_iff.mp signed).2
      exact (of_decide_eq_true kept).symm

theorem message_eq_iff (a b : Certificate) :
    message a = message b ↔
      a.version = b.version ∧ a.expiration = b.expiration ∧ a.keyType.bytes ++ a.certified =
        b.keyType.bytes ++ b.certified := by
  constructor
  · intro same
    simp only [message, List.append_assoc] at same
    have widths : (putUint32LE a.version).length = (putUint32LE b.version).length := by
      simp [putUint32LE, little_endian_length]
    obtain ⟨versions, rest⟩ := List.append_inj same widths
    have widths : (putUint64LE a.expiration).length = (putUint64LE b.expiration).length := by
      simp [putUint64LE, little_endian_length]
    obtain ⟨expirations, tails⟩ := List.append_inj rest widths
    refine ⟨UInt32.toNat_inj.mp ?_, UInt64.toNat_inj.mp ?_, tails⟩
    · exact little_endian_injective 4 _ _ a.version.toNat_lt b.version.toNat_lt versions
    · exact little_endian_injective 8 _ _ a.expiration.toNat_lt b.expiration.toNat_lt expirations
  · rintro ⟨versions, expirations, tails⟩
    simp only [message, List.append_assoc, versions, expirations, tails]

theorem message_split (a b : Certificate) (same : message a = message b) :
    (a.version = b.version ∧ a.expiration = b.expiration ∧ a.keyType = b.keyType ∧ a.certified = b.certified) ↔
      a.keyType.bytes.length = b.keyType.bytes.length := by
  obtain ⟨versions, expirations, tails⟩ := (message_eq_iff a b).mp same
  constructor
  · rintro ⟨-, -, keyTypes, -⟩
    rw [keyTypes]
  · intro lengths
    obtain ⟨keyTypes, certified⟩ := List.append_inj tails lengths
    exact ⟨versions, expirations, text_ext _ _ keyTypes, certified⟩

/-- Verify never compares the key type with the verifier's scheme, so what it returns was signed
exactly when the presented key type is that scheme. -/
theorem verify_returns_signed_iff (env : Env) (signer : PrivateKey) (verifier : PublicKey) (calls : List SigningCall)
    (pair : signer.scheme = verifier.scheme) (unforgeable : Unforgeable env signer verifier calls) :
    (∀ (r : Range Digest Signature) (now : UInt64) (raw data : Bytes) (c : Certificate),
      env.decodeCertificate raw = some c → verify env r now verifier raw = .ok data →
        (SignedAs env signer calls data c.keyType c.expiration ↔ c.keyType = verifier.scheme)) ∧
    (∀ (now later : UInt64) (a b : Certificate), sanityCheck now a = .ok () → sanityCheck later b = .ok () →
      message a = message b →
        ((a.version = b.version ∧ a.expiration = b.expiration ∧ a.keyType = b.keyType ∧ a.certified = b.certified) ↔
          a.keyType.bytes.length = b.keyType.bytes.length)) := by
  refine ⟨?_, fun _ _ a b _ _ same => message_split a b same⟩
  intro r now raw data c presented accepted
  obtain ⟨decoded, present, _, rfl, _, sig, _, _, valid⟩ := verify_ok env r now verifier raw data accepted
  obtain rfl : decoded = c := Option.some.inj (present.symm.trans presented)
  constructor
  · rintro ⟨call, _, s, signed, -, keyType, -⟩
    rw [← keyType, signed_certificate_key_type env signer call s signed, pair]
  · intro scheme
    obtain ⟨call, member, s, signed, same⟩ := unforgeable _ _ valid
    have keyTypes : s.keyType = decoded.keyType := by
      rw [signed_certificate_key_type env signer call s signed, pair, scheme]
    obtain ⟨-, expirations, -, certified⟩ := (message_split s decoded same).mpr (by rw [keyTypes])
    exact ⟨call, member, s, signed, certified, keyTypes, expirations⟩

def nodeSecret : PrivateKey := ⟨ed25519, [7]⟩

def nodePublic : PublicKey := ⟨ed25519, [7]⟩

def nodeCall : SigningCall := .sign 3 [1, 2, 3] 10

def nodeMessage : Bytes := message (newCertificate nodeSecret [1, 2, 3] 10)

def nodeSignature : Signature := ⟨keyHash referenceEnv nodePublic, referenceSign [7] nodeMessage⟩

def nodeCertificate : Certificate :=
  ⟨certVersion, 10, ed25519, [1, 2, 3], ExtTreeMap.ofList [(keyHash referenceEnv nodePublic, nodeSignature)]⟩

def shiftedCertificate : Certificate := { nodeCertificate with keyType := ⟨ascii "Ed2551", by decide⟩, certified := [57, 1, 2, 3] }

def nodeEnv : Env := loggedEnv [(nodePublic, nodeMessage)]

theorem node_call_signs : signedCertificate nodeEnv nodeSecret nodeCall =
    some (newCertificate nodeSecret [1, 2, 3] 10) := by decide +kernel

theorem node_unforgeable : Unforgeable nodeEnv nodeSecret nodePublic [nodeCall] := by
  intro mesg payload valid
  obtain ⟨_, logged⟩ : payload = referenceSign nodePublic.raw mesg ∧ (nodePublic, mesg) ∈ [(nodePublic, nodeMessage)] :=
    of_decide_eq_true valid
  obtain ⟨-, rfl⟩ := Prod.mk.inj (List.mem_singleton.mp logged)
  exact ⟨nodeCall, List.mem_singleton.mpr rfl, _, node_call_signs, rfl⟩

theorem verify_returns_signed_node :
    verify nodeEnv ascending 3 nodePublic (nodeEnv.encodeCertificate nodeCertificate) = .ok [1, 2, 3] ∧
      SignedAs nodeEnv nodeSecret [nodeCall] [1, 2, 3] ed25519 10 := by
  have accepted : verify nodeEnv ascending 3 nodePublic (nodeEnv.encodeCertificate nodeCertificate) = .ok [1, 2, 3] := by
    decide +kernel
  have sound := (verify_returns_signed_iff nodeEnv nodeSecret nodePublic [nodeCall] rfl node_unforgeable).1
  exact ⟨accepted, (sound ascending 3 _ _ nodeCertificate ((logged_codec _).certificate _) accepted).mpr rfl⟩

/-- The same signature with the last letter of the key type moved into the certified data. -/
theorem verify_returns_unsigned :
    Unforgeable nodeEnv nodeSecret nodePublic [nodeCall] ∧
      verify nodeEnv ascending 3 nodePublic (nodeEnv.encodeCertificate shiftedCertificate) = .ok [57, 1, 2, 3] ∧
      ¬ SignedAs nodeEnv nodeSecret [nodeCall] [57, 1, 2, 3] shiftedCertificate.keyType shiftedCertificate.expiration ∧
      sanityCheck 3 shiftedCertificate = .ok () ∧ message shiftedCertificate = message nodeCertificate ∧
      shiftedCertificate.certified ≠ nodeCertificate.certified := by
  refine ⟨node_unforgeable, by decide +kernel, ?_, by decide +kernel, by decide +kernel, by decide +kernel⟩
  rintro ⟨call, member, c, signed, certified, -⟩
  rw [List.mem_singleton.mp member, node_call_signs] at signed
  rw [← Option.some.inj signed] at certified
  exact absurd certified (by decide)

end Katzenpost
