import Katzenpost.Core.Cert
import Katzenpost.Core.SharedRandom

set_option autoImplicit false

namespace Katzenpost

open Go Std

def documentVersion : Bytes := ascii "v1"

inductive DocumentError where
  | certificate (cause : CertError)
  | notSigned
  | undecodable
deriving DecidableEq, Repr

def documentCertificate (env : Env) (d : Document) : Certificate :=
  ⟨certVersion, d.epoch + 5, d.pkiSignatureScheme, env.encodeDocument { d with version := documentVersion }, d.signatures⟩

-- d.Signatures is indexed by the identity each signature claims; of two that
-- claim the same, the later one stays.
def collectSignatures (sigs : List Signature) : GoMap Digest Signature :=
  fileUnder Signature.publicKeySum256 id ∅ sigs

def unmarshalCertificate (env : Env) (r : Range Digest Signature) (now : UInt64) (data : Bytes) :
    Except DocumentError Document :=
  match getCertified env now data with
  | .error e => .error (.certificate e)
  | .ok certified =>
      match getSignatures env r now data with
      | .error e => .error (.certificate e)
      | .ok sigs =>
          if sigs = [] then .error .notSigned
          else match env.decodeDocument certified with
            | none => .error .undecodable
            | some d => .ok { d with signatures := collectSignatures sigs }

def parseDocument (env : Env) (r : Range Digest Signature) (now : UInt64) (b : Bytes) : Except DocumentError Document :=
  unmarshalCertificate env r now b

structure PairRanges where
  commit : Digest → Range Digest Signature
  reveal : Digest → Range Digest Signature

end Katzenpost
