import Katzenpost.Go.Map
import Katzenpost.Go.Bytes

set_option autoImplicit false

namespace Katzenpost

open Go Std

def nodeIDLength : Nat := 32

def recipientIDLength : Nat := 32

structure Digest where
  bytes : Bytes
  size : bytes.length = 32
deriving DecidableEq

instance : Ord Digest := ⟨compareOn Digest.bytes⟩

instance : TransOrd Digest := inferInstanceAs (TransCmp (compareOn Digest.bytes))

instance : LawfulEqOrd Digest where
  compare_self {a} := @ReflCmp.compare_self Bytes compare _ a.bytes
  eq_of_compare {a b} same := by
    have bytes : a.bytes = b.bytes := @LawfulEqCmp.eq_of_compare Bytes compare _ _ _ same
    cases a
    cases b
    simpa using bytes

-- Floating point parameters are carried as their bit patterns, with one
-- pattern for all that are not a number.
abbrev Float64 := UInt64

structure PublicKey where
  scheme : Text
  raw : Bytes
deriving DecidableEq

structure PrivateKey where
  scheme : Text
  raw : Bytes
deriving DecidableEq

def ed25519 : Text := ⟨ascii "Ed25519", by decide⟩

structure Signature where
  publicKeySum256 : Digest
  payload : Bytes
deriving DecidableEq

structure Certificate where
  version : UInt32
  expiration : UInt64
  keyType : Text
  certified : Bytes
  signatures : GoMap Digest Signature
deriving DecidableEq

-- A value of a Kaetzchen parameter map. Only the endpoint is read, and only
-- as a string; any other value is kept as the bytes it was encoded with.
inductive Value where
  | text (s : Bytes)
  | other (encoded : Bytes)
deriving DecidableEq

abbrev Capabilities := GoMap Bytes (Option (GoMap Bytes Value))

-- pki.MixDescriptor. An Option field distinguishes nil from the empty value
-- wherever the source tests for nil.
structure MixDescriptor where
  name : Bytes
  epoch : UInt64
  identityKey : Option Bytes
  linkKey : Option Bytes
  mixKeys : GoMap UInt64 (Option Bytes)
  addresses : GoMap Bytes (List Bytes)
  kaetzchen : Option Capabilities
  kaetzchenAdvertizedData : Option Capabilities
  isGatewayNode : Bool
  isServiceNode : Bool
  loadWeight : UInt8
  authenticationType : Bytes
  version : Bytes
deriving DecidableEq

structure ReplicaDescriptor where
  name : Bytes
  replicaID : UInt8
  epoch : UInt64
  identityKey : Option Bytes
  linkKey : Option Bytes
  envelopeKeys : Option (GoMap UInt64 Bytes)
  addresses : GoMap Bytes (List Bytes)
deriving DecidableEq

def MixDescriptor.identity (desc : MixDescriptor) : Bytes := desc.identityKey.getD []

def ReplicaDescriptor.identity (desc : ReplicaDescriptor) : Bytes := desc.identityKey.getD []

abbrev EnvelopeKeys := GoMap UInt8 (GoMap UInt64 Bytes)

-- pki.Document. Signatures are detached: they are not part of the encoding.
structure Document where
  epoch : UInt64
  genesisEpoch : UInt64
  sendRatePerMinute : UInt64
  mu : Float64
  muMaxDelay : UInt64
  lambdaP : Float64
  lambdaPMaxDelay : UInt64
  lambdaL : Float64
  lambdaLMaxDelay : UInt64
  lambdaD : Float64
  lambdaDMaxDelay : UInt64
  lambdaM : Float64
  lambdaMMaxDelay : UInt64
  lambdaG : Float64
  lambdaGMaxDelay : UInt64
  lambdaR : Float64
  lambdaRMaxDelay : UInt64
  topology : List (List MixDescriptor)
  gatewayNodes : List MixDescriptor
  serviceNodes : List MixDescriptor
  storageReplicas : List ReplicaDescriptor
  configuredReplicaIDs : List UInt8
  configuredReplicaIdentityKeys : List Bytes
  replicaEnvelopeKeys : EnvelopeKeys
  signatures : GoMap Digest Signature
  sharedRandomCommit : GoMap Digest Bytes
  sharedRandomReveal : GoMap Digest Bytes
  sharedRandomValue : Bytes
  priorSharedRandom : List Bytes
  sphinxGeometryHash : Bytes
  version : Bytes
  pkiSignatureScheme : Text
deriving DecidableEq

def blankDocument : Document :=
  ⟨0, 0, 0, 0, 0, 0, 0, 0, 0, 0, 0, 0, 0, 0, 0, 0, 0, [], [], [], [], [], [], ∅, ∅, ∅, ∅, [], [], [], [], ⟨[], rfl⟩⟩

structure Parameters where
  sendRatePerMinute : UInt64
  mu : Float64
  muMaxDelay : UInt64
  lambdaP : Float64
  lambdaPMaxDelay : UInt64
  lambdaL : Float64
  lambdaLMaxDelay : UInt64
  lambdaD : Float64
  lambdaDMaxDelay : UInt64
  lambdaM : Float64
  lambdaG : Float64
  lambdaMMaxDelay : UInt64
  lambdaGMaxDelay : UInt64
  lambdaR : Float64
  lambdaRMaxDelay : UInt64
deriving DecidableEq

structure Url where
  scheme : Bytes
  host : Bytes
  path : Bytes

-- The packages the authority calls that are not part of the repository:
-- hpqc (hashes, signatures, the seeded reader), fxamacker/cbor and the URL
-- parser. Encoding is total on these types; decoding may fail.
structure Env where
  sum256 : Bytes → Digest
  blake2b : Bytes → Digest
  signWith : PrivateKey → Bytes → Bytes
  verifyWith : PublicKey → Bytes → Bytes → Bool
  encodeCertificate : Certificate → Bytes
  decodeCertificate : Bytes → Option Certificate
  encodeSignature : Signature → Bytes
  decodeSignature : Bytes → Option Signature
  encodeDocument : Document → Bytes
  decodeDocument : Bytes → Option Document
  encodeMix : MixDescriptor → Bytes
  decodeMix : Bytes → Option MixDescriptor
  encodeReplica : ReplicaDescriptor → Bytes
  decodeReplica : Bytes → Option ReplicaDescriptor
  -- float64 addition, and n log n of a node count
  addFloat : Float64 → Float64 → Float64
  nLogN : Nat → Float64
  parseUrl : Bytes → Option Url
  splitHostPort : Bytes → Bool
  -- Perm of a reader seeded with the first argument that has already served
  -- permutations of the sizes in the second.
  perm : Bytes → List Nat → Nat → List Nat

def keyHash (env : Env) (key : PublicKey) : Digest := env.sum256 key.raw

structure Codec (env : Env) : Prop where
  certificate : ∀ c, env.decodeCertificate (env.encodeCertificate c) = some c
  signature : ∀ s, env.decodeSignature (env.encodeSignature s) = some s
  document : ∀ d, env.decodeDocument (env.encodeDocument d) = some { d with signatures := ∅ }
  documentHead : ∀ d, ∃ head rest, env.encodeDocument d = head :: rest ∧ 0x80 ≤ head ∧ head < 0xc0
  detached : ∀ d sigs, env.encodeDocument { d with signatures := sigs } = env.encodeDocument d
  mix : ∀ d, env.decodeMix (env.encodeMix d) = some d
  replica : ∀ d, env.decodeReplica (env.encodeReplica d) = some d

def replicaSuccess : UInt8 := 0
def replicaErrorBoxIDNotFound : UInt8 := 1
def replicaErrorDatabaseFailure : UInt8 := 4
def replicaErrorInternalError : UInt8 := 7
def replicaErrorBoxAlreadyExists : UInt8 := 10
def replicaErrorTombstone : UInt8 := 11

end Katzenpost
