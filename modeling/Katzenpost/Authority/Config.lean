import Katzenpost.Core.Document

set_option autoImplicit false

namespace Katzenpost

open Go Std

structure ReplicaInfo where
  identifier : Bytes
  replicaID : UInt8
deriving DecidableEq

structure Node where
  identifier : Bytes
  identityPublicKey : PublicKey

structure StorageReplica where
  identifier : Bytes
  replicaID : UInt8
  identityPublicKey : PublicKey

-- config.Config. Key files are replaced by the keys in them, and
-- Topology.Layers by the keys of the nodes of each layer.
structure Config where
  authorities : List PublicKey
  mixes : List Node
  gatewayNodes : List Node
  serviceNodes : List Node
  storageReplicas : List StorageReplica
  topology : Option (List (List PublicKey))
  parameters : Parameters
  pkiSignatureScheme : Text

structure Server where
  cfg : Config
  identityPublicKey : PublicKey
  identityPrivateKey : PrivateKey
  selfInAuthorities : identityPublicKey ∈ cfg.authorities
  publicScheme : identityPublicKey.scheme = cfg.pkiSignatureScheme
  privateScheme : identityPrivateKey.scheme = cfg.pkiSignatureScheme
  schemeNamed : cfg.pkiSignatureScheme.bytes ≠ []
  schemePlain : ∀ b ∈ cfg.pkiSignatureScheme.bytes, b < 0x80

section Tables

variable (env : Env) (s : Server)

def identityPubKeyHash : Digest := keyHash env s.identityPublicKey

def verifiers : GoMap Digest PublicKey :=
  (fileUnder (keyHash env) (fun key => key) ∅ s.cfg.authorities).insert (identityPubKeyHash env s) s.identityPublicKey

def threshold : Nat := (verifiers env s).size / 2 + 1

def nodeTable (nodes : List Node) : GoMap Digest Bytes :=
  fileUnder (fun node => keyHash env node.identityPublicKey) Node.identifier ∅ nodes

def authorizedMixes : GoMap Digest Bytes := nodeTable env s.cfg.mixes

def authorizedGatewayNodes : GoMap Digest Bytes := nodeTable env s.cfg.gatewayNodes

def authorizedServiceNodes : GoMap Digest Bytes := nodeTable env s.cfg.serviceNodes

def authorizedReplicaNodes : GoMap Digest ReplicaInfo :=
  fileUnder (fun node => keyHash env node.identityPublicKey)
    (fun (node : StorageReplica) => ⟨node.identifier, node.replicaID⟩) ∅ s.cfg.storageReplicas

def reverseHash : GoMap Digest PublicKey :=
  let nodes := s.cfg.mixes ++ s.cfg.gatewayNodes ++ s.cfg.serviceNodes
  let peers := nodes.map Node.identityPublicKey ++ s.cfg.storageReplicas.map StorageReplica.identityPublicKey
  (fileUnder (keyHash env) (fun key => key) (fileUnder (keyHash env) (fun key => key) ∅ peers) s.cfg.authorities).insert
    (identityPubKeyHash env s) s.identityPublicKey

def getVerifiers (r : Range Digest PublicKey) : List PublicKey := (r.order (verifiers env s)).map Prod.snd

theorem file_then_own_key (start : GoMap Digest PublicKey) (keyed : ∀ (id : Digest) key, start[id]? = some key → keyHash env key = id)
    (id : Digest) (key : PublicKey)
    (found : ((fileUnder (keyHash env) (fun key => key) start s.cfg.authorities).insert
      (identityPubKeyHash env s) s.identityPublicKey)[id]? = some key) : keyHash env key = id := by
  rw [lookup_insert] at found
  split at found
  · rename_i own
    rw [← Option.some.inj found]
    exact own
  · rcases file_under_found (keyHash env) (fun key => key) start _ id key found with before | ⟨item, _, hit, same⟩
    · exact keyed id key before
    · rw [← same]
      exact hit

theorem reverse_hash_key (id : Digest) (key : PublicKey) (found : (reverseHash env s)[id]? = some key) :
    keyHash env key = id := by
  refine file_then_own_key env s _ ?_ id key found
  intro id key before
  rcases file_under_found (keyHash env) (fun key => key) ∅ _ id key before with empty | ⟨item, _, hit, same⟩
  · simp at empty
  · rw [← same]
    exact hit

end Tables

def sampleKey (n : UInt8) : PublicKey := ⟨ed25519, [n]⟩

def samplePrivate (n : UInt8) : PrivateKey := ⟨ed25519, [n]⟩

def sampleConfig : Config where
  authorities := [sampleKey 1, sampleKey 2, sampleKey 3]
  mixes := [⟨ascii "mix", sampleKey 11⟩]
  gatewayNodes := [⟨ascii "gateway", sampleKey 12⟩]
  serviceNodes := [⟨ascii "service", sampleKey 13⟩]
  storageReplicas := [⟨ascii "replica", 0, sampleKey 14⟩]
  topology := some [[sampleKey 11]]
  parameters := ⟨0, 0, 0, 0, 0, 0, 0, 0, 0, 0, 0, 0, 0, 0, 0⟩
  pkiSignatureScheme := ed25519

def sampleServer (n : Fin 3) : Server where
  cfg := sampleConfig
  identityPublicKey := sampleKey (UInt8.ofNat (n + 1))
  identityPrivateKey := samplePrivate (UInt8.ofNat (n + 1))
  selfInAuthorities := by
    revert n
    decide +kernel
  publicScheme := rfl
  privateScheme := rfl
  schemeNamed := by decide
  schemePlain := by decide +kernel

def sampleDescriptor (name : Bytes) (n : UInt8) (isGateway isService : Bool) (epoch : UInt64) : MixDescriptor where
  name := name
  epoch := epoch
  identityKey := some [n]
  linkKey := some [n]
  mixKeys := ExtTreeMap.ofList [(epoch, some [n])]
  addresses := ExtTreeMap.ofList [(ascii "tcp", [ascii "tcp://h:1"])]
  kaetzchen := none
  kaetzchenAdvertizedData := none
  isGatewayNode := isGateway
  isServiceNode := isService
  loadWeight := 0
  authenticationType := []
  version := []

def sampleMix (epoch : UInt64) : MixDescriptor := sampleDescriptor (ascii "mix") 11 false false epoch

def sampleGateway (epoch : UInt64) : MixDescriptor := sampleDescriptor (ascii "gateway") 12 true false epoch

end Katzenpost
