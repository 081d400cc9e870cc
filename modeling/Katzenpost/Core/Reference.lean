import Katzenpost.Go.Codec
import Katzenpost.Core.Types

set_option autoImplicit false

namespace Katzenpost

open Go Std

-- A small executable instance of the external packages. It satisfies the
-- documented laws, so results that assume them are not empty, and its values
-- can be computed.
def digestCoder : Coder Digest where
  write digest := digest.bytes
  read input := if size : (input.take 32).length = 32 then some (⟨input.take 32, size⟩, input.drop 32) else none
  law digest rest := by
    have size : ((digest.bytes ++ rest).take 32).length = 32 := by simp [digest.size]
    rw [dif_pos size]
    simp only [List.take_left' digest.size, List.drop_left' digest.size]

def signatureCoder : Coder Signature :=
  mapCoder (pairCoder digestCoder bytesCoder) (fun s => (s.publicKeySum256, s.payload)) (fun p => ⟨p.1, p.2⟩)
    (fun _ => rfl)

def signaturesCoder : Coder (GoMap Digest Signature) := mapOfCoder digestCoder signatureCoder

def certificateCoder : Coder Certificate :=
  mapCoder (pairCoder uint32Coder (pairCoder uint64Coder (pairCoder textCoder (pairCoder bytesCoder signaturesCoder))))
    (fun c => (c.version, c.expiration, c.keyType, c.certified, c.signatures))
    (fun p => ⟨p.1, p.2.1, p.2.2.1, p.2.2.2.1, p.2.2.2.2⟩) (fun _ => rfl)

def valueCoder : Coder Value :=
  mapCoder (pairCoder boolCoder bytesCoder)
    (fun | .text s => (true, s) | .other encoded => (false, encoded))
    (fun p => if p.1 then .text p.2 else .other p.2) (fun value => by cases value <;> rfl)

def capabilitiesCoder : Coder Capabilities := mapOfCoder bytesCoder (optionCoder (mapOfCoder bytesCoder valueCoder))

def addressesCoder : Coder (GoMap Bytes (List Bytes)) := mapOfCoder bytesCoder (listCoder bytesCoder)

def mixCoder : Coder MixDescriptor :=
  mapCoder
    (pairCoder bytesCoder (pairCoder uint64Coder (pairCoder (optionCoder bytesCoder) (pairCoder (optionCoder bytesCoder)
      (pairCoder (mapOfCoder uint64Coder (optionCoder bytesCoder)) (pairCoder addressesCoder
        (pairCoder (optionCoder capabilitiesCoder) (pairCoder (optionCoder capabilitiesCoder)
          (pairCoder boolCoder (pairCoder boolCoder (pairCoder byteCoder (pairCoder bytesCoder bytesCoder))))))))))))
    (fun d => (d.name, d.epoch, d.identityKey, d.linkKey, d.mixKeys, d.addresses, d.kaetzchen,
      d.kaetzchenAdvertizedData, d.isGatewayNode, d.isServiceNode, d.loadWeight, d.authenticationType, d.version))
    (fun (name, epoch, identityKey, linkKey, mixKeys, addresses, kaetzchen, advertized, isGateway, isService,
      loadWeight, authenticationType, version) =>
      ⟨name, epoch, identityKey, linkKey, mixKeys, addresses, kaetzchen, advertized, isGateway, isService,
        loadWeight, authenticationType, version⟩)
    (fun _ => rfl)

def replicaCoder : Coder ReplicaDescriptor :=
  mapCoder
    (pairCoder bytesCoder (pairCoder byteCoder (pairCoder uint64Coder (pairCoder (optionCoder bytesCoder)
      (pairCoder (optionCoder bytesCoder) (pairCoder (optionCoder (mapOfCoder uint64Coder bytesCoder))
        addressesCoder))))))
    (fun d => (d.name, d.replicaID, d.epoch, d.identityKey, d.linkKey, d.envelopeKeys, d.addresses))
    (fun (name, replicaID, epoch, identityKey, linkKey, envelopeKeys, addresses) =>
      ⟨name, replicaID, epoch, identityKey, linkKey, envelopeKeys, addresses⟩)
    (fun _ => rfl)

def numbersOf (d : Document) : List UInt64 :=
  [d.epoch, d.genesisEpoch, d.sendRatePerMinute, d.mu, d.muMaxDelay, d.lambdaP, d.lambdaPMaxDelay, d.lambdaL,
    d.lambdaLMaxDelay, d.lambdaD, d.lambdaDMaxDelay, d.lambdaM, d.lambdaMMaxDelay, d.lambdaG, d.lambdaGMaxDelay,
    d.lambdaR, d.lambdaRMaxDelay]

def documentCoder : Coder { d : Document // d.signatures = ∅ } :=
  mapCoder
    (pairCoder (listCoder uint64Coder) (pairCoder (listCoder (listCoder mixCoder)) (pairCoder (listCoder mixCoder)
      (pairCoder (listCoder mixCoder) (pairCoder (listCoder replicaCoder) (pairCoder (listCoder byteCoder)
        (pairCoder (listCoder bytesCoder) (pairCoder (mapOfCoder byteCoder (mapOfCoder uint64Coder bytesCoder))
          (pairCoder (mapOfCoder digestCoder bytesCoder) (pairCoder (mapOfCoder digestCoder bytesCoder)
            (pairCoder bytesCoder (pairCoder (listCoder bytesCoder) (pairCoder bytesCoder
              (pairCoder bytesCoder textCoder))))))))))))))
    (fun ⟨d, _⟩ => (numbersOf d, d.topology, d.gatewayNodes, d.serviceNodes, d.storageReplicas, d.configuredReplicaIDs,
      d.configuredReplicaIdentityKeys, d.replicaEnvelopeKeys, d.sharedRandomCommit, d.sharedRandomReveal,
      d.sharedRandomValue, d.priorSharedRandom, d.sphinxGeometryHash, d.version, d.pkiSignatureScheme))
    (fun (numbers, topology, gateways, services, replicas, ids, keys, envelopes, commits, reveals, srv, prior,
      geometry, version, scheme) =>
      let n := fun i => numbers.getD i 0
      ⟨⟨n 0, n 1, n 2, n 3, n 4, n 5, n 6, n 7, n 8, n 9, n 10, n 11, n 12, n 13, n 14, n 15, n 16, topology, gateways,
        services, replicas, ids, keys, envelopes, ∅, commits, reveals, srv, prior, geometry, version, scheme⟩, rfl⟩)
    (fun ⟨d, unsigned⟩ => by
      cases d
      cases unsigned
      rfl)

def encodeTagged {α : Type} (tag : UInt8) (coder : Coder α) (value : α) : Bytes := tag :: encode coder value

def decodeTagged {α : Type} (tag : UInt8) (coder : Coder α) : Bytes → Option α
  | [] => none
  | head :: rest => if head = tag then decode coder rest else none

theorem decode_encode_tagged {α : Type} (tag : UInt8) (coder : Coder α) (value : α) :
    decodeTagged tag coder (encodeTagged tag coder value) = some value := by
  rw [encodeTagged, decodeTagged, if_pos rfl, decode_encode]

def checksum (seed : Nat) (data : Bytes) : Digest :=
  ⟨bigEndian 32 (data.foldl (fun acc byte => (acc * 263 + byte.toNat + 1) % 2 ^ 256) seed), big_endian_length 32 _⟩

def referenceSign (raw message : Bytes) : Bytes := raw ++ (checksum 3 message).bytes

def referenceParseUrl (address : Bytes) : Option Url :=
  some ⟨address.takeWhile (· ≠ 58), (address.dropWhile (· ≠ 58)).drop 3, []⟩

def referenceEnv : Env where
  sum256 := checksum 1
  blake2b := checksum 2
  signWith key message := referenceSign key.raw message
  verifyWith key message payload := payload = referenceSign key.raw message
  encodeCertificate := encodeTagged 0xa5 certificateCoder
  decodeCertificate := decodeTagged 0xa5 certificateCoder
  encodeSignature := encodeTagged 0xa2 signatureCoder
  decodeSignature := decodeTagged 0xa2 signatureCoder
  encodeDocument d := encodeTagged 0xb8 documentCoder ⟨{ d with signatures := ∅ }, rfl⟩
  decodeDocument raw := (decodeTagged 0xb8 documentCoder raw).map Subtype.val
  encodeMix := encodeTagged 0xad mixCoder
  decodeMix := decodeTagged 0xad mixCoder
  encodeReplica := encodeTagged 0xa7 replicaCoder
  decodeReplica := decodeTagged 0xa7 replicaCoder
  addFloat a b := a + b
  nLogN n := UInt64.ofNat (n * n.log2)
  parseUrl := referenceParseUrl
  splitHostPort host := host.contains 58
  perm _ _ n := List.range n

theorem reference_codec : Codec referenceEnv where
  certificate := decode_encode_tagged 0xa5 certificateCoder
  signature := decode_encode_tagged 0xa2 signatureCoder
  document d := by simp only [referenceEnv, decode_encode_tagged, Option.map_some]
  documentHead _ := ⟨0xb8, _, rfl, by decide, by decide⟩
  detached _ _ := rfl
  mix := decode_encode_tagged 0xad mixCoder
  replica := decode_encode_tagged 0xa7 replicaCoder

def loggedEnv (log : List (PublicKey × Bytes)) : Env :=
  { referenceEnv with
    verifyWith := fun key message payload => payload = referenceSign key.raw message ∧ (key, message) ∈ log }

theorem logged_codec (log : List (PublicKey × Bytes)) : Codec (loggedEnv log) :=
  ⟨reference_codec.certificate, reference_codec.signature, reference_codec.document,
    reference_codec.documentHead, reference_codec.detached, reference_codec.mix, reference_codec.replica⟩

end Katzenpost
