import Katzenpost.Pigeonhole.Sizes
import Katzenpost.Wire.TrafficSize

set_option autoImplicit false

namespace Katzenpost

open Go
open Pigeonhole.Wire (Suite Nike ReplicaInnerMessage mkemDEKSize bacapBoxIDSize bacapSignatureSize messageTypeSize
  replicaWriteFixedOverhead padInnerMessageForEncryption newGeometryFromSphinx)

def Pigeonhole.Wire.Geometry.calculateCourierEnvelopeCiphertextSizeWrite (suite : Suite) (g : Pigeonhole.Wire.Geometry) : Int :=
  let replicaWriteSize := replicaWriteFixedOverhead + g.calculateBoxCiphertextLength
  let replicaInnerMessageSize := messageTypeSize + replicaWriteSize
  replicaInnerMessageSize + suite.mkemEncryptionOverhead

def replicaWriteReplyLength : Nat := 1

section Lengths

variable (suite : Suite) (g : Pigeonhole.Wire.Geometry)

def replicaMessageLength (scheme : Nike) : Int :=
  cmdOverhead + mkemDEKSize + scheme.publicKeySize + g.calculateCourierEnvelopeCiphertextSizeWrite suite

def replicaMessageReplyLength : Int := cmdOverhead + 1 + 32 + 1 + g.calculateEnvelopeReplySizeRead suite

def replicaWriteLength : Int := cmdOverhead + bacapBoxIDSize + bacapSignatureSize + g.calculateBoxCiphertextLength

-- The lengths of the commands that NewStorageReplicaCommands lists, in their order, for
-- both directions. The loop passes a negative length over as it does 0.
def storageLengths (scheme : Nike) : MessageLengths :=
  let maxMessageLen := calcMaxMessageLen
    [(replicaMessageLength suite g scheme).toNat, (replicaMessageReplyLength suite g).toNat, (replicaWriteLength g).toNat,
      cmdOverhead + replicaWriteReplyLength, cmdOverhead, cmdOverhead, cmdOverhead]
  ⟨maxMessageLen, maxMessageLen⟩

end Lengths

structure StorageCommands where
  commands : Commands
  pigeonholeGeo : Pigeonhole.Wire.Geometry
  lengths : MessageLengths

def storageReplicaCommands (suite : Suite) (geo : Geometry) (scheme : Nike) : Call String StorageCommands :=
  match newGeometryFromSphinx suite geo scheme with
  | some (.ok g) => .returns ⟨newStorageReplicaCommands geo ⟨scheme.publicKeySize, 60⟩, g, storageLengths suite g scheme⟩
  | _ => .panics

theorem storage_commands_made (suite : Suite) (geo : Geometry) (scheme : Nike) (c : StorageCommands)
    (made : storageReplicaCommands suite geo scheme = .returns c) :
    newGeometryFromSphinx suite geo scheme = .returns c.pigeonholeGeo ∧
      c = ⟨newStorageReplicaCommands geo ⟨scheme.publicKeySize, 60⟩, c.pigeonholeGeo,
        storageLengths suite c.pigeonholeGeo scheme⟩ := by
  unfold storageReplicaCommands at made
  split at made
  · rename_i g derived
    obtain rfl := returns_inj _ _ made
    exact ⟨derived, rfl⟩
  · exact absurd made (panics_ne_returns _)

section Sizes

variable (suite : Suite) (scheme : Nike) (g : Pigeonhole.Wire.Geometry) (positive : 0 < g.maxPlaintextPayloadLength)

theorem envelope_ciphertext_size :
    g.calculateCourierEnvelopeCiphertextSizeWrite suite = g.replicaInnerMessageWriteSize + suite.mkemEncryptionOverhead := rfl

theorem overhead_nonneg : 0 ≤ suite.mkemEncryptionOverhead := by
  rw [Pigeonhole.Wire.Suite.mkemEncryptionOverhead]
  omega

theorem replica_message_length_eq :
    replicaMessageLength suite g scheme = 66 + scheme.publicKeySize + g.calculateCourierEnvelopeCiphertextSizeWrite suite := by
  rw [replicaMessageLength, cmdOverhead, mkemDEKSize]
  omega

theorem box_ciphertext_eq : g.calculateBoxCiphertextLength = g.maxPlaintextPayloadLength + 20 := by
  rw [Pigeonhole.Wire.Geometry.calculateBoxCiphertextLength, Pigeonhole.Wire.lengthPrefixSize,
    Pigeonhole.Wire.bacapEncryptionOverhead]
  omega

include positive in
theorem storage_max : ((storageLengths suite g scheme).maxCommandSize : Int) = replicaMessageLength suite g scheme := by
  have overhead := overhead_nonneg suite
  have message := replica_message_length_eq suite scheme g
  have inner := Pigeonhole.Wire.write_size g
  have reply := Pigeonhole.Wire.reply_size suite g
  have box := box_ciphertext_eq g
  rw [envelope_ciphertext_size, inner] at message
  have least : calcMaxMessageLen
      [(replicaMessageLength suite g scheme).toNat, (replicaMessageReplyLength suite g).toNat, (replicaWriteLength g).toNat,
        cmdOverhead + replicaWriteReplyLength, cmdOverhead, cmdOverhead, cmdOverhead] =
      (replicaMessageLength suite g scheme).toNat := by
    refine le_antisymm ((calc_max_least _ _).mpr ?_) (le_calc_max _ _ List.mem_cons_self)
    simp only [List.forall_mem_cons, replicaMessageReplyLength, replicaWriteLength, reply, box, message, cmdOverhead,
      replicaWriteReplyLength, bacapBoxIDSize, bacapSignatureSize]
    refine ⟨le_refl _, by omega, by omega, by omega, by omega, by omega, by omega, fun _ none => absurd none List.not_mem_nil⟩
  rw [MessageLengths.maxCommandSize, storageLengths, least, ite_self]
  dsimp only
  omega

omit positive in
theorem storage_target (padding : TrafficPadding) (padded : padding ≠ .unpadded) :
    (storageLengths suite g scheme).target padding = (storageLengths suite g scheme).maxCommandSize := by
  have same : (storageLengths suite g scheme).maxCommandSize = (storageLengths suite g scheme).clientToServer := if_neg (lt_irrefl _)
  cases padding with
  | unpadded => exact absurd rfl padded
  | upstream => exact same.symm
  | downstream => exact same.symm

end Sizes

def StorageTraffic (suite : Suite) (scheme : Nike) (g : Pigeonhole.Wire.Geometry) : WireCommand → Prop
  | .replicaMessage senderEPubKey dek ciphertext => senderEPubKey.length = scheme.publicKeySize ∧ dek.length = 60 ∧
      ∃ msg padded, padInnerMessageForEncryption msg g = .ok padded ∧ ciphertext.length ≤ padded.length + suite.mkemEncryptionOverhead
  | .replicaMessageReply _ _ _ envelopeReply => envelopeReply.length ≤ g.calculateEnvelopeReplySizeRead suite
  | .replicaWrite _ _ payload => payload.length = g.calculateBoxCiphertextLength ∨ payload = []
  | .replicaWriteReply _ => True
  | .replicaDecoy => True
  | .noOp => True
  | .disconnect => True
  | _ => False

section Traffic

variable (suite : Suite) (scheme : Nike) (g : Pigeonhole.Wire.Geometry) (positive : 0 < g.maxPlaintextPayloadLength) (geo : Geometry)

include positive in
theorem storage_traffic_body (cmd : WireCommand) (traffic : StorageTraffic suite scheme g cmd) :
    cmd.padding true ≠ .unpadded ∧ (newStorageReplicaCommands geo ⟨scheme.publicKeySize, 60⟩).asserted cmd = true ∧
      ∃ body, (newStorageReplicaCommands geo ⟨scheme.publicKeySize, 60⟩).body cmd = some body ∧
        cmdOverhead + body.length ≤ (storageLengths suite g scheme).maxCommandSize := by
  have overhead := overhead_nonneg suite
  have inner := Pigeonhole.Wire.write_size g
  have largest := storage_max suite scheme g positive
  rw [replica_message_length_eq, envelope_ciphertext_size] at largest
  have header : cmdOverhead = 6 := rfl
  cases cmd with
  | replicaMessage senderEPubKey dek ciphertext =>
      obtain ⟨key, sealedKey, msg, padded, pads, fits⟩ := traffic
      have size := Pigeonhole.Wire.pad_to_size_length _ _ _ pads
      refine ⟨nofun, rfl, _, rfl, ?_⟩
      rw [List.length_append, List.length_append]
      omega
  | replicaMessageReply errorCode envelopeHash replicaID envelopeReply =>
      have fits : envelopeReply.length ≤ g.calculateEnvelopeReplySizeRead suite := traffic
      have reply := Pigeonhole.Wire.reply_size suite g
      refine ⟨nofun, rfl, _, rfl, ?_⟩
      rw [List.length_append, replicaReplyHeader.put_length, show replicaReplyHeader.size = 34 from rfl]
      omega
  | replicaWrite boxID signature payload =>
      have box := box_ciphertext_eq g
      have fits : (payload.length : Int) ≤ g.calculateBoxCiphertextLength := by
        obtain full | tombstone := traffic
        · exact full.le
        · rw [tombstone, List.length_nil]
          omega
      refine ⟨nofun, rfl, _, rfl, ?_⟩
      rw [List.length_append, replicaWriteHeader.put_length, show replicaWriteHeader.size = 96 from rfl]
      omega
  | replicaWriteReply errorCode =>
      refine ⟨nofun, rfl, [errorCode], rfl, ?_⟩
      rw [List.length_singleton]
      omega
  | replicaDecoy => exact ⟨nofun, rfl, [], rfl, by rw [List.length_nil]; omega⟩
  | noOp => exact ⟨nofun, rfl, [], rfl, by rw [List.length_nil]; omega⟩
  | disconnect => exact ⟨nofun, rfl, [], rfl, by rw [List.length_nil]; omega⟩
  | _ => exact traffic.elim

include positive in
theorem replica_message_size_iff (senderEPubKey dek ciphertext : Bytes) (sized : dek.length = 60) :
    ∃ bytes, (newStorageReplicaCommands geo ⟨scheme.publicKeySize, 60⟩).toBytes (storageLengths suite g scheme) true
        (.replicaMessage senderEPubKey dek ciphertext) = some bytes ∧
      (bytes.length = (storageLengths suite g scheme).maxCommandSize ↔
        (senderEPubKey.length + ciphertext.length : Int) ≤
          scheme.publicKeySize + g.calculateCourierEnvelopeCiphertextSizeWrite suite) := by
  let cmd : WireCommand := .replicaMessage senderEPubKey dek ciphertext
  have serialised : (newStorageReplicaCommands geo ⟨scheme.publicKeySize, 60⟩).body cmd =
      some ((senderEPubKey ++ dek) ++ ciphertext) := rfl
  obtain ⟨bytes, written, length⟩ := to_bytes_length _ (storageLengths suite g scheme) true cmd _ serialised rfl
  have largest := storage_max suite scheme g positive
  rw [replica_message_length_eq] at largest
  have header : cmdOverhead = 6 := rfl
  rw [show cmd.padding true = .upstream from rfl, storage_target suite scheme g .upstream nofun, List.length_append,
    List.length_append] at length
  exact ⟨bytes, written, by omega⟩

end Traffic

def PassesSizeCheck (c : StorageCommands) (bytes : Bytes) : Prop :=
  ∀ (sizes : SessionSizes) (Key : Type) (e : SessionEnd Key), sizes.lengths = c.lengths → e.sending = .idle → e.established = true →
    e.send ⟨c.commands, (sizes.maxMesgSize computedMesgSize).toNat⟩ bytes =
      some { e with sending := .checked bytes, sendLate := e.failed }

theorem padded_passes (c : StorageCommands) (bytes : Bytes) (padded : bytes.length = c.lengths.maxCommandSize) :
    PassesSizeCheck c bytes := by
  intro sizes Key e same idle established
  have fits := padded_command_fits sizes bytes.length (by rw [same, padded])
  rw [SessionEnd.send, idle]
  dsimp only
  rw [established, if_neg (by decide), if_neg (by omega)]

/-- Every command has the size of the others and is taken by the session. A ReplicaMessage with
another key than one of the scheme has it as far as the ciphertext leaves room. -/
theorem storage_traffic_uniform (suite : Suite) (geo : Geometry) (scheme : Nike) (c : StorageCommands)
    (made : storageReplicaCommands suite geo scheme = .returns c) :
    (∀ cmd, StorageTraffic suite scheme c.pigeonholeGeo cmd → ∃ bytes, c.commands.toBytes c.lengths true cmd = some bytes ∧
      bytes.length = c.lengths.maxCommandSize ∧ PassesSizeCheck c bytes) ∧
    (∀ senderEPubKey dek ciphertext : Bytes, dek.length = 60 →
      ∃ bytes, c.commands.toBytes c.lengths true (.replicaMessage senderEPubKey dek ciphertext) = some bytes ∧
        (bytes.length = c.lengths.maxCommandSize ↔ (senderEPubKey.length + ciphertext.length : Int) ≤
          scheme.publicKeySize + c.pigeonholeGeo.calculateCourierEnvelopeCiphertextSizeWrite suite)) := by
  obtain ⟨derived, built⟩ := storage_commands_made suite geo scheme c made
  obtain ⟨positive, _⟩ := Pigeonhole.Wire.from_sphinx_payload suite scheme geo c.pigeonholeGeo derived
  generalize c.pigeonholeGeo = g at *
  subst built
  refine ⟨fun cmd traffic => ?_, replica_message_size_iff suite scheme g positive geo⟩
  obtain ⟨padded, asserted, body, serialised, fits⟩ := storage_traffic_body suite scheme g positive geo cmd traffic
  rw [← storage_target suite scheme g _ padded] at fits
  obtain ⟨bytes, written, length⟩ := to_bytes_fits _ _ true cmd body serialised asserted fits
  rw [storage_target suite scheme g _ padded] at length
  exact ⟨bytes, written, length, padded_passes _ bytes length⟩

/-- A query that came in a Sphinx packet has no room for a longer key than its ciphertext leaves,
so that the size of the message does not depend on it. -/
theorem packet_envelope_uniform (suite : Suite) (geo : Geometry) (scheme : Nike) (c : StorageCommands)
    (made : storageReplicaCommands suite geo scheme = .returns c) (query : Pigeonhole.Wire.CourierQuery)
    (envelope : Pigeonhole.CourierEnvelope) (payload : Bytes) (tagged : query.queryType = 0)
    (enveloped : query.envelope = some envelope)
    (marshalled : query.marshalBinary = .ok payload) (fits : payload.length ≤ geo.userForwardPayloadLength) (dek : Fixed 60) :
    ∃ bytes, c.commands.toBytes c.lengths true (.replicaMessage envelope.senderPubkey dek.bytes envelope.ciphertext) = some bytes ∧
      bytes.length = c.lengths.maxCommandSize := by
  obtain ⟨derived, built⟩ := storage_commands_made suite geo scheme c made
  obtain ⟨positive, target⟩ := Pigeonhole.Wire.from_sphinx_payload suite scheme geo c.pigeonholeGeo derived
  generalize c.pigeonholeGeo = g at *
  subst built
  obtain ⟨bytes, written, sized⟩ := replica_message_size_iff suite scheme g positive geo envelope.senderPubkey dek.bytes
    envelope.ciphertext dek.size
  have length := Pigeonhole.Wire.query_marshal_length query envelope payload tagged enveloped marshalled
  have inner := Pigeonhole.Wire.write_size g
  refine ⟨bytes, written, sized.mpr ?_⟩
  rw [envelope_ciphertext_size]
  omega

section Samples

open Pigeonhole.Wire (x25519Scheme chachaSuite byteGeometry fullMessage)

def boxGeometry : Geometry := geometryFromUserForwardPayloadLength (.nike 32) 320 true 5

def boxCommands : StorageCommands :=
  ⟨newStorageReplicaCommands boxGeometry ⟨32, 60⟩, byteGeometry, storageLengths chachaSuite byteGeometry x25519Scheme⟩

theorem box_commands_made : storageReplicaCommands chachaSuite boxGeometry x25519Scheme = .returns boxCommands := by
  have derived : newGeometryFromSphinx chachaSuite boxGeometry x25519Scheme = some (.ok byteGeometry) := by decide +kernel
  rw [storageReplicaCommands, derived]
  rfl

theorem tombstone_uniform :
    ∃ bytes, boxCommands.commands.toBytes boxCommands.lengths true
        (.replicaWrite ⟨zeros 32, zeros_length 32⟩ ⟨zeros 64, zeros_length 64⟩ []) = some bytes ∧
      bytes.length = boxCommands.lengths.maxCommandSize ∧ PassesSizeCheck boxCommands bytes :=
  (storage_traffic_uniform chachaSuite boxGeometry x25519Scheme boxCommands box_commands_made).1 _ (.inr rfl)

/-- A key that is a byte too long beside the ciphertext of a padded message, as a courier takes it
over from the envelope of a copy. -/
theorem long_key_distinguishable :
    padInnerMessageForEncryption fullMessage byteGeometry = .ok fullMessage.bytes ∧
    ((zeros 150).length : Int) = fullMessage.bytes.length + chachaSuite.mkemEncryptionOverhead ∧
    ∃ bytes, boxCommands.commands.toBytes boxCommands.lengths true (.replicaMessage (zeros 33) (zeros 60) (zeros 150)) = some bytes ∧
      bytes.length ≠ boxCommands.lengths.maxCommandSize := by
  obtain ⟨bytes, written, sized⟩ := replica_message_size_iff chachaSuite x25519Scheme byteGeometry (by decide) boxGeometry (zeros 33)
    (zeros 60) (zeros 150) (zeros_length 60)
  refine ⟨by decide +kernel, by decide +kernel, bytes, written, fun same => ?_⟩
  exact absurd (sized.mp same) (by decide +kernel)

end Samples

end Katzenpost
