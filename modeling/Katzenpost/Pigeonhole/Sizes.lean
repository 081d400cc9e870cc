import Katzenpost.Pigeonhole.Messages
import Katzenpost.Sphinx.Geometry

set_option autoImplicit false

namespace Katzenpost.Pigeonhole.Wire

open Go

def integerViolated : String := "integer constraint violated"

structure CopyCommand where
  writeCapLen : UInt32
  writeCap : Bytes
deriving DecidableEq

def CopyCommand.encodeBinary (c : CopyCommand) : Bytes := putUint32BE c.writeCapLen ++ c.writeCap.take c.writeCapLen.toNat

def CopyCommand.validate (c : CopyCommand) : Except String Unit :=
  if c.writeCap.length = c.writeCapLen.toNat then .ok () else .error lengthViolated

-- The generated unions: the tag, and the branch it selects. A branch that is nil is
-- written as no bytes and is not checked.
def unionBinary (tag : UInt8) (first second : Option Bytes) : Bytes :=
  tag :: (if tag = 0 then first.getD [] else if tag = 1 then second.getD [] else [])

def unionValidate (tag : UInt8) (first second : Option (Except String Unit)) : Except String Unit :=
  if ¬ (tag = 0 ∨ tag = 1) then .error integerViolated
  else if tag = 0 then first.getD (.ok ())
  else second.getD (.ok ())

def marshal (validated : Except String Unit) (encoded : Bytes) : Except String Bytes := do
  validated
  return encoded

def bytesOf (marshalled : Except String Bytes) : Bytes :=
  match marshalled with
  | .error _ => []
  | .ok data => data

structure CourierQuery where
  queryType : UInt8
  envelope : Option CourierEnvelope
  copyCommand : Option CopyCommand
deriving DecidableEq

def envelopeValidate (c : CourierEnvelope) : Except String Unit := if c.valid then .ok () else .error lengthViolated

def CourierQuery.encodeBinary (c : CourierQuery) : Bytes :=
  unionBinary c.queryType (c.envelope.map CourierEnvelope.encodeBinary) (c.copyCommand.map CopyCommand.encodeBinary)

def CourierQuery.validate (c : CourierQuery) : Except String Unit :=
  unionValidate c.queryType (c.envelope.map envelopeValidate) (c.copyCommand.map CopyCommand.validate)

def CourierQuery.marshalBinary (c : CourierQuery) : Except String Bytes := marshal c.validate c.encodeBinary

structure CourierEnvelopeReply where
  envelopeHash : Fixed 32
  replyIndex : UInt8
  replyType : UInt8
  payloadLen : UInt32
  payload : Bytes
  errorCode : UInt8
deriving DecidableEq

def CourierEnvelopeReply.encodeBinary (c : CourierEnvelopeReply) : Bytes :=
  c.envelopeHash.bytes ++ [c.replyIndex, c.replyType] ++ putUint32BE c.payloadLen ++ c.payload.take c.payloadLen.toNat ++ [c.errorCode]

def CourierEnvelopeReply.validate (c : CourierEnvelopeReply) : Except String Unit :=
  if ¬ (c.replyType = 0 ∨ c.replyType = 1) then .error integerViolated
  else if c.payload.length = c.payloadLen.toNat then .ok ()
  else .error lengthViolated

structure CopyCommandReply where
  status : UInt8
  errorCode : UInt8
  failedEnvelopeIndex : UInt64
deriving DecidableEq

def CopyCommandReply.encodeBinary (c : CopyCommandReply) : Bytes := [c.status, c.errorCode] ++ putUint64BE c.failedEnvelopeIndex

def CopyCommandReply.validate (_ : CopyCommandReply) : Except String Unit := .ok ()

structure CourierQueryReply where
  replyType : UInt8
  envelopeReply : Option CourierEnvelopeReply
  copyCommandReply : Option CopyCommandReply
deriving DecidableEq

def CourierQueryReply.encodeBinary (c : CourierQueryReply) : Bytes :=
  unionBinary c.replyType (c.envelopeReply.map CourierEnvelopeReply.encodeBinary) (c.copyCommandReply.map CopyCommandReply.encodeBinary)

def CourierQueryReply.validate (c : CourierQueryReply) : Except String Unit :=
  unionValidate c.replyType (c.envelopeReply.map CourierEnvelopeReply.validate) (c.copyCommandReply.map CopyCommandReply.validate)

def CourierQueryReply.marshalBinary (c : CourierQueryReply) : Except String Bytes := marshal c.validate c.encodeBinary

structure ReplicaRead where
  boxID : Fixed 32
deriving DecidableEq

def ReplicaRead.encodeBinary (r : ReplicaRead) : Bytes := r.boxID.bytes

def ReplicaRead.validate (_ : ReplicaRead) : Except String Unit := .ok ()

structure ReplicaWrite where
  boxID : Fixed 32
  signature : Fixed 64
  payloadLen : UInt32
  payload : Bytes
deriving DecidableEq

def ReplicaWrite.encodeBinary (r : ReplicaWrite) : Bytes :=
  r.boxID.bytes ++ r.signature.bytes ++ putUint32BE r.payloadLen ++ r.payload.take r.payloadLen.toNat

def ReplicaWrite.validate (r : ReplicaWrite) : Except String Unit :=
  if r.payload.length = r.payloadLen.toNat then .ok () else .error lengthViolated

structure ReplicaInnerMessage where
  messageType : UInt8
  readMsg : Option ReplicaRead
  writeMsg : Option ReplicaWrite
deriving DecidableEq

def ReplicaInnerMessage.encodeBinary (r : ReplicaInnerMessage) : Bytes :=
  unionBinary r.messageType (r.readMsg.map ReplicaRead.encodeBinary) (r.writeMsg.map ReplicaWrite.encodeBinary)

def ReplicaInnerMessage.validate (r : ReplicaInnerMessage) : Except String Unit :=
  unionValidate r.messageType (r.readMsg.map ReplicaRead.validate) (r.writeMsg.map ReplicaWrite.validate)

def ReplicaInnerMessage.bytes (r : ReplicaInnerMessage) : Bytes := bytesOf (marshal r.validate r.encodeBinary)

structure Nike where
  name : String
  publicKeySize : Nat
deriving DecidableEq

structure Suite where
  byName : String → Option Nike
  nonceSize : Nat
  tagSize : Nat

def bacapBoxIDSize : Int := 32
def bacapSignatureSize : Int := 64
def mkemDEKSize : Int := 60
def bacapEncryptionOverhead : Int := 16
def lengthPrefixSize : Int := 4
def messageTypeSize : Int := 1
def errorCodeFieldSize : Int := 1
def successFieldSize : Int := 1
def payloadLenFieldSize : Int := 4
def writeReplyLenFieldSize : Int := 4
def minimalOkReplySize : Int := 2
def errorLenFieldSize : Int := 2
def timestampFieldSize : Int := 8
def ciphertextLenFieldSize : Int := 4
def intermediateReplicasSize : Int := 2
def replyIndexSize : Int := 1
def epochSize : Int := 8
def senderPubkeyLenSize : Int := 2
def queryTypeSize : Int := 1

def signatureSchemeName : String := "Ed25519"

structure Geometry where
  maxPlaintextPayloadLength : Int
  courierQueryReadLength : Int
  courierQueryWriteLength : Int
  courierQueryReplyReadLength : Int
  courierQueryReplyWriteLength : Int
  nikeName : String
  signatureSchemeName : String
deriving DecidableEq

section Lengths

variable (suite : Suite)

def Suite.mkemEncryptionOverhead : Int := suite.nonceSize + suite.tagSize

def replicaWriteFixedOverhead : Int := bacapBoxIDSize + bacapSignatureSize + payloadLenFieldSize

def calculateCourierEnvelopeOverhead (senderPubkeySize : Int) : Int :=
  intermediateReplicasSize + mkemDEKSize + mkemDEKSize + replyIndexSize + epochSize + senderPubkeyLenSize + ciphertextLenFieldSize +
    senderPubkeySize

def calculateCourierQueryWrapperOverhead : Int := queryTypeSize

variable (g : Geometry)

def Geometry.nikeScheme : Call String Nike :=
  match suite.byName g.nikeName with
  | none => .panics
  | some scheme => .returns scheme

def Geometry.calculateBoxCiphertextLength : Int := g.maxPlaintextPayloadLength + lengthPrefixSize + bacapEncryptionOverhead

def Geometry.replicaInnerMessageWriteSize : Int := messageTypeSize + (replicaWriteFixedOverhead + g.calculateBoxCiphertextLength)

def queryLength (scheme : Nike) (mkemCiphertextSize : Int) : Int :=
  calculateCourierEnvelopeOverhead scheme.publicKeySize + mkemCiphertextSize + calculateCourierQueryWrapperOverhead

def Geometry.calculateCourierQueryReadLength : Call String Int := do
  let scheme ← g.nikeScheme suite
  let replicaInnerMessageSize := messageTypeSize + bacapBoxIDSize
  .returns (queryLength scheme (replicaInnerMessageSize + suite.mkemEncryptionOverhead))

def Geometry.calculateCourierQueryWriteLength : Call String Int := do
  let scheme ← g.nikeScheme suite
  let bacapPayloadSize := g.maxPlaintextPayloadLength + lengthPrefixSize + bacapEncryptionOverhead
  let replicaInnerMessageSize := messageTypeSize + (replicaWriteFixedOverhead + bacapPayloadSize)
  .returns (queryLength scheme (replicaInnerMessageSize + suite.mkemEncryptionOverhead))

-- The end of both reply lengths, as an earlier format of the replies had it.
def replyLength (mkemCiphertextSize : Int) : Int :=
  errorLenFieldSize + (successFieldSize + timestampFieldSize + ciphertextLenFieldSize + mkemCiphertextSize)

def Geometry.calculateCourierQueryReplyReadLength : Int :=
  let replicaReadReplyFixedSize := bacapBoxIDSize + successFieldSize + payloadLenFieldSize + bacapSignatureSize
  let replicaReadReplySize := replicaReadReplyFixedSize + g.maxPlaintextPayloadLength
  replyLength (messageTypeSize + replicaReadReplySize + suite.mkemEncryptionOverhead)

def calculateCourierQueryReplyWriteLength : Int :=
  let replicaWriteReplySize := writeReplyLenFieldSize + minimalOkReplySize
  replyLength (messageTypeSize + replicaWriteReplySize + suite.mkemEncryptionOverhead)

def Geometry.calculateEnvelopeReplySizeRead : Int :=
  let replicaReadReplySize :=
    errorCodeFieldSize + bacapBoxIDSize + bacapSignatureSize + payloadLenFieldSize + g.calculateBoxCiphertextLength
  messageTypeSize + replicaReadReplySize + (suite.nonceSize + suite.tagSize)

end Lengths

section Constructors

variable (suite : Suite)

def newGeometry (boxPayloadLength : Int) (scheme : Nike) : Call String Geometry := do
  let g : Geometry := ⟨boxPayloadLength, 0, 0, 0, 0, scheme.name, signatureSchemeName⟩
  let read ← g.calculateCourierQueryReadLength suite
  let write ← g.calculateCourierQueryWriteLength suite
  .returns { g with
    courierQueryReadLength := read
    courierQueryWriteLength := write
    courierQueryReplyReadLength := g.calculateCourierQueryReplyReadLength suite
    courierQueryReplyWriteLength := calculateCourierQueryReplyWriteLength suite }

def totalOverhead (scheme : Nike) : Int :=
  queryTypeSize + calculateCourierEnvelopeOverhead scheme.publicKeySize + suite.mkemEncryptionOverhead + messageTypeSize +
    replicaWriteFixedOverhead + bacapEncryptionOverhead + lengthPrefixSize

def newGeometryFromSphinx (sphinxGeo : Katzenpost.Geometry) (scheme : Nike) : Call String Geometry :=
  let targetSize := sphinxGeo.userForwardPayloadLength
  let total := totalOverhead suite scheme
  let boxPayloadLength := targetSize - total
  if boxPayloadLength ≤ 0 then
    .fails s!"sphinx geometry too small: UserForwardPayloadLength={targetSize}, total overhead={total}"
  else newGeometry suite boxPayloadLength scheme

def maxInt : List Int → Int
  | [] => 0
  | first :: values => values.foldl (fun maxVal v => if v > maxVal then v else maxVal) first

def Geometry.toSphinxGeometry (g : Geometry) (nrHops : Nat) (withSURB : Bool) : Call String Katzenpost.Geometry := do
  let scheme ← g.nikeScheme suite
  let maxEnvelopeSize := maxInt
    [g.courierQueryReadLength, g.courierQueryWriteLength, g.courierQueryReplyReadLength, g.courierQueryReplyWriteLength]
  .returns (geometryFromUserForwardPayloadLength (.nike scheme.publicKeySize) maxEnvelopeSize.toNat withSURB nrHops)

def Geometry.validate (g : Geometry) : Call String Unit :=
  if g.maxPlaintextPayloadLength ≤ 0 then .fails "MaxPlaintextPayloadLength must be positive"
  else if g.nikeName = "" then .fails "NIKEName must be set"
  else do
    let _ ← g.nikeScheme suite
    if g.signatureSchemeName ≠ Wire.signatureSchemeName then .fails "SignatureSchemeName must be Ed25519"
    else .returns ()

def padToSize (data : Bytes) (targetSize : Int) : Except String Bytes :=
  if data.length > targetSize then .error s!"data exceeds target size: {data.length} > {targetSize}"
  else .ok (data ++ zeros (targetSize - data.length).toNat)

def padInnerMessageForEncryption (msg : ReplicaInnerMessage) (g : Geometry) : Except String Bytes :=
  padToSize msg.bytes g.replicaInnerMessageWriteSize

end Constructors

structure Carries (suite : Suite) (g : Geometry) (scheme : Nike) (msg : ReplicaInnerMessage) (query : CourierQuery) : Prop where
  tagged : query.queryType = 0
  enveloped : ∃ envelope padded, query.envelope = some envelope ∧ envelope.senderPubkey.length = scheme.publicKeySize ∧
    padInnerMessageForEncryption msg g = .ok padded ∧ envelope.ciphertext.length = padded.length + suite.mkemEncryptionOverhead

def FullWrite (g : Geometry) (msg : ReplicaInnerMessage) : Prop :=
  msg.messageType = 1 ∧ ∃ write, msg.writeMsg = some write ∧ write.validate = .ok () ∧
    write.payload.length = g.calculateBoxCiphertextLength

def CarriesReply (suite : Suite) (g : Geometry) (reply : CourierQueryReply) : Prop :=
  reply.replyType = 0 ∧ ∃ inner, reply.envelopeReply = some inner ∧ inner.payload.length = g.calculateEnvelopeReplySizeRead suite

def readInnerMessage (boxID : Fixed 32) : ReplicaInnerMessage := ⟨0, some ⟨boxID⟩, none⟩

def writeInnerMessage (boxID : Fixed 32) (ciphertext : Bytes) (sig : Fixed 64) : ReplicaInnerMessage :=
  ⟨1, none, some ⟨boxID, sig, UInt32.ofNat ciphertext.length, ciphertext⟩⟩

def Sendable (g : Geometry) (msg : ReplicaInnerMessage) : Prop :=
  (∃ boxID, msg = readInnerMessage boxID) ∨
    ∃ boxID ciphertext sig, msg = writeInnerMessage boxID ciphertext sig ∧ ciphertext.length ≤ g.calculateBoxCiphertextLength

-- The length fields are the lengths, converted as buildCourierEnvelope and the courier do it.
def CourierQuery.LengthsSet (query : CourierQuery) : Prop :=
  ∀ envelope, query.envelope = some envelope →
    envelope.senderPubkeyLen = UInt16.ofNat envelope.senderPubkey.length ∧
      envelope.ciphertextLen = UInt32.ofNat envelope.ciphertext.length

def CourierQueryReply.LengthsSet (reply : CourierQueryReply) : Prop :=
  ∀ inner, reply.envelopeReply = some inner →
    (inner.replyType = 0 ∨ inner.replyType = 1) ∧ inner.payloadLen = UInt32.ofNat inner.payload.length

section Exact

theorem marshal_ok (validated : Except String Unit) (encoded bytes : Bytes) (marshalled : marshal validated encoded = .ok bytes) :
    validated = .ok () ∧ bytes = encoded := by
  cases validated with
  | error e => cases marshalled
  | ok checked =>
      cases marshalled
      exact ⟨rfl, rfl⟩

theorem envelope_encode_length (c : CourierEnvelope) (valid : c.valid = true) :
    c.encodeBinary.length = 137 + c.senderPubkey.length + c.ciphertext.length := by
  rw [CourierEnvelope.valid, Bool.and_eq_true, decide_eq_true_eq, decide_eq_true_eq] at valid
  simp only [CourierEnvelope.encodeBinary, List.take_of_length_le valid.1.le, List.take_of_length_le valid.2.le, List.length_append,
    Fixed.size, List.length_singleton, putUint64BE, putUint16BE, putUint32BE, big_endian_length]
  omega

theorem reply_encode_length (c : CourierEnvelopeReply) (sized : c.payload.length = c.payloadLen.toNat) :
    c.encodeBinary.length = 39 + c.payload.length := by
  simp only [CourierEnvelopeReply.encodeBinary, List.take_of_length_le sized.le, List.length_append, Fixed.size, List.length_cons,
    List.length_nil, put_uint32BE_length]
  omega

theorem write_encode_length (r : ReplicaWrite) (sized : r.payload.length = r.payloadLen.toNat) :
    r.encodeBinary.length = 100 + r.payload.length := by
  simp only [ReplicaWrite.encodeBinary, List.take_of_length_le sized.le, List.length_append, Fixed.size, put_uint32BE_length]

theorem query_marshal_length (query : CourierQuery) (envelope : CourierEnvelope) (bytes : Bytes) (tagged : query.queryType = 0)
    (enveloped : query.envelope = some envelope) (marshalled : query.marshalBinary = .ok bytes) :
    bytes.length = 138 + envelope.senderPubkey.length + envelope.ciphertext.length := by
  obtain ⟨checked, rfl⟩ := marshal_ok _ _ _ marshalled
  have valid : envelope.valid = true := by
    rw [CourierQuery.validate, tagged, enveloped] at checked
    by_contra invalid
    simp [unionValidate, envelopeValidate, invalid] at checked
  have size := envelope_encode_length envelope valid
  simp only [CourierQuery.encodeBinary, unionBinary, tagged, enveloped, if_true, Option.map_some, Option.getD_some, List.length_cons, size]
  omega

theorem reply_marshal_length (reply : CourierQueryReply) (inner : CourierEnvelopeReply) (bytes : Bytes) (tagged : reply.replyType = 0)
    (enveloped : reply.envelopeReply = some inner) (marshalled : reply.marshalBinary = .ok bytes) :
    bytes.length = 40 + inner.payload.length := by
  obtain ⟨checked, rfl⟩ := marshal_ok _ _ _ marshalled
  have sized : inner.payload.length = inner.payloadLen.toNat := by
    rw [CourierQueryReply.validate, tagged, enveloped] at checked
    by_contra missized
    by_cases known : inner.replyType = 0 ∨ inner.replyType = 1
    · simp [unionValidate, CourierEnvelopeReply.validate, missized, known] at checked
    · simp [unionValidate, CourierEnvelopeReply.validate, known] at checked
  have size := reply_encode_length inner sized
  simp only [CourierQueryReply.encodeBinary, unionBinary, tagged, enveloped, if_true, Option.map_some, Option.getD_some,
    List.length_cons, size]
  omega

theorem pad_to_size_length (data padded : Bytes) (targetSize : Int) (ok : padToSize data targetSize = .ok padded) :
    padded.length = targetSize := by
  rw [padToSize] at ok
  split at ok
  · cases ok
  · rename_i fits
    cases ok
    rw [List.length_append, zeros_length]
    omega

theorem pad_to_size_full (data : Bytes) (targetSize : Int) (full : data.length = targetSize) : padToSize data targetSize = .ok data := by
  rw [padToSize, if_neg (by omega), full, sub_self]
  exact congrArg Except.ok (List.append_nil data)

variable (suite : Suite) (scheme : Nike)

theorem new_geometry_lengths (named : suite.byName scheme.name = some scheme) (m : Int) :
    newGeometry suite m scheme = .returns
      ⟨m, 171 + scheme.publicKeySize + suite.mkemEncryptionOverhead, m + 259 + scheme.publicKeySize + suite.mkemEncryptionOverhead,
        m + 117 + suite.mkemEncryptionOverhead, 22 + suite.mkemEncryptionOverhead, scheme.name, signatureSchemeName⟩ := by
  simp only [newGeometry, Geometry.calculateCourierQueryReadLength, Geometry.calculateCourierQueryWriteLength, Geometry.nikeScheme, named,
    returns_bind]
  apply congrArg Call.returns
  simp only [Geometry.mk.injEq, true_and, and_true]
  simp only [queryLength, calculateCourierEnvelopeOverhead, calculateCourierQueryWrapperOverhead, replicaWriteFixedOverhead,
    Geometry.calculateCourierQueryReplyReadLength, calculateCourierQueryReplyWriteLength, replyLength, bacapBoxIDSize, bacapSignatureSize,
    mkemDEKSize, Wire.bacapEncryptionOverhead, Wire.lengthPrefixSize, messageTypeSize, successFieldSize,
    payloadLenFieldSize, writeReplyLenFieldSize,
    minimalOkReplySize, errorLenFieldSize, timestampFieldSize, ciphertextLenFieldSize, intermediateReplicasSize, replyIndexSize,
    epochSize, senderPubkeyLenSize, queryTypeSize]
  omega

theorem new_geometry_payload (m : Int) (g : Geometry) (made : newGeometry suite m scheme = .returns g) :
    g.maxPlaintextPayloadLength = m := by
  obtain ⟨read, _, made⟩ := bind_returns _ _ _ made
  obtain ⟨write, _, made⟩ := bind_returns _ _ _ made
  rw [← returns_inj _ _ made]

theorem write_size (g : Geometry) : g.replicaInnerMessageWriteSize = g.maxPlaintextPayloadLength + 121 := by
  simp only [Geometry.replicaInnerMessageWriteSize, Geometry.calculateBoxCiphertextLength, replicaWriteFixedOverhead, messageTypeSize,
    bacapBoxIDSize, bacapSignatureSize, payloadLenFieldSize, Wire.lengthPrefixSize, Wire.bacapEncryptionOverhead]
  omega

theorem reply_size (g : Geometry) :
    g.calculateEnvelopeReplySizeRead suite = g.maxPlaintextPayloadLength + 122 + suite.mkemEncryptionOverhead := by
  simp only [Geometry.calculateEnvelopeReplySizeRead, Geometry.calculateBoxCiphertextLength, Suite.mkemEncryptionOverhead, messageTypeSize,
    errorCodeFieldSize, bacapBoxIDSize, bacapSignatureSize, payloadLenFieldSize, Wire.lengthPrefixSize, Wire.bacapEncryptionOverhead]
  omega

theorem carries_length (g : Geometry) (msg : ReplicaInnerMessage) (query : CourierQuery) (bytes : Bytes)
    (carries : Carries suite g scheme msg query) (marshalled : query.marshalBinary = .ok bytes) :
    bytes.length = g.maxPlaintextPayloadLength + 259 + scheme.publicKeySize + suite.mkemEncryptionOverhead := by
  obtain ⟨envelope, padded, enveloped, key, pads, text⟩ := carries.enveloped
  have size := query_marshal_length query envelope bytes carries.tagged enveloped marshalled
  have target := pad_to_size_length _ _ _ pads
  rw [write_size] at target
  omega

theorem carries_reply_length (g : Geometry) (reply : CourierQueryReply) (bytes : Bytes) (carries : CarriesReply suite g reply)
    (marshalled : reply.marshalBinary = .ok bytes) :
    bytes.length = g.maxPlaintextPayloadLength + 162 + suite.mkemEncryptionOverhead := by
  obtain ⟨tagged, inner, enveloped, sized⟩ := carries
  have size := reply_marshal_length reply inner bytes tagged enveloped marshalled
  rw [reply_size] at sized
  omega

theorem full_write_padded (g : Geometry) (msg : ReplicaInnerMessage) (full : FullWrite g msg) :
    padInnerMessageForEncryption msg g = .ok msg.bytes := by
  obtain ⟨tagged, write, written, valid, size⟩ := full
  have sized : write.payload.length = write.payloadLen.toNat := by
    by_contra missized
    rw [ReplicaWrite.validate, if_neg missized] at valid
    cases valid
  have checked : msg.validate = .ok () := by
    rw [ReplicaInnerMessage.validate, tagged, written]
    exact valid
  have encoded : msg.bytes = 1 :: write.encodeBinary := by
    rw [ReplicaInnerMessage.bytes, checked, ReplicaInnerMessage.encodeBinary, tagged, written]
    rfl
  apply pad_to_size_full
  rw [encoded, List.length_cons, write_encode_length write sized, write_size]
  simp only [Geometry.calculateBoxCiphertextLength, Wire.lengthPrefixSize, Wire.bacapEncryptionOverhead] at size
  omega

theorem message_bytes (msg : ReplicaInnerMessage) (valid : msg.validate = .ok ()) : msg.bytes = msg.encodeBinary := by
  rw [ReplicaInnerMessage.bytes, valid]
  rfl

theorem sendable_padded (g : Geometry) (positive : 0 < g.maxPlaintextPayloadLength)
    (small : g.maxPlaintextPayloadLength + 20 < 2 ^ 32) (msg : ReplicaInnerMessage) (sendable : Sendable g msg) :
    ∃ padding, padInnerMessageForEncryption msg g = .ok (msg.encodeBinary ++ zeros padding) := by
  have fits (valid : msg.validate = .ok ()) (size : msg.encodeBinary.length ≤ g.maxPlaintextPayloadLength + 121) :
      ∃ padding, padInnerMessageForEncryption msg g = .ok (msg.encodeBinary ++ zeros padding) := by
    rw [padInnerMessageForEncryption, message_bytes msg valid, padToSize, write_size, if_neg (by omega)]
    exact ⟨_, rfl⟩
  obtain ⟨boxID, rfl⟩ | ⟨boxID, ciphertext, sig, rfl, boxed⟩ := sendable
  · refine fits rfl ?_
    have size : (readInnerMessage boxID).encodeBinary.length = 33 := congrArg (· + 1) boxID.size
    omega
  · simp only [Geometry.calculateBoxCiphertextLength, Wire.lengthPrefixSize, Wire.bacapEncryptionOverhead] at boxed
    have sized : ciphertext.length = (UInt32.ofNat ciphertext.length).toNat := by
      rw [UInt32.toNat_ofNat', Nat.mod_eq_of_lt (by omega)]
    refine fits (if_pos sized) ?_
    have size : (writeInnerMessage boxID ciphertext sig).encodeBinary.length = 100 + ciphertext.length + 1 :=
      congrArg (· + 1) (write_encode_length ⟨boxID, sig, UInt32.ofNat ciphertext.length, ciphertext⟩ sized)
    omega

theorem carries_marshals (g : Geometry) (msg : ReplicaInnerMessage) (query : CourierQuery) (carries : Carries suite g scheme msg query)
    (sized : query.LengthsSet) (key : scheme.publicKeySize < 2 ^ 16)
    (small : g.maxPlaintextPayloadLength + 121 + suite.mkemEncryptionOverhead < 2 ^ 32) :
    query.marshalBinary = .ok query.encodeBinary := by
  obtain ⟨envelope, padded, enveloped, keyed, pads, text⟩ := carries.enveloped
  obtain ⟨keySize, textSize⟩ := sized envelope enveloped
  have target := pad_to_size_length _ _ _ pads
  rw [write_size] at target
  have valid : envelope.valid = true := by
    rw [CourierEnvelope.valid, keySize, textSize, UInt16.toNat_ofNat', UInt32.toNat_ofNat', Nat.mod_eq_of_lt (by omega),
      Nat.mod_eq_of_lt (by omega)]
    simp
  rw [CourierQuery.marshalBinary, CourierQuery.validate, carries.tagged, enveloped]
  simp only [unionValidate, envelopeValidate, valid, Option.map_some, Option.getD_some, if_true, true_or, not_true_eq_false, if_false]
  rfl

theorem carries_reply_marshals (g : Geometry) (reply : CourierQueryReply) (carries : CarriesReply suite g reply)
    (sized : reply.LengthsSet) (small : g.maxPlaintextPayloadLength + 122 + suite.mkemEncryptionOverhead < 2 ^ 32) :
    reply.marshalBinary = .ok reply.encodeBinary := by
  obtain ⟨tagged, inner, enveloped, length⟩ := carries
  obtain ⟨known, payloadSize⟩ := sized inner enveloped
  rw [reply_size] at length
  have valid : inner.validate = .ok () := by
    rw [CourierEnvelopeReply.validate, if_neg (not_not_intro known), payloadSize, UInt32.toNat_ofNat', Nat.mod_eq_of_lt (by omega),
      if_pos rfl]
  rw [CourierQueryReply.marshalBinary, CourierQueryReply.validate, tagged, enveloped]
  simp only [unionValidate, valid, Option.map_some, Option.getD_some, if_true, true_or, not_true_eq_false, if_false]
  rfl

end Exact

/-- The length of the queries is exact. A reply is always longer than the geometry has it: that
length adds up the fields of another format and leaves out the overhead of the box. -/
theorem geometry_lengths (suite : Suite) (scheme : Nike) (named : suite.byName scheme.name = some scheme) (m : Int) (g : Geometry)
    (made : newGeometry suite m scheme = .returns g) :
    (∀ msg query bytes, FullWrite g msg → Carries suite g scheme msg query → query.marshalBinary = .ok bytes →
      bytes.length = g.courierQueryWriteLength) ∧
    ∀ reply bytes, CarriesReply suite g reply → reply.marshalBinary = .ok bytes →
      bytes.length = g.courierQueryReplyReadLength + 45 := by
  have lengths := new_geometry_lengths suite scheme named m
  rw [lengths] at made
  have same := returns_inj _ _ made
  refine ⟨fun msg query bytes _ carries marshalled => ?_, fun reply bytes carries marshalled => ?_⟩
  · rw [carries_length suite scheme g msg query bytes carries marshalled, ← same]
  · rw [carries_reply_length suite g reply bytes carries marshalled, ← same]
    dsimp only
    omega

section Samples

def x25519Scheme : Nike := ⟨"x25519", 32⟩

def chachaSuite : Suite := ⟨fun name => if name = "x25519" then some x25519Scheme else none, 12, 16⟩

def byteGeometry : Geometry := ⟨1, 231, 320, 146, 50, "x25519", "Ed25519"⟩

def fullMessage : ReplicaInnerMessage :=
  ⟨1, none, some ⟨⟨zeros 32, zeros_length 32⟩, ⟨zeros 64, zeros_length 64⟩, 21, zeros 21⟩⟩

def fullQuery : CourierQuery :=
  ⟨0, some ⟨⟨zeros 2, zeros_length 2⟩, ⟨zeros 60, zeros_length 60⟩, ⟨zeros 60, zeros_length 60⟩, 0, 0, 32, zeros 32, 150, zeros 150⟩, none⟩

def fullReply : CourierQueryReply := ⟨0, some ⟨⟨zeros 32, zeros_length 32⟩, 0, 1, 151, zeros 151, 0⟩, none⟩

theorem byte_geometry_made : newGeometry chachaSuite 1 x25519Scheme = .returns byteGeometry :=
  new_geometry_lengths chachaSuite x25519Scheme rfl 1

theorem full_message_carried :
    FullWrite byteGeometry fullMessage ∧ Carries chachaSuite byteGeometry x25519Scheme fullMessage fullQuery := by
  have full : FullWrite byteGeometry fullMessage := ⟨rfl, _, rfl, rfl, rfl⟩
  have padded := full_write_padded byteGeometry fullMessage full
  have size := pad_to_size_length _ _ _ padded
  refine ⟨full, rfl, _, _, rfl, rfl, padded, ?_⟩
  rw [size, zeros_length]
  rfl

theorem full_reply_carried : CarriesReply chachaSuite byteGeometry fullReply := by
  refine ⟨rfl, _, rfl, ?_⟩
  rw [zeros_length]
  rfl

theorem full_query_marshals : fullQuery.marshalBinary = .ok fullQuery.encodeBinary := by
  have valid : fullQuery.validate = .ok () := by decide +kernel
  rw [CourierQuery.marshalBinary, valid]
  rfl

theorem full_reply_marshals : fullReply.marshalBinary = .ok fullReply.encodeBinary := by
  have valid : fullReply.validate = .ok () := by decide +kernel
  rw [CourierQueryReply.marshalBinary, valid]
  rfl

end Samples

theorem byte_geometry_lengths :
    newGeometry chachaSuite 1 x25519Scheme = .returns byteGeometry ∧
    fullQuery.encodeBinary.length = byteGeometry.courierQueryWriteLength ∧
    fullReply.encodeBinary.length = byteGeometry.courierQueryReplyReadLength + 45 := by
  have lengths := geometry_lengths chachaSuite x25519Scheme rfl 1 byteGeometry byte_geometry_made
  obtain ⟨full, carried⟩ := full_message_carried
  exact ⟨byte_geometry_made, lengths.1 fullMessage fullQuery _ full carried full_query_marshals,
    lengths.2 fullReply _ full_reply_carried full_reply_marshals⟩

/-- With x25519 keys and boxes of one byte the geometry has 146 bytes for a reply of 191. -/
theorem reply_longer_than_geometry :
    newGeometry chachaSuite 1 x25519Scheme = .returns byteGeometry ∧ byteGeometry.courierQueryReplyReadLength = 146 ∧
    CarriesReply chachaSuite byteGeometry fullReply ∧ fullReply.marshalBinary = .ok fullReply.encodeBinary ∧
    fullReply.encodeBinary.length = 191 :=
  ⟨byte_geometry_made, rfl, full_reply_carried, full_reply_marshals, by decide +kernel⟩

structure Fits (suite : Suite) (scheme : Nike) (sphinxGeo : Katzenpost.Geometry) (g : Geometry) : Prop where
  queries : ∀ msg query bytes, Carries suite g scheme msg query → query.marshalBinary = .ok bytes →
    bytes.length ≤ sphinxGeo.userForwardPayloadLength
  fullWrites : ∀ msg query bytes, FullWrite g msg → Carries suite g scheme msg query → query.marshalBinary = .ok bytes →
    bytes.length = sphinxGeo.userForwardPayloadLength
  replies : ∀ reply bytes, CarriesReply suite g reply → reply.marshalBinary = .ok bytes →
    bytes.length ≤ sphinxGeo.userForwardPayloadLength
  maximal : ∀ m larger msg query bytes, g.maxPlaintextPayloadLength < m → newGeometry suite m scheme = .returns larger →
    FullWrite larger msg → Carries suite larger scheme msg query → query.marshalBinary = .ok bytes →
    sphinxGeo.userForwardPayloadLength < bytes.length
  -- As long as the lengths fit in their fields, all of this can be sent.
  pads : sphinxGeo.userForwardPayloadLength < 2 ^ 32 → ∀ msg, Sendable g msg →
    ∃ padding, padInnerMessageForEncryption msg g = .ok (msg.encodeBinary ++ zeros padding)
  queriesMarshal : sphinxGeo.userForwardPayloadLength < 2 ^ 32 → scheme.publicKeySize < 2 ^ 16 → ∀ msg (query : CourierQuery),
    Carries suite g scheme msg query → query.LengthsSet → query.marshalBinary = .ok query.encodeBinary
  repliesMarshal : sphinxGeo.userForwardPayloadLength < 2 ^ 32 → ∀ reply : CourierQueryReply,
    CarriesReply suite g reply → reply.LengthsSet → reply.marshalBinary = .ok reply.encodeBinary

section Fitting

variable (suite : Suite) (scheme : Nike)

theorem total_overhead_eq : totalOverhead suite scheme = 259 + scheme.publicKeySize + suite.mkemEncryptionOverhead := by
  simp only [totalOverhead, calculateCourierEnvelopeOverhead, replicaWriteFixedOverhead, bacapBoxIDSize, bacapSignatureSize, mkemDEKSize,
    Wire.bacapEncryptionOverhead, Wire.lengthPrefixSize, messageTypeSize, payloadLenFieldSize, ciphertextLenFieldSize,
    intermediateReplicasSize, replyIndexSize, epochSize, senderPubkeyLenSize, queryTypeSize]
  omega

theorem from_sphinx_payload (sphinxGeo : Katzenpost.Geometry) (g : Geometry)
    (made : newGeometryFromSphinx suite sphinxGeo scheme = .returns g) :
    0 < g.maxPlaintextPayloadLength ∧
    sphinxGeo.userForwardPayloadLength =
      g.maxPlaintextPayloadLength + 259 + scheme.publicKeySize + suite.mkemEncryptionOverhead := by
  rw [newGeometryFromSphinx] at made
  split at made
  · cases made
  · rename_i positive
    have payload := new_geometry_payload suite scheme _ g made
    rw [total_overhead_eq] at payload positive
    omega

theorem from_sphinx_fits (sphinxGeo : Katzenpost.Geometry) (g : Geometry)
    (made : newGeometryFromSphinx suite sphinxGeo scheme = .returns g) : Fits suite scheme sphinxGeo g := by
  obtain ⟨positive, target⟩ := from_sphinx_payload suite scheme sphinxGeo g made
  have overhead : 0 ≤ suite.mkemEncryptionOverhead := by
    rw [Suite.mkemEncryptionOverhead]
    omega
  refine ⟨fun msg query bytes carries marshalled => ?_, fun msg query bytes _ carries marshalled => ?_,
    fun reply bytes carries marshalled => ?_, fun m larger msg query bytes more made _ carries marshalled => ?_,
    fun small msg sendable => sendable_padded g positive (by omega) msg sendable,
    fun small key msg query carries sized => carries_marshals suite scheme g msg query carries sized key (by omega),
    fun small reply carries sized => carries_reply_marshals suite g reply carries sized (by omega)⟩
  · have size := carries_length suite scheme g msg query bytes carries marshalled
    omega
  · have size := carries_length suite scheme g msg query bytes carries marshalled
    omega
  · have size := carries_reply_length suite g reply bytes carries marshalled
    omega
  · have payload := new_geometry_payload suite scheme m larger made
    have size := carries_length suite scheme larger msg query bytes carries marshalled
    omega

theorem max_int_write (m k o : Int) (positive : 0 < m) (key : 0 ≤ k) :
    maxInt [171 + k + o, m + 259 + k + o, m + 117 + o, 22 + o] = m + 259 + k + o := by
  simp only [maxInt, List.foldl_cons, List.foldl_nil]
  rw [if_pos (by omega : m + 259 + k + o > 171 + k + o), if_neg (by omega : ¬ m + 117 + o > m + 259 + k + o), if_neg (by omega)]

theorem sphinx_round_trip (named : suite.byName scheme.name = some scheme) (m : Int) (positive : 0 < m) (g : Geometry)
    (made : newGeometry suite m scheme = .returns g) (nrHops : Nat) (withSURB : Bool) :
    ∃ sphinxGeo, g.toSphinxGeometry suite nrHops withSURB = .returns sphinxGeo ∧
      newGeometryFromSphinx suite sphinxGeo scheme = .returns g := by
  have lengths := new_geometry_lengths suite scheme named m
  have same := returns_inj _ _ (lengths.symm.trans made)
  refine ⟨geometryFromUserForwardPayloadLength (.nike scheme.publicKeySize)
    (m + 259 + scheme.publicKeySize + suite.mkemEncryptionOverhead).toNat withSURB nrHops, ?_, ?_⟩
  · rw [Geometry.toSphinxGeometry, Geometry.nikeScheme, ← same, named]
    simp only [returns_bind, max_int_write m scheme.publicKeySize _ positive (Int.natCast_nonneg _)]
  · have overhead : 0 ≤ suite.mkemEncryptionOverhead := by
      rw [Suite.mkemEncryptionOverhead]
      omega
    have back : ((m + 259 + scheme.publicKeySize + suite.mkemEncryptionOverhead).toNat : Int) - totalOverhead suite scheme = m := by
      rw [total_overhead_eq]
      omega
    have user : (geometryFromUserForwardPayloadLength (.nike scheme.publicKeySize)
        (m + 259 + scheme.publicKeySize + suite.mkemEncryptionOverhead).toNat withSURB nrHops).userForwardPayloadLength =
        (m + 259 + scheme.publicKeySize + suite.mkemEncryptionOverhead).toNat := rfl
    rw [newGeometryFromSphinx, user, back, if_neg (by omega), made]

end Fitting

/-- A geometry made for a Sphinx geometry fits it, and there and back it is the same geometry. -/
theorem sphinx_geometry_fits (suite : Suite) (scheme : Nike) (named : suite.byName scheme.name = some scheme) :
    (∀ sphinxGeo g, newGeometryFromSphinx suite sphinxGeo scheme = .returns g → Fits suite scheme sphinxGeo g) ∧
    ∀ m g, 0 < m → newGeometry suite m scheme = .returns g → ∀ nrHops withSURB,
      ∃ sphinxGeo, g.toSphinxGeometry suite nrHops withSURB = .returns sphinxGeo ∧
        newGeometryFromSphinx suite sphinxGeo scheme = .returns g :=
  ⟨from_sphinx_fits suite scheme, fun m g positive made nrHops withSURB =>
    sphinx_round_trip suite scheme named m positive g made nrHops withSURB⟩

theorem byte_geometry_fits : ∃ sphinxGeo,
    byteGeometry.toSphinxGeometry chachaSuite 5 true = .returns sphinxGeo ∧
    newGeometryFromSphinx chachaSuite sphinxGeo x25519Scheme = .returns byteGeometry ∧
    Fits chachaSuite x25519Scheme sphinxGeo byteGeometry ∧
    fullQuery.marshalBinary = .ok fullQuery.encodeBinary ∧ fullQuery.encodeBinary.length = sphinxGeo.userForwardPayloadLength := by
  obtain ⟨fits, back⟩ := sphinx_geometry_fits chachaSuite x25519Scheme rfl
  obtain ⟨sphinxGeo, derived, made⟩ := back 1 byteGeometry (by decide) byte_geometry_made 5 true
  obtain ⟨full, carried⟩ := full_message_carried
  have fit := fits sphinxGeo byteGeometry made
  have small : sphinxGeo.userForwardPayloadLength < 2 ^ 32 := by
    have target := (from_sphinx_payload chachaSuite x25519Scheme sphinxGeo byteGeometry made).2
    have size : byteGeometry.maxPlaintextPayloadLength + 259 + x25519Scheme.publicKeySize + chachaSuite.mkemEncryptionOverhead = 320 := rfl
    omega
  have sized : fullQuery.LengthsSet := by
    rintro envelope ⟨⟩
    exact ⟨by decide +kernel, by decide +kernel⟩
  have sent := fit.queriesMarshal small (by decide) fullMessage fullQuery carried sized
  exact ⟨sphinxGeo, derived, made, fit, sent, fit.fullWrites fullMessage fullQuery _ full carried sent⟩

end Katzenpost.Pigeonhole.Wire
