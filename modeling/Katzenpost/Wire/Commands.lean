import Katzenpost.Go.Slice
import Katzenpost.Sphinx.Geometry

set_option autoImplicit false

namespace Katzenpost

open Go

inductive WireError where
  | invalidCommand
  | wtfInvalidCommand
  | messageTooShort
  | unmarshalPublicKey
deriving DecidableEq

inductive CommandID where
  | noOp
  | disconnect
  | sendPacket
  | sendRetrievePacket
  | sendRetrievePacketReply
  | replicaMessage
  | replicaMessageReply
  | postReplicaDescriptorStatus
  | postReplicaDescriptor
  | replicaWrite
  | replicaWriteReply
  | retreiveMessage
  | message
  | getConsensus
  | consensus
  | postDescriptor
  | postDescriptorStatus
  | vote
  | voteStatus
  | getVote
  | reveal
  | revealStatus
  | sig
  | sigStatus
  | certificate
  | certStatus
  | consensus2
  | getConsensus2
  | replicaDecoy
deriving DecidableEq

def CommandID.ofByte (id : UInt8) : Option CommandID :=
  match id.toNat with
  | 0 => some .noOp
  | 1 => some .disconnect
  | 2 => some .sendPacket
  | 3 => some .sendRetrievePacket
  | 4 => some .sendRetrievePacketReply
  | 8 => some .replicaMessage
  | 9 => some .replicaMessageReply
  | 10 => some .postReplicaDescriptorStatus
  | 11 => some .postReplicaDescriptor
  | 12 => some .replicaWrite
  | 13 => some .replicaWriteReply
  | 16 => some .retreiveMessage
  | 17 => some .message
  | 18 => some .getConsensus
  | 19 => some .consensus
  | 20 => some .postDescriptor
  | 21 => some .postDescriptorStatus
  | 22 => some .vote
  | 23 => some .voteStatus
  | 24 => some .getVote
  | 25 => some .reveal
  | 26 => some .revealStatus
  | 27 => some .sig
  | 28 => some .sigStatus
  | 29 => some .certificate
  | 30 => some .certStatus
  | 31 => some .consensus2
  | 32 => some .getConsensus2
  | 33 => some .replicaDecoy
  | _ => none

-- The commands with what the parsers put into them; references to the instance,
-- its geometry and its schemes are left out.
inductive WireCommand where
  | noOp
  | disconnect
  | replicaDecoy
  | sendPacket (sphinxPacket : Bytes)
  | sendRetrievePacket (sphinxPacket : Bytes)
  | sendRetrievePacketReply (surbID : Fixed surbIDLength) (payload : Bytes)
  | retrieveMessage (sequence : UInt32)
  | messageACK (queueSizeHint : UInt8) (sequence : UInt32) (id : Fixed surbIDLength) (payload : Bytes)
  | message (queueSizeHint : UInt8) (sequence : UInt32) (payload : Bytes)
  | messageEmpty (sequence : UInt32)
  | getConsensus (epoch : UInt64)
  | getConsensus2 (epoch : UInt64)
  | consensus (errorCode : UInt8) (payload : Bytes)
  | consensus2 (errorCode : UInt8) (chunkNum chunkTotal : UInt32) (payload : Bytes)
  | postDescriptor (epoch : UInt64) (payload : Bytes)
  | postReplicaDescriptor (epoch : UInt64) (payload : Bytes)
  | postDescriptorStatus (errorCode : UInt8)
  | postReplicaDescriptorStatus (errorCode : UInt8)
  | voteStatus (errorCode : UInt8)
  | revealStatus (errorCode : UInt8)
  | sigStatus (errorCode : UInt8)
  | certStatus (errorCode : UInt8)
  | replicaWriteReply (errorCode : UInt8)
  | getVote (epoch : UInt64) (publicKey : PublicKey)
  | vote (epoch : UInt64) (publicKey : PublicKey) (payload : Bytes)
  | cert (epoch : UInt64) (publicKey : PublicKey) (payload : Bytes)
  | reveal (epoch : UInt64) (publicKey : PublicKey) (payload : Bytes)
  | sig (epoch : UInt64) (publicKey : PublicKey) (payload : Bytes)
  | replicaWrite (boxID : Fixed 32) (signature : Fixed 64) (payload : Bytes)
  | replicaMessage (senderEPubKey dek ciphertext : Bytes)
  | replicaMessageReply (errorCode : UInt8) (envelopeHash : Fixed 32) (replicaID : UInt8) (envelopeReply : Bytes)
deriving DecidableEq

structure SignScheme where
  publicKeySize : Nat
  unmarshalBinaryPublicKey : Bytes → Option PublicKey

structure ReplicaNike where
  publicKeySize : Nat
  dekSize : Nat
deriving DecidableEq

structure Commands where
  geo : Option Geometry
  pkiSignatureScheme : Option SignScheme
  replicaNikeScheme : Option ReplicaNike

def newMixnetCommands (geo : Geometry) : Commands := ⟨some geo, none, none⟩

def newStorageReplicaCommands (geo : Geometry) (scheme : ReplicaNike) : Commands := ⟨some geo, none, some scheme⟩

def newPKICommands (pkiSignatureScheme : Option SignScheme) : Commands := ⟨none, pkiSignatureScheme, none⟩

def cmdOverhead : Nat := 1 + 1 + 4
def retreiveMessageLength : Nat := 4
def messageBaseLength : Nat := 1 + 1 + 4
def getConsensusLength : Nat := 8
def consensusBaseLength : Nat := 1
def consensus2BaseLength : Nat := 1 + 4 + 4
def postDescriptorStatusLength : Nat := 1
def postDescriptorLength : Nat := 8
def boxIDSize : Nat := 32
def bacapSignatureSize : Nat := 64

abbrev Parse := Reading WireError WireCommand

def deref {α : Type} : Option α → Reading WireError α
  | none => .panics
  | some a => .returns a

section Parsers

def copyParser (command : Bytes → WireCommand) (b : Slice) : Parse := .returns (command b.bytes)

def sendPacketFromBytes : Slice → Parse := copyParser .sendPacket

def sendRetrievePacketFromBytes : Slice → Parse := copyParser .sendRetrievePacket

def replicaDecoyFromBytes (_ : Slice) : Parse := .returns .replicaDecoy

def sendRetrievePacketReplyFromBytes (b : Slice) : Parse := do
  let surbID ← b.span 0 surbIDLength
  let payload ← b.rest surbIDLength
  .returns (.sendRetrievePacketReply (Fixed.copy surbIDLength surbID.bytes) payload.bytes)

def retreiveMessageFromBytes (b : Slice) : Parse :=
  if b.len ≠ retreiveMessageLength then .fails .invalidCommand
  else do
    let sequence ← b.span 0 4
    .returns (.retrieveMessage (uint32BE sequence.bytes))

def statusFromBytes (e : WireError) (command : UInt8 → WireCommand) (b : Slice) : Parse :=
  if b.len ≠ postDescriptorStatusLength then .fails e
  else do
    let errorCode ← b.index 0
    .returns (command errorCode)

def postDescriptorStatusFromBytes : Slice → Parse := statusFromBytes .invalidCommand .postDescriptorStatus

def postReplicaDescriptorStatusFromBytes : Slice → Parse := statusFromBytes .invalidCommand .postReplicaDescriptorStatus

def voteStatusFromBytes : Slice → Parse := statusFromBytes .invalidCommand .voteStatus

def revealStatusFromBytes : Slice → Parse := statusFromBytes .wtfInvalidCommand .revealStatus

def sigStatusFromBytes : Slice → Parse := statusFromBytes .invalidCommand .sigStatus

def certStatusFromBytes : Slice → Parse := statusFromBytes .invalidCommand .certStatus

def replicaWriteReplyFromBytes : Slice → Parse := statusFromBytes .invalidCommand .replicaWriteReply

def epochFromBytes (command : UInt64 → WireCommand) (b : Slice) : Parse :=
  if b.len ≠ getConsensusLength then .fails .invalidCommand
  else do
    let epoch ← b.span 0 8
    .returns (command (uint64BE epoch.bytes))

def getConsensusFromBytes : Slice → Parse := epochFromBytes .getConsensus

def getConsensus2FromBytes : Slice → Parse := epochFromBytes .getConsensus2

def consensusFromBytes (b : Slice) : Parse :=
  if b.len < consensusBaseLength then .fails .invalidCommand
  else do
    let errorCode ← b.index 0
    if b.len - consensusBaseLength > 0 then do
      let payload ← b.rest consensusBaseLength
      .returns (.consensus errorCode payload.bytes)
    else .returns (.consensus errorCode [])

-- The check is that of consensusFromBytes, though nine bytes are read.
def consensus2FromBytes (b : Slice) : Parse :=
  if b.len < consensusBaseLength then .fails .invalidCommand
  else do
    let errorCode ← b.index 0
    let chunkNum ← b.span 1 5
    let chunkTotal ← b.span 5 9
    if b.len - consensus2BaseLength > 0 then do
      let payload ← b.rest consensus2BaseLength
      .returns (.consensus2 errorCode (uint32BE chunkNum.bytes) (uint32BE chunkTotal.bytes) payload.bytes)
    else .returns (.consensus2 errorCode (uint32BE chunkNum.bytes) (uint32BE chunkTotal.bytes) [])

def uploadFromBytes (command : UInt64 → Bytes → WireCommand) (b : Slice) : Parse :=
  if b.len < postDescriptorLength then .fails .invalidCommand
  else do
    let epoch ← b.span 0 8
    let payload ← b.rest postDescriptorLength
    .returns (command (uint64BE epoch.bytes) payload.bytes)

def postDescriptorFromBytes : Slice → Parse := uploadFromBytes .postDescriptor

def postReplicaDescriptorFromBytes : Slice → Parse := uploadFromBytes .postReplicaDescriptor

def unmarshalKey (scheme : SignScheme) (b : Slice) : Reading WireError PublicKey :=
  match scheme.unmarshalBinaryPublicKey b.bytes with
  | none => .fails .unmarshalPublicKey
  | some publicKey => .returns publicKey

def overhead (scheme : SignScheme) : Nat := 8 + scheme.publicKeySize

def getVoteFromBytes (scheme : Option SignScheme) (b : Slice) : Parse := do
  let scheme ← deref scheme
  if b.len ≠ overhead scheme then .fails .invalidCommand
  else do
    let epoch ← b.span 0 8
    let key ← b.span 8 (scheme.publicKeySize + 8)
    let publicKey ← unmarshalKey scheme key
    .returns (.getVote (uint64BE epoch.bytes) publicKey)

def signedFromBytes (e : WireError) (command : UInt64 → PublicKey → Bytes → WireCommand) (scheme : Option SignScheme)
    (b : Slice) : Parse := do
  let scheme ← deref scheme
  if b.len < overhead scheme then .fails e
  else do
    let epoch ← b.span 0 8
    let key ← b.span 8 (8 + scheme.publicKeySize)
    let publicKey ← unmarshalKey scheme key
    let payload ← b.rest (overhead scheme)
    .returns (command (uint64BE epoch.bytes) publicKey payload.bytes)

def voteFromBytes : Option SignScheme → Slice → Parse := signedFromBytes .invalidCommand .vote

def certFromBytes : Option SignScheme → Slice → Parse := signedFromBytes .invalidCommand .cert

def sigFromBytes : Option SignScheme → Slice → Parse := signedFromBytes .invalidCommand .sig

def revealFromBytes : Option SignScheme → Slice → Parse := signedFromBytes .wtfInvalidCommand .reveal

def replicaWriteFromBytes (b : Slice) : Parse :=
  if b.len < boxIDSize + bacapSignatureSize then .fails .invalidCommand
  else do
    let boxID ← b.span 0 boxIDSize
    let signature ← b.span boxIDSize (boxIDSize + bacapSignatureSize)
    let payload ← b.rest (boxIDSize + bacapSignatureSize)
    .returns (.replicaWrite (Fixed.copy 32 boxID.bytes) (Fixed.copy 64 signature.bytes) payload.bytes)

def replicaMessageFromBytes (scheme : Option ReplicaNike) (b : Slice) : Parse := do
  let scheme ← deref scheme
  if b.len < scheme.publicKeySize + scheme.dekSize + 4 then .fails .messageTooShort
  else do
    let senderEPubKey ← b.span 0 scheme.publicKeySize
    let dek ← b.span scheme.publicKeySize (scheme.publicKeySize + scheme.dekSize)
    let ciphertext ← b.rest (scheme.publicKeySize + scheme.dekSize)
    .returns (.replicaMessage senderEPubKey.bytes dek.bytes ciphertext.bytes)

def replicaMessageReplyFromBytes (b : Slice) : Parse :=
  if b.len < 1 + 32 + 1 then .fails .invalidCommand
  else do
    let errorCode ← b.index 0
    let envelopeHash ← b.span 1 (1 + 32)
    let replicaID ← b.index (1 + 32)
    let envelopeReply ← b.rest (1 + 32 + 1)
    .returns (.replicaMessageReply errorCode (Fixed.copy 32 envelopeHash.bytes) replicaID envelopeReply.bytes)

def messageACKFromBytes (geo : Option Geometry) (hint : UInt8) (seq : UInt32) (b : Slice) : Parse := do
  let g ← deref geo
  if b.len ≠ surbIDLength + g.payloadTagLength + g.forwardPayloadLength then .fails .invalidCommand
  else do
    let id ← b.span 0 surbIDLength
    let payload ← b.rest surbIDLength
    .returns (.messageACK hint seq (Fixed.copy surbIDLength id.bytes) payload.bytes)

def messageMsgPaddingLength (g : Geometry) : Nat :=
  surbIDLength + g.sphinxPlaintextHeaderLength + g.surbLength + g.payloadTagLength

def messageMessageFromBytes (geo : Option Geometry) (hint : UInt8) (seq : UInt32) (b : Slice) : Parse := do
  let g ← deref geo
  if b.len ≠ messageMsgPaddingLength g + g.userForwardPayloadLength then .fails .invalidCommand
  else do
    let padding ← b.rest g.userForwardPayloadLength
    if padding.bytes.all (· = 0) then do
      let payload ← b.span 0 g.userForwardPayloadLength
      .returns (.message hint seq payload.bytes)
    else .fails .invalidCommand

def messageEmptyFromBytes (geo : Option Geometry) (seq : UInt32) (b : Slice) : Parse := do
  let g ← deref geo
  if b.len ≠ messageBaseLength + surbIDLength + g.payloadTagLength + g.forwardPayloadLength - messageBaseLength then
    .fails .invalidCommand
  else if b.bytes.all (· = 0) then .returns (.messageEmpty seq)
  else .fails .invalidCommand

def messageFromBytes (geo : Option Geometry) (b : Slice) : Parse :=
  if b.len < messageBaseLength then .fails .invalidCommand
  else do
    let t ← b.index 0
    let hint ← b.index 1
    let seq ← b.span 2 6
    let body ← b.rest messageBaseLength
    if t = 1 then messageACKFromBytes geo hint (uint32BE seq.bytes) body
    else if t = 0 then messageMessageFromBytes geo hint (uint32BE seq.bytes) body
    else if t = 2 then messageEmptyFromBytes geo (uint32BE seq.bytes) body
    else .fails .invalidCommand

end Parsers

def Commands.parseBody (c : Commands) (id : CommandID) (b : Slice) : Parse :=
  match id with
  | .consensus2 => consensus2FromBytes b
  | .postReplicaDescriptor => postReplicaDescriptorFromBytes b
  | .postReplicaDescriptorStatus => postReplicaDescriptorStatusFromBytes b
  | .replicaWrite => replicaWriteFromBytes b
  | .replicaWriteReply => replicaWriteReplyFromBytes b
  | .replicaMessage => replicaMessageFromBytes c.replicaNikeScheme b
  | .replicaMessageReply => replicaMessageReplyFromBytes b
  | .replicaDecoy => replicaDecoyFromBytes b
  | .sendRetrievePacket => sendRetrievePacketFromBytes b
  | .sendRetrievePacketReply => sendRetrievePacketReplyFromBytes b
  | .sendPacket => sendPacketFromBytes b
  | .retreiveMessage => retreiveMessageFromBytes b
  | .message => messageFromBytes c.geo b
  | .getConsensus => getConsensusFromBytes b
  | .getConsensus2 => getConsensus2FromBytes b
  | .consensus => consensusFromBytes b
  | .postDescriptor => postDescriptorFromBytes b
  | .postDescriptorStatus => postDescriptorStatusFromBytes b
  | .getVote => getVoteFromBytes c.pkiSignatureScheme b
  | .vote => voteFromBytes c.pkiSignatureScheme b
  | .voteStatus => voteStatusFromBytes b
  | .certificate => certFromBytes c.pkiSignatureScheme b
  | .certStatus => certStatusFromBytes b
  | .reveal => revealFromBytes c.pkiSignatureScheme b
  | .revealStatus => revealStatusFromBytes b
  | .sig => sigFromBytes c.pkiSignatureScheme b
  | .sigStatus => sigStatusFromBytes b
  | .noOp => .fails .invalidCommand
  | .disconnect => .fails .invalidCommand

inductive EmptyBody where
  | command (cmd : WireCommand)
  | parse
  | invalid

def emptyBody : CommandID → EmptyBody
  | .noOp => .command .noOp
  | .disconnect => .command .disconnect
  | .replicaDecoy => .command .replicaDecoy
  | .sendPacket => .parse
  | .postDescriptor => .parse
  | .sendRetrievePacket => .parse
  | .sendRetrievePacketReply => .parse
  | _ => .invalid

def Commands.parseCommand (c : Commands) (id : UInt8) (cmdLen : UInt32) (b : Slice) : Parse :=
  match CommandID.ofByte id with
  | none => .fails .invalidCommand
  | some id => do
      let body := b.span 0 cmdLen.toNat
      if cmdLen = 0 then
        match emptyBody id with
        | .command cmd => .returns cmd
        | .invalid => .fails .invalidCommand
        | .parse => body >>= c.parseBody id
      else body >>= c.parseBody id

-- FromBytes. The length of the rest is compared as a uint32.
def Commands.fromBytes (c : Commands) (b : Slice) : Parse :=
  if b.len < cmdOverhead then .fails .invalidCommand
  else do
    let id ← b.index 0
    let reserved ← b.index 1
    if reserved ≠ 0 then .fails .invalidCommand
    else do
      let field ← b.span 2 6
      let cmdLen := uint32BE field.bytes
      let rest ← b.rest cmdOverhead
      if UInt32.ofNat rest.len < cmdLen then .fails .invalidCommand
      else do
        let padding ← rest.rest cmdLen.toNat
        if padding.bytes.all (· = 0) then c.parseCommand id cmdLen rest else .fails .invalidCommand

end Katzenpost
