import Katzenpost.Courier.Dispatch
import Katzenpost.Pigeonhole.Intermediates
import Katzenpost.Pigeonhole.Unions
import Katzenpost.Replica.EnvelopeKeys
import Katzenpost.Replica.Immutable

set_option autoImplicit false

namespace Katzenpost.Replica

open Go Pigeonhole

def replicaErrorInvalidBoxID : UInt8 := 2
def replicaErrorInvalidSignature : UInt8 := 3
def replicaErrorInvalidPayload : UInt8 := 5
def replicaErrorStorageFull : UInt8 := 6
def replicaErrorInvalidEpoch : UInt8 := 8
def replicaErrorReplicationFailed : UInt8 := 9

structure BoxScheme (κ : Type) where
  unmarshalBinaryPublicKey : Fixed 32 → Option κ
  verify : κ → Bytes → Fixed 64 → Bool

-- What a replica is configured with. Every reply derives the pigeonhole geometry anew,
-- and panics if there is none.
structure ReplicaNode where
  suite : Wire.Suite
  sphinxGeo : Katzenpost.Geometry
  nike : Wire.Nike
  geometry : Wire.Geometry
  derived : Wire.newGeometryFromSphinx suite sphinxGeo nike = .returns geometry
  identityKey : Bytes

section Boxes

variable {κ : Type} (boxes : BoxScheme κ) (g : Wire.Geometry) (s : State)

def zeroBoxID : Fixed 32 := Fixed.copy 32 []

def zeroSignature : Fixed 64 := Fixed.copy 64 []

-- The reply is nil for the errors that a read does not have.
def handleReplicaRead (replicaRead : Wire.ReplicaRead) : Option Wire.ReplicaReadReply :=
  match s.stateHandleReplicaRead replicaRead.boxID with
  | .ok resp =>
      if resp.payload.length = 0 then some ⟨replicaErrorTombstone, resp.boxID, resp.signature, 0, []⟩
      else some ⟨replicaSuccess, resp.boxID, resp.signature, UInt32.ofNat resp.payload.length, resp.payload⟩
  | .error .boxIDNotFound => some ⟨replicaErrorBoxIDNotFound, replicaRead.boxID, zeroSignature, 0, []⟩
  | .error .failedToDeserialize => some ⟨replicaErrorDatabaseFailure, zeroBoxID, zeroSignature, 0, []⟩
  | .error .dbClosed => some ⟨replicaErrorDatabaseFailure, zeroBoxID, zeroSignature, 0, []⟩
  | .error .boxAlreadyExists => none
  | .error .storageFull => none
  | .error .databaseClosed => none

def wireCommandToTrunnelReplicaWrite (write : ReplicaWrite) : Wire.ReplicaWrite :=
  ⟨write.boxID, write.signature, UInt32.ofNat write.payload.length, write.payload⟩

-- A payload has a length of four bytes, so nothing of it is cut off.
def trunnelReplicaWriteToWireCommand (write : Wire.ReplicaWrite) : ReplicaWrite :=
  ⟨write.boxID, write.signature, write.payload.take (2 ^ 32 - 1), by
    rw [List.length_take]
    omega⟩

def handleTombstone (replicaWrite : Wire.ReplicaWrite) : State × Wire.ReplicaWriteReply :=
  match boxes.unmarshalBinaryPublicKey replicaWrite.boxID with
  | none => (s, ⟨replicaErrorInvalidBoxID⟩)
  | some verifyKey =>
      if ¬ boxes.verify verifyKey [] replicaWrite.signature then (s, ⟨replicaErrorInvalidSignature⟩)
      else
        match s.handleReplicaTombstone replicaWrite.boxID replicaWrite.signature with
        | (next, .error _) => (next, ⟨replicaErrorDatabaseFailure⟩)
        | (next, .ok ()) => (next, ⟨replicaSuccess⟩)

def handleReplicaWrite (replicaWrite : Wire.ReplicaWrite) : State × Wire.ReplicaWriteReply :=
  if replicaWrite.payloadLen = 0 ∨ replicaWrite.payload.length = 0 then handleTombstone boxes s replicaWrite
  else if (replicaWrite.payload.length : Int) ≠ g.calculateBoxCiphertextLength then (s, ⟨replicaErrorInvalidPayload⟩)
  else
    match boxes.unmarshalBinaryPublicKey replicaWrite.boxID with
    | none => (s, ⟨replicaErrorInvalidBoxID⟩)
    | some verifyKey =>
        if ¬ boxes.verify verifyKey replicaWrite.payload replicaWrite.signature then (s, ⟨replicaErrorInvalidSignature⟩)
        else
          match s.handleReplicaWrite (trunnelReplicaWriteToWireCommand replicaWrite) with
          | (next, .error .boxAlreadyExists) => (next, ⟨replicaErrorBoxAlreadyExists⟩)
          | (next, .error .storageFull) => (next, ⟨replicaErrorStorageFull⟩)
          | (next, .error _) => (next, ⟨replicaErrorDatabaseFailure⟩)
          | (next, .ok ()) => (next, ⟨replicaSuccess⟩)

end Boxes

structure MkemCiphertext (π : Type) where
  ephemeralPublicKey : π
  dekCiphertexts : List (Fixed 60)
  envelope : Bytes

structure Mkem (σ π ρ : Type) where
  publicKey : σ → π
  marshalPublicKey : π → Bytes
  unmarshalBinaryPublicKey : Bytes → Option π
  encapsulate : ρ → List π → Bytes → σ × MkemCiphertext π
  decapsulate : σ → MkemCiphertext π → Option Bytes
  envelopeReply : ρ → σ → π → Bytes → Bytes
  decryptEnvelope : σ → π → Bytes → Option Bytes

structure ReplicaMessage where
  senderEPubKey : Bytes
  dek : Fixed 60
  ciphertext : Bytes
deriving DecidableEq

structure View (σ π : Type) where
  keys : GoMap UInt64 (EnvelopeKey σ π)
  replicaEpoch : UInt64
  doc : Option Document

structure Drawn (ρ : Type) where
  index : UInt64
  encapsulation : ρ
  reply : ρ

inductive ProxyKind where
  | read
  | write
deriving DecidableEq

structure ProxyRequest (σ π : Type) where
  kind : ProxyKind
  mkemPrivateKey : σ
  targetEnvelopeKey : π
  keypair : EnvelopeKey σ π
  originalSenderPubkey : π
  originalEnvelopeHash : Digest
  replicaID : UInt8
deriving DecidableEq

inductive Handling (σ π : Type) where
  | replied (reply : ReplicaMessageReply)
  | asks (idHash : Fixed 32) (request : ReplicaMessage) (pending : ProxyRequest σ π)
  | panicked
deriving DecidableEq

structure Turn (σ π : Type) where
  state : State
  replicated : List ReplicaWrite
  handling : Handling σ π

section Messages

variable {σ π ρ κ : Type} (mkem : Mkem σ π ρ) (boxes : BoxScheme κ) (sum256 : Bytes → Fixed 32) (node : ReplicaNode)

def ReplicaMessage.envelopeHash (msg : ReplicaMessage) : Digest :=
  ⟨(sum256 (msg.senderEPubKey ++ msg.ciphertext)).bytes, (sum256 (msg.senderEPubKey ++ msg.ciphertext)).size⟩

def createReplicaMessageReply (errorCode : UInt8) (envelopeHash : Digest) (envelopeReply : Bytes) (replicaID : UInt8) :
    ReplicaMessageReply := ⟨envelopeHash, replicaID, errorCode, envelopeReply⟩

def getReplicaIDByIdentityKey (idkey : Bytes) (doc : Document) : Except String UInt8 :=
  match doc.storageReplicas.find? (·.identity = idkey) with
  | none => .error "replica not found"
  | some replica => .ok replica.replicaID

def windowEpochs (currentEpoch : UInt64) : List UInt64 :=
  (if currentEpoch < 1 then [] else [currentEpoch - 1]) ++ [currentEpoch, currentEpoch + 1]

def decapsulateFirst (keys : GoMap UInt64 (EnvelopeKey σ π)) (ct : MkemCiphertext π) :
    List UInt64 → Option (Bytes × EnvelopeKey σ π × UInt64)
  | [] => none
  | epoch :: later =>
      match getKeypair keys epoch with
      | .error _ => decapsulateFirst keys ct later
      | .ok keypair =>
          match mkem.decapsulate keypair.privateKey ct with
          | none => decapsulateFirst keys ct later
          | some plaintext => some (plaintext, keypair, epoch)

def tryDecapsulateAcrossEpochWindow (keys : GoMap UInt64 (EnvelopeKey σ π)) (ct : MkemCiphertext π) (currentEpoch : UInt64) :
    Option (Bytes × EnvelopeKey σ π × UInt64) := decapsulateFirst mkem keys ct (windowEpochs currentEpoch)

structure OpenedRequest (σ π : Type) where
  senderpubkey : π
  keypair : EnvelopeKey σ π
  msg : Wire.ReplicaInnerMessage
  doc : Document
  replicaID : UInt8

def openRequest (view : View σ π) (replicaMessage : ReplicaMessage) : Except UInt8 (OpenedRequest σ π) :=
  match mkem.unmarshalBinaryPublicKey replicaMessage.senderEPubKey with
  | none => .error replicaErrorInternalError
  | some ephemeralPublicKey =>
      match tryDecapsulateAcrossEpochWindow mkem view.keys ⟨ephemeralPublicKey, [replicaMessage.dek], replicaMessage.ciphertext⟩
          view.replicaEpoch with
      | none => .error replicaErrorInvalidEpoch
      | some (requestRaw, keypair, _) =>
          match Wire.parseReplicaInnerMessage requestRaw with
          | .error _ => .error replicaErrorInvalidPayload
          | .ok msg =>
              match view.doc with
              | none => .error replicaErrorInvalidEpoch
              | some doc =>
                  match getReplicaIDByIdentityKey node.identityKey doc with
                  | .error _ => .error replicaErrorInternalError
                  | .ok replicaID => .ok ⟨ephemeralPublicKey, keypair, msg, doc, replicaID⟩

def encryptReply (draw : ρ) (privateKey : σ) (sender : π) (reply : Wire.ReplicaMessageReplyInnerMessage) (errorCode : UInt8)
    (envelopeHash : Digest) (replicaID : UInt8) : ReplicaMessageReply :=
  match Wire.padReplyInnerMessageForEncryption reply node.geometry with
  | .error _ => createReplicaMessageReply replicaErrorInternalError envelopeHash [] replicaID
  | .ok blob => createReplicaMessageReply errorCode envelopeHash (mkem.envelopeReply draw privateKey sender blob) replicaID

def required {α : Type} (message : String) : Option α → Except (Stop String) α
  | none => .error (.fails message)
  | some a => .ok a

def indexed {α : Type} : Option α → Except (Stop String) α
  | none => .error .outOfRange
  | some a => .ok a

-- What the two proxy functions do before they wait. There are one or two shards, and
-- CryptoRandIndex rejects no draw for them.
def prepareProxy (later : View σ π) (draws : Drawn ρ) (kind : ProxyKind) (innerMessage : Wire.ReplicaInnerMessage) (boxID : Fixed 32)
    (originalSenderPubkey : π) (originalEnvelopeHash : Digest) :
    Except (Stop String) (Fixed 32 × ReplicaMessage × ProxyRequest σ π) := do
  let doc ← required "no PKI document available" later.doc
  let replicaID ← required "failed to get replica ID" (getReplicaIDByIdentityKey node.identityKey doc).toOption
  let shards ← required "failed to get shards" (getShards sum256 boxID doc).toOption
  let (idx, _) ← cryptoRandIndex (fun _ => draws.index) shards.length 1 0
  let targetShard ← indexed shards[idx]?
  let keypair ← required "failed to get keypair" (getKeypair later.keys later.replicaEpoch).toOption
  let targetEnvelopeKeyBytes ← required "no envelope key found for target replica" (targetShard.envelopeKeys.getD ∅)[later.replicaEpoch]?
  let targetEnvelopeKey ← required "failed to unmarshal target envelope key" (mkem.unmarshalBinaryPublicKey targetEnvelopeKeyBytes)
  let (mkemPrivateKey, envelope) := mkem.encapsulate draws.encapsulation [targetEnvelopeKey] innerMessage.bytes
  let dek ← indexed envelope.dekCiphertexts[0]?
  return (sum256 targetShard.identity, ⟨mkem.marshalPublicKey envelope.ephemeralPublicKey, dek, envelope.envelope⟩,
    ⟨kind, mkemPrivateKey, targetEnvelopeKey, keypair, originalSenderPubkey, originalEnvelopeHash, replicaID⟩)

def proxyRequest (later : View σ π) (draws : Drawn ρ) (kind : ProxyKind) (innerMessage : Wire.ReplicaInnerMessage) (boxID : Fixed 32)
    (originalSenderPubkey : π) (originalEnvelopeHash : Digest) : Handling σ π :=
  match prepareProxy mkem sum256 node later draws kind innerMessage boxID originalSenderPubkey originalEnvelopeHash with
  | .ok (idHash, request, pending) => .asks idHash request pending
  | .error (.fails _) => .replied (createReplicaMessageReply replicaErrorInternalError originalEnvelopeHash [] 0)
  | .error _ => .panicked

def proxyReadRequest (later : View σ π) (draws : Drawn ρ) (replicaRead : Wire.ReplicaRead) (originalSenderPubkey : π)
    (originalEnvelopeHash : Digest) : Handling σ π :=
  proxyRequest mkem sum256 node later draws .read ⟨0, some replicaRead, none⟩ replicaRead.boxID originalSenderPubkey
    originalEnvelopeHash

def proxyWriteRequest (later : View σ π) (draws : Drawn ρ) (replicaWrite : Wire.ReplicaWrite) (originalSenderPubkey : π)
    (originalEnvelopeHash : Digest) : Handling σ π :=
  proxyRequest mkem sum256 node later draws .write ⟨1, none, some replicaWrite⟩ replicaWrite.boxID originalSenderPubkey
    originalEnvelopeHash

def ProxyKind.takes (kind : ProxyKind) (reply : Wire.ReplicaMessageReplyInnerMessage) :
    Option (Wire.ReplicaMessageReplyInnerMessage × UInt8) :=
  match kind with
  | .read => reply.readReply.map fun readReply => (⟨0, some readReply, none⟩, readReply.errorCode)
  | .write => reply.writeReply.map fun writeReply => (⟨1, none, some writeReply⟩, writeReply.errorCode)

def finishProxy (draw : ρ) (pending : ProxyRequest σ π) : Option ReplicaMessageReply → ReplicaMessageReply
  | none => createReplicaMessageReply replicaErrorReplicationFailed pending.originalEnvelopeHash [] pending.replicaID
  | some reply =>
      let failed := createReplicaMessageReply replicaErrorInternalError pending.originalEnvelopeHash [] pending.replicaID
      if 0 < reply.envelopeReply.length then
        match mkem.decryptEnvelope pending.mkemPrivateKey pending.targetEnvelopeKey reply.envelopeReply with
        | none => failed
        | some decryptedReply =>
            match Wire.parseReplicaMessageReplyInnerMessage decryptedReply with
            | .error _ => failed
            | .ok replyInnerMessage =>
                match pending.kind.takes replyInnerMessage with
                | none => failed
                | some (newReplyInnerMessage, errorCode) =>
                    encryptReply mkem node draw pending.keypair.privateKey pending.originalSenderPubkey newReplyInnerMessage errorCode
                      pending.originalEnvelopeHash pending.replicaID
      else createReplicaMessageReply reply.errorCode pending.originalEnvelopeHash [] pending.replicaID

def ReplicaNode.isShard (shards : List ReplicaDescriptor) : Bool := shards.any fun shard => shard.identity = node.identityKey

-- The document and the keys may be others by the time that a proxy function reads them.
def handleReplicaMessage (s : State) (view later : View σ π) (draws : Drawn ρ) (replicaMessage : ReplicaMessage) : Turn σ π :=
  let envelopeHash := replicaMessage.envelopeHash sum256
  let failed (code : UInt8) : Turn σ π := ⟨s, [], .replied (createReplicaMessageReply code envelopeHash [] 0)⟩
  match openRequest mkem node view replicaMessage with
  | .error code => failed code
  | .ok request =>
      match request.msg.readMsg, request.msg.writeMsg with
      | some myCmd, _ =>
          match getShards sum256 myCmd.boxID request.doc with
          | .error _ => failed replicaErrorInternalError
          | .ok shards =>
              if shards.length = 0 then failed replicaErrorInternalError
              else if node.isShard shards then
                match handleReplicaRead s myCmd with
                | none => ⟨s, [], .panicked⟩
                | some readReply =>
                    ⟨s, [], .replied (encryptReply mkem node draws.reply request.keypair.privateKey request.senderpubkey
                      ⟨0, some readReply, none⟩ readReply.errorCode envelopeHash request.replicaID)⟩
              else ⟨s, [], proxyReadRequest mkem sum256 node later draws myCmd request.senderpubkey envelopeHash⟩
      | none, some myCmd =>
          match getShards sum256 myCmd.boxID request.doc with
          | .error _ => failed replicaErrorInternalError
          | .ok shards =>
              if node.isShard shards then
                let (next, writeReply) := handleReplicaWrite boxes node.geometry s myCmd
                ⟨next, if writeReply.errorCode = replicaSuccess then [trunnelReplicaWriteToWireCommand myCmd] else [],
                  .replied (encryptReply mkem node draws.reply request.keypair.privateKey request.senderpubkey
                    ⟨1, none, some writeReply⟩ writeReply.errorCode envelopeHash request.replicaID)⟩
              else ⟨s, [], proxyWriteRequest mkem sum256 node later draws myCmd request.senderpubkey envelopeHash⟩
      | none, none => failed replicaErrorInternalError

end Messages

section Handles

variable {σ π ρ κ : Type} (mkem : Mkem σ π ρ) (boxes : BoxScheme κ) (sum256 : Bytes → Fixed 32) (node : ReplicaNode)
variable (s : State) (view later : View σ π) (draws : Drawn ρ) (msg : ReplicaMessage)

inductive Handles : Turn σ π → Prop where
  | fails (code : UInt8) : Handles ⟨s, [], .replied (createReplicaMessageReply code (msg.envelopeHash sum256) [] 0)⟩
  | reads (request : OpenedRequest σ π) (shards : List ReplicaDescriptor) (read : Wire.ReplicaRead) (readReply : Wire.ReplicaReadReply)
      (opened : openRequest mkem node view msg = .ok request) (command : request.msg.readMsg = some read)
      (sharded : getShards sum256 read.boxID request.doc = .ok shards) (mine : node.isShard shards = true)
      (answer : handleReplicaRead s read = some readReply) :
      Handles ⟨s, [], .replied (encryptReply mkem node draws.reply request.keypair.privateKey request.senderpubkey
        ⟨0, some readReply, none⟩ readReply.errorCode (msg.envelopeHash sum256) request.replicaID)⟩
  | asksRead (request : OpenedRequest σ π) (shards : List ReplicaDescriptor) (read : Wire.ReplicaRead)
      (opened : openRequest mkem node view msg = .ok request) (command : request.msg.readMsg = some read)
      (sharded : getShards sum256 read.boxID request.doc = .ok shards) (foreign : node.isShard shards = false) :
      Handles ⟨s, [], proxyReadRequest mkem sum256 node later draws read request.senderpubkey (msg.envelopeHash sum256)⟩
  | writes (request : OpenedRequest σ π) (shards : List ReplicaDescriptor) (write : Wire.ReplicaWrite)
      (opened : openRequest mkem node view msg = .ok request) (other : request.msg.readMsg = none)
      (command : request.msg.writeMsg = some write) (sharded : getShards sum256 write.boxID request.doc = .ok shards)
      (mine : node.isShard shards = true) :
      Handles ⟨(handleReplicaWrite boxes node.geometry s write).1,
        if (handleReplicaWrite boxes node.geometry s write).2.errorCode = replicaSuccess then
          [trunnelReplicaWriteToWireCommand write] else [],
        .replied (encryptReply mkem node draws.reply request.keypair.privateKey request.senderpubkey
          ⟨1, none, some (handleReplicaWrite boxes node.geometry s write).2⟩ (handleReplicaWrite boxes node.geometry s write).2.errorCode
          (msg.envelopeHash sum256) request.replicaID)⟩
  | asksWrite (request : OpenedRequest σ π) (shards : List ReplicaDescriptor) (write : Wire.ReplicaWrite)
      (opened : openRequest mkem node view msg = .ok request) (other : request.msg.readMsg = none)
      (command : request.msg.writeMsg = some write) (sharded : getShards sum256 write.boxID request.doc = .ok shards)
      (foreign : node.isShard shards = false) :
      Handles ⟨s, [], proxyWriteRequest mkem sum256 node later draws write request.senderpubkey (msg.envelopeHash sum256)⟩

theorem read_errors (boxID : Fixed 32) (err : StateError) (failed : s.stateHandleReplicaRead boxID = .error err) :
    err = .boxIDNotFound ∨ err = .failedToDeserialize ∨ err = .dbClosed := by
  have kept (db : Database) (epochs : List UInt64) (failed : readKept db boxID epochs = .error err) :
      err = .boxIDNotFound ∨ err = .failedToDeserialize := by
    induction epochs with
    | nil =>
        cases failed
        exact .inl rfl
    | cons ep older ih =>
        rw [readKept] at failed
        split at failed
        · exact ih failed
        · split at failed
          · cases failed
            exact .inr rfl
          · cases failed
  rw [State.stateHandleReplicaRead] at failed
  split at failed
  · cases failed
    exact .inr (.inr rfl)
  · exact (kept _ _ failed).imp id .inl

theorem handle_read_replies (read : Wire.ReplicaRead) : ∃ reply, handleReplicaRead s read = some reply := by
  rw [handleReplicaRead]
  cases result : s.stateHandleReplicaRead read.boxID with
  | ok resp =>
      dsimp only
      split
      · exact ⟨_, rfl⟩
      · exact ⟨_, rfl⟩
  | error err =>
      obtain rfl | rfl | rfl := read_errors s read.boxID err result
      · exact ⟨_, rfl⟩
      · exact ⟨_, rfl⟩
      · exact ⟨_, rfl⟩

theorem message_handles :
    Handles mkem boxes sum256 node s view later draws msg (handleReplicaMessage mkem boxes sum256 node s view later draws msg) := by
  rw [handleReplicaMessage]
  cases opened : openRequest mkem node view msg with
  | error code => exact .fails code
  | ok request =>
      dsimp only
      cases command : request.msg.readMsg with
      | some read =>
          dsimp only
          cases sharded : getShards sum256 read.boxID request.doc with
          | error err => exact .fails _
          | ok shards =>
              dsimp only
              split
              · exact .fails _
              · cases mine : node.isShard shards with
                | true =>
                    obtain ⟨readReply, answer⟩ := handle_read_replies s read
                    rw [if_pos rfl, answer]
                    exact .reads request shards read readReply opened command sharded mine answer
                | false =>
                    rw [if_neg Bool.false_ne_true]
                    exact .asksRead request shards read opened command sharded mine
      | none =>
          cases other : request.msg.writeMsg with
          | none => exact .fails _
          | some write =>
              dsimp only
              cases sharded : getShards sum256 write.boxID request.doc with
              | error err => exact .fails _
              | ok shards =>
                  dsimp only
                  cases mine : node.isShard shards with
                  | true =>
                      rw [if_pos rfl]
                      exact .writes request shards write opened command other sharded mine
                  | false =>
                      rw [if_neg Bool.false_ne_true]
                      exact .asksWrite request shards write opened command other sharded mine

end Handles

section Vouched

variable {κ : Type} (boxes : BoxScheme κ) (g : Wire.Geometry)

structure Vouched (box : Box) : Prop where
  signed : ∃ key, boxes.unmarshalBinaryPublicKey box.boxID = some key ∧ boxes.verify key box.payload box.signature = true
  sized : box.payload = [] ∨ (box.payload.length : Int) = g.calculateBoxCiphertextLength

structure VouchedState (s : State) : Prop where
  sound : Sound s
  vouched : ∀ ep boxID box, s.record ep boxID = some box → Vouched boxes g box

variable {boxes g} {s : State}

theorem put_vouched (state : VouchedState boxes g s) (box : Box) (valid : box.valid = true) (vouched : Vouched boxes g box) :
    VouchedState boxes g (s.put (s.db.getD ∅) box) := by
  refine ⟨put_sound state.sound box valid, fun ep boxID found record => ?_⟩
  rw [put_record state.sound box valid] at record
  split at record
  · cases record
    exact vouched
  · exact state.vouched ep boxID found record

theorem tombstone_vouched (state : VouchedState boxes g s) (write : Wire.ReplicaWrite) :
    VouchedState boxes g (handleTombstone boxes s write).1 := by
  rw [handleTombstone]
  cases key : boxes.unmarshalBinaryPublicKey write.boxID with
  | none => exact state
  | some verifyKey =>
      dsimp only
      split
      · exact state
      · rename_i signed
        rw [tombstone_put state.sound]
        exact put_vouched state _ rfl ⟨⟨verifyKey, key, Decidable.not_not.mp signed⟩, .inl rfl⟩

theorem wire_command_payload (write : Wire.ReplicaWrite) (short : write.payload.length < 2 ^ 32) :
    (trunnelReplicaWriteToWireCommand write).payload = write.payload := List.take_of_length_le (by omega)

theorem handle_write_vouched (state : VouchedState boxes g s) (write : Wire.ReplicaWrite) (short : write.payload.length < 2 ^ 32) :
    VouchedState boxes g (handleReplicaWrite boxes g s write).1 := by
  rw [handleReplicaWrite]
  split
  · exact tombstone_vouched state write
  · split
    · exact state
    · rename_i sized
      cases key : boxes.unmarshalBinaryPublicKey write.boxID with
      | none => exact state
      | some verifyKey =>
          dsimp only
          split
          · exact state
          · rename_i signed
            have stored : VouchedState boxes g (s.handleReplicaWrite (trunnelReplicaWriteToWireCommand write)).1 := by
              cases found : s.newest write.boxID with
              | some box => rwa [write_kept state.sound (trunnelReplicaWriteToWireCommand write) box found]
              | none =>
                  rw [write_missing state.sound (trunnelReplicaWriteToWireCommand write) found]
                  split
                  · exact state
                  · refine put_vouched state _ (write_box_valid _) ⟨⟨verifyKey, key, ?_⟩, .inr ?_⟩
                    · rw [ReplicaWrite.box, wire_command_payload write short]
                      exact Decidable.not_not.mp signed
                    · rw [ReplicaWrite.box, wire_command_payload write short]
                      exact Decidable.not_not.mp sized
            cases result : s.handleReplicaWrite (trunnelReplicaWriteToWireCommand write) with
            | mk next outcome =>
                rw [result] at stored
                cases outcome with
                | ok => exact stored
                | error err => cases err <;> exact stored

theorem wiped_record (sound : Sound s) (ep : UInt64) (boxID : Fixed 32) (box : Box)
    (record : s.wipeStaleBoxes.1.record ep boxID = some box) : s.record ep boxID = some box := by
  obtain ⟨db, opened⟩ := Option.isSome_iff_exists.mp sound.opened
  rw [State.wipeStaleBoxes, opened] at record
  dsimp only at record
  split at record
  · exact record
  · simp only [State.record, opened, get, lookup_delete_range] at record ⊢
    split at record
    · cases record
    · exact record

theorem wipe_vouched (state : VouchedState boxes g s) : VouchedState boxes g s.wipeStaleBoxes.1 :=
  ⟨wipe_sound state.sound, fun ep boxID box record => state.vouched ep boxID box (wiped_record state.sound ep boxID box record)⟩

theorem advance_vouched (state : VouchedState boxes g s) (epoch : UInt64) (forward : s.epoch ≤ epoch) :
    VouchedState boxes g { s with epoch := epoch } := ⟨advance_sound state.sound epoch forward, state.vouched⟩

end Vouched

inductive ServerEvent (σ π ρ : Type) where
  | replicaWrite (write : ReplicaWrite)
  | replicaMessage (view later : View σ π) (draws : Drawn ρ) (msg : ReplicaMessage)
  | wipeStaleBoxes
  | advance (epoch : UInt64)
  | watch (full : Bool)

section Server

variable {σ π ρ κ : Type} (mkem : Mkem σ π ρ) (boxes : BoxScheme κ) (sum256 : Bytes → Fixed 32) (node : ReplicaNode)

def serverStep (s : State) : ServerEvent σ π ρ → Option State
  | .replicaWrite write => some (handleReplicaWrite boxes node.geometry s (wireCommandToTrunnelReplicaWrite write)).1
  | .replicaMessage view later draws msg => some (handleReplicaMessage mkem boxes sum256 node s view later draws msg).state
  | .wipeStaleBoxes => s.step .wipeStaleBoxes
  | .advance epoch => s.step (.advance epoch)
  | .watch full => s.step (.watch full)

variable {mkem boxes sum256 node}

theorem opened_well_formed {view : View σ π} {msg : ReplicaMessage} {request : OpenedRequest σ π}
    (opened : openRequest mkem node view msg = .ok request) : request.msg.WellFormed := by
  rw [openRequest] at opened
  split at opened
  · cases opened
  · split at opened
    · cases opened
    · split at opened
      · cases opened
      · rename_i inner parsed
        split at opened
        · cases opened
        · split at opened
          · cases opened
          · cases opened
            exact ((Wire.parse_inner_message_iff _ _).mp parsed).1

theorem well_formed_write_short (msg : Wire.ReplicaInnerMessage) (write : Wire.ReplicaWrite) (wellFormed : msg.WellFormed)
    (command : msg.writeMsg = some write) : write.payload.length < 2 ^ 32 := by
  obtain ⟨selects, valid⟩ := wellFormed
  rcases selects with ⟨_, _, absent⟩ | ⟨tag, _, _⟩
  · rw [absent] at command
    cases command
  · have other : (1 : UInt8) ≠ 0 := by decide
    rw [Wire.ReplicaInnerMessage.validate, command, tag, Wire.unionValidate] at valid
    simp only [if_neg other, Option.map_some, Option.getD_some] at valid
    rw [Wire.of_length_valid _ _ valid]
    exact write.payloadLen.toNat_lt

theorem server_step_vouched (s next : State) (event : ServerEvent σ π ρ) (state : VouchedState boxes node.geometry s)
    (taken : serverStep mkem boxes sum256 node s event = some next) : VouchedState boxes node.geometry next := by
  cases event with
  | replicaWrite write =>
      cases taken
      exact handle_write_vouched state _ write.small
  | replicaMessage view later draws msg =>
      cases taken
      have handles := message_handles mkem boxes sum256 node s view later draws msg
      generalize handleReplicaMessage mkem boxes sum256 node s view later draws msg = turn at handles
      cases handles with
      | writes request shards write opened other command sharded mine =>
          exact handle_write_vouched state write (well_formed_write_short request.msg write (opened_well_formed opened) command)
      | fails | reads | asksRead | asksWrite => exact state
  | wipeStaleBoxes =>
      cases taken
      exact wipe_vouched state
  | advance epoch =>
      rw [serverStep, State.step] at taken
      split at taken
      · rename_i forward
        cases taken
        exact advance_vouched state epoch forward
      · cases taken
  | watch full =>
      cases taken
      exact ⟨⟨state.sound.opened, state.sound.records⟩, state.vouched⟩

theorem new_state_vouched (epoch : UInt64) : VouchedState boxes node.geometry (newState epoch) := by
  refine ⟨new_state_sound epoch, fun ep boxID box record => ?_⟩
  simp only [State.record, newState, get, Std.ExtTreeMap.getElem?_empty, Option.getD_none] at record
  cases record

def readBox (reply : Wire.ReplicaReadReply) : Box := ⟨reply.boxID, reply.payloadLen, reply.payload, reply.signature⟩

theorem handle_read_vouched {s : State} (state : VouchedState boxes node.geometry s) (read : Wire.ReplicaRead) :
    ∃ reply, handleReplicaRead s read = some reply ∧ reply.boxID = read.boxID ∧
      ((reply.errorCode = replicaErrorBoxIDNotFound ∧ s.newest read.boxID = none) ∨
        (reply.errorCode = (if reply.payload = [] then replicaErrorTombstone else replicaSuccess) ∧
          s.newest read.boxID = some (readBox reply) ∧ Vouched boxes node.geometry (readBox reply))) := by
  have newest := read_newest state.sound read.boxID
  cases found : s.newest read.boxID with
  | none =>
      rw [found] at newest
      exact ⟨⟨replicaErrorBoxIDNotFound, read.boxID, zeroSignature, 0, []⟩, by rw [handleReplicaRead, newest], rfl, .inl ⟨rfl, rfl⟩⟩
  | some box =>
      rw [found] at newest
      obtain ⟨ep, _, record⟩ := List.exists_of_findSome?_eq_some found
      obtain ⟨db, opened⟩ := Option.isSome_iff_exists.mp state.sound.opened
      have vouched := state.vouched ep read.boxID box record
      obtain ⟨_, missing⟩ | ⟨box', _, record', same, valid, _⟩ := get_cases state.sound db opened ep read.boxID
      · rw [record] at missing
        cases missing
      · cases record.symm.trans record'
        rw [Box.valid, decide_eq_true_eq] at valid
        by_cases empty : box.payload = []
        · have zero : box.payloadLen = 0 := by
            rw [empty] at valid
            exact UInt32.toNat_inj.mp valid.symm
          have shown : readBox ⟨replicaErrorTombstone, box.boxID, box.signature, 0, []⟩ = box := by
            rw [readBox, ← zero, ← empty]
          refine ⟨⟨replicaErrorTombstone, box.boxID, box.signature, 0, []⟩, ?_, same, .inr ⟨rfl, by rw [shown], by rwa [shown]⟩⟩
          rw [handleReplicaRead, newest]
          simp only [empty, List.length_nil, if_true]
        · have length : UInt32.ofNat box.payload.length = box.payloadLen := by
            rw [valid, UInt32.ofNat_toNat]
          have shown : readBox ⟨replicaSuccess, box.boxID, box.signature, UInt32.ofNat box.payload.length, box.payload⟩ = box := by
            rw [readBox, length]
          refine ⟨⟨replicaSuccess, box.boxID, box.signature, UInt32.ofNat box.payload.length, box.payload⟩, ?_, same,
            .inr ⟨(if_neg empty).symm, by rw [shown], by rwa [shown]⟩⟩
          rw [handleReplicaRead, newest]
          simp only [List.length_eq_zero_iff, if_neg empty]

/-- Whatever its peers send, a replica stores only boxes that their own keys signed, and every
read of it is answered with the newest of them or with no box at all. -/
theorem stored_boxes_signed (epoch : UInt64) (events : List (ServerEvent σ π ρ)) (s : State)
    (reached : run (serverStep mkem boxes sum256 node) (newState epoch) events = some s) :
    (∀ ep boxID box, s.record ep boxID = some box → Vouched boxes node.geometry box) ∧
      ∀ read, ∃ reply, handleReplicaRead s read = some reply ∧ reply.boxID = read.boxID ∧
        ((reply.errorCode = replicaErrorBoxIDNotFound ∧ s.newest read.boxID = none) ∨
          (reply.errorCode = (if reply.payload = [] then replicaErrorTombstone else replicaSuccess) ∧
            s.newest read.boxID = some (readBox reply) ∧ Vouched boxes node.geometry (readBox reply))) := by
  have state : VouchedState boxes node.geometry s :=
    run_preserves _ (VouchedState boxes node.geometry) (fun _ _ => True)
      (fun state event next vouched _ taken => server_step_vouched state next event vouched taken) events _ s
      (new_state_vouched epoch) (meets_always _ _ (fun _ _ => trivial) _ _) reached
  exact ⟨state.vouched, handle_read_vouched state⟩

end Server

section Sample

def byteNode (identityKey : Bytes) : ReplicaNode where
  suite := Wire.chachaSuite
  sphinxGeo := geometryFromUserForwardPayloadLength (.nike 32) 320 true 5
  nike := Wire.x25519Scheme
  geometry := Wire.byteGeometry
  derived := by decide +kernel
  identityKey := identityKey

def byteBoxes : BoxScheme Unit := ⟨fun _ => some (), fun _ payload signature => signature.bytes.head? = some (payload.headD 0)⟩

def byteBox (first signed : UInt8) : ReplicaWrite :=
  ⟨zeroBoxID, ⟨List.replicate 64 signed, List.length_replicate⟩, List.replicate 21 first, by simp⟩

def byteDek (key : UInt8) : Fixed 60 := ⟨List.replicate 60 key, List.length_replicate⟩

def byteMkem : Mkem UInt8 UInt8 UInt8 where
  publicKey key := key
  marshalPublicKey key := [key]
  unmarshalBinaryPublicKey := List.head?
  encapsulate draw keys message := (draw, ⟨draw, keys.map byteDek, message⟩)
  decapsulate key ct := if ct.dekCiphertexts.map Fixed.bytes = [List.replicate 60 key] then some ct.envelope else none
  envelopeReply _ key peer message := key :: peer :: message
  decryptEnvelope key peer envelope :=
    match envelope with
    | sender :: receiver :: message => if sender = peer ∧ receiver = key then some message else none
    | _ => none

theorem signed_box_stored :
    ∃ s, run (serverStep byteMkem byteBoxes frontHash (byteNode [1])) (newState 5)
        [.replicaWrite (byteBox 7 8), .replicaWrite (byteBox 7 7), .replicaWrite (byteBox 9 9)] = some s ∧
      s.newest zeroBoxID = some (byteBox 7 7).box ∧
      ∀ ep boxID box, s.record ep boxID = some box → Vouched byteBoxes (byteNode [1]).geometry box := by
  have newest : (run (serverStep byteMkem byteBoxes frontHash (byteNode [1])) (newState 5)
      [.replicaWrite (byteBox 7 8), .replicaWrite (byteBox 7 7), .replicaWrite (byteBox 9 9)]).map
      (fun s => s.newest zeroBoxID) = some (some (byteBox 7 7).box) := by decide +kernel
  obtain ⟨s, reached, stored⟩ := Option.map_eq_some_iff.mp newest
  exact ⟨s, reached, stored, (stored_boxes_signed 5 _ s reached).1⟩

end Sample

end Katzenpost.Replica
