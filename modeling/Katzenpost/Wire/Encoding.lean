import Katzenpost.Go.ByteField
import Katzenpost.Wire.Decoding

set_option autoImplicit false

namespace Katzenpost

open Go

def CommandID.byte : CommandID → UInt8
  | .noOp => 0
  | .disconnect => 1
  | .sendPacket => 2
  | .sendRetrievePacket => 3
  | .sendRetrievePacketReply => 4
  | .replicaMessage => 8
  | .replicaMessageReply => 9
  | .postReplicaDescriptorStatus => 10
  | .postReplicaDescriptor => 11
  | .replicaWrite => 12
  | .replicaWriteReply => 13
  | .retreiveMessage => 16
  | .message => 17
  | .getConsensus => 18
  | .consensus => 19
  | .postDescriptor => 20
  | .postDescriptorStatus => 21
  | .vote => 22
  | .voteStatus => 23
  | .getVote => 24
  | .reveal => 25
  | .revealStatus => 26
  | .sig => 27
  | .sigStatus => 28
  | .certificate => 29
  | .certStatus => 30
  | .consensus2 => 31
  | .getConsensus2 => 32
  | .replicaDecoy => 33

theorem command_id_of_byte (id : CommandID) : CommandID.ofByte id.byte = some id := by
  cases id <;> rfl

theorem command_byte_of_id (byte : UInt8) (id : CommandID) (known : CommandID.ofByte byte = some id) : id.byte = byte := by
  unfold CommandID.ofByte at known
  split at known
  all_goals
    first
      | cases known
        rename_i value
        exact UInt8.toNat_inj.mp value.symm
      | exact nomatch known

def WireCommand.commandID : WireCommand → CommandID
  | .noOp => .noOp
  | .disconnect => .disconnect
  | .replicaDecoy => .replicaDecoy
  | .sendPacket _ => .sendPacket
  | .sendRetrievePacket _ => .sendRetrievePacket
  | .sendRetrievePacketReply _ _ => .sendRetrievePacketReply
  | .retrieveMessage _ => .retreiveMessage
  | .messageACK _ _ _ _ => .message
  | .message _ _ _ => .message
  | .messageEmpty _ => .message
  | .getConsensus _ => .getConsensus
  | .getConsensus2 _ => .getConsensus2
  | .consensus _ _ => .consensus
  | .consensus2 _ _ _ _ => .consensus2
  | .postDescriptor _ _ => .postDescriptor
  | .postReplicaDescriptor _ _ => .postReplicaDescriptor
  | .postDescriptorStatus _ => .postDescriptorStatus
  | .postReplicaDescriptorStatus _ => .postReplicaDescriptorStatus
  | .voteStatus _ => .voteStatus
  | .revealStatus _ => .revealStatus
  | .sigStatus _ => .sigStatus
  | .certStatus _ => .certStatus
  | .replicaWriteReply _ => .replicaWriteReply
  | .getVote _ _ => .getVote
  | .vote _ _ _ => .vote
  | .cert _ _ _ => .certificate
  | .reveal _ _ _ => .reveal
  | .sig _ _ _ => .sig
  | .replicaWrite _ _ _ => .replicaWrite
  | .replicaMessage _ _ _ => .replicaMessage
  | .replicaMessageReply _ _ _ _ => .replicaMessageReply

section Layouts

def messageHeader : ByteField (UInt8 × UInt8 × UInt32) := ByteField.byte.pair (ByteField.byte.pair ByteField.word32)

def consensus2Header : ByteField (UInt8 × UInt32 × UInt32) := ByteField.byte.pair (ByteField.word32.pair ByteField.word32)

def replicaWriteHeader : ByteField (Fixed 32 × Fixed 64) := (ByteField.array 32).pair (ByteField.array 64)

def replicaReplyHeader : ByteField (UInt8 × Fixed 32 × UInt8) := ByteField.byte.pair ((ByteField.array 32).pair ByteField.byte)

def signedHeader (scheme : SignScheme) : ByteField (UInt64 × Fixed scheme.publicKeySize) :=
  ByteField.word64.pair (ByteField.array scheme.publicKeySize)

def replicaMessageHeader (scheme : ReplicaNike) : ByteField (Fixed scheme.publicKeySize × Fixed scheme.dekSize) :=
  (ByteField.array scheme.publicKeySize).pair (ByteField.array scheme.dekSize)

end Layouts

def messageEmptyPaddingLength (g : Geometry) : Nat := surbIDLength + g.payloadTagLength + g.forwardPayloadLength

def Commands.body (c : Commands) : WireCommand → Option Bytes
  | .noOp => some []
  | .disconnect => some []
  | .replicaDecoy => some []
  | .sendPacket sphinxPacket => some sphinxPacket
  | .sendRetrievePacket sphinxPacket => some sphinxPacket
  | .sendRetrievePacketReply surbID payload => some (surbID.bytes ++ payload)
  | .retrieveMessage sequence => some (putUint32BE sequence)
  | .messageACK hint sequence id payload => c.geo.map fun _ => messageHeader.put (1, hint, sequence) ++ (id.bytes ++ payload)
  | .message hint sequence payload =>
      c.geo.map fun g => messageHeader.put (0, hint, sequence) ++ (payload ++ zeros (messageMsgPaddingLength g))
  | .messageEmpty sequence => c.geo.map fun g => messageHeader.put (2, 0, sequence) ++ zeros (messageEmptyPaddingLength g)
  | .getConsensus epoch => some (putUint64BE epoch)
  | .getConsensus2 epoch => some (putUint64BE epoch)
  | .consensus errorCode payload => some ([errorCode] ++ payload)
  | .consensus2 errorCode chunkNum chunkTotal payload => some (consensus2Header.put (errorCode, chunkNum, chunkTotal) ++ payload)
  | .postDescriptor epoch payload => some (putUint64BE epoch ++ payload)
  | .postReplicaDescriptor epoch payload => some (putUint64BE epoch ++ payload)
  | .postDescriptorStatus errorCode => some [errorCode]
  | .postReplicaDescriptorStatus errorCode => some [errorCode]
  | .voteStatus errorCode => some [errorCode]
  | .revealStatus errorCode => some [errorCode]
  | .sigStatus errorCode => some [errorCode]
  | .certStatus errorCode => some [errorCode]
  | .replicaWriteReply errorCode => some [errorCode]
  | .getVote epoch publicKey => some (putUint64BE epoch ++ publicKey.raw)
  | .vote epoch publicKey payload => some ((putUint64BE epoch ++ publicKey.raw) ++ payload)
  | .cert epoch publicKey payload => some ((putUint64BE epoch ++ publicKey.raw) ++ payload)
  | .reveal epoch publicKey payload => some ((putUint64BE epoch ++ publicKey.raw) ++ payload)
  | .sig epoch publicKey payload => some ((putUint64BE epoch ++ publicKey.raw) ++ payload)
  | .replicaWrite boxID signature payload => some (replicaWriteHeader.put (boxID, signature) ++ payload)
  | .replicaMessage senderEPubKey dek ciphertext => some ((senderEPubKey ++ dek) ++ ciphertext)
  | .replicaMessageReply errorCode envelopeHash replicaID envelopeReply =>
      some (replicaReplyHeader.put (errorCode, envelopeHash, replicaID) ++ envelopeReply)

def commandHeader (id : CommandID) (cmdLen : UInt32) : Bytes := [id.byte, 0] ++ putUint32BE cmdLen

def Commands.unpadded (c : Commands) (cmd : WireCommand) : Option Bytes :=
  (c.body cmd).map fun body => commandHeader cmd.commandID (UInt32.ofNat body.length) ++ body

section Parsers

variable (b : Slice)

theorem status_reads (e : WireError) (command : UInt8 → WireCommand) :
    statusFromBytes e command b = decodeWhole ByteField.byte e (fun errorCode => .returns (command errorCode)) b.bytes := by
  apply decodes_whole
  · exact fun wrong => if_pos wrong
  · intro sized
    have one : b.len = 1 := sized
    refine (if_neg (not_not.mpr sized)).trans ?_
    rw [index_inside b 0 (by omega), Reading.returned_bind, slice_getD b 0 (by omega)]
    rfl

theorem retreive_message_reads : retreiveMessageFromBytes b =
    decodeWhole ByteField.word32 .invalidCommand (fun sequence => .returns (.retrieveMessage sequence)) b.bytes := by
  apply decodes_whole
  · exact fun wrong => if_pos wrong
  · intro sized
    obtain ⟨sequence, read, value⟩ := @span_field WireError b _ ByteField.word32 0 4 rfl (Nat.le_of_eq sized.symm)
    refine (if_neg (not_not.mpr sized)).trans ?_
    rw [read, Reading.returned_bind]
    exact congrArg (Reading.returns ∘ WireCommand.retrieveMessage) value

theorem epoch_reads (command : UInt64 → WireCommand) :
    epochFromBytes command b = decodeWhole ByteField.word64 .invalidCommand (fun epoch => .returns (command epoch)) b.bytes := by
  apply decodes_whole
  · exact fun wrong => if_pos wrong
  · intro sized
    obtain ⟨epoch, read, value⟩ := @span_field WireError b _ ByteField.word64 0 8 rfl (Nat.le_of_eq sized.symm)
    refine (if_neg (not_not.mpr sized)).trans ?_
    rw [read, Reading.returned_bind]
    exact congrArg (Reading.returns ∘ command) value

theorem consensus_reads : consensusFromBytes b =
    decodeFront ByteField.byte .invalidCommand (fun errorCode payload => .returns (.consensus errorCode payload)) b.bytes := by
  apply decodes_front
  · exact fun short => if_pos short
  · intro long
    have one : 1 ≤ b.len := long
    refine (if_neg (Nat.not_lt.mpr long)).trans ?_
    rw [index_inside b 0 (by omega), Reading.returned_bind, slice_getD b 0 (by omega)]
    obtain ⟨payload, read, bytes⟩ := @rest_read WireError b 1 long
    by_cases more : b.len - consensusBaseLength > 0
    · rw [if_pos more]
      change (b.rest 1 >>= fun payload => Reading.returns (WireCommand.consensus _ payload.bytes)) = _
      rw [read, Reading.returned_bind, bytes]
      rfl
    · have none : b.bytes.drop 1 = [] := by
        rw [List.drop_eq_nil_iff, slice_bytes_length]
        rw [consensusBaseLength] at more
        omega
      rw [if_neg more]
      exact congrArg (fun payload => Reading.returns (WireCommand.consensus _ payload)) none.symm

theorem upload_reads (command : UInt64 → Bytes → WireCommand) :
    uploadFromBytes command b = decodeFront ByteField.word64 .invalidCommand (fun epoch payload => .returns (command epoch payload)) b.bytes := by
  apply decodes_front
  · exact fun short => if_pos short
  · intro long
    obtain ⟨epoch, readEpoch, value⟩ := @span_field WireError b _ ByteField.word64 0 8 rfl long
    obtain ⟨payload, readPayload, bytes⟩ := @rest_read WireError b postDescriptorLength long
    refine (if_neg (Nat.not_lt.mpr long)).trans ?_
    rw [readEpoch, Reading.returned_bind, readPayload, Reading.returned_bind, bytes]
    exact congrArg (fun epoch => Reading.returns (command epoch _)) value

theorem replica_write_reads : replicaWriteFromBytes b =
    decodeFront replicaWriteHeader .invalidCommand
      (fun header payload => .returns (.replicaWrite header.1 header.2 payload)) b.bytes := by
  apply decodes_front
  · exact fun short => if_pos short
  · intro long
    have enough : 96 ≤ b.len := long
    obtain ⟨boxID, readBox, box⟩ := @span_field WireError b _ (ByteField.array 32) 0 boxIDSize rfl (by rw [boxIDSize]; omega)
    obtain ⟨signature, readSignature, signed⟩ :=
      @span_field WireError b _ (ByteField.array 64) boxIDSize (boxIDSize + bacapSignatureSize) rfl long
    obtain ⟨payload, readPayload, bytes⟩ := @rest_read WireError b (boxIDSize + bacapSignatureSize) long
    refine (if_neg (Nat.not_lt.mpr long)).trans ?_
    rw [readBox, Reading.returned_bind, readSignature, Reading.returned_bind, readPayload, Reading.returned_bind, bytes]
    exact congrArg₂ (fun box signature => Reading.returns (WireCommand.replicaWrite box signature _)) box signed

theorem replica_message_reply_reads : replicaMessageReplyFromBytes b =
    decodeFront replicaReplyHeader .invalidCommand
      (fun header reply => .returns (.replicaMessageReply header.1 header.2.1 header.2.2 reply)) b.bytes := by
  apply decodes_front
  · exact fun short => if_pos short
  · intro long
    have enough : 34 ≤ b.len := long
    obtain ⟨envelopeHash, readHash, hash⟩ := @span_field WireError b _ (ByteField.array 32) 1 (1 + 32) rfl (by omega)
    obtain ⟨envelopeReply, readReply, bytes⟩ := @rest_read WireError b (1 + 32 + 1) enough
    have last : b.bytes.getD 33 0 = ((b.bytes.drop 1).drop 32).getD 0 0 := by
      rw [List.drop_drop, List.getD_eq_getElem?_getD, List.getD_eq_getElem?_getD, List.getElem?_drop]
    refine (if_neg (Nat.not_lt.mpr long)).trans ?_
    rw [index_inside b 0 (by omega), Reading.returned_bind, readHash, Reading.returned_bind, index_inside b (1 + 32) (by omega),
      Reading.returned_bind, readReply, Reading.returned_bind, bytes, slice_getD b 0 (by omega), slice_getD b (1 + 32) (by omega), last]
    exact congrArg (fun hash => Reading.returns (WireCommand.replicaMessageReply _ hash _ _)) hash

theorem consensus2_reads (e : WireError) (long : consensus2BaseLength ≤ b.len) : consensus2FromBytes b =
    decodeFront consensus2Header e (fun header payload => .returns (.consensus2 header.1 header.2.1 header.2.2 payload)) b.bytes := by
  have enough : 9 ≤ b.len := long
  apply decodes_front
  · exact fun short => absurd enough (Nat.not_le.mpr short)
  · intro _
    obtain ⟨chunkNum, readNum, num⟩ := @span_field WireError b _ ByteField.word32 1 5 rfl (by omega)
    obtain ⟨chunkTotal, readTotal, total⟩ := @span_field WireError b _ ByteField.word32 5 9 rfl enough
    obtain ⟨payload, readPayload, bytes⟩ := @rest_read WireError b consensus2BaseLength long
    have second : uint32BE chunkTotal.bytes = uint32BE ((b.bytes.drop 1).drop 4) := by
      rw [List.drop_drop]
      exact total
    have first : uint32BE chunkNum.bytes = uint32BE (b.bytes.drop 1) := num
    rw [consensus2FromBytes, if_neg (by rw [consensusBaseLength]; omega), index_inside b 0 (by omega), Reading.returned_bind,
      readNum, Reading.returned_bind, readTotal, Reading.returned_bind, first, second, slice_getD b 0 (by omega)]
    by_cases more : b.len - consensus2BaseLength > 0
    · rw [if_pos more, readPayload, Reading.returned_bind, bytes]
      rfl
    · have none : b.bytes.drop 9 = [] := by
        rw [List.drop_eq_nil_iff, slice_bytes_length]
        rw [consensus2BaseLength] at more
        omega
      rw [if_neg more]
      exact congrArg (fun payload => Reading.returns (WireCommand.consensus2 _ _ _ payload)) none.symm

theorem send_retrieve_packet_reply_returns_iff (cmd : WireCommand) :
    (sendRetrievePacketReplyFromBytes b).outcome = .returns cmd ↔
      ∃ (surbID : Fixed surbIDLength) (payload : Bytes), b.bytes = surbID.bytes ++ payload ∧
        .sendRetrievePacketReply surbID payload = cmd := by
  by_cases long : surbIDLength ≤ b.len
  · obtain ⟨surbID, readID, id⟩ := @span_field WireError b _ (ByteField.array surbIDLength) 0 surbIDLength (Nat.zero_add _) long
    obtain ⟨payload, readPayload, bytes⟩ := @rest_read WireError b surbIDLength long
    have reads : sendRetrievePacketReplyFromBytes b = decodeFront (ByteField.array surbIDLength) .invalidCommand
        (fun surbID payload => .returns (.sendRetrievePacketReply surbID payload)) b.bytes := by
      apply decodes_front
      · exact fun short => absurd long (Nat.not_le.mpr short)
      · intro _
        rw [sendRetrievePacketReplyFromBytes, readID, Reading.returned_bind, readPayload, Reading.returned_bind, bytes]
        exact congrArg (fun id => Reading.returns (WireCommand.sendRetrievePacketReply id _)) id
    rw [reads, decode_front_iff]
    simp only [returns_outcome_iff]
    rfl
  · constructor
    · intro returned
      obtain ⟨_, _, returned⟩ := (returned_bind_iff _ _ _).mp returned
      obtain ⟨_, read, _⟩ := (returned_bind_iff _ _ _).mp returned
      rw [Slice.rest, dif_neg long] at read
      exact absurd read (panics_not_returned _)
    · rintro ⟨surbID, payload, same, _⟩
      have sized := congrArg List.length same
      rw [slice_bytes_length, List.length_append, surbID.size] at sized
      omega

theorem whole_slice_bytes (bytes : Bytes) : (wholeSlice bytes).bytes = bytes := List.take_length

theorem unmarshal_key_bytes (scheme : SignScheme) (key : Slice) (bytes : Bytes) (same : key.bytes = bytes) :
    unmarshalKey scheme key = unmarshalKey scheme (wholeSlice bytes) := by
  rw [unmarshalKey, unmarshalKey, whole_slice_bytes, same]

theorem unmarshal_key_returns_iff (scheme : SignScheme) (bytes : Bytes) (command : PublicKey → WireCommand) (cmd : WireCommand) :
    (unmarshalKey scheme (wholeSlice bytes) >>= fun publicKey => Reading.returns (command publicKey)).outcome = .returns cmd ↔
      ∃ publicKey, scheme.unmarshalBinaryPublicKey bytes = some publicKey ∧ command publicKey = cmd := by
  rw [unmarshalKey, whole_slice_bytes]
  cases scheme.unmarshalBinaryPublicKey bytes with
  | none =>
      constructor
      · intro same
        cases same
      · rintro ⟨_, same, _⟩
        cases same
  | some publicKey =>
      rw [Reading.returned_bind, returns_outcome_iff]
      constructor
      · exact fun same => ⟨_, rfl, same⟩
      · rintro ⟨_, same, command⟩
        cases same
        exact command

theorem span_key (scheme : SignScheme) (hi : Nat) (sized : 8 + scheme.publicKeySize = hi) (inside : hi ≤ b.len) :
    ∃ key : Slice, (b.span 8 hi : Reading WireError Slice) = .returns key ∧
      key.bytes = ((signedHeader scheme).get b.bytes).2.bytes := by
  subst sized
  obtain ⟨key, read, bytes⟩ := @span_read WireError b 8 (8 + scheme.publicKeySize) (Nat.le_add_right _ _) inside
  refine ⟨key, read, ?_⟩
  have within : scheme.publicKeySize ≤ (b.bytes.drop 8).length := by
    rw [List.length_drop, slice_bytes_length]
    omega
  rw [bytes, Nat.add_sub_cancel_left, part]
  exact ((ByteField.array scheme.publicKeySize).put_get _ within).symm

theorem get_vote_reads (scheme : SignScheme) : getVoteFromBytes (some scheme) b =
    decodeWhole (signedHeader scheme) .invalidCommand
      (fun header => unmarshalKey scheme (wholeSlice header.2.bytes) >>= fun publicKey => .returns (.getVote header.1 publicKey))
      b.bytes := by
  apply decodes_whole
  · exact fun wrong => if_pos wrong
  · intro sized
    have length : b.len = 8 + scheme.publicKeySize := sized
    obtain ⟨epoch, readEpoch, value⟩ := @span_field WireError b _ ByteField.word64 0 8 rfl (by omega)
    obtain ⟨key, readKey, bytes⟩ := span_key b scheme (scheme.publicKeySize + 8) (Nat.add_comm _ _) (by omega)
    refine (if_neg (not_not.mpr sized)).trans ?_
    rw [readEpoch, Reading.returned_bind, readKey, Reading.returned_bind, unmarshal_key_bytes scheme key _ bytes]
    exact congrArg (fun epoch => _ >>= fun publicKey => Reading.returns (WireCommand.getVote epoch publicKey)) value

theorem signed_reads (e : WireError) (command : UInt64 → PublicKey → Bytes → WireCommand) (scheme : SignScheme) :
    signedFromBytes e command (some scheme) b = decodeFront (signedHeader scheme) e
      (fun header payload => unmarshalKey scheme (wholeSlice header.2.bytes) >>= fun publicKey =>
        .returns (command header.1 publicKey payload)) b.bytes := by
  apply decodes_front
  · exact fun short => if_pos short
  · intro long
    have enough : 8 + scheme.publicKeySize ≤ b.len := long
    obtain ⟨epoch, readEpoch, value⟩ := @span_field WireError b _ ByteField.word64 0 8 rfl (by omega)
    obtain ⟨key, readKey, bytes⟩ := span_key b scheme (8 + scheme.publicKeySize) rfl enough
    obtain ⟨payload, readPayload, rest⟩ := @rest_read WireError b (overhead scheme) long
    refine (if_neg (Nat.not_lt.mpr long)).trans ?_
    rw [readEpoch, Reading.returned_bind, readKey, Reading.returned_bind, unmarshal_key_bytes scheme key _ bytes, readPayload]
    change (_ >>= fun publicKey => Reading.returns (command (uint64BE epoch.bytes) publicKey payload.bytes)) = _
    rw [rest]
    exact congrArg (fun epoch => _ >>= fun publicKey => Reading.returns (command epoch publicKey _)) value

theorem replica_message_reads (scheme : ReplicaNike) : replicaMessageFromBytes (some scheme) b =
    decodeFront (replicaMessageHeader scheme) .messageTooShort
      (fun header ciphertext => if ciphertext.length < 4 then .fails .messageTooShort
        else .returns (.replicaMessage header.1.bytes header.2.bytes ciphertext)) b.bytes := by
  apply decodes_front
  · intro short
    have less : b.len < scheme.publicKeySize + scheme.dekSize := short
    exact if_pos (by omega)
  · intro long
    have enough : scheme.publicKeySize + scheme.dekSize ≤ b.len := long
    have behind : (b.bytes.drop (replicaMessageHeader scheme).size).length = b.len - (scheme.publicKeySize + scheme.dekSize) := by
      rw [List.length_drop, slice_bytes_length]
      rfl
    change (if b.len < scheme.publicKeySize + scheme.dekSize + 4 then _ else _) = _
    by_cases few : b.len < scheme.publicKeySize + scheme.dekSize + 4
    · rw [if_pos few, if_pos (by rw [behind]; omega)]
    · obtain ⟨sender, readSender, senderBytes⟩ := @span_read WireError b 0 scheme.publicKeySize (by omega) (by omega)
      obtain ⟨dek, readDek, dekBytes⟩ :=
        @span_read WireError b scheme.publicKeySize (scheme.publicKeySize + scheme.dekSize) (by omega) enough
      obtain ⟨ciphertext, readCiphertext, rest⟩ := @rest_read WireError b (scheme.publicKeySize + scheme.dekSize) enough
      have first : sender.bytes = ((replicaMessageHeader scheme).get b.bytes).1.bytes := by
        have within : scheme.publicKeySize ≤ b.bytes.length := by
          rw [slice_bytes_length]
          omega
        rw [senderBytes]
        exact ((ByteField.array scheme.publicKeySize).put_get b.bytes within).symm
      have second : dek.bytes = ((replicaMessageHeader scheme).get b.bytes).2.bytes := by
        have within : scheme.dekSize ≤ (b.bytes.drop scheme.publicKeySize).length := by
          rw [List.length_drop, slice_bytes_length]
          omega
        rw [dekBytes, Nat.add_sub_cancel_left]
        exact ((ByteField.array scheme.dekSize).put_get _ within).symm
      rw [if_neg few, if_neg (by rw [behind]; omega), readSender, Reading.returned_bind, readDek, Reading.returned_bind,
        readCiphertext, Reading.returned_bind, first, second, rest]
      rfl

end Parsers

section Messages

inductive MessageBody (g : Geometry) (hint : UInt8) (seq : UInt32) (body : Bytes) : UInt8 → WireCommand → Prop where
  | ack (id : Fixed surbIDLength) (payload : Bytes) (bytes : body = id.bytes ++ payload)
      (sized : payload.length = g.payloadTagLength + g.forwardPayloadLength) :
      MessageBody g hint seq body 1 (.messageACK hint seq id payload)
  | plain (payload : Bytes) (bytes : body = payload ++ zeros (messageMsgPaddingLength g))
      (sized : payload.length = g.userForwardPayloadLength) : MessageBody g hint seq body 0 (.message hint seq payload)
  | empty (bytes : body = zeros (messageEmptyPaddingLength g)) : MessageBody g hint seq body 2 (.messageEmpty seq)

variable (b : Slice) (g : Geometry) (hint : UInt8) (seq : UInt32) (cmd : WireCommand)

theorem all_zero_iff (bytes : Bytes) : bytes.all (· = 0) = true ↔ bytes = zeros bytes.length := by
  rw [zeros, List.eq_replicate_iff, List.all_eq_true]
  simp only [decide_eq_true_eq, true_and]

theorem message_ack_returns_iff : (messageACKFromBytes (some g) hint seq b).outcome = .returns cmd ↔
    MessageBody g hint seq b.bytes 1 cmd := by
  rw [messageACKFromBytes, deref, Reading.returned_bind]
  by_cases sized : b.len = surbIDLength + g.payloadTagLength + g.forwardPayloadLength
  · obtain ⟨id, readID, value⟩ :=
      @span_field WireError b _ (ByteField.array surbIDLength) 0 surbIDLength (Nat.zero_add _) (by omega)
    obtain ⟨payload, readPayload, bytes⟩ := @rest_read WireError b surbIDLength (by omega)
    have split : b.bytes = (Fixed.copy surbIDLength id.bytes).bytes ++ payload.bytes := by
      have within : surbIDLength ≤ b.bytes.length := by
        rw [slice_bytes_length]
        omega
      exact ((ByteField.array surbIDLength).front_iff _ _ _).mpr ⟨within, value, bytes⟩
    rw [if_neg (not_not.mpr sized), readID, Reading.returned_bind, readPayload, Reading.returned_bind, returns_outcome_iff]
    constructor
    · rintro rfl
      refine .ack _ _ split ?_
      rw [bytes, List.length_drop, slice_bytes_length]
      omega
    · intro body
      cases body with
      | ack first rest same _ =>
          have equal := List.append_inj (split.symm.trans same) (by rw [Fixed.size, Fixed.size])
          rw [fixed_ext _ _ first equal.1, equal.2]
  · rw [if_pos sized]
    refine ⟨fun same => (by cases same), fun body => ?_⟩
    cases body with
    | ack id payload bytes length =>
        have same := congrArg List.length bytes
        rw [slice_bytes_length, List.length_append, id.size, length] at same
        omega

theorem message_message_returns_iff : (messageMessageFromBytes (some g) hint seq b).outcome = .returns cmd ↔
    MessageBody g hint seq b.bytes 0 cmd := by
  rw [messageMessageFromBytes, deref, Reading.returned_bind]
  by_cases sized : b.len = messageMsgPaddingLength g + g.userForwardPayloadLength
  · obtain ⟨padding, readPadding, paddingBytes⟩ := @rest_read WireError b g.userForwardPayloadLength (by omega)
    obtain ⟨payload, readPayload, payloadBytes⟩ := @span_read WireError b 0 g.userForwardPayloadLength (by omega) (by omega)
    have front : payload.bytes = b.bytes.take g.userForwardPayloadLength := payloadBytes
    have length : (b.bytes.drop g.userForwardPayloadLength).length = messageMsgPaddingLength g := by
      rw [List.length_drop, slice_bytes_length]
      omega
    have within : (b.bytes.take g.userForwardPayloadLength).length = g.userForwardPayloadLength := by
      rw [List.length_take, slice_bytes_length]
      omega
    rw [if_neg (not_not.mpr sized), readPadding, Reading.returned_bind, paddingBytes]
    by_cases blank : (b.bytes.drop g.userForwardPayloadLength).all (· = 0) = true
    · rw [if_pos blank, readPayload, Reading.returned_bind, returns_outcome_iff, front]
      constructor
      · rintro rfl
        refine .plain _ ?_ within
        rw [← length, ← (all_zero_iff _).mp blank, List.take_append_drop]
      · intro body
        cases body with
        | plain payload bytes fits => rw [bytes, List.take_left' fits]
    · rw [if_neg blank]
      refine ⟨fun same => (by cases same), fun body => ?_⟩
      cases body with
      | plain payload bytes fits =>
          refine absurd ?_ blank
          rw [all_zero_iff, length, bytes, List.drop_left' fits]
  · rw [if_pos sized]
    refine ⟨fun same => (by cases same), fun body => ?_⟩
    cases body with
    | plain payload bytes fits =>
        have same := congrArg List.length bytes
        rw [slice_bytes_length, List.length_append, zeros_length, fits] at same
        omega

theorem message_empty_returns_iff : (messageEmptyFromBytes (some g) seq b).outcome = .returns cmd ↔
    MessageBody g hint seq b.bytes 2 cmd := by
  rw [messageEmptyFromBytes, deref, Reading.returned_bind]
  have shorter : messageBaseLength + surbIDLength + g.payloadTagLength + g.forwardPayloadLength - messageBaseLength =
      messageEmptyPaddingLength g := by
    rw [messageEmptyPaddingLength]
    omega
  rw [shorter]
  by_cases sized : b.len = messageEmptyPaddingLength g
  · have blank := all_zero_iff b.bytes
    rw [slice_bytes_length, sized] at blank
    rw [if_neg (not_not.mpr sized)]
    constructor
    · intro returned
      split at returned
      · rename_i zero
        rw [returns_outcome_iff] at returned
        exact returned ▸ .empty (blank.mp zero)
      · exact absurd returned (fails_not_returned _ _)
    · intro body
      cases body with
      | empty bytes => rw [if_pos (blank.mpr bytes), returns_outcome_iff]
  · rw [if_pos sized]
    refine ⟨fun same => (by cases same), fun body => ?_⟩
    cases body with
    | empty bytes =>
        have same := congrArg List.length bytes
        rw [slice_bytes_length, zeros_length] at same
        exact absurd same sized

theorem message_returns_iff : (messageFromBytes (some g) b).outcome = .returns cmd ↔
    ∃ header body, b.bytes = messageHeader.put header ++ body ∧ MessageBody g header.2.1 header.2.2 body header.1 cmd := by
  by_cases short : b.len < messageBaseLength
  · rw [messageFromBytes, if_pos short]
    refine ⟨fun same => (by cases same), ?_⟩
    rintro ⟨header, body, bytes, _⟩
    have same := congrArg List.length bytes
    rw [slice_bytes_length, List.length_append, messageHeader.put_length] at same
    exact absurd short (by rw [same]; exact Nat.not_lt.mpr (Nat.le_add_right _ _))
  · have enough : 6 ≤ b.len := Nat.le_of_not_lt short
    obtain ⟨number, readSeq, value⟩ := @span_field WireError b _ ByteField.word32 2 6 rfl enough
    obtain ⟨rest, readRest, bytes⟩ := @rest_read WireError b messageBaseLength enough
    have front : ∀ header body, b.bytes = messageHeader.put header ++ body ↔
        header = (b.bytes.getD 0 0, b.bytes.getD 1 0, uint32BE number.bytes) ∧ body = rest.bytes := by
      intro header body
      have second : (b.bytes.drop 1).getD 0 0 = b.bytes.getD 1 0 := by
        rw [List.getD_eq_getElem?_getD, List.getD_eq_getElem?_getD, List.getElem?_drop]
      have third : uint32BE number.bytes = uint32BE ((b.bytes.drop 1).drop 1) := by
        rw [List.drop_drop]
        exact value
      rw [messageHeader.front_iff, bytes, third, ← second]
      exact ⟨fun split => split.2, fun split => ⟨by rw [slice_bytes_length]; exact enough, split⟩⟩
    simp only [front]
    rw [messageFromBytes, if_neg short, index_inside b 0 (by omega), Reading.returned_bind, index_inside b 1 (by omega),
      Reading.returned_bind, readSeq, Reading.returned_bind, readRest, Reading.returned_bind, slice_getD b 0 (by omega),
      slice_getD b 1 (by omega)]
    have read : ∀ t, (if t = 1 then messageACKFromBytes (some g) (b.bytes.getD 1 0) (uint32BE number.bytes) rest
        else if t = 0 then messageMessageFromBytes (some g) (b.bytes.getD 1 0) (uint32BE number.bytes) rest
        else if t = 2 then messageEmptyFromBytes (some g) (uint32BE number.bytes) rest
        else .fails .invalidCommand).outcome = .returns cmd ↔
        MessageBody g (b.bytes.getD 1 0) (uint32BE number.bytes) rest.bytes t cmd := by
      intro t
      by_cases ack : t = 1
      · rw [if_pos ack, ack]
        exact message_ack_returns_iff rest g _ _ cmd
      · rw [if_neg ack]
        by_cases plain : t = 0
        · rw [if_pos plain, plain]
          exact message_message_returns_iff rest g _ _ cmd
        · rw [if_neg plain]
          by_cases empty : t = 2
          · rw [if_pos empty, empty]
            exact message_empty_returns_iff rest g _ _ cmd
          · rw [if_neg empty]
            refine ⟨fun same => (by cases same), fun body => ?_⟩
            cases body with
            | ack => exact absurd rfl ack
            | plain => exact absurd rfl plain
            | empty => exact absurd rfl empty
    rw [read]
    constructor
    · exact fun body => ⟨_, _, ⟨rfl, rfl⟩, body⟩
    · rintro ⟨_, _, ⟨rfl, rfl⟩, body⟩
      exact body

end Messages

end Katzenpost
