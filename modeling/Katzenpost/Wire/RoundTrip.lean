import Katzenpost.Wire.Canonical

set_option autoImplicit false

namespace Katzenpost

open Go

section ToBytes

structure MessageLengths where
  clientToServer : Nat
  serverToClient : Nat
deriving DecidableEq

def calcMaxMessageLen (lengths : List Nat) : Nat := lengths.foldl (fun m length => if length > m then length else m) 0

def mixnetLengths (g : Geometry) : MessageLengths where
  clientToServer := calcMaxMessageLen
    [cmdOverhead, cmdOverhead + g.packetLength, cmdOverhead, cmdOverhead + 4, cmdOverhead + getConsensusLength,
      cmdOverhead + getConsensusLength, cmdOverhead + g.packetLength]
  serverToClient := calcMaxMessageLen
    [0, 0, cmdOverhead + 1 + 4 + g.packetLength, cmdOverhead + 1 + 4 + surbIDLength + g.packetLength,
      cmdOverhead + 4 + g.packetLength, cmdOverhead + surbIDLength + g.userForwardPayloadLength]

def pkiLengths : MessageLengths := ⟨50000000, 50000000⟩

def padToMaxCommandSize (maxMessageLen : Nat) (data : Bytes) : Bytes :=
  if maxMessageLen = 0 then data
  else if maxMessageLen ≤ data.length then data
  else data ++ zeros (maxMessageLen - data.length)

theorem pad_to_max_eq (maxMessageLen : Nat) (data : Bytes) :
    padToMaxCommandSize maxMessageLen data = data ++ zeros (maxMessageLen - data.length) := by
  have none : maxMessageLen ≤ data.length → data = data ++ zeros (maxMessageLen - data.length) := by
    intro short
    rw [Nat.sub_eq_zero_of_le short]
    exact (List.append_nil _).symm
  rw [padToMaxCommandSize]
  split
  · exact none (by omega)
  · split
    · exact none (by assumption)
    · rfl

inductive TrafficPadding where
  | unpadded
  | upstream
  | downstream
deriving DecidableEq

-- The padding of a command. Some are padded only if they carry an instance, and
-- a GetConsensus only over the mixnet.
def WireCommand.padding (optional : Bool) : WireCommand → TrafficPadding
  | .noOp => .upstream
  | .disconnect => .upstream
  | .sendPacket _ => .upstream
  | .sendRetrievePacket _ => .upstream
  | .sendRetrievePacketReply _ _ => .downstream
  | .retrieveMessage _ => .upstream
  | .messageACK _ _ _ _ => .downstream
  | .message _ _ _ => .downstream
  | .messageEmpty _ => .downstream
  | .getConsensus _ => if optional then .upstream else .unpadded
  | .getConsensus2 _ => .upstream
  | .consensus2 _ _ _ _ => .downstream
  | .replicaDecoy => if optional then .upstream else .unpadded
  | .replicaWrite _ _ _ => if optional then .upstream else .unpadded
  | .replicaWriteReply _ => if optional then .upstream else .unpadded
  | .replicaMessage _ _ _ => .upstream
  | .replicaMessageReply _ _ _ _ => if optional then .downstream else .unpadded
  | _ => .unpadded

def MessageLengths.pad (lengths : MessageLengths) : TrafficPadding → Bytes → Bytes
  | .unpadded, data => data
  | .upstream, data => padToMaxCommandSize lengths.clientToServer data
  | .downstream, data => padToMaxCommandSize lengths.serverToClient data

def Commands.asserted (c : Commands) : WireCommand → Bool
  | .sendRetrievePacket sphinxPacket => c.geo.any fun g => sphinxPacket.length = g.packetLength
  | .messageACK _ _ _ payload => c.geo.any fun g => payload.length = g.payloadTagLength + g.forwardPayloadLength
  | .message _ _ payload => c.geo.any fun g => payload.length = g.userForwardPayloadLength
  | _ => true

def Commands.toBytes (c : Commands) (lengths : MessageLengths) (optional : Bool) (cmd : WireCommand) : Option Bytes :=
  if c.asserted cmd then (c.unpadded cmd).map (lengths.pad (cmd.padding optional)) else none

theorem pad_zeros (lengths : MessageLengths) (padding : TrafficPadding) (data : Bytes) :
    ∃ n, lengths.pad padding data = data ++ zeros n := by
  cases padding with
  | unpadded => exact ⟨0, (List.append_nil _).symm⟩
  | upstream => exact ⟨_, pad_to_max_eq _ _⟩
  | downstream => exact ⟨_, pad_to_max_eq _ _⟩

end ToBytes

def SignScheme.Carries (scheme : SignScheme) (publicKey : PublicKey) : Prop :=
  publicKey.raw.length = scheme.publicKeySize ∧ scheme.unmarshalBinaryPublicKey publicKey.raw = some publicKey

def Commands.Sends (c : Commands) : WireCommand → Prop
  | .getVote _ publicKey => ∃ scheme, c.pkiSignatureScheme = some scheme ∧ scheme.Carries publicKey
  | .vote _ publicKey _ => ∃ scheme, c.pkiSignatureScheme = some scheme ∧ scheme.Carries publicKey
  | .cert _ publicKey _ => ∃ scheme, c.pkiSignatureScheme = some scheme ∧ scheme.Carries publicKey
  | .reveal _ publicKey _ => ∃ scheme, c.pkiSignatureScheme = some scheme ∧ scheme.Carries publicKey
  | .sig _ publicKey _ => ∃ scheme, c.pkiSignatureScheme = some scheme ∧ scheme.Carries publicKey
  | .replicaMessage senderEPubKey dek ciphertext => ∃ scheme, c.replicaNikeScheme = some scheme ∧
      senderEPubKey.length = scheme.publicKeySize ∧ dek.length = scheme.dekSize ∧ 4 ≤ ciphertext.length
  | _ => True

section Decodes

variable {α : Type} (F : ByteField α) (e : WireError) (bytes : Bytes)

theorem whole_decodes (command : α → WireCommand) (a : α) (same : bytes = F.put a) :
    (decodeWhole F e (fun a => .returns (command a)) bytes).outcome = .returns (command a) :=
  (decode_whole_iff F e _ bytes _).mpr ⟨a, same, rfl⟩

theorem front_decodes (command : α → Bytes → WireCommand) (a : α) (payload : Bytes) (same : bytes = F.put a ++ payload) :
    (decodeFront F e (fun a payload => .returns (command a payload)) bytes).outcome = .returns (command a payload) :=
  (decode_front_iff F e _ bytes _).mpr ⟨a, payload, same, rfl⟩

variable (c : Commands) (b : Slice)

theorem status_decodes (command : UInt8 → WireCommand) (errorCode : UInt8) (same : b.bytes = [errorCode]) :
    (statusFromBytes e command b).outcome = .returns (command errorCode) := by
  rw [status_reads]
  exact whole_decodes _ _ _ command errorCode same

theorem epoch_decodes (command : UInt64 → WireCommand) (epoch : UInt64) (same : b.bytes = putUint64BE epoch) :
    (epochFromBytes command b).outcome = .returns (command epoch) := by
  rw [epoch_reads]
  exact whole_decodes _ _ _ command epoch same

theorem upload_decodes (command : UInt64 → Bytes → WireCommand) (epoch : UInt64) (payload : Bytes)
    (same : b.bytes = putUint64BE epoch ++ payload) : (uploadFromBytes command b).outcome = .returns (command epoch payload) := by
  rw [upload_reads]
  exact front_decodes _ _ _ command epoch payload same

theorem signed_decodes (command : UInt64 → PublicKey → Bytes → WireCommand) (epoch : UInt64) (publicKey : PublicKey)
    (payload : Bytes) (carried : ∃ scheme, c.pkiSignatureScheme = some scheme ∧ scheme.Carries publicKey)
    (same : b.bytes = (putUint64BE epoch ++ publicKey.raw) ++ payload) :
    (signedFromBytes e command c.pkiSignatureScheme b).outcome = .returns (command epoch publicKey payload) := by
  obtain ⟨scheme, known, sized, unmarshalled⟩ := carried
  rw [known, signed_reads]
  refine (decode_front_iff _ _ _ _ _).mpr ⟨(epoch, ⟨publicKey.raw, sized⟩), payload, same, ?_⟩
  exact (unmarshal_key_returns_iff _ _ _ _).mpr ⟨publicKey, unmarshalled, rfl⟩

theorem get_vote_decodes (epoch : UInt64) (publicKey : PublicKey)
    (carried : ∃ scheme, c.pkiSignatureScheme = some scheme ∧ scheme.Carries publicKey)
    (same : b.bytes = putUint64BE epoch ++ publicKey.raw) :
    (getVoteFromBytes c.pkiSignatureScheme b).outcome = .returns (.getVote epoch publicKey) := by
  obtain ⟨scheme, known, sized, unmarshalled⟩ := carried
  rw [known, get_vote_reads]
  refine (decode_whole_iff _ _ _ _ _).mpr ⟨(epoch, ⟨publicKey.raw, sized⟩), same, ?_⟩
  exact (unmarshal_key_returns_iff _ _ _ _).mpr ⟨publicKey, unmarshalled, rfl⟩

theorem replica_message_decodes (senderEPubKey dek ciphertext : Bytes)
    (sends : c.Sends (.replicaMessage senderEPubKey dek ciphertext)) (same : b.bytes = (senderEPubKey ++ dek) ++ ciphertext) :
    (replicaMessageFromBytes c.replicaNikeScheme b).outcome = .returns (.replicaMessage senderEPubKey dek ciphertext) := by
  obtain ⟨scheme, known, sender, key, long⟩ := sends
  rw [known, replica_message_reads]
  refine (decode_front_iff _ _ _ _ _).mpr ⟨(⟨senderEPubKey, sender⟩, ⟨dek, key⟩), ciphertext, same, ?_⟩
  rw [if_neg (Nat.not_lt.mpr long)]
  rfl

theorem message_decodes (g : Geometry) (known : c.geo = some g) (t hint : UInt8) (seq : UInt32) (body : Bytes)
    (cmd : WireCommand) (read : MessageBody g hint seq body t cmd) (same : b.bytes = messageHeader.put (t, hint, seq) ++ body) :
    (messageFromBytes c.geo b).outcome = .returns cmd := by
  rw [known]
  exact (message_returns_iff b g cmd).mpr ⟨(t, hint, seq), body, same, read⟩

theorem parse_body_decodes (cmd : WireCommand) (sends : c.Sends cmd) (asserted : c.asserted cmd = true)
    (serialised : c.body cmd = some b.bytes) (parsed : cmd ≠ .noOp ∧ cmd ≠ .disconnect) :
    (c.parseBody cmd.commandID b).outcome = .returns cmd := by
  have plain : ∀ bytes, some bytes = some b.bytes → b.bytes = bytes := fun _ same => (Option.some.inj same).symm
  cases cmd with
  | noOp => exact absurd rfl parsed.1
  | disconnect => exact absurd rfl parsed.2
  | replicaDecoy => rfl
  | sendPacket sphinxPacket => exact congrArg (fun bytes => Call.returns (WireCommand.sendPacket bytes)) (plain _ serialised)
  | sendRetrievePacket sphinxPacket =>
      exact congrArg (fun bytes => Call.returns (WireCommand.sendRetrievePacket bytes)) (plain _ serialised)
  | sendRetrievePacketReply surbID payload =>
      exact (send_retrieve_packet_reply_returns_iff b _).mpr ⟨surbID, payload, plain _ serialised, rfl⟩
  | retrieveMessage sequence =>
      rw [WireCommand.commandID, Commands.parseBody, retreive_message_reads]
      exact whole_decodes _ _ _ _ sequence (plain _ serialised)
  | messageACK hint seq id payload =>
      obtain ⟨g, known, sized⟩ := (Option.any_eq_true _ _).mp asserted
      rw [Commands.body, known] at serialised
      exact message_decodes c b g known 1 hint seq _ _ (.ack id payload rfl (of_decide_eq_true sized)) (plain _ serialised)
  | message hint seq payload =>
      obtain ⟨g, known, sized⟩ := (Option.any_eq_true _ _).mp asserted
      rw [Commands.body, known] at serialised
      exact message_decodes c b g known 0 hint seq _ _ (.plain payload rfl (of_decide_eq_true sized)) (plain _ serialised)
  | messageEmpty seq =>
      obtain ⟨g, known, same⟩ := Option.map_eq_some_iff.mp serialised
      exact message_decodes c b g known 2 0 seq _ _ (.empty rfl) same.symm
  | getConsensus epoch => exact epoch_decodes b .getConsensus epoch (plain _ serialised)
  | getConsensus2 epoch => exact epoch_decodes b .getConsensus2 epoch (plain _ serialised)
  | consensus errorCode payload =>
      rw [WireCommand.commandID, Commands.parseBody, consensus_reads]
      exact front_decodes _ _ _ _ errorCode payload (plain _ serialised)
  | consensus2 errorCode chunkNum chunkTotal payload =>
      have same := plain _ serialised
      have long : consensus2BaseLength ≤ b.len := by
        rw [← slice_bytes_length b, same, List.length_append, consensus2Header.put_length]
        exact Nat.le_add_right _ _
      rw [WireCommand.commandID, Commands.parseBody, consensus2_reads b .invalidCommand long]
      exact (decode_front_iff _ _ _ _ _).mpr ⟨(errorCode, chunkNum, chunkTotal), payload, same, rfl⟩
  | postDescriptor epoch payload =>
      exact upload_decodes b .postDescriptor epoch payload (plain _ serialised)
  | postReplicaDescriptor epoch payload =>
      exact upload_decodes b .postReplicaDescriptor epoch payload (plain _ serialised)
  | postDescriptorStatus errorCode => exact status_decodes _ b .postDescriptorStatus errorCode (plain _ serialised)
  | postReplicaDescriptorStatus errorCode =>
      exact status_decodes _ b .postReplicaDescriptorStatus errorCode (plain _ serialised)
  | voteStatus errorCode => exact status_decodes _ b .voteStatus errorCode (plain _ serialised)
  | revealStatus errorCode => exact status_decodes _ b .revealStatus errorCode (plain _ serialised)
  | sigStatus errorCode => exact status_decodes _ b .sigStatus errorCode (plain _ serialised)
  | certStatus errorCode => exact status_decodes _ b .certStatus errorCode (plain _ serialised)
  | replicaWriteReply errorCode => exact status_decodes _ b .replicaWriteReply errorCode (plain _ serialised)
  | getVote epoch publicKey => exact get_vote_decodes c b epoch publicKey sends (plain _ serialised)
  | vote epoch publicKey payload => exact signed_decodes _ c b .vote epoch publicKey payload sends (plain _ serialised)
  | cert epoch publicKey payload => exact signed_decodes _ c b .cert epoch publicKey payload sends (plain _ serialised)
  | reveal epoch publicKey payload => exact signed_decodes _ c b .reveal epoch publicKey payload sends (plain _ serialised)
  | sig epoch publicKey payload => exact signed_decodes _ c b .sig epoch publicKey payload sends (plain _ serialised)
  | replicaWrite boxID signature payload =>
      rw [WireCommand.commandID, Commands.parseBody, replica_write_reads]
      exact (decode_front_iff _ _ _ _ _).mpr ⟨(boxID, signature), payload, plain _ serialised, rfl⟩
  | replicaMessage senderEPubKey dek ciphertext =>
      exact replica_message_decodes c b senderEPubKey dek ciphertext sends (plain _ serialised)
  | replicaMessageReply errorCode envelopeHash replicaID envelopeReply =>
      rw [WireCommand.commandID, Commands.parseBody, replica_message_reply_reads]
      exact (decode_front_iff _ _ _ _ _).mpr ⟨(errorCode, envelopeHash, replicaID), envelopeReply, plain _ serialised, rfl⟩

end Decodes

section RoundTrip

variable (c : Commands)

theorem put_nonempty {α : Type} (F : ByteField α) (a : α) (rest : Bytes) (sized : 0 < F.size) : F.put a ++ rest ≠ [] := by
  intro empty
  have length := congrArg List.length empty
  rw [List.length_append, F.put_length, List.length_nil] at length
  omega

theorem empty_body_switch (cmd : WireCommand) (sends : c.Sends cmd) (serialised : c.body cmd = some []) :
    emptyBody cmd.commandID = .command cmd ∨
      emptyBody cmd.commandID = .parse ∧ cmd ≠ .noOp ∧ cmd ≠ .disconnect := by
  have word : ∀ (epoch : UInt64) (rest : Bytes), some (putUint64BE epoch ++ rest) ≠ some [] :=
    fun epoch rest same => put_nonempty ByteField.word64 epoch rest (by decide) (Option.some.inj same)
  have noMessage : ∀ (header : UInt8 × UInt8 × UInt32) (rest : Geometry → Bytes),
      (c.geo.map fun g => messageHeader.put header ++ rest g) ≠ some [] := by
    intro header rest same
    obtain ⟨g, _, empty⟩ := Option.map_eq_some_iff.mp same
    exact put_nonempty messageHeader header (rest g) (by decide) empty
  cases cmd with
  | noOp => exact Or.inl rfl
  | disconnect => exact Or.inl rfl
  | replicaDecoy => exact Or.inl rfl
  | sendPacket => exact Or.inr ⟨rfl, nofun, nofun⟩
  | sendRetrievePacket => exact Or.inr ⟨rfl, nofun, nofun⟩
  | sendRetrievePacketReply => exact Or.inr ⟨rfl, nofun, nofun⟩
  | postDescriptor => exact Or.inr ⟨rfl, nofun, nofun⟩
  | retrieveMessage sequence =>
      have same := Option.some.inj serialised
      rw [← List.append_nil (putUint32BE sequence)] at same
      exact absurd same (put_nonempty ByteField.word32 sequence [] (by decide))
  | messageACK hint seq id payload => exact absurd serialised (noMessage _ _)
  | message hint seq payload => exact absurd serialised (noMessage _ _)
  | messageEmpty seq => exact absurd serialised (noMessage _ _)
  | getConsensus epoch => exact absurd (List.append_nil (putUint64BE epoch) ▸ serialised) (word epoch [])
  | getConsensus2 epoch => exact absurd (List.append_nil (putUint64BE epoch) ▸ serialised) (word epoch [])
  | postReplicaDescriptor epoch payload => exact absurd serialised (word _ _)
  | getVote epoch publicKey => exact absurd serialised (word _ _)
  | vote epoch publicKey payload => exact absurd (List.append_assoc .. ▸ serialised) (word epoch (publicKey.raw ++ payload))
  | cert epoch publicKey payload => exact absurd (List.append_assoc .. ▸ serialised) (word epoch (publicKey.raw ++ payload))
  | reveal epoch publicKey payload => exact absurd (List.append_assoc .. ▸ serialised) (word epoch (publicKey.raw ++ payload))
  | sig epoch publicKey payload => exact absurd (List.append_assoc .. ▸ serialised) (word epoch (publicKey.raw ++ payload))
  | consensus2 errorCode chunkNum chunkTotal payload =>
      exact absurd (Option.some.inj serialised) (put_nonempty consensus2Header _ payload (by decide))
  | replicaWrite boxID signature payload =>
      exact absurd (Option.some.inj serialised) (put_nonempty replicaWriteHeader _ payload (by decide))
  | replicaMessageReply errorCode envelopeHash replicaID envelopeReply =>
      exact absurd (Option.some.inj serialised) (put_nonempty replicaReplyHeader _ envelopeReply (by decide))
  | replicaMessage senderEPubKey dek ciphertext =>
      obtain ⟨_, _, _, _, long⟩ := sends
      have none : ciphertext = [] := (List.append_eq_nil_iff.mp (Option.some.inj serialised)).2
      rw [none] at long
      exact absurd long (by decide)
  | _ => exact absurd serialised (by intro same; cases same)

theorem parse_command_decodes (cmd : WireCommand) (sends : c.Sends cmd) (asserted : c.asserted cmd = true) (body tail : Bytes)
    (serialised : c.body cmd = some body) (cmdLen : UInt32) (sized : cmdLen.toNat = body.length) (rest : Slice)
    (bytes : rest.bytes = body ++ tail) : (c.parseCommand cmd.commandID.byte cmdLen rest).outcome = .returns cmd := by
  have inside : cmdLen.toNat ≤ rest.len := by
    rw [← slice_bytes_length rest, bytes, List.length_append]
    omega
  obtain ⟨read, same, part⟩ := @span_read WireError rest 0 cmdLen.toNat (Nat.zero_le _) inside
  have whole : read.bytes = body := by
    rw [part, bytes]
    exact List.take_left' sized.symm
  have parsed : cmd ≠ .noOp ∧ cmd ≠ .disconnect → (c.parseBody cmd.commandID read).outcome = .returns cmd :=
    parse_body_decodes c read cmd sends asserted (whole ▸ serialised)
  rw [Commands.parseCommand, command_id_of_byte]
  dsimp only
  rw [same, Reading.returned_bind]
  by_cases empty : cmdLen = 0
  · have none : body = [] := by
      rw [← List.length_eq_zero_iff, ← sized, empty]
      rfl
    rw [if_pos empty]
    cases empty_body_switch c cmd sends (none ▸ serialised) with
    | inl inline =>
        rw [inline]
        rfl
    | inr parse =>
        rw [parse.1]
        exact parsed parse.2
  · rw [if_neg empty]
    apply parsed
    -- The other two have no body.
    have nonempty : body ≠ [] := by
      intro none
      rw [none] at sized
      exact empty (UInt32.toNat_inj.mp sized)
    constructor
    · intro isNoOp
      rw [isNoOp] at serialised
      exact nonempty (Option.some.inj serialised).symm
    · intro isDisconnect
      rw [isDisconnect] at serialised
      exact nonempty (Option.some.inj serialised).symm

theorem declared_length_header (id : CommandID) (cmdLen : UInt32) (rest : Bytes) :
    declaredLength (commandHeader id cmdLen ++ rest) = cmdLen := by
  have middle : part (commandHeader id cmdLen ++ rest) 2 4 = putUint32BE cmdLen := by
    rw [commandHeader, List.append_assoc]
    exact part_middle [id.byte, 0] (putUint32BE cmdLen) rest 2 4 rfl (put_uint32BE_length cmdLen)
  have read := uint32BE_put cmdLen []
  rw [List.append_nil] at read
  rw [declaredLength, middle, read]

theorem padded_decodes_iff (cmd : WireCommand) (sends : c.Sends cmd) (asserted : c.asserted cmd = true) (body : Bytes) (n : Nat)
    (serialised : c.body cmd = some body) (short : body.length < 2 ^ 32) (b : Slice)
    (bytes : b.bytes = commandHeader cmd.commandID (UInt32.ofNat body.length) ++ body ++ zeros n) :
    (c.fromBytes b).outcome = .returns cmd ↔ body.length ≤ (body.length + n) % 2 ^ 32 := by
  rw [List.append_assoc] at bytes
  have sized : (UInt32.ofNat body.length).toNat = body.length := UInt32.toNat_ofNat_of_lt' short
  have declared : declaredLength b.bytes = UInt32.ofNat body.length := by
    rw [bytes, declared_length_header]
  have first : b.bytes.getD 0 0 = cmd.commandID.byte := by
    rw [bytes]
    rfl
  have behind : b.bytes.drop cmdOverhead = body ++ zeros n := by
    rw [bytes, List.drop_left' (header_length _ _)]
  have accepted : headerAccepted b.bytes = true ↔ body.length ≤ (body.length + n) % 2 ^ 32 := by
    rw [headerAccepted, decide_eq_true_eq, declared, behind, sized, List.drop_left, UInt32.le_iff_toNat_le, sized,
      UInt32.toNat_ofNat', List.length_append, zeros_length]
    constructor
    · exact fun checks => checks.2.2.1
    · intro fits
      refine ⟨?_, ?_, fits, (all_zero_iff _).mpr (by rw [zeros_length])⟩
      · rw [bytes, List.length_append, header_length]
        exact Nat.le_add_right _ _
      · rw [bytes]
        rfl
  rw [← accepted]
  constructor
  · intro returned
    by_contra rejected
    rw [from_bytes_rejected c b (Bool.eq_false_iff.mpr rejected)] at returned
    exact absurd returned (fails_not_returned _ _)
  · intro checked
    obtain ⟨rest, tail, parsed⟩ := from_bytes_accepted c b checked
    rw [parsed, first, declared]
    exact parse_command_decodes c cmd sends asserted body (zeros n) serialised _ sized rest (tail.trans behind)

/-- What ToBytes returns is decoded as the command it was written for, unless the conversion of
the padded length to 32 bits makes it shorter than the body. -/
theorem command_round_trip_iff (lengths : MessageLengths) (optional : Bool) (cmd : WireCommand) (body : Bytes) (b : Slice)
    (sends : c.Sends cmd) (serialised : c.body cmd = some body) (short : body.length < 2 ^ 32)
    (written : c.toBytes lengths optional cmd = some b.bytes) :
    (c.fromBytes b).outcome = .returns cmd ↔ body.length ≤ (b.len - cmdOverhead) % 2 ^ 32 := by
  rw [Commands.toBytes] at written
  split at written
  · rename_i asserted
    rw [Commands.unpadded, serialised] at written
    obtain ⟨n, padded⟩ := pad_zeros lengths (cmd.padding optional) (commandHeader cmd.commandID (UInt32.ofNat body.length) ++ body)
    have bytes := (Option.some.inj written).symm.trans padded
    have length : b.len - cmdOverhead = body.length + n := by
      rw [← slice_bytes_length b, bytes, List.length_append, List.length_append, header_length, zeros_length]
      omega
    rw [length]
    exact padded_decodes_iff c cmd sends asserted body n serialised short b bytes
  · cases written

theorem vote_round_trip :
    ((newPKICommands (some shortKeys)).fromBytes
      (wholeSlice ([22, 0, 0, 0, 0, 12] ++ ([0, 0, 0, 0, 0, 0, 0, 5] ++ [7, 7]) ++ [1, 2]))).outcome =
      .returns (.vote 5 ⟨ed25519, [7, 7]⟩ [1, 2]) :=
  (command_round_trip_iff (newPKICommands (some shortKeys)) pkiLengths false (.vote 5 ⟨ed25519, [7, 7]⟩ [1, 2]) _ _
    ⟨shortKeys, rfl, rfl, rfl⟩ rfl (by decide +kernel) (by decide +kernel)).mpr (by decide +kernel)

def wideGeometry : Geometry := geometryFromUserForwardPayloadLength (.nike 32) 4294966214 true 5

/-- A geometry whose packets have 2^32 bytes: a RetrieveMessage is padded to as many bytes behind
its header, which is a length of zero in 32 bits. -/
theorem wide_padding_rejected :
    ∃ bytes, (newMixnetCommands wideGeometry).toBytes (mixnetLengths wideGeometry) true (.retrieveMessage 5) = some bytes ∧
      ((newMixnetCommands wideGeometry).fromBytes (wholeSlice bytes)).outcome ≠ .returns (.retrieveMessage 5) := by
  have longest : (mixnetLengths wideGeometry).clientToServer = 2 ^ 32 + 6 := by decide +kernel
  have padded := pad_to_max_eq (2 ^ 32 + 6) (commandHeader .retreiveMessage 4 ++ putUint32BE 5)
  refine ⟨padToMaxCommandSize (2 ^ 32 + 6) (commandHeader .retreiveMessage 4 ++ putUint32BE 5), ?_, ?_⟩
  · rw [← longest]
    rfl
  · intro returned
    have decoded := (padded_decodes_iff (newMixnetCommands wideGeometry) (.retrieveMessage 5) trivial rfl (putUint32BE 5) _ rfl
      (by decide +kernel) _ ((whole_slice_bytes _).trans padded)).mp returned
    rw [put_uint32BE_length, List.length_append, header_length, put_uint32BE_length] at decoded
    exact absurd decoded (by decide)

end RoundTrip

end Katzenpost
