import Katzenpost.Wire.Encoding

set_option autoImplicit false

namespace Katzenpost

open Go

def SignScheme.KeepsBytes (scheme : SignScheme) : Prop :=
  ∀ bytes publicKey, scheme.unmarshalBinaryPublicKey bytes = some publicKey → publicKey.raw = bytes

def Encodes (c : Commands) (id : CommandID) (bytes : Bytes) (cmd : WireCommand) : Prop :=
  cmd.commandID = id ∧ c.body cmd = some bytes

section Parsers

variable {α : Type} (c : Commands) (id : CommandID) (F : ByteField α) (e : WireError) (bytes : Bytes) (cmd : WireCommand)

theorem whole_encodes (command : α → WireCommand) (serialised : ∀ a, Encodes c id (F.put a) (command a))
    (returned : (decodeWhole F e (fun a => .returns (command a)) bytes).outcome = .returns cmd) : Encodes c id bytes cmd := by
  obtain ⟨a, rfl, same⟩ := (decode_whole_iff F e _ bytes cmd).mp returned
  rw [returns_outcome_iff] at same
  exact same ▸ serialised a

theorem front_encodes (command : α → Bytes → WireCommand)
    (serialised : ∀ a payload, Encodes c id (F.put a ++ payload) (command a payload))
    (returned : (decodeFront F e (fun a payload => .returns (command a payload)) bytes).outcome = .returns cmd) :
    Encodes c id bytes cmd := by
  obtain ⟨a, payload, rfl, same⟩ := (decode_front_iff F e _ bytes cmd).mp returned
  rw [returns_outcome_iff] at same
  exact same ▸ serialised a payload

theorem status_encodes (command : UInt8 → WireCommand) (b : Slice) (serialised : ∀ code, Encodes c id [code] (command code))
    (returned : (statusFromBytes e command b).outcome = .returns cmd) : Encodes c id b.bytes cmd := by
  rw [status_reads] at returned
  exact whole_encodes c id _ _ _ _ command serialised returned

theorem epoch_encodes (command : UInt64 → WireCommand) (b : Slice)
    (serialised : ∀ epoch, Encodes c id (putUint64BE epoch) (command epoch))
    (returned : (epochFromBytes command b).outcome = .returns cmd) : Encodes c id b.bytes cmd := by
  rw [epoch_reads] at returned
  exact whole_encodes c id _ _ _ _ command serialised returned

theorem upload_encodes (command : UInt64 → Bytes → WireCommand) (b : Slice)
    (serialised : ∀ epoch payload, Encodes c id (putUint64BE epoch ++ payload) (command epoch payload))
    (returned : (uploadFromBytes command b).outcome = .returns cmd) : Encodes c id b.bytes cmd := by
  rw [upload_reads] at returned
  exact front_encodes c id _ _ _ _ command serialised returned

theorem replica_message_encodes (b : Slice) (returned : (replicaMessageFromBytes c.replicaNikeScheme b).outcome = .returns cmd) :
    Encodes c .replicaMessage b.bytes cmd := by
  match carried : c.replicaNikeScheme with
  | none =>
      rw [carried] at returned
      exact absurd returned (panics_not_returned _)
  | some scheme =>
      rw [carried, replica_message_reads] at returned
      obtain ⟨header, ciphertext, same, read⟩ := (decode_front_iff _ _ _ _ _).mp returned
      split at read
      · exact absurd read (fails_not_returned _ _)
      · rw [returns_outcome_iff] at read
        rw [← read, same]
        exact ⟨rfl, rfl⟩

theorem message_encodes_iff (b : Slice) (returned : (messageFromBytes c.geo b).outcome = .returns cmd) :
    cmd.commandID = .message ∧ (c.body cmd = some b.bytes ↔ b.bytes.getD 0 0 = 2 → b.bytes.getD 1 0 = 0) := by
  match carried : c.geo with
  | none =>
      rw [carried, messageFromBytes] at returned
      split at returned
      · exact absurd returned (fails_not_returned _ _)
      · obtain ⟨_, _, returned⟩ := (returned_bind_iff _ _ _).mp returned
        obtain ⟨_, _, returned⟩ := (returned_bind_iff _ _ _).mp returned
        obtain ⟨_, _, returned⟩ := (returned_bind_iff _ _ _).mp returned
        obtain ⟨_, _, returned⟩ := (returned_bind_iff _ _ _).mp returned
        split at returned
        · exact absurd returned (panics_not_returned _)
        · split at returned
          · exact absurd returned (panics_not_returned _)
          · split at returned
            · exact absurd returned (panics_not_returned _)
            · exact absurd returned (fails_not_returned _ _)
  | some g =>
      rw [carried] at returned
      obtain ⟨⟨t, hint, seq⟩, body, same, read⟩ := (message_returns_iff b g cmd).mp returned
      have type : b.bytes.getD 0 0 = t := by
        rw [same]
        rfl
      have second : b.bytes.getD 1 0 = hint := by
        rw [same]
        rfl
      rw [type, second, same, Commands.body.eq_def, carried]
      cases read with
      | ack id payload bytes _ => exact ⟨rfl, iff_of_true (congrArg (fun body => some (_ ++ body)) bytes.symm) fun impossible => absurd impossible (by decide)⟩
      | plain payload bytes _ => exact ⟨rfl, iff_of_true (congrArg (fun body => some (_ ++ body)) bytes.symm) fun impossible => absurd impossible (by decide)⟩
      | empty bytes =>
          refine ⟨rfl, ?_⟩
          rw [bytes]
          constructor
          · intro equal _
            have hints := congrArg (fun all : Option Bytes => (all.getD []).getD 1 0) equal
            exact hints.symm
          · intro zero
            rw [zero rfl]
            rfl

variable (keys : ∀ scheme, c.pkiSignatureScheme = some scheme → scheme.KeepsBytes)
include keys

theorem get_vote_encodes (b : Slice) (returned : (getVoteFromBytes c.pkiSignatureScheme b).outcome = .returns cmd) :
    Encodes c .getVote b.bytes cmd := by
  match carried : c.pkiSignatureScheme with
  | none =>
      rw [carried] at returned
      exact absurd returned (panics_not_returned _)
  | some scheme =>
      rw [carried, get_vote_reads] at returned
      obtain ⟨⟨epoch, key⟩, same, unmarshalled⟩ := (decode_whole_iff _ _ _ _ _).mp returned
      obtain ⟨publicKey, read, rfl⟩ := (unmarshal_key_returns_iff _ _ _ _).mp unmarshalled
      refine ⟨rfl, ?_⟩
      rw [same, Commands.body, keys scheme carried _ _ read]
      rfl

theorem signed_encodes (command : UInt64 → PublicKey → Bytes → WireCommand) (b : Slice)
    (serialised : ∀ epoch publicKey payload,
      Encodes c id ((putUint64BE epoch ++ publicKey.raw) ++ payload) (command epoch publicKey payload))
    (returned : (signedFromBytes e command c.pkiSignatureScheme b).outcome = .returns cmd) : Encodes c id b.bytes cmd := by
  match carried : c.pkiSignatureScheme with
  | none =>
      rw [carried] at returned
      exact absurd returned (panics_not_returned _)
  | some scheme =>
      rw [carried, signed_reads] at returned
      obtain ⟨⟨epoch, key⟩, payload, same, unmarshalled⟩ := (decode_front_iff _ _ _ _ _).mp returned
      obtain ⟨publicKey, read, rfl⟩ := (unmarshal_key_returns_iff _ _ _ _).mp unmarshalled
      have encoded := serialised epoch publicKey payload
      rw [keys scheme carried _ _ read] at encoded
      rw [same]
      exact encoded

end Parsers

section Canonical

def bodyCanonical (id : CommandID) (bytes : Bytes) : Bool :=
  match id with
  | .replicaDecoy => bytes.length = 0
  | .consensus2 => consensus2BaseLength ≤ bytes.length
  | .message => bytes.getD 0 0 = 2 → bytes.getD 1 0 = 0
  | _ => true

variable (c : Commands)

theorem consensus2_command (b : Slice) (cmd : WireCommand) (returned : (consensus2FromBytes b).outcome = .returns cmd) :
    ∃ errorCode chunkNum chunkTotal payload, cmd = .consensus2 errorCode chunkNum chunkTotal payload := by
  rw [consensus2FromBytes] at returned
  split at returned
  · exact absurd returned (fails_not_returned _ _)
  · obtain ⟨_, _, returned⟩ := (returned_bind_iff _ _ _).mp returned
    obtain ⟨_, _, returned⟩ := (returned_bind_iff _ _ _).mp returned
    obtain ⟨_, _, returned⟩ := (returned_bind_iff _ _ _).mp returned
    split at returned
    · obtain ⟨_, _, returned⟩ := (returned_bind_iff _ _ _).mp returned
      rw [returns_outcome_iff] at returned
      exact ⟨_, _, _, _, returned.symm⟩
    · rw [returns_outcome_iff] at returned
      exact ⟨_, _, _, _, returned.symm⟩

theorem consensus2_encodes_iff (b : Slice) (cmd : WireCommand) (returned : (consensus2FromBytes b).outcome = .returns cmd) :
    cmd.commandID = .consensus2 ∧ (c.body cmd = some b.bytes ↔ consensus2BaseLength ≤ b.len) := by
  by_cases long : consensus2BaseLength ≤ b.len
  · rw [consensus2_reads b .invalidCommand long] at returned
    have encoded := front_encodes c .consensus2 _ _ _ _ _ (fun _ _ => ⟨rfl, rfl⟩) returned
    exact ⟨encoded.1, iff_of_true encoded.2 long⟩
  · obtain ⟨errorCode, chunkNum, chunkTotal, payload, rfl⟩ := consensus2_command b cmd returned
    refine ⟨rfl, fun same => ?_, fun impossible => absurd impossible long⟩
    -- The body of a Consensus2 has its header.
    have length := congrArg List.length (Option.some.inj same)
    rw [List.length_append, consensus2Header.put_length, slice_bytes_length] at length
    have header : consensus2Header.size = consensus2BaseLength := rfl
    omega

variable (keys : ∀ scheme, c.pkiSignatureScheme = some scheme → scheme.KeepsBytes)
include keys

theorem parse_body_encodes_iff (id : CommandID) (b : Slice) (cmd : WireCommand)
    (returned : (c.parseBody id b).outcome = .returns cmd) :
    cmd.commandID = id ∧ (c.body cmd = some b.bytes ↔ bodyCanonical id b.bytes = true) := by
  have always : ∀ id, (bodyCanonical id b.bytes = true) → Encodes c id b.bytes cmd →
      cmd.commandID = id ∧ (c.body cmd = some b.bytes ↔ bodyCanonical id b.bytes = true) :=
    fun _ canonical encoded => ⟨encoded.1, iff_of_true encoded.2 canonical⟩
  cases id with
  | replicaDecoy =>
      cases (returns_outcome_iff _ _).mp returned
      refine ⟨rfl, ?_⟩
      rw [bodyCanonical, decide_eq_true_eq, List.length_eq_zero_iff]
      exact ⟨fun same => (Option.some.inj same).symm, fun empty => congrArg some empty.symm⟩
  | consensus2 =>
      rw [bodyCanonical, decide_eq_true_eq, slice_bytes_length]
      exact consensus2_encodes_iff c b cmd returned
  | message =>
      rw [bodyCanonical, decide_eq_true_eq]
      exact message_encodes_iff c cmd b returned
  | noOp => exact absurd returned (fails_not_returned _ _)
  | disconnect => exact absurd returned (fails_not_returned _ _)
  | sendPacket => exact always _ rfl ((returns_outcome_iff _ _).mp returned ▸ ⟨rfl, rfl⟩)
  | sendRetrievePacket => exact always _ rfl ((returns_outcome_iff _ _).mp returned ▸ ⟨rfl, rfl⟩)
  | sendRetrievePacketReply =>
      obtain ⟨surbID, payload, same, rfl⟩ := (send_retrieve_packet_reply_returns_iff b cmd).mp returned
      exact always _ rfl ⟨rfl, congrArg some same.symm⟩
  | replicaMessage => exact always _ rfl (replica_message_encodes c cmd b returned)
  | replicaMessageReply =>
      rw [Commands.parseBody, replica_message_reply_reads] at returned
      exact always _ rfl (front_encodes c _ _ _ _ _ _ (fun _ _ => ⟨rfl, rfl⟩) returned)
  | replicaWrite =>
      rw [Commands.parseBody, replica_write_reads] at returned
      exact always _ rfl (front_encodes c _ _ _ _ _ _ (fun _ _ => ⟨rfl, rfl⟩) returned)
  | retreiveMessage =>
      rw [Commands.parseBody, retreive_message_reads] at returned
      exact always _ rfl (whole_encodes c _ _ _ _ _ _ (fun _ => ⟨rfl, rfl⟩) returned)
  | consensus =>
      rw [Commands.parseBody, consensus_reads] at returned
      exact always _ rfl (front_encodes c _ _ _ _ _ _ (fun _ _ => ⟨rfl, rfl⟩) returned)
  | getConsensus => exact always _ rfl (epoch_encodes c _ cmd _ b (fun _ => ⟨rfl, rfl⟩) returned)
  | getConsensus2 => exact always _ rfl (epoch_encodes c _ cmd _ b (fun _ => ⟨rfl, rfl⟩) returned)
  | postDescriptor => exact always _ rfl (upload_encodes c _ cmd _ b (fun _ _ => ⟨rfl, rfl⟩) returned)
  | postReplicaDescriptor => exact always _ rfl (upload_encodes c _ cmd _ b (fun _ _ => ⟨rfl, rfl⟩) returned)
  | postDescriptorStatus => exact always _ rfl (status_encodes c _ _ cmd _ b (fun _ => ⟨rfl, rfl⟩) returned)
  | postReplicaDescriptorStatus => exact always _ rfl (status_encodes c _ _ cmd _ b (fun _ => ⟨rfl, rfl⟩) returned)
  | replicaWriteReply => exact always _ rfl (status_encodes c _ _ cmd _ b (fun _ => ⟨rfl, rfl⟩) returned)
  | voteStatus => exact always _ rfl (status_encodes c _ _ cmd _ b (fun _ => ⟨rfl, rfl⟩) returned)
  | revealStatus => exact always _ rfl (status_encodes c _ _ cmd _ b (fun _ => ⟨rfl, rfl⟩) returned)
  | sigStatus => exact always _ rfl (status_encodes c _ _ cmd _ b (fun _ => ⟨rfl, rfl⟩) returned)
  | certStatus => exact always _ rfl (status_encodes c _ _ cmd _ b (fun _ => ⟨rfl, rfl⟩) returned)
  | getVote => exact always _ rfl (get_vote_encodes c cmd keys b returned)
  | vote => exact always _ rfl (signed_encodes c _ _ cmd keys _ b (fun _ _ _ => ⟨rfl, rfl⟩) returned)
  | certificate => exact always _ rfl (signed_encodes c _ _ cmd keys _ b (fun _ _ _ => ⟨rfl, rfl⟩) returned)
  | reveal => exact always _ rfl (signed_encodes c _ _ cmd keys _ b (fun _ _ _ => ⟨rfl, rfl⟩) returned)
  | sig => exact always _ rfl (signed_encodes c _ _ cmd keys _ b (fun _ _ _ => ⟨rfl, rfl⟩) returned)

theorem parse_command_encodes_iff (byte : UInt8) (cmdLen : UInt32) (rest : Slice) (inside : cmdLen.toNat ≤ rest.len)
    (cmd : WireCommand) (returned : (c.parseCommand byte cmdLen rest).outcome = .returns cmd) :
    CommandID.ofByte byte = some cmd.commandID ∧
      (c.body cmd = some (rest.bytes.take cmdLen.toNat) ↔
        bodyCanonical cmd.commandID (rest.bytes.take cmdLen.toNat) = true) := by
  obtain ⟨body, read, bytes⟩ := @span_read WireError rest 0 cmdLen.toNat (Nat.zero_le _) inside
  have front : body.bytes = rest.bytes.take cmdLen.toNat := bytes
  rw [Commands.parseCommand] at returned
  cases known : CommandID.ofByte byte with
  | none =>
      rw [known] at returned
      exact absurd returned (fails_not_returned _ _)
  | some id =>
      have parsed : (c.parseBody id body).outcome = .returns cmd → some id = some cmd.commandID ∧
          (c.body cmd = some (rest.bytes.take cmdLen.toNat) ↔
            bodyCanonical cmd.commandID (rest.bytes.take cmdLen.toNat) = true) := by
        intro returned
        obtain ⟨same, encoded⟩ := parse_body_encodes_iff c keys id body cmd returned
        rw [← front, same]
        exact ⟨rfl, encoded⟩
      rw [known] at returned
      dsimp only at returned
      rw [read, Reading.returned_bind] at returned
      by_cases empty : cmdLen = 0
      · rw [if_pos empty] at returned
        have none : rest.bytes.take cmdLen.toNat = [] := by
          rw [empty]
          exact List.take_zero
        cases switch : emptyBody id with
        | parse =>
            rw [switch] at returned
            exact parsed returned
        | invalid =>
            rw [switch] at returned
            exact absurd returned (fails_not_returned _ _)
        | command inline =>
            rw [switch] at returned
            rw [(returns_outcome_iff _ _).mp returned] at switch
            rw [none]
            cases id <;> cases switch <;> exact ⟨rfl, iff_of_true rfl rfl⟩
      · rw [if_neg empty] at returned
        exact parsed returned

end Canonical

section FromBytes

def unpaddedPart (bytes : Bytes) : Bytes := bytes.take (cmdOverhead + (declaredLength bytes).toNat)

def declaredBody (bytes : Bytes) : Bytes := (bytes.drop cmdOverhead).take (declaredLength bytes).toNat

def canonical (bytes : Bytes) : Bool :=
  match CommandID.ofByte (bytes.getD 0 0) with
  | none => true
  | some id => bodyCanonical id (declaredBody bytes)

theorem unpadded_part_eq (bytes : Bytes) (id : CommandID) (accepted : headerAccepted bytes = true)
    (known : CommandID.ofByte (bytes.getD 0 0) = some id) :
    unpaddedPart bytes = commandHeader id (declaredLength bytes) ++ declaredBody bytes := by
  obtain ⟨long, reserved, _, _⟩ := of_decide_eq_true accepted
  have sized : 4 ≤ (part bytes 2 4).length := Nat.le_of_eq (part_length bytes 2 4 long).symm
  have first : id.byte = bytes.getD 0 0 := command_byte_of_id _ _ known
  rw [unpaddedPart, List.take_add, commandHeader, declaredLength, put_uint32BE_read _ sized, first, ← reserved]
  refine congrArg (· ++ _) ?_
  match bytes, long with
  | b0 :: b1 :: tail, _ =>
      change b0 :: b1 :: tail.take 4 = b0 :: b1 :: (tail.take 4).take 4
      rw [List.take_take]
      rfl

theorem header_length (id : CommandID) (cmdLen : UInt32) : (commandHeader id cmdLen).length = cmdOverhead := by
  rw [commandHeader, List.length_append, put_uint32BE_length]
  rfl

theorem decoded_unpadded_iff (c : Commands) (keys : ∀ scheme, c.pkiSignatureScheme = some scheme → scheme.KeepsBytes)
    (b : Slice) (cmd : WireCommand) (decoded : (c.fromBytes b).outcome = .returns cmd) :
    c.unpadded cmd = some (unpaddedPart b.bytes) ↔ canonical b.bytes = true := by
  match checked : headerAccepted b.bytes with
  | false =>
      rw [from_bytes_rejected c b checked] at decoded
      exact absurd decoded (fails_not_returned _ _)
  | true =>
      obtain ⟨rest, tail, parsed⟩ := from_bytes_accepted c b checked
      have within := (of_decide_eq_true checked).2.2.1
      rw [← tail, slice_bytes_length] at within
      have inside : (declaredLength b.bytes).toNat ≤ rest.len := uint32_le _ _ within
      rw [parsed] at decoded
      obtain ⟨known, encoded⟩ := parse_command_encodes_iff c keys _ _ rest inside cmd decoded
      rw [tail] at encoded
      have sized : (declaredBody b.bytes).length = (declaredLength b.bytes).toNat := by
        rw [declaredBody, List.length_take, ← tail, slice_bytes_length, Nat.min_eq_left inside]
      rw [canonical, known, unpadded_part_eq b.bytes _ checked known]
      refine Iff.trans ?_ encoded
      constructor
      · intro same
        obtain ⟨body, serialised, equal⟩ := Option.map_eq_some_iff.mp same
        rw [serialised, (List.append_inj equal (by rw [header_length, header_length])).2]
        rfl
      · intro serialised
        rw [Commands.unpadded, serialised]
        change some (commandHeader _ (UInt32.ofNat (declaredBody b.bytes).length) ++ declaredBody b.bytes) = _
        rw [sized, UInt32.ofNat_toNat]

/-- A decoded command is serialised as the bytes before the padding exactly if the bytes are
canonical. Hence two canonical byte strings of one command agree before the padding. -/
theorem encodings_canonical_iff (c : Commands)
    (keys : ∀ scheme, c.pkiSignatureScheme = some scheme → scheme.KeepsBytes) :
    (∀ (b : Slice) (cmd : WireCommand), (c.fromBytes b).outcome = .returns cmd →
      (c.unpadded cmd = some (unpaddedPart b.bytes) ↔ canonical b.bytes = true)) ∧
    ∀ (b other : Slice) (cmd : WireCommand), (c.fromBytes b).outcome = .returns cmd → (c.fromBytes other).outcome = .returns cmd →
      canonical b.bytes = true → canonical other.bytes = true → unpaddedPart b.bytes = unpaddedPart other.bytes := by
  refine ⟨decoded_unpadded_iff c keys, ?_⟩
  intro b other cmd decoded decodedOther first second
  have one := (decoded_unpadded_iff c keys b cmd decoded).mpr first
  have two := (decoded_unpadded_iff c keys other cmd decodedOther).mpr second
  exact Option.some.inj (one.symm.trans two)

def shortKeys : SignScheme := ⟨2, fun bytes => some ⟨ed25519, bytes⟩⟩

theorem short_keys_keep_bytes : shortKeys.KeepsBytes := by
  intro bytes publicKey unmarshalled
  cases unmarshalled
  rfl

def paddedVote : Bytes := [22, 0, 0, 0, 0, 12] ++ [0, 0, 0, 0, 0, 0, 0, 5] ++ [7, 7] ++ [1, 2] ++ [0, 0, 0]

theorem padded_vote_canonical :
    ((newPKICommands (some shortKeys)).fromBytes (wholeSlice paddedVote)).outcome = .returns (.vote 5 ⟨ed25519, [7, 7]⟩ [1, 2]) ∧
      (newPKICommands (some shortKeys)).unpadded (.vote 5 ⟨ed25519, [7, 7]⟩ [1, 2]) = some (unpaddedPart paddedVote) := by
  have decoded : ((newPKICommands (some shortKeys)).fromBytes (wholeSlice paddedVote)).outcome =
      .returns (.vote 5 ⟨ed25519, [7, 7]⟩ [1, 2]) := by decide +kernel
  have keys : ∀ scheme, (newPKICommands (some shortKeys)).pkiSignatureScheme = some scheme → scheme.KeepsBytes := by
    intro scheme carried
    cases carried
    exact short_keys_keep_bytes
  have exactly := ((encodings_canonical_iff (newPKICommands (some shortKeys)) keys).1 (wholeSlice paddedVote) _ decoded).mpr
    (by decide +kernel)
  rw [whole_slice_bytes] at exactly
  exact ⟨decoded, exactly⟩

def decoyWithBody : Bytes := [33, 0, 0, 0, 0, 2, 7, 9]
def emptyDecoy : Bytes := [33, 0, 0, 0, 0, 0]
def shortConsensus2 : Bytes := [31, 0, 0, 0, 0, 1, 0] ++ zeros 8
def plainConsensus2 : Bytes := [31, 0, 0, 0, 0, 9] ++ zeros 9

def emptyQueue (g : Geometry) (hint : UInt8) : Bytes :=
  commandHeader .message (UInt32.ofNat (messageBaseLength + messageEmptyPaddingLength g)) ++
    (messageHeader.put (2, hint, 5) ++ zeros (messageEmptyPaddingLength g))

def emptyQueueDecoded (hint : UInt8) : Option (Call WireError WireCommand) :=
  mixnetInstance.geo.map fun g => (mixnetInstance.fromBytes (wholeSlice (emptyQueue g hint))).outcome

/-- A decoy with a body is the decoy without one, the chunk numbers of a short Consensus2 come
from the padding, and the hint of an empty queue is ignored. -/
theorem ignored_bytes_decoded :
    (mixnetInstance.fromBytes (wholeSlice decoyWithBody)).outcome = .returns .replicaDecoy ∧
      (mixnetInstance.fromBytes (wholeSlice emptyDecoy)).outcome = .returns .replicaDecoy ∧
      mixnetInstance.unpadded .replicaDecoy ≠ some (unpaddedPart decoyWithBody) ∧
      unpaddedPart decoyWithBody ≠ unpaddedPart emptyDecoy ∧
      (mixnetInstance.fromBytes (wholeSlice shortConsensus2)).outcome = .returns (.consensus2 0 0 0 []) ∧
      (mixnetInstance.fromBytes (wholeSlice plainConsensus2)).outcome = .returns (.consensus2 0 0 0 []) ∧
      unpaddedPart shortConsensus2 ≠ unpaddedPart plainConsensus2 ∧
      emptyQueueDecoded 9 = some (.returns (.messageEmpty 5)) ∧ emptyQueueDecoded 0 = some (.returns (.messageEmpty 5)) := by
  decide +kernel

end FromBytes

end Katzenpost
