import Katzenpost.Wire.Commands

set_option autoImplicit false

namespace Katzenpost

open Go Reading

section Parsers

variable (b : Slice)

theorem status_sound (e : WireError) (command : UInt8 → WireCommand) : (statusFromBytes e command b).Sound := by
  rw [statusFromBytes]
  split
  · exact sound_fails e
  · rename_i sized
    rw [not_not, postDescriptorStatusLength] at sized
    exact sound_index b 0 _ (by omega) (sound_returns _)

theorem retreive_message_sound : (retreiveMessageFromBytes b).Sound := by
  rw [retreiveMessageFromBytes]
  split
  · exact sound_fails _
  · rename_i sized
    rw [not_not, retreiveMessageLength] at sized
    exact sound_span b 0 4 _ (by omega) (by omega) fun _ _ => sound_returns _

theorem epoch_sound (command : UInt64 → WireCommand) : (epochFromBytes command b).Sound := by
  rw [epochFromBytes]
  split
  · exact sound_fails _
  · rename_i sized
    rw [not_not, getConsensusLength] at sized
    exact sound_span b 0 8 _ (by omega) (by omega) fun _ _ => sound_returns _

theorem consensus_sound : (consensusFromBytes b).Sound := by
  rw [consensusFromBytes]
  split
  · exact sound_fails _
  · rename_i long
    rw [consensusBaseLength] at long
    apply sound_index b 0 _ (by omega)
    split
    · exact sound_rest b 1 _ (by omega) fun _ _ => sound_returns _
    · exact sound_returns _

theorem upload_sound (command : UInt64 → Bytes → WireCommand) : (uploadFromBytes command b).Sound := by
  rw [uploadFromBytes]
  split
  · exact sound_fails _
  · rename_i long
    rw [postDescriptorLength] at long
    apply sound_span b 0 8 _ (by omega) (by omega)
    intro _ _
    exact sound_rest b 8 _ (by omega) fun _ _ => sound_returns _

theorem replica_write_sound : (replicaWriteFromBytes b).Sound := by
  rw [replicaWriteFromBytes]
  split
  · exact sound_fails _
  · rename_i long
    rw [boxIDSize, bacapSignatureSize] at long
    apply sound_span b 0 32 _ (by omega) (by omega)
    intro _ _
    apply sound_span b 32 96 _ (by omega) (by omega)
    intro _ _
    exact sound_rest b 96 _ (by omega) fun _ _ => sound_returns _

theorem replica_message_reply_sound : (replicaMessageReplyFromBytes b).Sound := by
  rw [replicaMessageReplyFromBytes]
  split
  · exact sound_fails _
  · rename_i long
    apply sound_index b 0 _ (by omega)
    apply sound_span b 1 33 _ (by omega) (by omega)
    intro _ _
    apply sound_index b 33 _ (by omega)
    exact sound_rest b 34 _ (by omega) fun _ _ => sound_returns _

theorem unmarshal_sound (scheme : SignScheme) (key : Slice) (f : PublicKey → Parse) (next : ∀ publicKey, (f publicKey).Sound) :
    (unmarshalKey scheme key >>= f).Sound := by
  rw [unmarshalKey]
  split
  · exact sound_fails _
  · exact next _

theorem get_vote_sound_iff (scheme : Option SignScheme) : (getVoteFromBytes scheme b).Sound ↔ scheme.isSome = true := by
  cases scheme with
  | none => exact ⟨fun sound => absurd sound not_sound_panics, fun impossible => nomatch impossible⟩
  | some scheme =>
      refine ⟨fun _ => rfl, fun _ => ?_⟩
      rw [getVoteFromBytes, deref, returned_bind]
      split
      · exact sound_fails _
      · rename_i sized
        rw [not_not, overhead] at sized
        apply sound_span b 0 8 _ (by omega) (by omega)
        intro _ _
        apply sound_span b 8 _ _ (by omega) (by omega)
        intro key _
        exact unmarshal_sound scheme key _ fun _ => sound_returns _

theorem signed_sound_iff (e : WireError) (command : UInt64 → PublicKey → Bytes → WireCommand) (scheme : Option SignScheme) :
    (signedFromBytes e command scheme b).Sound ↔ scheme.isSome = true := by
  cases scheme with
  | none => exact ⟨fun sound => absurd sound not_sound_panics, fun impossible => nomatch impossible⟩
  | some scheme =>
      refine ⟨fun _ => rfl, fun _ => ?_⟩
      rw [signedFromBytes, deref, returned_bind]
      split
      · exact sound_fails _
      · rename_i long
        rw [overhead] at long
        apply sound_span b 0 8 _ (by omega) (by omega)
        intro _ _
        apply sound_span b 8 _ _ (by omega) (by omega)
        intro key _
        apply unmarshal_sound scheme key
        intro _
        exact sound_rest b _ _ (by rw [overhead]; omega) fun _ _ => sound_returns _

theorem replica_message_sound_iff (scheme : Option ReplicaNike) :
    (replicaMessageFromBytes scheme b).Sound ↔ scheme.isSome = true := by
  cases scheme with
  | none => exact ⟨fun sound => absurd sound not_sound_panics, fun impossible => nomatch impossible⟩
  | some scheme =>
      refine ⟨fun _ => rfl, fun _ => ?_⟩
      rw [replicaMessageFromBytes, deref, returned_bind]
      split
      · exact sound_fails _
      · rename_i long
        apply sound_span b 0 _ _ (by omega) (by omega)
        intro _ _
        apply sound_span b _ _ _ (by omega) (by omega)
        intro _ _
        exact sound_rest b _ _ (by omega) fun _ _ => sound_returns _

theorem send_retrieve_packet_reply_sound_iff : (sendRetrievePacketReplyFromBytes b).Sound ↔ surbIDLength ≤ b.len := by
  constructor
  · intro sound
    by_contra short
    exact span_outside b 0 surbIDLength (by omega) (sound_of_bind _ _ sound)
  · intro long
    apply sound_span b 0 _ _ (Nat.zero_le _) long
    intro _ _
    exact sound_rest b _ _ long fun _ _ => sound_returns _

theorem consensus2_sound_iff : (consensus2FromBytes b).Sound ↔ b.len < consensusBaseLength ∨ consensus2BaseLength ≤ b.len := by
  rw [consensus2FromBytes]
  by_cases empty : b.len < consensusBaseLength
  · rw [if_pos empty]
    exact ⟨fun _ => Or.inl empty, fun _ => sound_fails _⟩
  · rw [if_neg empty, index_inside b 0 (by rw [consensusBaseLength] at empty; omega), returned_bind]
    constructor
    · intro sound
      right
      by_contra short
      rw [consensus2BaseLength] at short
      by_cases first : b.len < 5
      · exact span_outside b 1 5 first (sound_of_bind _ _ sound)
      · obtain ⟨chunkNum, read, _⟩ := @span_inside WireError b 1 5 (by omega) (by omega)
        rw [read, returned_bind] at sound
        exact span_outside b 5 9 (by omega) (sound_of_bind _ _ sound)
    · intro long
      have enough : 9 ≤ b.len := long.resolve_left empty
      apply sound_span b 1 5 _ (by omega) (by omega)
      intro _ _
      apply sound_span b 5 9 _ (by omega) (by omega)
      intro _ _
      split
      · exact sound_rest b 9 _ enough fun _ _ => sound_returns _
      · exact sound_returns _

end Parsers

section Message

variable (b : Slice) (geo : Option Geometry) (hint : UInt8) (seq : UInt32)

theorem message_ack_sound_iff : (messageACKFromBytes geo hint seq b).Sound ↔ geo.isSome = true := by
  cases geo with
  | none => exact ⟨fun sound => absurd sound not_sound_panics, fun impossible => nomatch impossible⟩
  | some g =>
      refine ⟨fun _ => rfl, fun _ => ?_⟩
      rw [messageACKFromBytes, deref, returned_bind]
      split
      · exact sound_fails _
      · rename_i sized
        rw [not_not] at sized
        apply sound_span b 0 _ _ (Nat.zero_le _) (by omega)
        intro _ _
        exact sound_rest b _ _ (by omega) fun _ _ => sound_returns _

theorem message_message_sound_iff : (messageMessageFromBytes geo hint seq b).Sound ↔ geo.isSome = true := by
  cases geo with
  | none => exact ⟨fun sound => absurd sound not_sound_panics, fun impossible => nomatch impossible⟩
  | some g =>
      refine ⟨fun _ => rfl, fun _ => ?_⟩
      rw [messageMessageFromBytes, deref, returned_bind]
      split
      · exact sound_fails _
      · rename_i sized
        rw [not_not] at sized
        apply sound_rest b _ _ (by omega)
        intro _ _
        split
        · exact sound_span b 0 _ _ (Nat.zero_le _) (by omega) fun _ _ => sound_returns _
        · exact sound_fails _

theorem message_empty_sound_iff : (messageEmptyFromBytes geo seq b).Sound ↔ geo.isSome = true := by
  cases geo with
  | none => exact ⟨fun sound => absurd sound not_sound_panics, fun impossible => nomatch impossible⟩
  | some g =>
      refine ⟨fun _ => rfl, fun _ => ?_⟩
      rw [messageEmptyFromBytes, deref, returned_bind]
      split
      · exact sound_fails _
      · split
        · exact sound_returns _
        · exact sound_fails _

theorem message_sound_iff :
    (messageFromBytes geo b).Sound ↔ b.len < messageBaseLength ∨ 2 < b.cells.getD 0 0 ∨ geo.isSome = true := by
  rw [messageFromBytes]
  by_cases short : b.len < messageBaseLength
  · rw [if_pos short]
    exact ⟨fun _ => Or.inl short, fun _ => sound_fails _⟩
  · have enough : 6 ≤ b.len := Nat.le_of_not_lt short
    obtain ⟨seq, readSeq, _⟩ := @span_inside WireError b 2 6 (by omega) (by omega)
    obtain ⟨body, readBody, _⟩ := @rest_inside WireError b messageBaseLength enough
    rw [if_neg short, index_inside b 0 (by omega), returned_bind, index_inside b 1 (by omega), returned_bind, readSeq, returned_bind,
      readBody, returned_bind]
    generalize b.cells.getD 0 0 = t
    by_cases ack : t = 1
    · subst ack
      rw [if_pos rfl, message_ack_sound_iff]
      simp [short]
    · rw [if_neg ack]
      by_cases plain : t = 0
      · subst plain
        rw [if_pos rfl, message_message_sound_iff]
        simp [short]
      · rw [if_neg plain]
        by_cases empty : t = 2
        · subst empty
          rw [if_pos rfl, message_empty_sound_iff]
          simp [short]
        · rw [if_neg empty]
          have larger : 2 < t := by
            have one : t.toNat ≠ 1 := fun same => ack (UInt8.toNat_inj.mp same)
            have zero : t.toNat ≠ 0 := fun same => plain (UInt8.toNat_inj.mp same)
            have two : t.toNat ≠ 2 := fun same => empty (UInt8.toNat_inj.mp same)
            rw [UInt8.lt_iff_toNat_lt]
            change 2 < t.toNat
            omega
          exact ⟨fun _ => Or.inr (Or.inl larger), fun _ => sound_fails _⟩

end Message

def bodyServed (c : Commands) (id : CommandID) (cmdLen : Nat) (first : UInt8) : Bool :=
  match id with
  | .sendRetrievePacketReply => surbIDLength ≤ cmdLen
  | .consensus2 => cmdLen < consensusBaseLength ∨ consensus2BaseLength ≤ cmdLen
  | .replicaMessage => c.replicaNikeScheme.isSome
  | .getVote => c.pkiSignatureScheme.isSome
  | .vote => c.pkiSignatureScheme.isSome
  | .certificate => c.pkiSignatureScheme.isSome
  | .reveal => c.pkiSignatureScheme.isSome
  | .sig => c.pkiSignatureScheme.isSome
  | .message => cmdLen < messageBaseLength ∨ 2 < first ∨ c.geo.isSome
  | _ => true

theorem parse_body_sound_iff (c : Commands) (id : CommandID) (b : Slice) :
    (c.parseBody id b).Sound ↔ bodyServed c id b.len (b.cells.getD 0 0) = true := by
  cases id with
  | sendRetrievePacketReply =>
      exact (send_retrieve_packet_reply_sound_iff b).trans (decide_eq_true_iff (p := surbIDLength ≤ b.len)).symm
  | consensus2 => exact (consensus2_sound_iff b).trans (decide_eq_true_iff (p := _ ∨ _)).symm
  | message => exact (message_sound_iff b c.geo).trans (decide_eq_true_iff (p := _ ∨ _ ∨ _)).symm
  | replicaMessage => exact replica_message_sound_iff b c.replicaNikeScheme
  | getVote => exact get_vote_sound_iff b c.pkiSignatureScheme
  | vote => exact signed_sound_iff b _ _ c.pkiSignatureScheme
  | certificate => exact signed_sound_iff b _ _ c.pkiSignatureScheme
  | reveal => exact signed_sound_iff b _ _ c.pkiSignatureScheme
  | sig => exact signed_sound_iff b _ _ c.pkiSignatureScheme
  | noOp => exact iff_of_true (sound_fails _) rfl
  | disconnect => exact iff_of_true (sound_fails _) rfl
  | sendPacket => exact iff_of_true (sound_returns _) rfl
  | sendRetrievePacket => exact iff_of_true (sound_returns _) rfl
  | replicaDecoy => exact iff_of_true (sound_returns _) rfl
  | replicaMessageReply => exact iff_of_true (replica_message_reply_sound b) rfl
  | postReplicaDescriptorStatus => exact iff_of_true (status_sound b _ _) rfl
  | postReplicaDescriptor => exact iff_of_true (upload_sound b _) rfl
  | replicaWrite => exact iff_of_true (replica_write_sound b) rfl
  | replicaWriteReply => exact iff_of_true (status_sound b _ _) rfl
  | retreiveMessage => exact iff_of_true (retreive_message_sound b) rfl
  | getConsensus => exact iff_of_true (epoch_sound b _) rfl
  | getConsensus2 => exact iff_of_true (epoch_sound b _) rfl
  | consensus => exact iff_of_true (consensus_sound b) rfl
  | postDescriptor => exact iff_of_true (upload_sound b _) rfl
  | postDescriptorStatus => exact iff_of_true (status_sound b _ _) rfl
  | voteStatus => exact iff_of_true (status_sound b _ _) rfl
  | revealStatus => exact iff_of_true (status_sound b _ _) rfl
  | sigStatus => exact iff_of_true (status_sound b _ _) rfl
  | certStatus => exact iff_of_true (status_sound b _ _) rfl

def declaredLength (bytes : Bytes) : UInt32 := uint32BE (part bytes 2 4)

def headerAccepted (bytes : Bytes) : Bool :=
  cmdOverhead ≤ bytes.length ∧ bytes.getD 1 0 = 0 ∧
    declaredLength bytes ≤ UInt32.ofNat (bytes.drop cmdOverhead).length ∧
    ((bytes.drop cmdOverhead).drop (declaredLength bytes).toNat).all (· = 0) = true

def served (c : Commands) (bytes : Bytes) : Bool :=
  !headerAccepted bytes ||
    match CommandID.ofByte (bytes.getD 0 0) with
    | none => true
    | some id => (declaredLength bytes = 0 ∧ id ≠ .sendRetrievePacketReply) ||
        bodyServed c id (declaredLength bytes).toNat ((bytes.drop cmdOverhead).getD 0 0)

theorem served_rejected (c : Commands) (bytes : Bytes) (rejected : headerAccepted bytes = false) : served c bytes = true := by
  rw [served, rejected]
  rfl

theorem body_served_empty (c : Commands) (id : CommandID) (first other : UInt8) :
    bodyServed c id 0 first = bodyServed c id 0 other := by
  cases id with
  | message => simp [bodyServed, messageBaseLength]
  | _ => rfl

section FromBytes

variable (c : Commands)

theorem parse_command_sound_iff (id : UInt8) (cmdLen : UInt32) (b : Slice) (inside : cmdLen.toNat ≤ b.len) :
    (c.parseCommand id cmdLen b).Sound ↔ (match CommandID.ofByte id with
      | none => true
      | some id => (cmdLen = 0 ∧ id ≠ .sendRetrievePacketReply) || bodyServed c id cmdLen.toNat (b.cells.getD 0 0)) = true := by
  rw [Commands.parseCommand]
  cases CommandID.ofByte id with
  | none => exact iff_of_true (sound_fails _) rfl
  | some id =>
      obtain ⟨body, read, sized, same⟩ := @span_inside WireError b 0 cmdLen.toNat (Nat.zero_le _) inside
      have parsed : (b.span 0 cmdLen.toNat >>= c.parseBody id).Sound ↔
          bodyServed c id cmdLen.toNat (b.cells.getD 0 0) = true := by
        rw [read, returned_bind, parse_body_sound_iff, sized, same, Nat.sub_zero, List.drop_zero]
      dsimp only
      by_cases empty : cmdLen = 0
      · subst empty
        rw [if_pos rfl]
        cases id with
        | sendRetrievePacketReply => simpa [emptyBody] using parsed
        | sendPacket => exact iff_of_true (parsed.mpr rfl) rfl
        | postDescriptor => exact iff_of_true (parsed.mpr rfl) rfl
        | sendRetrievePacket => exact iff_of_true (parsed.mpr rfl) rfl
        | noOp => exact iff_of_true (sound_returns _) rfl
        | disconnect => exact iff_of_true (sound_returns _) rfl
        | replicaDecoy => exact iff_of_true (sound_returns _) rfl
        | _ => exact iff_of_true (sound_fails _) rfl
      · rw [if_neg empty, parsed]
        simp [empty]

theorem uint32_le (n : Nat) (x : UInt32) (small : x ≤ UInt32.ofNat n) : x.toNat ≤ n := by
  rw [UInt32.le_iff_toNat_le, UInt32.toNat_ofNat'] at small
  exact Nat.le_trans small (Nat.mod_le _ _)

theorem from_bytes_accepted (b : Slice) (accepted : headerAccepted b.bytes = true) :
    ∃ rest : Slice, rest.bytes = b.bytes.drop cmdOverhead ∧
      c.fromBytes b = c.parseCommand (b.bytes.getD 0 0) (declaredLength b.bytes) rest := by
  obtain ⟨long, reserved, within, padded⟩ := of_decide_eq_true accepted
  rw [slice_bytes_length] at long
  have enough : 6 ≤ b.len := long
  obtain ⟨field, readField, fieldBytes⟩ := @span_read WireError b 2 6 (by omega) enough
  obtain ⟨rest, readRest, tail⟩ := @rest_read WireError b cmdOverhead long
  have length : uint32BE field.bytes = declaredLength b.bytes := by
    rw [fieldBytes]
    rfl
  rw [← tail] at within padded
  rw [slice_bytes_length] at within
  obtain ⟨padding, readPadding, zero⟩ := @rest_read WireError rest (declaredLength b.bytes).toNat (uint32_le _ _ within)
  refine ⟨rest, tail, ?_⟩
  rw [Commands.fromBytes, if_neg (Nat.not_lt.mpr long), index_inside b 0 (by omega), returned_bind, index_inside b 1 (by omega),
    returned_bind, slice_getD b 0 (by omega), slice_getD b 1 (by omega), if_neg (not_not.mpr reserved), readField, returned_bind]
  dsimp only
  rw [readRest, returned_bind, length, if_neg (UInt32.not_lt.mpr within), readPadding, returned_bind, zero, if_pos padded]

theorem from_bytes_rejected (b : Slice) (rejected : headerAccepted b.bytes = false) : c.fromBytes b = .fails .invalidCommand := by
  rw [Commands.fromBytes]
  by_cases short : b.len < cmdOverhead
  · exact if_pos short
  · have enough : 6 ≤ b.len := Nat.le_of_not_lt short
    obtain ⟨field, readField, fieldBytes⟩ := @span_read WireError b 2 6 (by omega) enough
    obtain ⟨rest, readRest, tail⟩ := @rest_read WireError b cmdOverhead enough
    have length : uint32BE field.bytes = declaredLength b.bytes := by
      rw [fieldBytes]
      rfl
    rw [if_neg short, index_inside b 0 (by omega), returned_bind, index_inside b 1 (by omega), returned_bind,
      slice_getD b 1 (by omega)]
    by_cases reserved : b.bytes.getD 1 0 ≠ 0
    · exact if_pos reserved
    · rw [if_neg reserved, readField, returned_bind]
      dsimp only
      rw [readRest, returned_bind, length]
      by_cases overlong : UInt32.ofNat rest.len < declaredLength b.bytes
      · exact if_pos overlong
      · have within := UInt32.not_lt.mp overlong
        obtain ⟨padding, readPadding, zero⟩ := @rest_read WireError rest (declaredLength b.bytes).toNat (uint32_le _ _ within)
        rw [if_neg overlong, readPadding, returned_bind, zero]
        -- What is left of the checks is the padding.
        refine if_neg fun padded => of_decide_eq_false rejected ⟨?_, not_not.mp reserved, ?_, ?_⟩
        · rw [slice_bytes_length]
          exact enough
        · rwa [← tail, slice_bytes_length]
        · rwa [← tail]

theorem from_bytes_sound_iff (b : Slice) : (c.fromBytes b).Sound ↔ served c b.bytes = true := by
  by_cases accepted : headerAccepted b.bytes = true
  · obtain ⟨rest, tail, parsed⟩ := from_bytes_accepted c b accepted
    have within := (of_decide_eq_true accepted).2.2.1
    rw [← tail, slice_bytes_length] at within
    have inside : (declaredLength b.bytes).toNat ≤ rest.len := uint32_le _ _ within
    have first : ∀ id, bodyServed c id (declaredLength b.bytes).toNat (rest.cells.getD 0 0) =
        bodyServed c id (declaredLength b.bytes).toNat (rest.bytes.getD 0 0) := by
      intro id
      by_cases empty : rest.len = 0
      · have none : (declaredLength b.bytes).toNat = 0 := by omega
        rw [none]
        exact body_served_empty c id _ _
      · rw [slice_getD rest 0 (by omega)]
    rw [parsed, parse_command_sound_iff c _ _ rest inside, served, accepted, ← tail]
    simp only [first, Bool.not_true, Bool.false_or]
  · have rejected : headerAccepted b.bytes = false := Bool.eq_false_iff.mpr accepted
    rw [from_bytes_rejected c b rejected]
    exact iff_of_true (sound_fails _) (served_rejected c _ rejected)

/-- Decoding returns a command or an error, without a look behind the declared body or at what the
instance does not carry, exactly if the command is served. -/
theorem wire_decoding_total_iff (b : Slice) :
    (((∃ cmd, (c.fromBytes b).outcome = .returns cmd) ∨ ∃ e, (c.fromBytes b).outcome = .fails e) ∧
      (c.fromBytes b).outside = false) ↔ served c b.bytes = true := by
  rw [← from_bytes_sound_iff]
  constructor
  · intro ⟨ended, inside⟩
    refine ⟨inside, ?_⟩
    cases ended with
    | inl command =>
        obtain ⟨cmd, returned⟩ := command
        rw [returned]
        exact fun same => nomatch same
    | inr failed =>
        obtain ⟨e, failed⟩ := failed
        rw [failed]
        exact fun same => nomatch same
  · intro ⟨inside, calm⟩
    refine ⟨?_, inside⟩
    match outcome : (c.fromBytes b).outcome with
    | none => exact absurd outcome calm
    | some (.ok cmd) => exact Or.inl ⟨cmd, rfl⟩
    | some (.error e) => exact Or.inr ⟨e, rfl⟩

end FromBytes

def mixnetInstance : Commands := newMixnetCommands (geometryFromUserForwardPayloadLength (.nike 32) 100 true 5)

def wholeSlice (bytes : Bytes) : Slice := ⟨bytes, bytes.length, Nat.le_refl _⟩

/-- On a mixnet instance a reply without the SURB ID panics, a Consensus2 of one byte is read from
the padding, and a Vote finds no signature scheme. -/
theorem short_bodies_not_served :
    (mixnetInstance.fromBytes (wholeSlice [4, 0, 0, 0, 0, 1, 7])).outcome = .panics ∧
      (mixnetInstance.fromBytes (wholeSlice [31, 0, 0, 0, 0, 1, 0, 0, 0, 0, 0, 0, 0, 0, 0])).outside = true ∧
      (mixnetInstance.fromBytes (wholeSlice [22, 0, 0, 0, 0, 1, 0])).outcome = .panics := by
  decide +kernel

end Katzenpost
