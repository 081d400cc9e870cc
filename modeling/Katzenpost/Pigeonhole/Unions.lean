import Katzenpost.Pigeonhole.Sizes

set_option autoImplicit false

namespace Katzenpost.Pigeonhole.Wire

open Go

structure ReplicaReadReply where
  errorCode : UInt8
  boxID : Fixed 32
  signature : Fixed 64
  payloadLen : UInt32
  payload : Bytes
deriving DecidableEq

def ReplicaReadReply.encodeBinary (r : ReplicaReadReply) : Bytes :=
  r.errorCode :: (r.boxID.bytes ++ r.signature.bytes ++ putUint32BE r.payloadLen ++ r.payload.take r.payloadLen.toNat)

def ReplicaReadReply.validate (r : ReplicaReadReply) : Except String Unit :=
  if r.payload.length = r.payloadLen.toNat then .ok () else .error lengthViolated

structure ReplicaWriteReply where
  errorCode : UInt8
deriving DecidableEq

def ReplicaWriteReply.encodeBinary (r : ReplicaWriteReply) : Bytes := [r.errorCode]

def ReplicaWriteReply.validate (_ : ReplicaWriteReply) : Except String Unit := .ok ()

structure ReplicaMessageReplyInnerMessage where
  messageType : UInt8
  readReply : Option ReplicaReadReply
  writeReply : Option ReplicaWriteReply
deriving DecidableEq

def ReplicaMessageReplyInnerMessage.encodeBinary (r : ReplicaMessageReplyInnerMessage) : Bytes :=
  unionBinary r.messageType (r.readReply.map ReplicaReadReply.encodeBinary) (r.writeReply.map ReplicaWriteReply.encodeBinary)

def ReplicaMessageReplyInnerMessage.validate (r : ReplicaMessageReplyInnerMessage) : Except String Unit :=
  unionValidate r.messageType (r.readReply.map ReplicaReadReply.validate) (r.writeReply.map ReplicaWriteReply.validate)

def ReplicaMessageReplyInnerMessage.bytes (r : ReplicaMessageReplyInnerMessage) : Bytes := bytesOf (marshal r.validate r.encodeBinary)

def Geometry.replicaReplyInnerMessageReadSize (g : Geometry) : Int :=
  messageTypeSize + (errorCodeFieldSize + bacapBoxIDSize + bacapSignatureSize + payloadLenFieldSize + g.calculateBoxCiphertextLength)

def padReplyInnerMessageForEncryption (msg : ReplicaMessageReplyInnerMessage) (g : Geometry) : Except String Bytes :=
  padToSize msg.bytes g.replicaReplyInnerMessageReadSize

section Parsers

def ReplicaRead.parse (data : Bytes) : Except String (ReplicaRead × Bytes) := do
  let (boxID, cur) ← readArray 32 data
  return (⟨boxID⟩, cur)

def ReplicaWrite.parse (data : Bytes) : Except String (ReplicaWrite × Bytes) := do
  let (boxID, cur) ← readArray 32 data
  let (signature, cur) ← readArray 64 cur
  let (payloadLen, cur) ← readUint32 cur
  let (payload, cur) ← readBytes payloadLen.toNat cur
  return (⟨boxID, signature, payloadLen, payload⟩, cur)

def ReplicaReadReply.parse (data : Bytes) : Except String (ReplicaReadReply × Bytes) := do
  let (errorCode, cur) ← readUint8 data
  let (boxID, cur) ← readArray 32 cur
  let (signature, cur) ← readArray 64 cur
  let (payloadLen, cur) ← readUint32 cur
  let (payload, cur) ← readBytes payloadLen.toNat cur
  return (⟨errorCode, boxID, signature, payloadLen, payload⟩, cur)

def ReplicaWriteReply.parse (data : Bytes) : Except String (ReplicaWriteReply × Bytes) := do
  let (errorCode, cur) ← readUint8 data
  return (⟨errorCode⟩, cur)

def CopyCommand.parse (data : Bytes) : Except String (CopyCommand × Bytes) := do
  let (writeCapLen, cur) ← readUint32 data
  let (writeCap, cur) ← readBytes writeCapLen.toNat cur
  return (⟨writeCapLen, writeCap⟩, cur)

def CopyCommandReply.parse (data : Bytes) : Except String (CopyCommandReply × Bytes) := do
  let (status, cur) ← readUint8 data
  let (errorCode, cur) ← readUint8 cur
  let (failedEnvelopeIndex, cur) ← readUint64 cur
  return (⟨status, errorCode, failedEnvelopeIndex⟩, cur)

def readTag (data : Bytes) : Except String (UInt8 × Bytes) := do
  let (tag, cur) ← readUint8 data
  if ¬ (tag = 0 ∨ tag = 1) then .error integerViolated else return (tag, cur)

def CourierEnvelopeReply.parse (data : Bytes) : Except String (CourierEnvelopeReply × Bytes) := do
  let (envelopeHash, cur) ← readArray 32 data
  let (replyIndex, cur) ← readUint8 cur
  let (replyType, cur) ← readTag cur
  let (payloadLen, cur) ← readUint32 cur
  let (payload, cur) ← readBytes payloadLen.toNat cur
  let (errorCode, cur) ← readUint8 cur
  return (⟨envelopeHash, replyIndex, replyType, payloadLen, payload, errorCode⟩, cur)

def unionParse {α β : Type} (first : Bytes → Except String (α × Bytes)) (second : Bytes → Except String (β × Bytes)) (data : Bytes) :
    Except String ((UInt8 × Option α × Option β) × Bytes) := do
  let (tag, cur) ← readTag data
  if tag = 0 then
    let (a, cur) ← first cur
    return ((tag, some a, none), cur)
  else
    let (b, cur) ← second cur
    return ((tag, none, some b), cur)

-- The Parse functions of the package ignore what is left over.
def front {α : Type} (parsed : Except String (α × Bytes)) : Except String α := do
  let (a, _) ← parsed
  return a

def parseReplicaInnerMessage (data : Bytes) : Except String ReplicaInnerMessage := do
  let (tag, readMsg, writeMsg) ← front (unionParse ReplicaRead.parse ReplicaWrite.parse data)
  return ⟨tag, readMsg, writeMsg⟩

def parseReplicaMessageReplyInnerMessage (data : Bytes) : Except String ReplicaMessageReplyInnerMessage := do
  let (tag, readReply, writeReply) ← front (unionParse ReplicaReadReply.parse ReplicaWriteReply.parse data)
  return ⟨tag, readReply, writeReply⟩

def parseCourierQuery (data : Bytes) : Except String CourierQuery := do
  let (tag, envelope, copyCommand) ← front (unionParse CourierEnvelope.parse CopyCommand.parse data)
  return ⟨tag, envelope, copyCommand⟩

def parseCourierQueryReply (data : Bytes) : Except String CourierQueryReply := do
  let (tag, envelopeReply, copyCommandReply) ← front (unionParse CourierEnvelopeReply.parse CopyCommandReply.parse data)
  return ⟨tag, envelopeReply, copyCommandReply⟩

end Parsers

section Format

structure Format (α : Type) where
  parse : Bytes → Except String (α × Bytes)
  encode : α → Bytes
  validate : α → Except String Unit

structure Format.Faithful {α : Type} (format : Format α) : Prop where
  parse_encode : ∀ a rest, format.validate a = .ok () → format.parse (format.encode a ++ rest) = .ok (a, rest)
  encode_parse : ∀ data a rest, format.parse data = .ok (a, rest) → data = format.encode a ++ rest ∧ format.validate a = .ok ()

theorem of_length_valid (actual size : Nat)
    (valid : (if actual = size then .ok () else .error lengthViolated : Except String Unit) = .ok ()) : actual = size := by
  split at valid
  · assumption
  · cases valid

theorem read_faithful : Format.Faithful ⟨ReplicaRead.parse, ReplicaRead.encodeBinary, ReplicaRead.validate⟩ := by
  constructor
  · intro r rest _
    simp only [ReplicaRead.parse, ReplicaRead.encodeBinary, read_array_write, bind, Except.bind, pure, Except.pure]
  · intro data r rest parsed
    obtain ⟨⟨boxID, cur⟩, read, parsed⟩ := of_bind_ok _ _ _ parsed
    cases parsed
    exact ⟨of_read_array _ _ _ _ read, rfl⟩

theorem write_faithful : Format.Faithful ⟨ReplicaWrite.parse, ReplicaWrite.encodeBinary, ReplicaWrite.validate⟩ := by
  constructor
  · intro r rest valid
    have sized := of_length_valid _ _ valid
    simp only [ReplicaWrite.parse, ReplicaWrite.encodeBinary, List.take_of_length_le sized.le, List.append_assoc, read_array_write,
      read_uint32_write, read_bytes_write _ _ _ sized, bind, Except.bind, pure, Except.pure]
  · intro data r rest parsed
    obtain ⟨⟨boxID, cur⟩, read, parsed⟩ := of_bind_ok _ _ _ parsed
    have front := of_read_array _ _ _ _ read
    obtain ⟨⟨signature, cur1⟩, read, parsed⟩ := of_bind_ok _ _ _ parsed
    have front1 := of_read_array _ _ _ _ read
    obtain ⟨⟨size, cur2⟩, read, parsed⟩ := of_bind_ok _ _ _ parsed
    have front2 := of_read_uint32 _ _ _ read
    obtain ⟨⟨payload, cur3⟩, read, parsed⟩ := of_bind_ok _ _ _ parsed
    obtain ⟨front3, sized⟩ := of_read_bytes _ _ _ _ read
    cases parsed
    refine ⟨?_, if_pos sized⟩
    rw [front, front1, front2, front3]
    simp [ReplicaWrite.encodeBinary, List.take_of_length_le sized.le]

theorem read_reply_faithful : Format.Faithful ⟨ReplicaReadReply.parse, ReplicaReadReply.encodeBinary, ReplicaReadReply.validate⟩ := by
  constructor
  · intro r rest valid
    have sized := of_length_valid _ _ valid
    simp only [ReplicaReadReply.parse, ReplicaReadReply.encodeBinary, List.take_of_length_le sized.le, List.cons_append,
      List.append_assoc, readUint8, read_array_write, read_uint32_write, read_bytes_write _ _ _ sized, bind, Except.bind, pure, Except.pure]
  · intro data r rest parsed
    obtain ⟨⟨errorCode, cur⟩, read, parsed⟩ := of_bind_ok _ _ _ parsed
    have front := of_read_uint8 _ _ _ read
    obtain ⟨⟨boxID, cur1⟩, read, parsed⟩ := of_bind_ok _ _ _ parsed
    have front1 := of_read_array _ _ _ _ read
    obtain ⟨⟨signature, cur2⟩, read, parsed⟩ := of_bind_ok _ _ _ parsed
    have front2 := of_read_array _ _ _ _ read
    obtain ⟨⟨size, cur3⟩, read, parsed⟩ := of_bind_ok _ _ _ parsed
    have front3 := of_read_uint32 _ _ _ read
    obtain ⟨⟨payload, cur4⟩, read, parsed⟩ := of_bind_ok _ _ _ parsed
    obtain ⟨front4, sized⟩ := of_read_bytes _ _ _ _ read
    cases parsed
    refine ⟨?_, if_pos sized⟩
    rw [front, front1, front2, front3, front4]
    simp [ReplicaReadReply.encodeBinary, List.take_of_length_le sized.le]

theorem write_reply_faithful : Format.Faithful ⟨ReplicaWriteReply.parse, ReplicaWriteReply.encodeBinary, ReplicaWriteReply.validate⟩ := by
  constructor
  · intro r rest _
    simp only [ReplicaWriteReply.parse, ReplicaWriteReply.encodeBinary, List.cons_append, List.nil_append, readUint8, bind, Except.bind,
      pure, Except.pure]
  · intro data r rest parsed
    obtain ⟨⟨errorCode, cur⟩, read, parsed⟩ := of_bind_ok _ _ _ parsed
    cases parsed
    exact ⟨of_read_uint8 _ _ _ read, rfl⟩

theorem copy_command_faithful : Format.Faithful ⟨CopyCommand.parse, CopyCommand.encodeBinary, CopyCommand.validate⟩ := by
  constructor
  · intro c rest valid
    have sized := of_length_valid _ _ valid
    simp only [CopyCommand.parse, CopyCommand.encodeBinary, List.take_of_length_le sized.le, List.append_assoc, read_uint32_write,
      read_bytes_write _ _ _ sized, bind, Except.bind, pure, Except.pure]
  · intro data c rest parsed
    obtain ⟨⟨size, cur⟩, read, parsed⟩ := of_bind_ok _ _ _ parsed
    have front := of_read_uint32 _ _ _ read
    obtain ⟨⟨writeCap, cur1⟩, read, parsed⟩ := of_bind_ok _ _ _ parsed
    obtain ⟨front1, sized⟩ := of_read_bytes _ _ _ _ read
    cases parsed
    refine ⟨?_, if_pos sized⟩
    rw [front, front1]
    simp [CopyCommand.encodeBinary, List.take_of_length_le sized.le]

theorem copy_reply_faithful : Format.Faithful ⟨CopyCommandReply.parse, CopyCommandReply.encodeBinary, CopyCommandReply.validate⟩ := by
  constructor
  · intro c rest _
    simp only [CopyCommandReply.parse, CopyCommandReply.encodeBinary, List.cons_append, List.nil_append, readUint8,
      read_uint64_write, bind, Except.bind, pure, Except.pure]
  · intro data c rest parsed
    obtain ⟨⟨status, cur⟩, read, parsed⟩ := of_bind_ok _ _ _ parsed
    have front := of_read_uint8 _ _ _ read
    obtain ⟨⟨errorCode, cur1⟩, read, parsed⟩ := of_bind_ok _ _ _ parsed
    have front1 := of_read_uint8 _ _ _ read
    obtain ⟨⟨index, cur2⟩, read, parsed⟩ := of_bind_ok _ _ _ parsed
    have front2 := of_read_uint64 _ _ _ read
    cases parsed
    refine ⟨?_, rfl⟩
    rw [front, front1, front2]
    rfl

theorem envelope_faithful : Format.Faithful ⟨CourierEnvelope.parse, CourierEnvelope.encodeBinary, envelopeValidate⟩ := by
  constructor
  · intro c rest valid
    refine envelope_parse_encode c rest ?_
    simp only [envelopeValidate] at valid
    split at valid
    · assumption
    · cases valid
  · intro data c rest parsed
    obtain ⟨front, valid⟩ := envelope_encode_parse data rest c parsed
    exact ⟨front, if_pos valid⟩

theorem read_tag (tag : UInt8) (rest : Bytes) (known : tag = 0 ∨ tag = 1) : readTag (tag :: rest) = .ok (tag, rest) := by
  simp only [readTag, readUint8, bind, Except.bind, known, not_true_eq_false, if_false, pure, Except.pure]

theorem of_read_tag (data rest : Bytes) (tag : UInt8) (read : readTag data = .ok (tag, rest)) :
    data = tag :: rest ∧ (tag = 0 ∨ tag = 1) := by
  obtain ⟨⟨byte, cur⟩, first, read⟩ := of_bind_ok _ _ _ read
  dsimp only at read
  split at read
  · cases read
  · rename_i known
    cases read
    exact ⟨of_read_uint8 _ _ _ first, not_not.mp known⟩

theorem envelope_reply_faithful :
    Format.Faithful ⟨CourierEnvelopeReply.parse, CourierEnvelopeReply.encodeBinary, CourierEnvelopeReply.validate⟩ := by
  constructor
  · intro c rest valid
    have known : c.replyType = 0 ∨ c.replyType = 1 := by
      by_contra unknown
      simp only [CourierEnvelopeReply.validate, if_pos unknown] at valid
      cases valid
    have sized : c.payload.length = c.payloadLen.toNat := by
      simp only [CourierEnvelopeReply.validate, if_neg (not_not_intro known)] at valid
      exact of_length_valid _ _ valid
    simp only [CourierEnvelopeReply.parse, CourierEnvelopeReply.encodeBinary, List.take_of_length_le sized.le, List.append_assoc,
      List.cons_append, List.nil_append, read_array_write, readUint8, read_tag _ _ known, read_uint32_write, read_bytes_write _ _ _ sized,
      bind, Except.bind, pure, Except.pure]
  · intro data c rest parsed
    obtain ⟨⟨hash, cur⟩, read, parsed⟩ := of_bind_ok _ _ _ parsed
    have front := of_read_array _ _ _ _ read
    obtain ⟨⟨index, cur1⟩, read, parsed⟩ := of_bind_ok _ _ _ parsed
    have front1 := of_read_uint8 _ _ _ read
    obtain ⟨⟨tag, cur2⟩, read, parsed⟩ := of_bind_ok _ _ _ parsed
    obtain ⟨front2, known⟩ := of_read_tag _ _ _ read
    obtain ⟨⟨size, cur3⟩, read, parsed⟩ := of_bind_ok _ _ _ parsed
    have front3 := of_read_uint32 _ _ _ read
    obtain ⟨⟨payload, cur4⟩, read, parsed⟩ := of_bind_ok _ _ _ parsed
    obtain ⟨front4, sized⟩ := of_read_bytes _ _ _ _ read
    obtain ⟨⟨errorCode, cur5⟩, read, parsed⟩ := of_bind_ok _ _ _ parsed
    have front5 := of_read_uint8 _ _ _ read
    cases parsed
    refine ⟨?_, ?_⟩
    · rw [front, front1, front2, front3, front4, front5]
      simp [CourierEnvelopeReply.encodeBinary, List.take_of_length_le sized.le]
    · simp only [CourierEnvelopeReply.validate]
      rw [if_neg (not_not_intro known), if_pos sized]

end Format

section Unions

variable {α β : Type} {first : Format α} {second : Format β}

def Selects (tag : UInt8) (a : Option α) (b : Option β) : Prop :=
  tag = 0 ∧ a.isSome ∧ b = none ∨ tag = 1 ∧ a = none ∧ b.isSome

theorem union_parse_encode (firstFaithful : first.Faithful) (secondFaithful : second.Faithful) (tag : UInt8) (a : Option α)
    (b : Option β) (rest : Bytes) (selects : Selects tag a b)
    (valid : unionValidate tag (a.map first.validate) (b.map second.validate) = .ok ()) :
    unionParse first.parse second.parse (unionBinary tag (a.map first.encode) (b.map second.encode) ++ rest) =
      .ok ((tag, a, b), rest) := by
  rcases selects with ⟨rfl, present, rfl⟩ | ⟨rfl, rfl, present⟩
  · obtain ⟨a, rfl⟩ := Option.isSome_iff_exists.mp present
    have parsed := firstFaithful.parse_encode a rest valid
    simp only [unionParse, unionBinary, Option.map_some, Option.getD_some, if_true, List.cons_append, read_tag 0 _ (.inl rfl), parsed,
      bind, Except.bind, pure, Except.pure]
  · obtain ⟨b, rfl⟩ := Option.isSome_iff_exists.mp present
    have parsed := secondFaithful.parse_encode b rest valid
    have other : (1 : UInt8) ≠ 0 := by decide
    simp only [unionParse, unionBinary, Option.map_some, Option.getD_some, if_neg other, if_true, List.cons_append,
      read_tag 1 _ (.inr rfl), parsed, bind, Except.bind, pure, Except.pure]

theorem union_encode_parse (firstFaithful : first.Faithful) (secondFaithful : second.Faithful) (data rest : Bytes) (tag : UInt8)
    (a : Option α) (b : Option β) (parsed : unionParse first.parse second.parse data = .ok ((tag, a, b), rest)) :
    data = unionBinary tag (a.map first.encode) (b.map second.encode) ++ rest ∧ Selects tag a b ∧
      unionValidate tag (a.map first.validate) (b.map second.validate) = .ok () := by
  obtain ⟨⟨tag', cur⟩, read, parsed⟩ := of_bind_ok _ _ _ parsed
  obtain ⟨front, known⟩ := of_read_tag _ _ _ read
  dsimp only at parsed
  split at parsed
  · rename_i zero
    obtain ⟨⟨a', cur1⟩, inner, parsed⟩ := of_bind_ok _ _ _ parsed
    cases parsed
    obtain ⟨front1, valid⟩ := firstFaithful.encode_parse _ _ _ inner
    subst zero
    exact ⟨by rw [front, front1]; rfl, .inl ⟨rfl, rfl, rfl⟩, valid⟩
  · rename_i other
    obtain ⟨⟨b', cur1⟩, inner, parsed⟩ := of_bind_ok _ _ _ parsed
    cases parsed
    obtain ⟨front1, valid⟩ := secondFaithful.encode_parse _ _ _ inner
    obtain rfl := known.resolve_left other
    exact ⟨by rw [front, front1]; rfl, .inr ⟨rfl, rfl, rfl⟩, valid⟩

theorem front_union_iff (firstFaithful : first.Faithful) (secondFaithful : second.Faithful) (tag : UInt8) (a : Option α)
    (b : Option β) (data : Bytes) :
    front (unionParse first.parse second.parse data) = .ok (tag, a, b) ↔
      (Selects tag a b ∧ unionValidate tag (a.map first.validate) (b.map second.validate) = .ok ()) ∧
        bytesOf (marshal (unionValidate tag (a.map first.validate) (b.map second.validate))
          (unionBinary tag (a.map first.encode) (b.map second.encode))) <+: data := by
  constructor
  · intro parsed
    obtain ⟨⟨result, rest⟩, inner, same⟩ := of_bind_ok _ _ _ parsed
    cases same
    obtain ⟨written, selects, valid⟩ := union_encode_parse firstFaithful secondFaithful _ _ _ _ _ inner
    refine ⟨⟨selects, valid⟩, rest, ?_⟩
    rw [valid]
    exact written.symm
  · rintro ⟨⟨selects, valid⟩, rest, written⟩
    rw [valid] at written
    have parsed := union_parse_encode firstFaithful secondFaithful tag a b rest selects valid
    have same : unionBinary tag (a.map first.encode) (b.map second.encode) ++ rest = data := written
    rw [same] at parsed
    rw [front, parsed]
    rfl

theorem return_ok_iff {γ δ : Type} (x : Except String γ) (f : γ → δ) (injective : Function.Injective f) (c : γ) :
    (do let c ← x; return f c) = .ok (f c) ↔ x = .ok c := by
  cases x with
  | error e => exact ⟨nofun, nofun⟩
  | ok c' =>
      simp only [bind, Except.bind, pure, Except.pure, Except.ok.injEq]
      exact ⟨fun same => injective same, fun same => congrArg f same⟩

end Unions

def ReplicaInnerMessage.WellFormed (msg : ReplicaInnerMessage) : Prop :=
  Selects msg.messageType msg.readMsg msg.writeMsg ∧ msg.validate = .ok ()

def ReplicaMessageReplyInnerMessage.WellFormed (msg : ReplicaMessageReplyInnerMessage) : Prop :=
  Selects msg.messageType msg.readReply msg.writeReply ∧ msg.validate = .ok ()

def CourierQuery.WellFormed (query : CourierQuery) : Prop :=
  Selects query.queryType query.envelope query.copyCommand ∧ query.validate = .ok ()

def CourierQueryReply.WellFormed (reply : CourierQueryReply) : Prop :=
  Selects reply.replyType reply.envelopeReply reply.copyCommandReply ∧ reply.validate = .ok ()

section Messages

theorem parse_inner_message_iff (data : Bytes) (msg : ReplicaInnerMessage) :
    parseReplicaInnerMessage data = .ok msg ↔ msg.WellFormed ∧ msg.bytes <+: data := by
  have parsed := front_union_iff read_faithful write_faithful msg.messageType msg.readMsg msg.writeMsg data
  have same := return_ok_iff (front (unionParse ReplicaRead.parse ReplicaWrite.parse data))
    (fun fields => ReplicaInnerMessage.mk fields.1 fields.2.1 fields.2.2) (fun ⟨_, _, _⟩ ⟨_, _, _⟩ same => by cases same; rfl)
    (msg.messageType, msg.readMsg, msg.writeMsg)
  exact same.trans parsed

theorem parse_reply_inner_message_iff (data : Bytes) (msg : ReplicaMessageReplyInnerMessage) :
    parseReplicaMessageReplyInnerMessage data = .ok msg ↔ msg.WellFormed ∧ msg.bytes <+: data := by
  have parsed := front_union_iff read_reply_faithful write_reply_faithful msg.messageType msg.readReply msg.writeReply data
  have same := return_ok_iff (front (unionParse ReplicaReadReply.parse ReplicaWriteReply.parse data))
    (fun fields => ReplicaMessageReplyInnerMessage.mk fields.1 fields.2.1 fields.2.2) (fun ⟨_, _, _⟩ ⟨_, _, _⟩ same => by cases same; rfl)
    (msg.messageType, msg.readReply, msg.writeReply)
  exact same.trans parsed

theorem parse_query_iff (data : Bytes) (query : CourierQuery) :
    parseCourierQuery data = .ok query ↔ query.WellFormed ∧ bytesOf query.marshalBinary <+: data := by
  have parsed := front_union_iff envelope_faithful copy_command_faithful query.queryType query.envelope query.copyCommand data
  have same := return_ok_iff (front (unionParse CourierEnvelope.parse CopyCommand.parse data))
    (fun fields => CourierQuery.mk fields.1 fields.2.1 fields.2.2) (fun ⟨_, _, _⟩ ⟨_, _, _⟩ same => by cases same; rfl)
    (query.queryType, query.envelope, query.copyCommand)
  exact same.trans parsed

theorem parse_query_reply_iff (data : Bytes) (reply : CourierQueryReply) :
    parseCourierQueryReply data = .ok reply ↔ reply.WellFormed ∧ bytesOf reply.marshalBinary <+: data := by
  have parsed := front_union_iff envelope_reply_faithful copy_reply_faithful reply.replyType reply.envelopeReply
    reply.copyCommandReply data
  have same := return_ok_iff (front (unionParse CourierEnvelopeReply.parse CopyCommandReply.parse data))
    (fun fields => CourierQueryReply.mk fields.1 fields.2.1 fields.2.2) (fun ⟨_, _, _⟩ ⟨_, _, _⟩ same => by cases same; rfl)
    (reply.replyType, reply.envelopeReply, reply.copyCommandReply)
  exact same.trans parsed

theorem pad_to_size_begins (data padded : Bytes) (targetSize : Int) (ok : padToSize data targetSize = .ok padded) : data <+: padded := by
  rw [padToSize] at ok
  split at ok
  · cases ok
  · cases ok
    exact List.prefix_append _ _

/-- What was padded is read as it was. -/
theorem padded_message_read (g : Geometry) (msg : ReplicaInnerMessage) (padded : Bytes) (wellFormed : msg.WellFormed)
    (ok : padInnerMessageForEncryption msg g = .ok padded) : parseReplicaInnerMessage padded = .ok msg :=
  (parse_inner_message_iff padded msg).mpr ⟨wellFormed, pad_to_size_begins _ _ _ ok⟩

theorem padded_reply_read (g : Geometry) (msg : ReplicaMessageReplyInnerMessage) (padded : Bytes) (wellFormed : msg.WellFormed)
    (ok : padReplyInnerMessageForEncryption msg g = .ok padded) : parseReplicaMessageReplyInnerMessage padded = .ok msg :=
  (parse_reply_inner_message_iff padded msg).mpr ⟨wellFormed, pad_to_size_begins _ _ _ ok⟩

/-- Each parser accepts exactly the data that begins with a well-formed message: padding is
ignored, nothing else is, and a message that is not well formed is never read back. -/
theorem messages_read_exactly :
    (∀ data msg, parseReplicaInnerMessage data = .ok msg ↔ msg.WellFormed ∧ msg.bytes <+: data) ∧
      (∀ data msg, parseReplicaMessageReplyInnerMessage data = .ok msg ↔ msg.WellFormed ∧ msg.bytes <+: data) ∧
      (∀ data query, parseCourierQuery data = .ok query ↔ query.WellFormed ∧ bytesOf query.marshalBinary <+: data) ∧
      ∀ data reply, parseCourierQueryReply data = .ok reply ↔ reply.WellFormed ∧ bytesOf reply.marshalBinary <+: data :=
  ⟨parse_inner_message_iff, parse_reply_inner_message_iff, parse_query_iff, parse_query_reply_iff⟩

end Messages

end Katzenpost.Pigeonhole.Wire
