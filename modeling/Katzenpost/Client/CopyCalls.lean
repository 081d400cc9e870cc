import Katzenpost.Pigeonhole.RoundTrip

set_option autoImplicit false

namespace Katzenpost.Pigeonhole

open Go

-- A DestinationPayload: whether WriteCap and StartIndex are given, whether NewStatefulWriter
-- takes the WriteCap, and what becomes of the chunk with a number, if its encryption and the
-- step to the next index succeed.
structure DestinationPayload where
  payload : Bytes
  writeCap : Bool
  startIndex : Bool
  writer : Bool
  encrypt : Nat → Bytes → Option CourierEnvelope

structure TombstoneRange where
  writeCap : Bool
  startIndex : Bool
  maxCount : UInt32
  encrypt : Nat → Option CourierEnvelope

structure CopyRequest where
  isStart : Bool
  isLast : Bool
  buffer : Bytes

structure CopyReply where
  envelopes : List Bytes
  buffer : Bytes
  errorCode : UInt8
deriving DecidableEq

def thinClientSuccess : UInt8 := 0
def thinClientErrorInvalidRequest : UInt8 := 3
def thinClientErrorInternalError : UInt8 := 4

def maxPayloadSize : Nat := 10 * 1024 * 1024

def payloadChunks (maxPayload : Nat) : Nat → Bytes → List Bytes
  | 0, _ => []
  | fuel + 1, payload =>
      if payload = [] then [] else payload.take maxPayload :: payloadChunks maxPayload fuel (payload.drop maxPayload)

def addEnvelopes : CopyStreamEncoder → List CourierEnvelope → Except String (List Bytes × CopyStreamEncoder)
  | e, [] => .ok ([], e)
  | e, envelope :: rest => do
      let (new, next) ← e.addEnvelope envelope
      let (more, last) ← addEnvelopes next rest
      return (new ++ more, last)

def CopyRequest.encoder (g : Geometry) (request : CopyRequest) : CopyStreamEncoder :=
  let restored := if request.buffer.length > 0 then (newCopyStreamEncoder g).setBuffer request.buffer else newCopyStreamEncoder g
  if request.isStart then restored else restored.suppressStart

def finishCall (request : CopyRequest) : Except UInt8 (List Bytes × CopyStreamEncoder) → CopyReply
  | .error errorCode => ⟨[], [], errorCode⟩
  | .ok (elements, last) =>
      if request.isLast then ⟨elements ++ last.flush.1, [], thinClientSuccess⟩ else ⟨elements, last.getBuffer, thinClientSuccess⟩

def internalError {α : Type} (result : Except String α) : Except UInt8 α := result.mapError fun _ => thinClientErrorInternalError

def addChunks (encrypt : Nat → Bytes → Option CourierEnvelope) :
    Nat → CopyStreamEncoder → List Bytes → Except UInt8 (List Bytes × CopyStreamEncoder)
  | _, e, [] => .ok ([], e)
  | i, e, chunk :: rest =>
      match encrypt i chunk with
      | none => .error thinClientErrorInternalError
      | some envelope => do
          let (new, next) ← internalError (e.addEnvelope envelope)
          let (more, last) ← addChunks encrypt (i + 1) next rest
          return (new ++ more, last)

def DestinationPayload.validate (dest : DestinationPayload) : Except UInt8 Unit :=
  if !dest.writeCap then .error thinClientErrorInvalidRequest
  else if !dest.startIndex then .error thinClientErrorInvalidRequest
  else if dest.payload.length > maxPayloadSize then .error thinClientErrorInvalidRequest
  else if !dest.writer then .error thinClientErrorInternalError
  else .ok ()

def addDestinations (maxPayload : Nat) : CopyStreamEncoder → List DestinationPayload → Except UInt8 (List Bytes × CopyStreamEncoder)
  | e, [] => .ok ([], e)
  | e, dest :: rest => do
      dest.validate
      let (new, next) ← addChunks dest.encrypt 0 e (payloadChunks maxPayload dest.payload.length dest.payload)
      let (more, last) ← addDestinations maxPayload next rest
      return (new ++ more, last)

def createCourierEnvelopesFromPayloads (g : Geometry) (document : Bool) (destinations : List DestinationPayload) (request : CopyRequest) :
    CopyReply :=
  let maxPayload := g.maxPlaintextPayloadLength - 4
  if destinations.isEmpty then ⟨[], [], thinClientErrorInvalidRequest⟩
  else if maxPayload = 0 then ⟨[], [], thinClientErrorInternalError⟩
  else if !document then ⟨[], [], thinClientErrorInternalError⟩
  else finishCall request (addDestinations maxPayload (request.encoder g) destinations)

def TombstoneRange.envelopes (range : TombstoneRange) : Option (List CourierEnvelope) := (List.range range.maxCount.toNat).mapM range.encrypt

def createCourierEnvelopesFromTombstoneRange (g : Geometry) (document : Bool) (range : TombstoneRange) (request : CopyRequest) :
    CopyReply :=
  if !range.writeCap then ⟨[], [], thinClientErrorInvalidRequest⟩
  else if !range.startIndex then ⟨[], [], thinClientErrorInvalidRequest⟩
  else if range.maxCount = 0 then ⟨[], [], thinClientSuccess⟩
  else if !document then ⟨[], [], thinClientErrorInternalError⟩
  else match range.envelopes with
    | none => ⟨[], [], thinClientErrorInternalError⟩
    | some envelopes => finishCall request (internalError (addEnvelopes (request.encoder g) envelopes))

inductive CopyCall where
  | payloads (document : Bool) (destinations : List DestinationPayload)
  | tombstoneRange (document : Bool) (range : TombstoneRange)

def CopyCall.reply (g : Geometry) (request : CopyRequest) : CopyCall → CopyReply
  | .payloads document destinations => createCourierEnvelopesFromPayloads g document destinations request
  | .tombstoneRange document range => createCourierEnvelopesFromTombstoneRange g document range request

def encryptChunks (encrypt : Nat → Bytes → Option CourierEnvelope) : Nat → List Bytes → Option (List CourierEnvelope)
  | _, [] => some []
  | i, chunk :: rest => do
      let envelope ← encrypt i chunk
      let more ← encryptChunks encrypt (i + 1) rest
      return envelope :: more

def DestinationPayload.envelopes (maxPayload : Nat) (dest : DestinationPayload) : Option (List CourierEnvelope) :=
  encryptChunks dest.encrypt 0 (payloadChunks maxPayload dest.payload.length dest.payload)

def DestinationPayload.encodes (maxPayload : Nat) (dest : DestinationPayload) : Bool :=
  dest.writeCap && dest.startIndex && dest.payload.length ≤ maxPayloadSize && dest.writer && (dest.envelopes maxPayload).isSome

def CopyCall.encodes (g : Geometry) : CopyCall → Bool
  | .payloads document destinations =>
      document && !destinations.isEmpty && destinations.all (DestinationPayload.encodes (g.maxPlaintextPayloadLength - 4))
  | .tombstoneRange document range =>
      range.writeCap && range.startIndex && range.maxCount ≠ 0 && document && range.envelopes.isSome

def CopyCall.encrypted (g : Geometry) : CopyCall → List CourierEnvelope
  | .payloads _ destinations => destinations.flatMap fun dest => (dest.envelopes (g.maxPlaintextPayloadLength - 4)).getD []
  | .tombstoneRange _ range => range.envelopes.getD []

def CopyCall.envelopes (g : Geometry) (call : CopyCall) : List CourierEnvelope := if call.encodes g then call.encrypted g else []

def copyCalls (g : Geometry) : Bool → Bytes → List CopyCall → List Bytes
  | _, _, [] => []
  | isStart, buffer, call :: rest =>
      let reply := call.reply g ⟨isStart, rest.isEmpty, buffer⟩
      reply.envelopes ++ copyCalls g false reply.buffer rest

def singleEncoder (g : Geometry) (envelopes : List CourierEnvelope) : Except String (List Bytes) := do
  let (elements, e) ← addEnvelopes (newCopyStreamEncoder g) envelopes
  return elements ++ e.flush.1

section Replies

variable {g : Geometry}

theorem add_envelopes_bind (a b : List CourierEnvelope) (e : CopyStreamEncoder) :
    addEnvelopes e (a ++ b) = do
      let (first, mid) ← addEnvelopes e a
      let (second, last) ← addEnvelopes mid b
      return (first ++ second, last) := by
  induction a generalizing e with
  | nil => cases added : addEnvelopes e b <;> simp [addEnvelopes, added, bind, Except.bind, pure, Except.pure]
  | cons envelope rest ih =>
      rw [List.cons_append, addEnvelopes, addEnvelopes]
      cases e.addEnvelope envelope with
      | error _ => rfl
      | ok step =>
          simp only [bind, Except.bind, ih]
          cases addEnvelopes step.2 rest with
          | error _ => rfl
          | ok steps =>
              dsimp only [pure, Except.pure]
              cases addEnvelopes steps.2 b with
              | error _ => rfl
              | ok more => simp [List.append_assoc]

theorem add_chunks_encrypted (encrypt : Nat → Bytes → Option CourierEnvelope) (chunks : List Bytes) (i : Nat) (e : CopyStreamEncoder)
    (envelopes : List CourierEnvelope) (encrypted : encryptChunks encrypt i chunks = some envelopes) :
    addChunks encrypt i e chunks = internalError (addEnvelopes e envelopes) := by
  induction chunks generalizing i e envelopes with
  | nil =>
      cases encrypted
      rfl
  | cons chunk rest ih =>
      rw [encryptChunks] at encrypted
      obtain ⟨envelope, here, encrypted⟩ := Option.bind_eq_some_iff.mp encrypted
      obtain ⟨more, later, encrypted⟩ := Option.bind_eq_some_iff.mp encrypted
      cases encrypted
      rw [addChunks, here, addEnvelopes]
      dsimp only
      cases e.addEnvelope envelope with
      | error _ => rfl
      | ok step =>
          have rest := ih (i + 1) step.2 more later
          simp only [internalError, Except.mapError, bind, Except.bind] at rest ⊢
          rw [rest]
          cases addEnvelopes step.2 more <;> rfl

theorem add_chunks_refused (encrypt : Nat → Bytes → Option CourierEnvelope) (chunks : List Bytes) (i : Nat) (e : CopyStreamEncoder)
    (refused : encryptChunks encrypt i chunks = none) : ∃ errorCode, addChunks encrypt i e chunks = .error errorCode := by
  induction chunks generalizing i e with
  | nil => cases refused
  | cons chunk rest ih =>
      rw [addChunks]
      rw [encryptChunks] at refused
      cases here : encrypt i chunk with
      | none => exact ⟨_, rfl⟩
      | some envelope =>
          rw [here] at refused
          have later : encryptChunks encrypt (i + 1) rest = none := by
            cases more : encryptChunks encrypt (i + 1) rest with
            | none => rfl
            | some _ => simp [more] at refused
          dsimp only
          cases e.addEnvelope envelope with
          | error _ => exact ⟨_, rfl⟩
          | ok step =>
              obtain ⟨errorCode, fails⟩ := ih (i + 1) step.2 later
              exact ⟨errorCode, by simp only [internalError, Except.mapError, bind, Except.bind, fails]⟩

theorem validate_ok_iff (dest : DestinationPayload) :
    dest.validate = .ok () ↔ (dest.writeCap && dest.startIndex && dest.payload.length ≤ maxPayloadSize && dest.writer) = true := by
  rw [DestinationPayload.validate]
  by_cases large : dest.payload.length > maxPayloadSize <;>
    cases dest.writeCap <;> cases dest.startIndex <;> cases dest.writer <;> simp [large, Nat.not_le.mpr, Nat.not_lt.mp]

theorem add_destinations_encrypted (maxPayload : Nat) (destinations : List DestinationPayload) (e : CopyStreamEncoder)
    (encodes : ∀ dest ∈ destinations, dest.encodes maxPayload = true) :
    addDestinations maxPayload e destinations =
      internalError (addEnvelopes e (destinations.flatMap fun dest => (dest.envelopes maxPayload).getD [])) := by
  induction destinations generalizing e with
  | nil => rfl
  | cons dest rest ih =>
      obtain ⟨checked, some⟩ := Bool.and_eq_true_iff.mp (encodes dest List.mem_cons_self)
      obtain ⟨envelopes, encrypted⟩ := Option.isSome_iff_exists.mp some
      have later := fun next => ih next fun other member => encodes other (List.mem_cons_of_mem _ member)
      rw [addDestinations, (validate_ok_iff dest).mpr checked, add_chunks_encrypted _ _ 0 e envelopes encrypted, List.flatMap_cons, encrypted,
        Option.getD_some, add_envelopes_bind]
      simp only [bind, Except.bind, later]
      cases addEnvelopes e envelopes with
      | error _ => rfl
      | ok step =>
          simp only [internalError, Except.mapError]
          cases addEnvelopes step.2 _ <;> rfl

theorem add_destinations_refused (maxPayload : Nat) (destinations : List DestinationPayload) (e : CopyStreamEncoder)
    (refused : ∃ dest ∈ destinations, dest.encodes maxPayload = false) :
    ∃ errorCode, addDestinations maxPayload e destinations = .error errorCode := by
  induction destinations generalizing e with
  | nil =>
      obtain ⟨_, member, _⟩ := refused
      cases member
  | cons dest rest ih =>
      rw [addDestinations]
      cases checked : dest.validate with
      | error errorCode => exact ⟨errorCode, rfl⟩
      | ok _ =>
          cases encrypted : encryptChunks dest.encrypt 0 (payloadChunks maxPayload dest.payload.length dest.payload) with
          | none =>
              obtain ⟨errorCode, fails⟩ := add_chunks_refused _ _ 0 e encrypted
              exact ⟨errorCode, by simp only [bind, Except.bind, fails]⟩
          | some envelopes =>
              have encodes : dest.encodes maxPayload = true :=
                Bool.and_eq_true_iff.mpr ⟨(validate_ok_iff dest).mp checked, by rw [DestinationPayload.envelopes, encrypted]; rfl⟩
              have later : ∃ other ∈ rest, other.encodes maxPayload = false := by
                obtain ⟨other, member, fails⟩ := refused
                cases List.mem_cons.mp member with
                | inl here => rw [here, encodes] at fails; cases fails
                | inr after => exact ⟨other, after, fails⟩
              simp only [bind, Except.bind]
              cases addChunks dest.encrypt 0 e (payloadChunks maxPayload dest.payload.length dest.payload) with
              | error errorCode => exact ⟨errorCode, rfl⟩
              | ok step =>
                  obtain ⟨errorCode, fails⟩ := ih step.2 later
                  exact ⟨errorCode, by simp only [fails]⟩

theorem encodes_reply (call : CopyCall) (request : CopyRequest) (encodes : call.encodes g = true) :
    call.reply g request = finishCall request (internalError (addEnvelopes (request.encoder g) (call.envelopes g))) := by
  rw [CopyCall.envelopes, if_pos encodes]
  cases call with
  | payloads document destinations =>
      simp only [CopyCall.encodes, Bool.and_eq_true, Bool.not_eq_true', List.all_eq_true] at encodes
      obtain ⟨⟨available, some⟩, all⟩ := encodes
      have room : g.maxPlaintextPayloadLength - 4 ≠ 0 := by
        have fits := g.fits
        simp only [copyStreamElementOverhead] at fits
        omega
      simp only [CopyCall.reply, createCourierEnvelopesFromPayloads, some, available, Bool.false_eq_true, Bool.not_true, if_false,
        if_neg room, add_destinations_encrypted _ destinations _ all, CopyCall.encrypted]
  | tombstoneRange document range =>
      simp only [CopyCall.encodes, Bool.and_eq_true, decide_eq_true_eq] at encodes
      obtain ⟨⟨⟨⟨writeCap, startIndex⟩, some⟩, available⟩, encrypted⟩ := encodes
      obtain ⟨envelopes, encrypted⟩ := Option.isSome_iff_exists.mp encrypted
      simp only [CopyCall.reply, createCourierEnvelopesFromTombstoneRange, writeCap, startIndex, available, Bool.not_true,
        Bool.false_eq_true, if_false, if_neg some, encrypted, CopyCall.encrypted, Option.getD_some]

theorem refused_reply (call : CopyCall) (request : CopyRequest) (refused : call.encodes g = false) :
    (call.reply g request).envelopes = [] ∧ (call.reply g request).buffer = [] ∧ call.envelopes g = [] := by
  suffices nothing : ∃ errorCode, call.reply g request = ⟨[], [], errorCode⟩ by
    obtain ⟨errorCode, same⟩ := nothing
    exact ⟨by rw [same], by rw [same], by rw [CopyCall.envelopes, refused]; rfl⟩
  cases call with
  | payloads document destinations =>
      rw [CopyCall.reply, createCourierEnvelopesFromPayloads]
      split
      · exact ⟨_, rfl⟩
      · split
        · exact ⟨_, rfl⟩
        · split
          · exact ⟨_, rfl⟩
          · rename_i some _ available
            have fails : ∃ dest ∈ destinations, dest.encodes (g.maxPlaintextPayloadLength - 4) = false := by
              rw [Bool.not_eq_true'] at available
              simpa [CopyCall.encodes, some, available] using refused
            obtain ⟨errorCode, fails⟩ := add_destinations_refused _ destinations (request.encoder g) fails
            exact ⟨errorCode, by rw [fails]; rfl⟩
  | tombstoneRange document range =>
      rw [CopyCall.reply, createCourierEnvelopesFromTombstoneRange]
      cases writeCap : range.writeCap <;> cases startIndex : range.startIndex <;> try exact ⟨_, rfl⟩
      by_cases zero : range.maxCount = 0
      · exact ⟨thinClientSuccess, by simp [zero]⟩
      · cases document with
        | false => exact ⟨thinClientErrorInternalError, by simp [zero]⟩
        | true =>
            have fails : range.envelopes = none := by simpa [CopyCall.encodes, writeCap, startIndex, zero] using refused
            exact ⟨thinClientErrorInternalError, by simp [zero, fails]⟩

end Replies

section Encoders

variable {g : Geometry}

structure Usable (g : Geometry) (e : CopyStreamEncoder) : Prop where
  size : e.maxChunkSize = g.maxPlaintextPayloadLength - copyStreamElementOverhead
  small : e.maxChunkSize < 2 ^ 32

theorem usable_positive {e : CopyStreamEncoder} (usable : Usable g e) : 0 < e.maxChunkSize := by
  rw [usable.size]
  exact Nat.sub_pos_of_lt g.fits

def dataLength (elements : List Bytes) : Nat := (elements.map fun bytes => bytes.length - copyStreamElementOverhead).sum

def NoStart (elements : List Bytes) : Prop := ∀ bytes ∈ elements, bytes.headD 0 &&& copyStreamFlagStart = 0

def framesLength (envelopes : List CourierEnvelope) : Nat := (envelopes.map fun envelope => envelope.frame.length).sum

theorem data_length_append (a b : List Bytes) : dataLength (a ++ b) = dataLength a + dataLength b := by
  rw [dataLength, List.map_append, List.sum_append]
  rfl

theorem no_start_append (a b : List Bytes) (first : NoStart a) (second : NoStart b) : NoStart (a ++ b) := by
  intro bytes member
  exact (List.mem_append.mp member).elim (first bytes) (second bytes)

theorem chunk_data_length (first : Bool) (chunks : List Bytes) (small : ∀ chunk ∈ chunks, chunk.length < 2 ^ 32) :
    dataLength ((chunkElements first chunks).map CopyStreamElement.encodeBinary) = chunks.flatten.length := by
  induction chunks generalizing first with
  | nil => rfl
  | cons chunk rest ih =>
      have valid := chunk_valid (if first then copyStreamFlagStart else 0) chunk (small chunk List.mem_cons_self)
      have size := element_encode_length _ valid
      simp only [chunkElements, List.map_cons, dataLength, List.sum_cons, size, List.flatten_cons, List.length_append,
        Nat.add_sub_cancel_left]
      exact congrArg _ (ih false fun other member => small other (List.mem_cons_of_mem _ member))

theorem chunk_no_start (chunks : List Bytes) : NoStart ((chunkElements false chunks).map CopyStreamElement.encodeBinary) := by
  induction chunks with
  | nil => exact fun _ member => nomatch member
  | cons chunk rest ih =>
      intro bytes member
      rw [chunkElements, List.map_cons] at member
      cases List.mem_cons.mp member with
      | inl here =>
          rw [here]
          exact (by decide : (0 : UInt8) &&& copyStreamFlagStart = 0)
      | inr later => exact ih bytes later

structure Encoded (e : CopyStreamEncoder) (input : Nat) (elements : List Bytes) (last : CopyStreamEncoder) : Prop where
  bytes : dataLength elements + last.buffer.length = e.buffer.length + input
  started : e.isFirstChunk = false → NoStart elements ∧ last.isFirstChunk = false
  filled : 0 < e.buffer.length + input → last.buffer ≠ []
  kept : e.buffer.length ≤ e.maxChunkSize → last.buffer.length ≤ e.maxChunkSize
  full : elements ≠ [] → e.maxChunkSize ≤ dataLength elements ∧ last.isFirstChunk = false

theorem add_encoded (e : CopyStreamEncoder) (usable : Usable g e) (envelope : CourierEnvelope) (valid : envelope.valid = true) :
    ∃ new next, e.addEnvelope envelope = .ok (new, next) ∧ Usable g next ∧ Encoded e envelope.frame.length new next := by
  let fed : CopyStreamEncoder := { e with buffer := e.buffer ++ envelope.frame }
  have positive : 0 < e.maxChunkSize := usable_positive usable
  obtain ⟨chunks, left, spec⟩ := extract_loop_spec fed.buffer.length fed positive usable.small le_rfl
  have added : e.addEnvelope envelope = .ok fed.extractElements := by
    rw [CopyStreamEncoder.addEnvelope, CourierEnvelope.marshalBinary, if_pos valid]
    rfl
  have encoder : fed.extractElements.2 = ⟨left, e.maxChunkSize, e.isFirstChunk && chunks.isEmpty⟩ := spec.encoder
  have elements : fed.extractElements.1 = (chunkElements e.isFirstChunk chunks).map CopyStreamElement.encodeBinary := spec.elements
  have data : dataLength fed.extractElements.1 = chunks.flatten.length := by
    rw [elements]
    exact chunk_data_length _ _ fun chunk member => by rw [spec.full chunk member]; exact usable.small
  refine ⟨fed.extractElements.1, fed.extractElements.2, added, ?_, ?_, ?_, ?_, ?_, ?_⟩
  · rw [encoder]
    exact ⟨usable.size, usable.small⟩
  · have sizes := congrArg List.length spec.bytes
    rw [List.length_append, List.length_append] at sizes
    rw [data, encoder]
    exact sizes.symm
  · intro started
    rw [elements, encoder, started]
    exact ⟨chunk_no_start chunks, rfl⟩
  · intro some
    rw [encoder]
    apply spec.nonempty
    intro empty
    have sizes := congrArg List.length empty
    rw [List.length_append, List.length_nil] at sizes
    omega
  · intro _
    rw [encoder]
    exact spec.kept
  · intro some
    rw [elements] at some
    cases chunks with
    | nil => exact absurd rfl some
    | cons chunk rest =>
        rw [data, encoder, List.flatten_cons, List.length_append, spec.full chunk List.mem_cons_self]
        exact ⟨Nat.le_add_right _ _, by simp⟩

theorem add_all_encoded (envelopes : List CourierEnvelope) (e : CopyStreamEncoder) (usable : Usable g e)
    (valid : ∀ envelope ∈ envelopes, envelope.valid = true) :
    ∃ elements last, addEnvelopes e envelopes = .ok (elements, last) ∧ Usable g last ∧
      Encoded e (framesLength envelopes) elements last := by
  induction envelopes generalizing e with
  | nil =>
      refine ⟨[], e, rfl, usable, by simp [dataLength, framesLength], fun started => ⟨(fun _ member => nomatch member), started⟩,
        fun some => ?_, id, fun some => absurd rfl some⟩
      exact List.length_pos_iff.mp (by simpa [framesLength] using some)
  | cons envelope rest ih =>
      obtain ⟨new, next, added, usable', encoded⟩ := add_encoded e usable envelope (valid envelope List.mem_cons_self)
      obtain ⟨more, last, addedAll, usable'', encoded'⟩ := ih next usable' fun other member => valid other (List.mem_cons_of_mem _ member)
      have total : framesLength (envelope :: rest) = envelope.frame.length + framesLength rest := rfl
      have size : next.maxChunkSize = e.maxChunkSize := usable'.size.trans usable.size.symm
      refine ⟨new ++ more, last, ?_, usable'', ?_, ?_, ?_, ?_, ?_⟩
      · rw [addEnvelopes, added]
        simp only [bind, Except.bind, addedAll]
        rfl
      · have first := encoded.bytes
        have second := encoded'.bytes
        rw [data_length_append, total]
        omega
      · intro started
        obtain ⟨noStart, next'⟩ := encoded.started started
        obtain ⟨noStart', last'⟩ := encoded'.started next'
        exact ⟨no_start_append _ _ noStart noStart', last'⟩
      · intro some
        rw [total] at some
        apply encoded'.filled
        have first := encoded.filled
        by_cases early : 0 < e.buffer.length + envelope.frame.length
        · have filled := List.length_pos_iff.mpr (first early)
          omega
        · have sizes := encoded.bytes
          omega
      · intro kept
        exact size ▸ encoded'.kept (size ▸ encoded.kept kept)
      · intro some
        rw [data_length_append]
        by_cases early : new = []
        · subst early
          obtain ⟨bound, started⟩ := encoded'.full some
          exact ⟨by rw [← size]; exact le_add_left bound, started⟩
        · obtain ⟨bound, started⟩ := encoded.full early
          exact ⟨by omega, (encoded'.started started).2⟩

theorem flush_encoded (e : CopyStreamEncoder) (usable : Usable g e) :
    dataLength e.flush.1 = e.buffer.length ∧ (e.isFirstChunk = false → NoStart e.flush.1) := by
  by_cases empty : e.buffer.length = 0
  · rw [CopyStreamEncoder.flush, if_pos empty, empty]
    exact ⟨rfl, fun _ _ member => absurd member List.not_mem_nil⟩
  · obtain ⟨chunks, left, spec⟩ := extract_loop_spec e.buffer.length e (usable_positive usable) usable.small le_rfl
    have bound : left.length < 2 ^ 32 := lt_of_le_of_lt spec.kept usable.small
    have elements : e.flush.1 = (chunkElements e.isFirstChunk chunks).map CopyStreamElement.encodeBinary ++
        [(⟨(if e.isFirstChunk && chunks.isEmpty then copyStreamFlagStart else 0) ||| copyStreamFlagFinal, UInt32.ofNat left.length,
          left⟩ : CopyStreamElement).encodeBinary] := by
      rw [CopyStreamEncoder.flush, if_neg empty]
      simp only [spec.encoder, CopyStreamEncoder.element, if_true, spec.elements]
      rw [chunk_marshal _ _ bound]
    rw [elements]
    constructor
    · have sizes := congrArg List.length spec.bytes
      rw [List.length_append] at sizes
      rw [data_length_append, chunk_data_length _ _ (fun chunk member => by rw [spec.full chunk member]; exact usable.small)]
      have last := element_encode_length _
        (chunk_valid ((if e.isFirstChunk && chunks.isEmpty then copyStreamFlagStart else 0) ||| copyStreamFlagFinal) left bound)
      simp only [dataLength, List.map_cons, List.map_nil, List.sum_cons, List.sum_nil, last]
      omega
    · intro started
      rw [started]
      refine no_start_append _ _ (chunk_no_start chunks) fun bytes member => ?_
      rw [List.mem_singleton.mp member]
      exact (by decide : ((0 : UInt8) ||| copyStreamFlagFinal) &&& copyStreamFlagStart = 0)

end Encoders

section Calls

variable {g : Geometry}

theorem add_envelopes_append (a b : List CourierEnvelope) (e mid last : CopyStreamEncoder) (first second : List Bytes)
    (added : addEnvelopes e a = .ok (first, mid)) (addedLater : addEnvelopes mid b = .ok (second, last)) :
    addEnvelopes e (a ++ b) = .ok (first ++ second, last) := by
  rw [add_envelopes_bind, added]
  simp only [bind, Except.bind, addedLater]
  rfl

theorem request_encoder (request : CopyRequest) :
    request.encoder g = ⟨request.buffer, g.maxPlaintextPayloadLength - copyStreamElementOverhead, request.isStart⟩ := by
  obtain ⟨isStart, isLast, buffer⟩ := request
  cases buffer with
  | nil => cases isStart <;> rfl
  | cons byte rest => cases isStart <;> rfl

variable (small : g.maxPlaintextPayloadLength - copyStreamElementOverhead < 2 ^ 32)
include small

theorem call_encoded (call : CopyCall) (request : CopyRequest) (encodes : call.encodes g = true)
    (valid : ∀ envelope ∈ call.envelopes g, envelope.valid = true) :
    ∃ elements last, addEnvelopes (request.encoder g) (call.envelopes g) = .ok (elements, last) ∧ Usable g last ∧
      Encoded (request.encoder g) (framesLength (call.envelopes g)) elements last ∧
      call.reply g request =
        if request.isLast then ⟨elements ++ last.flush.1, [], thinClientSuccess⟩ else ⟨elements, last.buffer, thinClientSuccess⟩ := by
  have usable : Usable g (request.encoder g) := by
    rw [request_encoder]
    exact ⟨rfl, small⟩
  obtain ⟨elements, last, added, usable', encoded⟩ := add_all_encoded (call.envelopes g) _ usable valid
  refine ⟨elements, last, added, usable', encoded, ?_⟩
  rw [encodes_reply call request encodes, added]
  rfl

theorem calls_bound (calls : List CopyCall) (valid : ∀ call ∈ calls, ∀ envelope ∈ call.envelopes g, envelope.valid = true)
    (isStart : Bool) (buffer : Bytes) :
    dataLength (copyCalls g isStart buffer calls) ≤ buffer.length + framesLength (calls.flatMap (CopyCall.envelopes g)) ∧
    ((∃ call ∈ calls, call.encodes g = false) → buffer ≠ [] →
      dataLength (copyCalls g isStart buffer calls) < buffer.length + framesLength (calls.flatMap (CopyCall.envelopes g))) := by
  induction calls generalizing isStart buffer with
  | nil => exact ⟨Nat.zero_le _, fun ⟨_, member, _⟩ => nomatch member⟩
  | cons call rest ih =>
      have total : framesLength ((call :: rest).flatMap (CopyCall.envelopes g)) =
          framesLength (call.envelopes g) + framesLength (rest.flatMap (CopyCall.envelopes g)) := by
        simp [framesLength]
      have later := ih fun other member => valid other (List.mem_cons_of_mem _ member)
      rw [copyCalls, total, data_length_append]
      cases encodes : call.encodes g with
      | false =>
          -- The buffer is lost.
          obtain ⟨none, lost, nothing⟩ := refused_reply (g := g) call ⟨isStart, rest.isEmpty, buffer⟩ encodes
          have bound := (later false []).1
          rw [none, lost, nothing]
          simp only [dataLength, framesLength, List.map_nil, List.sum_nil, List.length_nil] at bound ⊢
          refine ⟨by omega, fun _ some => ?_⟩
          have positive := List.length_pos_iff.mpr some
          omega
      | true =>
          obtain ⟨elements, last, _, usable, encoded, reply⟩ :=
            call_encoded small call ⟨isStart, rest.isEmpty, buffer⟩ encodes (valid call List.mem_cons_self)
          have sizes := encoded.bytes
          have filled := encoded.filled
          rw [request_encoder] at sizes filled
          simp only at sizes filled
          cases rest with
          | nil =>
              have flushed := (flush_encoded last usable).1
              rw [reply]
              simp only [List.isEmpty_nil, if_true, data_length_append, flushed, copyCalls, List.flatMap_nil]
              refine ⟨by simp only [dataLength, framesLength, List.map_nil, List.sum_nil] at sizes ⊢; omega, fun ⟨other, member, refused⟩ => ?_⟩
              rw [List.mem_singleton.mp member, encodes] at refused
              cases refused
          | cons next others =>
              rw [reply]
              simp only [List.isEmpty_cons, Bool.false_eq_true, if_false]
              obtain ⟨bound, loss⟩ := later false last.buffer
              refine ⟨by omega, fun ⟨other, member, refused⟩ some => ?_⟩
              have positive := List.length_pos_iff.mpr some
              have lost := loss (by
                cases List.mem_cons.mp member with
                | inl here => rw [here, encodes] at refused; cases refused
                | inr after => exact ⟨other, after, refused⟩) (filled (by omega))
              omega

theorem calls_no_start (calls : List CopyCall) (valid : ∀ call ∈ calls, ∀ envelope ∈ call.envelopes g, envelope.valid = true)
    (buffer : Bytes) : NoStart (copyCalls g false buffer calls) := by
  induction calls generalizing buffer with
  | nil => exact fun _ member => nomatch member
  | cons call rest ih =>
      have later := ih fun other member => valid other (List.mem_cons_of_mem _ member)
      rw [copyCalls]
      refine no_start_append _ _ ?_ (later _)
      cases encodes : call.encodes g with
      | false =>
          rw [(refused_reply (g := g) call ⟨false, rest.isEmpty, buffer⟩ encodes).1]
          exact fun _ member => nomatch member
      | true =>
          obtain ⟨elements, last, _, usable, encoded, reply⟩ :=
            call_encoded small call ⟨false, rest.isEmpty, buffer⟩ encodes (valid call List.mem_cons_self)
          have started := encoded.started (by rw [request_encoder])
          rw [reply]
          split
          · exact no_start_append _ _ started.1 ((flush_encoded last usable).2 started.2)
          · exact started.1

theorem calls_continue (calls : List CopyCall) (valid : ∀ call ∈ calls, ∀ envelope ∈ call.envelopes g, envelope.valid = true)
    (encodes : ∀ call ∈ calls, call.encodes g = true) (some : calls ≠ []) (e : CopyStreamEncoder) (usable : Usable g e)
    (started : e.isFirstChunk = false) :
    ∃ elements last, addEnvelopes e (calls.flatMap (CopyCall.envelopes g)) = .ok (elements, last) ∧
      copyCalls g false e.buffer calls = elements ++ last.flush.1 := by
  induction calls generalizing e with
  | nil => exact absurd rfl some
  | cons call rest ih =>
      obtain ⟨elements, last, added, usable', encoded, reply⟩ :=
        call_encoded small call ⟨false, rest.isEmpty, e.buffer⟩ (encodes call List.mem_cons_self) (valid call List.mem_cons_self)
      have same : CopyRequest.encoder g ⟨false, rest.isEmpty, e.buffer⟩ = e := by
        rw [request_encoder]
        obtain ⟨buffer, size, first⟩ := e
        obtain rfl := usable.size
        obtain rfl := started
        rfl
      rw [same] at added encoded
      rw [copyCalls, reply]
      cases rest with
      | nil =>
          refine ⟨elements, last, by simpa using added, ?_⟩
          simp only [List.isEmpty_nil, if_true, copyCalls, List.append_nil]
      | cons next others =>
          obtain ⟨more, final, addedLater, returned⟩ := ih (fun other member => valid other (List.mem_cons_of_mem _ member))
            (fun other member => encodes other (List.mem_cons_of_mem _ member)) (List.cons_ne_nil _ _) last usable'
            (encoded.started started).2
          refine ⟨elements ++ more, final, ?_, ?_⟩
          · rw [List.flatMap_cons]
            exact add_envelopes_append _ _ e last final elements more added addedLater
          · simp only [List.isEmpty_cons, Bool.false_eq_true, if_false, returned, List.append_assoc]

end Calls

section Streams

variable {g : Geometry}

theorem add_envelopes_steps (envelopes : List CourierEnvelope) (before elements : List Bytes) (e last : CopyStreamEncoder)
    (added : addEnvelopes e envelopes = .ok (elements, last)) :
    encodeSteps g (envelopes.map EncoderStep.add) before e = .ok (before ++ elements, last) := by
  induction envelopes generalizing e elements before with
  | nil =>
      cases added
      rw [List.append_nil]
      rfl
  | cons envelope rest ih =>
      rw [addEnvelopes] at added
      obtain ⟨⟨new, next⟩, step, added⟩ := of_bind_ok _ _ _ added
      obtain ⟨⟨more, last'⟩, steps, added⟩ := of_bind_ok _ _ _ added
      cases added
      rw [List.map_cons, encodeSteps, step, ← List.append_assoc]
      exact ih (before ++ new) more next steps

theorem frames_positive (envelopes : List CourierEnvelope) (some : envelopes ≠ []) : 0 < framesLength envelopes := by
  cases envelopes with
  | nil => exact absurd rfl some
  | cons envelope rest =>
      have size := List.length_pos_iff.mpr (frame_nonempty envelope)
      rw [framesLength, List.map_cons, List.sum_cons]
      omega

theorem single_encoder_framed (small : g.maxPlaintextPayloadLength - copyStreamElementOverhead < 2 ^ 32)
    (envelopes : List CourierEnvelope) (valid : ∀ envelope ∈ envelopes, envelope.valid = true) (some : envelopes ≠ []) :
    ∃ elements last, addEnvelopes (newCopyStreamEncoder g) envelopes = .ok (elements, last) ∧
      Framed g (elements ++ last.flush.1) ∧ dataLength (elements ++ last.flush.1) = framesLength envelopes := by
  obtain ⟨elements, last, added, usable, encoded⟩ := add_all_encoded envelopes (newCopyStreamEncoder g) ⟨rfl, small⟩ valid
  have listed : (envelopes.map EncoderStep.add).filterMap EncoderStep.envelope = envelopes := by
    rw [List.filterMap_map]
    exact List.filterMap_some
  obtain ⟨all, last', chunks, steps, encoding⟩ := steps_encoding small (envelopes.map EncoderStep.add)
    (by rw [listed]; exact valid) (new_encoding g)
  rw [add_envelopes_steps envelopes [] elements _ last added] at steps
  cases steps
  rw [listed] at encoding
  refine ⟨elements, last, added, ?_, ?_⟩
  · have flushed := flush_elements small encoding some
    rw [List.nil_append] at flushed
    rw [flushed]
    exact stream_framed small encoding
  · have sizes := encoded.bytes
    rw [data_length_append, (flush_encoded last usable).1, sizes]
    exact Nat.zero_add _

theorem framed_start (first : Bytes) (rest : List Bytes) (framed : Framed g (first :: rest)) :
    first.headD 0 &&& copyStreamFlagStart ≠ 0 := by
  obtain ⟨elems, same, flags⟩ := framed
  cases elems with
  | nil => cases same
  | cons elem others =>
      have start := (flags 0 elem rfl).2.2.1.mpr rfl
      rw [List.map_cons, List.cons.injEq] at same
      rw [same.1]
      exact of_decide_eq_true start

def Whole (g : Geometry) (calls : List CopyCall) : Prop :=
  (∀ call ∈ calls, call.encodes g = true) ∧ ∃ call ∈ calls.head?, call.envelopes g ≠ []

theorem padded_fills (envelopes : List CourierEnvelope) (some : envelopes ≠ [])
    (padded : ∀ envelope ∈ envelopes, envelope.valid = true ∧ g.maxPlaintextPayloadLength ≤ envelope.ciphertext.length) :
    g.maxPlaintextPayloadLength - copyStreamElementOverhead < framesLength envelopes := by
  cases envelopes with
  | nil => exact absurd rfl some
  | cons envelope rest =>
      obtain ⟨valid, long⟩ := padded envelope List.mem_cons_self
      rw [CourierEnvelope.valid, Bool.and_eq_true, decide_eq_true_eq, decide_eq_true_eq] at valid
      have size : envelope.ciphertext.length < envelope.frame.length := by
        simp only [CourierEnvelope.frame, CourierEnvelope.encodeBinary, List.length_append, put_uint32BE_length,
          List.length_take_of_le valid.2.ge, valid.2]
        omega
      rw [framesLength, List.map_cons, List.sum_cons]
      omega

theorem whole_single (small : g.maxPlaintextPayloadLength - copyStreamElementOverhead < 2 ^ 32) (call : CopyCall)
    (rest : List CopyCall) (valid : ∀ other ∈ call :: rest, ∀ envelope ∈ other.envelopes g, envelope.valid = true)
    (encodes : ∀ other ∈ call :: rest, other.encodes g = true)
    (long : g.maxPlaintextPayloadLength - copyStreamElementOverhead < framesLength (call.envelopes g)) :
    singleEncoder g ((call :: rest).flatMap (CopyCall.envelopes g)) = .ok (copyCalls g true [] (call :: rest)) := by
  obtain ⟨elements, last, added, usable, encoded, reply⟩ :=
    call_encoded small call ⟨true, rest.isEmpty, []⟩ (encodes call List.mem_cons_self) (valid call List.mem_cons_self)
  have fresh : CopyRequest.encoder g ⟨true, rest.isEmpty, []⟩ = newCopyStreamEncoder g := request_encoder _
  rw [fresh] at added encoded
  rw [copyCalls, reply, List.flatMap_cons, singleEncoder]
  cases rest with
  | nil =>
      rw [List.flatMap_nil, List.append_nil, added]
      simp only [List.isEmpty_nil, if_true, copyCalls, List.append_nil]
      rfl
  | cons next others =>
      have returned : elements ≠ [] := by
        intro none
        have sizes := encoded.bytes
        have kept := encoded.kept (Nat.zero_le _)
        rw [none] at sizes
        simp only [dataLength, List.map_nil, List.sum_nil, newCopyStreamEncoder, List.length_nil] at sizes kept
        omega
      obtain ⟨more, final, addedLater, later⟩ := calls_continue small (next :: others)
        (fun other member => valid other (List.mem_cons_of_mem _ member))
        (fun other member => encodes other (List.mem_cons_of_mem _ member)) (List.cons_ne_nil _ _) last usable (encoded.full returned).2
      rw [add_envelopes_append _ _ _ last final elements more added addedLater]
      simp only [List.isEmpty_cons, Bool.false_eq_true, if_false, later]
      exact congrArg Except.ok (List.append_assoc _ _ _)

theorem single_whole (small : g.maxPlaintextPayloadLength - copyStreamElementOverhead < 2 ^ 32) (call : CopyCall)
    (rest : List CopyCall) (valid : ∀ other ∈ call :: rest, ∀ envelope ∈ other.envelopes g, envelope.valid = true)
    (framed : Framed g (copyCalls g true [] (call :: rest)))
    (bytes : dataLength (copyCalls g true [] (call :: rest)) = framesLength ((call :: rest).flatMap (CopyCall.envelopes g)))
    (some : 0 < framesLength ((call :: rest).flatMap (CopyCall.envelopes g))) : Whole g (call :: rest) := by
  have laterValid : ∀ other ∈ rest, ∀ envelope ∈ other.envelopes g, envelope.valid = true :=
    fun other member => valid other (List.mem_cons_of_mem _ member)
  have total : framesLength ((call :: rest).flatMap (CopyCall.envelopes g)) =
      framesLength (call.envelopes g) + framesLength (rest.flatMap (CopyCall.envelopes g)) := by
    simp [framesLength]
  -- The Start flag can only come from the first call.
  have startsFirst : (call.reply g ⟨true, rest.isEmpty, []⟩).envelopes ≠ [] := by
    intro none
    have later := calls_no_start small rest laterValid (call.reply g ⟨true, rest.isEmpty, []⟩).buffer
    rw [copyCalls, none, List.nil_append] at framed bytes
    cases returned : copyCalls g false (call.reply g ⟨true, rest.isEmpty, []⟩).buffer rest with
    | nil =>
        rw [returned] at bytes
        exact absurd bytes (by simp only [dataLength, List.map_nil, List.sum_nil]; omega)
    | cons first others =>
        rw [returned] at framed later
        exact framed_start first others framed (later first List.mem_cons_self)
  have encodes : call.encodes g = true := by
    cases refused : call.encodes g with
    | true => rfl
    | false => exact absurd (refused_reply call _ refused).1 startsFirst
  obtain ⟨elements, last, _, usable, encoded, reply⟩ :=
    call_encoded small call ⟨true, rest.isEmpty, []⟩ encodes (valid call List.mem_cons_self)
  rw [request_encoder] at encoded
  have sizes := encoded.bytes
  have filled := encoded.filled
  have full := encoded.full
  simp only [List.length_nil, Nat.zero_add] at sizes filled full
  have producing : 0 < framesLength (call.envelopes g) → call.envelopes g ≠ [] := by
    intro positive none
    rw [none] at positive
    cases positive
  cases rest with
  | nil =>
      refine ⟨fun other member => ?_, call, rfl, producing (by simpa using some)⟩
      rw [List.mem_singleton.mp member, encodes]
  | cons next others =>
      rw [reply] at startsFirst
      simp only [List.isEmpty_cons, Bool.false_eq_true, if_false] at startsFirst reply
      have long := (full startsFirst).1
      have room : 0 < g.maxPlaintextPayloadLength - copyStreamElementOverhead := Nat.sub_pos_of_lt g.fits
      have kept := List.length_pos_iff.mpr (filled (by omega))
      refine ⟨fun other member => ?_, call, rfl, producing (by omega)⟩
      by_contra refused
      rw [Bool.not_eq_true] at refused
      -- A later call that is not encoded loses the buffer.
      have lost := (calls_bound small (next :: others) laterValid false last.buffer).2 (by
        cases List.mem_cons.mp member with
        | inl here => rw [here, encodes] at refused; cases refused
        | inr after => exact ⟨other, after, refused⟩) (List.length_pos_iff.mp kept)
      rw [copyCalls, List.isEmpty_cons, reply, data_length_append] at bytes
      simp only at bytes
      omega

end Streams

/-- The elements that a sequence of calls returns are the ones of a single encoder just if the
calls keep the stream whole. An envelope is longer than a box, so its length field bounds the
boxes too. -/
theorem multi_call_stream (g : Geometry) (calls : List CopyCall) (called : calls ≠ [])
    (encrypted : ∀ call ∈ calls, ∀ envelope ∈ call.envelopes g, envelope.valid = true ∧
      g.maxPlaintextPayloadLength ≤ envelope.ciphertext.length)
    (produced : calls.flatMap (CopyCall.envelopes g) ≠ []) :
    (singleEncoder g (calls.flatMap (CopyCall.envelopes g)) = .ok (copyCalls g true [] calls) ↔ Whole g calls) ∧
    (Whole g calls → Framed g (copyCalls g true [] calls)) := by
  have valid : ∀ call ∈ calls, ∀ envelope ∈ call.envelopes g, envelope.valid = true := fun call member envelope made =>
    (encrypted call member envelope made).1
  have small : g.maxPlaintextPayloadLength - copyStreamElementOverhead < 2 ^ 32 := by
    obtain ⟨envelope, member⟩ := List.exists_mem_of_ne_nil _ produced
    obtain ⟨call, inside, made⟩ := List.mem_flatMap.mp member
    obtain ⟨fine, long⟩ := encrypted call inside envelope made
    rw [CourierEnvelope.valid, Bool.and_eq_true, decide_eq_true_eq, decide_eq_true_eq] at fine
    have bound : envelope.ciphertextLen.toNat < 2 ^ 32 := envelope.ciphertextLen.toNat_lt
    omega
  obtain ⟨elements, last, added, framed, bytes⟩ := single_encoder_framed small _ (fun envelope member => by
    obtain ⟨call, inside, made⟩ := List.mem_flatMap.mp member
    exact valid call inside envelope made) produced
  have single : singleEncoder g (calls.flatMap (CopyCall.envelopes g)) = .ok (elements ++ last.flush.1) := by
    rw [singleEncoder, added]
    rfl
  cases calls with
  | nil => exact absurd rfl called
  | cons call rest =>
      have forward : Whole g (call :: rest) →
          singleEncoder g ((call :: rest).flatMap (CopyCall.envelopes g)) = .ok (copyCalls g true [] (call :: rest)) := by
        rintro ⟨encodes, first, same, some⟩
        obtain rfl := Option.some.inj same
        exact whole_single small call rest valid encodes (padded_fills _ some (encrypted call List.mem_cons_self))
      refine ⟨⟨fun same => ?_, forward⟩, fun whole => ?_⟩
      · rw [single] at same
        rw [Except.ok.inj same] at framed bytes
        exact single_whole small call rest valid framed bytes (frames_positive _ produced)
      · have same := single.symm.trans (forward whole)
        rw [← Except.ok.inj same]
        exact framed

def paddedEnvelope (byte : UInt8) : CourierEnvelope :=
  { boxEnvelope byte with ciphertextLen := 10, ciphertext := List.replicate 10 byte }

def paddedPayloads (payload : Bytes) : CopyCall := .payloads true [⟨payload, true, true, true, fun _ _ => some (paddedEnvelope 1)⟩]

def paddedTombstones (maxCount : UInt32) : CopyCall := .tombstoneRange true ⟨true, true, maxCount, fun _ => some (paddedEnvelope 2)⟩

theorem payloads_then_tombstones :
    singleEncoder smallGeometry [paddedEnvelope 1, paddedEnvelope 2, paddedEnvelope 2] =
      .ok (copyCalls smallGeometry true [] [paddedPayloads [7], paddedPayloads [], paddedTombstones 2]) := by
  have same := (multi_call_stream smallGeometry [paddedPayloads [7], paddedPayloads [], paddedTombstones 2] (List.cons_ne_nil _ _)
    (by decide +kernel) (by decide +kernel)).1.mpr ⟨by decide +kernel, paddedPayloads [7], rfl, by decide +kernel⟩
  exact same

def sameElements (g : Geometry) (calls : List CopyCall) : Bool :=
  (singleEncoder g (calls.flatMap (CopyCall.envelopes g))).toOption = some (copyCalls g true [] calls)

/-- After a call with an empty payload the Start flag is suppressed, and a call for no tombstones
does not return the buffer: the rest of the envelope is lost, and the Final flag too if the call
is the last one. -/
theorem multi_call_streams_broken :
    sameElements smallGeometry [paddedPayloads [], paddedPayloads [7]] = false ∧
    sameElements smallGeometry [paddedPayloads [7], paddedTombstones 0, paddedPayloads [8]] = false ∧
    sameElements smallGeometry [paddedPayloads [7], paddedTombstones 0] = false := by
  decide +kernel

end Katzenpost.Pigeonhole
