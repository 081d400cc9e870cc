import Katzenpost.Client.CopyCalls
import Katzenpost.Go.While
import Katzenpost.Pigeonhole.Sizes

set_option autoImplicit false

namespace Katzenpost.Pigeonhole

open Go

def validateEnvelopePayloadRequest {cap index : Type} (payload : Bytes) (writeCap : Option cap) (startIndex : Option index)
    (maxPlaintextPayloadLength : Int) : Except String Unit :=
  if writeCap.isNone then .error "DestWriteCap is nil"
  else if startIndex.isNone then .error "DestStartIndex is nil"
  else if payload.length > maxPayloadSize then .error s!"payload size {payload.length} exceeds maximum of {maxPayloadSize} bytes"
  else if maxPlaintextPayloadLength - 4 ≤ 0 then .error "invalid geometry, maxPayload <= 0"
  else .ok ()

def sliceChecked (payload : Bytes) (lo hi : Nat) : Except (Stop String) Bytes :=
  if lo ≤ hi ∧ hi ≤ payload.length then .ok ((payload.take hi).drop lo) else .error .outOfRange

def offsetTurn (payload : Bytes) (maxChunkSize : Nat) (s : Nat × List Bytes) : Option (Except (Stop String) (Nat × List Bytes)) :=
  if s.1 < payload.length then
    some (do
      let chunk ← sliceChecked payload s.1 (min (s.1 + maxChunkSize) payload.length)
      return (s.1 + maxChunkSize, s.2 ++ [chunk]))
  else none

def chunkPayload (payload : Bytes) (maxChunkSize fuel : Nat) : Except (Stop String) (List Bytes) :=
  if payload.length = 0 then .ok []
  else do
    let (_, chunks) ← loop (offsetTurn payload maxChunkSize) fuel (0, [])
    return chunks

def chunkTurn (size : Nat) (s : List Bytes × CopyStreamEncoder) : Except (Stop String) (List Bytes × CopyStreamEncoder) := do
  let chunk ← sliceChecked s.2.buffer 0 size
  let rest ← sliceChecked s.2.buffer size s.2.buffer.length
  return (s.1 ++ (s.2.element chunk false).marshalBinary.toOption.toList, { s.2 with buffer := rest, isFirstChunk := false })

def extractTurn (s : List Bytes × CopyStreamEncoder) : Option (Except (Stop String) (List Bytes × CopyStreamEncoder)) :=
  if s.2.buffer.length > s.2.maxChunkSize then some (chunkTurn s.2.maxChunkSize s) else none

def drainTurn (s : List Bytes × CopyStreamEncoder) : Option (Except (Stop String) (List Bytes × CopyStreamEncoder)) :=
  if s.2.buffer.length > 0 then some (chunkTurn (min s.2.maxChunkSize s.2.buffer.length) s) else none

section Runs

variable (e : CopyStreamEncoder)

def CopyStreamEncoder.addEnvelopeRun (envelope : CourierEnvelope) (fuel : Nat) : Except (Stop String) (List Bytes × CopyStreamEncoder) :=
  match envelope.marshalBinary with
  | .error err => .error (.fails err)
  | .ok envelopeBytes =>
      let lengthPrefixed := putUint32BE (UInt32.ofNat envelopeBytes.length) ++ envelopeBytes
      loop extractTurn fuel ([], { e with buffer := e.buffer ++ lengthPrefixed })

def CopyStreamEncoder.flushRun (fuel : Nat) : Except (Stop String) (List Bytes) :=
  if e.buffer.length = 0 then .ok []
  else do
    let (elements, last) ← loop extractTurn fuel ([], e)
    return elements ++ (last.element last.buffer true).marshalBinary.toOption.toList

def CopyStreamEncoder.flushWithoutFinalRun (fuel : Nat) : Except (Stop String) (List Bytes) :=
  if e.buffer.length = 0 then .ok []
  else do
    let (elements, _) ← loop drainTurn fuel ([], e)
    return elements

end Runs

def addEnvelopesRun : CopyStreamEncoder → List CourierEnvelope → Nat → Except (Stop String) (List Bytes × CopyStreamEncoder)
  | e, [], _ => .ok ([], e)
  | e, envelope :: rest, fuel => do
      let (new, next) ← e.addEnvelopeRun envelope fuel
      let (more, last) ← addEnvelopesRun next rest fuel
      return (new ++ more, last)

-- The encoder for a geometry. A request that is admitted has no negative chunk size.
def encoderFor (maxPlaintextPayloadLength : Int) (isStart : Bool) : CopyStreamEncoder :=
  let e : CopyStreamEncoder := ⟨[], (maxPlaintextPayloadLength - copyStreamElementOverhead).toNat, true⟩
  if isStart then e else e.suppressStart

def encodePayload (maxPlaintextPayloadLength : Int) (encrypt : Nat → Bytes → CourierEnvelope) (payload : Bytes) (isStart isLast : Bool)
    (fuel : Nat) : Except (Stop String) (List Bytes) := do
  let chunks ← chunkPayload payload (maxPlaintextPayloadLength - 4).toNat fuel
  let (elements, last) ← addEnvelopesRun (encoderFor maxPlaintextPayloadLength isStart) (chunks.mapIdx encrypt) fuel
  let trailing ← if isLast then last.flushRun fuel else last.flushWithoutFinalRun fuel
  return elements ++ trailing

section Chunks

theorem slice_checked_ok (payload : Bytes) (lo hi : Nat) (ordered : lo ≤ hi) (inside : hi ≤ payload.length) :
    sliceChecked payload lo hi = .ok ((payload.take hi).drop lo) := if_pos ⟨ordered, inside⟩

theorem payload_chunks_flatten (maxPayload : Nat) (positive : 0 < maxPayload) (fuel : Nat) (payload : Bytes)
    (enough : payload.length ≤ fuel) : (payloadChunks maxPayload fuel payload).flatten = payload := by
  induction fuel generalizing payload with
  | zero => rw [payloadChunks, List.length_eq_zero_iff.mp (Nat.le_zero.mp enough), List.flatten_nil]
  | succ fuel ih =>
      rw [payloadChunks]
      split
      · rename_i empty
        rw [empty, List.flatten_nil]
      · rename_i some
        have long := List.length_pos_of_ne_nil some
        have rest := ih (payload.drop maxPayload) (by rw [List.length_drop]; omega)
        rw [List.flatten_cons, rest, List.take_append_drop]

theorem offset_loop (payload : Bytes) (maxPayload : Nat) (positive : 0 < maxPayload) (n offset : Nat) (chunks : List Bytes)
    (left : payload.length - offset ≤ n) (fuel : Nat) (enough : n < fuel) :
    ∃ reached, loop (offsetTurn payload maxPayload) fuel (offset, chunks) =
      .ok (reached, chunks ++ payloadChunks maxPayload n (payload.drop offset)) := by
  induction n generalizing offset chunks fuel with
  | zero =>
      obtain ⟨k, rfl⟩ := Nat.exists_eq_add_of_le' enough
      have done : offsetTurn payload maxPayload (offset, chunks) = none := if_neg (by dsimp only; omega)
      exact ⟨offset, by simp only [loop, done, payloadChunks, List.append_nil]⟩
  | succ n ih =>
      obtain ⟨k, rfl⟩ := Nat.exists_eq_add_of_le' (Nat.lt_of_le_of_lt (Nat.zero_le _) enough)
      by_cases inside : offset < payload.length
      · have some : payload.drop offset ≠ [] := by
          rw [ne_eq, List.drop_eq_nil_iff]
          omega
        have chunk : (payload.take (min (offset + maxPayload) payload.length)).drop offset = (payload.drop offset).take maxPayload := by
          rw [List.drop_take, List.take_eq_take_iff, List.length_drop]
          omega
        have goes : offsetTurn payload maxPayload (offset, chunks) =
            .some (.ok (offset + maxPayload, chunks ++ [(payload.drop offset).take maxPayload])) := by
          rw [offsetTurn, if_pos inside]
          dsimp only
          rw [slice_checked_ok _ _ _ (by omega) (by omega), chunk]
          rfl
        obtain ⟨reached, rest⟩ := ih (offset + maxPayload) (chunks ++ [(payload.drop offset).take maxPayload]) (by omega) k (by omega)
        refine ⟨reached, ?_⟩
        simp only [loop, goes, rest, payloadChunks, some, if_false, List.drop_drop, List.append_assoc, List.singleton_append]
      · have done : offsetTurn payload maxPayload (offset, chunks) = none := if_neg inside
        have none : payload.drop offset = [] := List.drop_eq_nil_of_le (not_lt.mp inside)
        exact ⟨offset, by simp only [loop, done, none, payloadChunks, if_true, List.append_nil]⟩

theorem chunk_payload_settles (payload : Bytes) (maxPayload : Nat) (positive : 0 < maxPayload) :
    Settles (chunkPayload payload maxPayload) (.ok (payloadChunks maxPayload payload.length payload)) := by
  refine ⟨payload.length + 1, fun fuel enough => ?_⟩
  rw [chunkPayload]
  split
  · rename_i empty
    rw [empty]
    rfl
  · obtain ⟨reached, whole⟩ := offset_loop payload maxPayload positive payload.length 0 [] (by omega) fuel enough
    rw [whole]
    rfl

end Chunks

section Encoding

theorem chunk_turn_ok (size : Nat) (elements : List Bytes) (e : CopyStreamEncoder) (inside : size ≤ e.buffer.length) :
    chunkTurn size (elements, e) = .ok
      (elements ++ (e.element (e.buffer.take size) false).marshalBinary.toOption.toList,
        { e with buffer := e.buffer.drop size, isFirstChunk := false }) := by
  rw [chunkTurn]
  dsimp only
  rw [slice_checked_ok _ _ _ (Nat.zero_le _) inside, slice_checked_ok _ _ _ inside (Nat.le_refl _), List.take_length]
  rfl

theorem extract_loop_chunk_size (n : Nat) (e : CopyStreamEncoder) : (extractLoop n e).2.maxChunkSize = e.maxChunkSize := by
  induction n generalizing e with
  | zero => rfl
  | succ n ih =>
      rw [extractLoop]
      split
      · exact ih _
      · rfl

theorem extract_run (n : Nat) (elements : List Bytes) (e : CopyStreamEncoder) (room : 0 < e.maxChunkSize)
    (bound : e.buffer.length ≤ n) (fuel : Nat) (enough : n < fuel) :
    loop extractTurn fuel (elements, e) = .ok (elements ++ (extractLoop n e).1, (extractLoop n e).2) := by
  induction n generalizing elements e fuel with
  | zero =>
      obtain ⟨k, rfl⟩ := Nat.exists_eq_add_of_le' enough
      have done : extractTurn (elements, e) = none := if_neg (by dsimp only; omega)
      simp only [loop, done, extractLoop, List.append_nil]
  | succ n ih =>
      obtain ⟨k, rfl⟩ := Nat.exists_eq_add_of_le' (Nat.lt_of_le_of_lt (Nat.zero_le _) enough)
      by_cases long : e.buffer.length > e.maxChunkSize
      · have goes : extractTurn (elements, e) = some (chunkTurn e.maxChunkSize (elements, e)) := if_pos long
        have shorter : (e.buffer.drop e.maxChunkSize).length ≤ n := by
          rw [List.length_drop]
          omega
        rw [chunk_turn_ok _ _ _ long.le] at goes
        rw [extractLoop, if_pos long]
        simp only [loop, goes]
        rw [ih _ { e with buffer := e.buffer.drop e.maxChunkSize, isFirstChunk := false } room shorter k (by omega), List.append_assoc]
      · have done : extractTurn (elements, e) = none := if_neg long
        simp only [loop, done, extractLoop, long, if_false, List.append_nil]

theorem extract_settles (e : CopyStreamEncoder) (room : 0 < e.maxChunkSize) :
    Settles (fun fuel => loop extractTurn fuel ([], e)) (.ok (extractLoop e.buffer.length e)) :=
  ⟨e.buffer.length + 1, fun fuel enough => extract_run e.buffer.length [] e room (Nat.le_refl _) fuel enough⟩

theorem add_envelope_settles (e : CopyStreamEncoder) (room : 0 < e.maxChunkSize) (envelope : CourierEnvelope) :
    Settles (e.addEnvelopeRun envelope) ((e.addEnvelope envelope).mapError .fails) := by
  unfold CopyStreamEncoder.addEnvelopeRun CopyStreamEncoder.addEnvelope
  cases envelope.marshalBinary with
  | error err => exact settles_const _
  | ok envelopeBytes => exact extract_settles _ room

theorem add_envelope_chunk_size (e next : CopyStreamEncoder) (envelope : CourierEnvelope) (new : List Bytes)
    (added : e.addEnvelope envelope = .ok (new, next)) : next.maxChunkSize = e.maxChunkSize := by
  rw [CopyStreamEncoder.addEnvelope] at added
  obtain ⟨envelopeBytes, _, added⟩ := of_bind_ok _ _ _ added
  have same := congrArg (fun result => result.2.maxChunkSize) (Except.ok.inj added)
  exact same.symm.trans (extract_loop_chunk_size _ _)

theorem add_envelopes_settles (envelopes : List CourierEnvelope) (e : CopyStreamEncoder) (room : 0 < e.maxChunkSize) :
    Settles (addEnvelopesRun e envelopes) ((addEnvelopes e envelopes).mapError .fails) := by
  induction envelopes generalizing e with
  | nil => exact settles_const _
  | cons envelope rest ih =>
      have first := add_envelope_settles e room envelope
      cases added : e.addEnvelope envelope with
      | error err =>
          rw [added] at first
          rw [addEnvelopes, added]
          exact settles_stop _ _ _ first
      | ok result =>
          obtain ⟨new, next⟩ := result
          rw [added] at first
          have later := ih next (by rwa [add_envelope_chunk_size e next envelope new added])
          have whole : addEnvelopes e (envelope :: rest) = addEnvelopes next rest >>= fun (more, last) => .ok (new ++ more, last) := by
            rw [addEnvelopes, added]
            rfl
          rw [whole]
          refine settles_bind _ _ (new, next) _ first ?_
          cases collected : addEnvelopes next rest with
          | error err =>
              rw [collected] at later
              exact settles_stop _ _ _ later
          | ok result =>
              rw [collected] at later
              exact settles_bind _ _ result _ later (settles_const _)

theorem flush_settles (e : CopyStreamEncoder) (room : 0 < e.maxChunkSize) : Settles e.flushRun (.ok e.flush.1) := by
  unfold CopyStreamEncoder.flushRun CopyStreamEncoder.flush
  split
  · exact settles_const _
  · exact settles_bind _ _ _ _ (extract_settles e room) (settles_const _)

theorem flush_without_final_settles (e : CopyStreamEncoder) (room : 0 < e.maxChunkSize) :
    ∃ elements, Settles e.flushWithoutFinalRun (.ok elements) := by
  unfold CopyStreamEncoder.flushWithoutFinalRun
  split
  · exact ⟨[], settles_const _⟩
  · -- Every turn takes bytes from the buffer.
    obtain ⟨⟨elements, last⟩, _, _, settles⟩ := loop_settles drainTurn (fun s => 0 < s.2.maxChunkSize) (fun s => s.2.buffer.length)
      (fun s room => by
        by_cases left : s.2.buffer.length > 0
        · right
          have goes : drainTurn s = some (chunkTurn (min s.2.maxChunkSize s.2.buffer.length) (s.1, s.2)) := if_pos left
          rw [chunk_turn_ok _ _ _ (Nat.min_le_right _ _)] at goes
          refine ⟨_, goes, room, ?_⟩
          rw [List.length_drop]
          omega
        · exact Or.inl (if_neg left)) ([], e) room
    exact ⟨elements, settles_bind _ _ (elements, last) _ settles (settles_const _)⟩

theorem extract_never_ends (e : CopyStreamEncoder) (tight : e.maxChunkSize = 0) (some : 0 < e.buffer.length) (fuel : Nat)
    (elements : List Bytes) : loop extractTurn fuel (elements, e) = .error .unfinished := by
  refine loop_never_ends extractTurn (fun s => s.2.maxChunkSize = 0 ∧ 0 < s.2.buffer.length) ?_ fuel (elements, e) ⟨tight, some⟩
  rintro ⟨elements, e⟩ ⟨tight, some⟩
  have goes : extractTurn (elements, e) = .some (chunkTurn e.maxChunkSize (elements, e)) := if_pos (by dsimp only at tight some ⊢; omega)
  rw [chunk_turn_ok _ _ _ (by dsimp only at tight; omega)] at goes
  refine ⟨_, goes, tight, ?_⟩
  dsimp only at tight some ⊢
  rwa [tight, List.drop_zero]

end Encoding

section Requests

variable (encrypt : Nat → Bytes → CourierEnvelope) (payload : Bytes) (isStart isLast : Bool)

theorem encoder_for_chunk_size (m : Int) : (encoderFor m isStart).maxChunkSize = (m - copyStreamElementOverhead).toNat := by
  cases isStart with
  | false => rfl
  | true => rfl

theorem encoder_for_buffer (m : Int) : (encoderFor m isStart).buffer = [] := by
  cases isStart with
  | false => rfl
  | true => rfl

theorem admitted_room {cap index : Type} (writeCap : Option cap) (startIndex : Option index) (m : Int)
    (admitted : validateEnvelopePayloadRequest payload writeCap startIndex m = .ok ()) : 5 ≤ m := by
  by_contra small
  have refused : m - 4 ≤ 0 := by omega
  simp only [validateEnvelopePayloadRequest, refused, if_true] at admitted
  repeat' split at admitted
  all_goals cases admitted

theorem add_envelopes_chunk_size (envelopes : List CourierEnvelope) (e last : CopyStreamEncoder) (elements : List Bytes)
    (added : addEnvelopes e envelopes = .ok (elements, last)) : last.maxChunkSize = e.maxChunkSize := by
  induction envelopes generalizing e elements with
  | nil =>
      cases added
      rfl
  | cons envelope rest ih =>
      obtain ⟨⟨new, next⟩, first, added⟩ := of_bind_ok _ _ _ added
      obtain ⟨⟨more, final⟩, later, added⟩ := of_bind_ok _ _ _ added
      cases added
      rw [ih next more later, add_envelope_chunk_size e next envelope new first]

theorem roomy_encoding (m : Int) (room : 5 < m) :
    (∃ elements, Settles (encodePayload m encrypt payload isStart isLast) (.ok elements)) ∨
    ∃ err, Settles (encodePayload m encrypt payload isStart isLast) (.error (.fails err)) := by
  have chunked := chunk_payload_settles payload (m - 4).toNat (by omega)
  have size := encoder_for_chunk_size isStart m
  have positive : 0 < (encoderFor m isStart).maxChunkSize := by
    rw [size, copyStreamElementOverhead]
    omega
  have collected := add_envelopes_settles
    ((payloadChunks (m - 4).toNat payload.length payload).mapIdx encrypt) (encoderFor m isStart) positive
  cases added : addEnvelopes (encoderFor m isStart) ((payloadChunks (m - 4).toNat payload.length payload).mapIdx encrypt) with
  | error err =>
      rw [added] at collected
      exact Or.inr ⟨err, settles_bind _ _ _ _ chunked (settles_stop _ _ _ collected)⟩
  | ok result =>
      obtain ⟨elements, last⟩ := result
      rw [added] at collected
      have left : 0 < last.maxChunkSize := by rwa [add_envelopes_chunk_size _ _ last elements added]
      cases isLast with
      | true =>
          have flushed := flush_settles last left
          exact Or.inl ⟨_, settles_bind _ _ _ _ chunked
            (settles_bind _ _ (elements, last) _ collected (settles_bind _ _ _ _ flushed (settles_const _)))⟩
      | false =>
          obtain ⟨trailing, flushed⟩ := flush_without_final_settles last left
          exact Or.inl ⟨elements ++ trailing, settles_bind _ _ _ _ chunked
            (settles_bind _ _ (elements, last) _ collected (settles_bind _ _ _ _ flushed (settles_const _)))⟩

theorem empty_encoding (m : Int) : Settles (encodePayload m encrypt [] isStart isLast) (.ok []) := by
  refine ⟨0, fun fuel _ => ?_⟩
  have empty := encoder_for_buffer isStart m
  cases isLast with
  | true =>
      have flushed : (encoderFor m isStart).flushRun fuel = .ok [] := if_pos (by rw [empty, List.length_nil])
      simp only [encodePayload, chunkPayload, List.length_nil, if_true, bind, Except.bind, List.mapIdx_nil, addEnvelopesRun, flushed]
      rfl
  | false =>
      have flushed : (encoderFor m isStart).flushWithoutFinalRun fuel = .ok [] := if_pos (by rw [empty, List.length_nil])
      simp only [encodePayload, chunkPayload, List.length_nil, if_true, bind, Except.bind, List.mapIdx_nil, addEnvelopesRun, flushed]
      rfl

theorem tight_encoding (some : payload ≠ []) :
    ((encrypt 0 (payload.take 1)).valid = true → Settles (encodePayload 5 encrypt payload isStart isLast) (.error .unfinished)) ∧
    ((encrypt 0 (payload.take 1)).valid = false →
      Settles (encodePayload 5 encrypt payload isStart isLast) (.error (.fails lengthViolated))) := by
  have chunked := chunk_payload_settles payload 1 (Nat.one_pos)
  obtain ⟨n, count⟩ := Nat.exists_eq_succ_of_ne_zero (fun zero => some (List.length_eq_zero_iff.mp zero))
  have first : payloadChunks 1 payload.length payload = payload.take 1 :: payloadChunks 1 n (payload.drop 1) := by
    rw [count, payloadChunks, if_neg some]
  rw [first] at chunked
  refine ⟨fun valid => ?_, fun invalid => ?_⟩
  · refine settles_bind _ _ _ _ chunked (settles_stop _ _ _ ?_)
    rw [List.mapIdx_cons]
    refine settles_stop _ _ _ ⟨0, fun fuel _ => ?_⟩
    rw [CopyStreamEncoder.addEnvelopeRun, CourierEnvelope.marshalBinary, if_pos valid]
    dsimp only
    apply extract_never_ends
    · exact encoder_for_chunk_size isStart 5
    · simp only [List.length_append, put_uint32BE_length]
      omega
  · refine settles_bind _ _ _ _ chunked (settles_stop _ _ _ ?_)
    rw [List.mapIdx_cons]
    refine settles_stop _ _ _ ⟨0, fun fuel _ => ?_⟩
    rw [CopyStreamEncoder.addEnvelopeRun, CourierEnvelope.marshalBinary, if_neg (by rw [invalid]; exact Bool.false_ne_true)]

theorem encoding_outcome (m : Int) (room : 5 ≤ m) :
    ∃ outcome, Settles (encodePayload m encrypt payload isStart isLast) outcome ∧
      (outcome ≠ .error .outOfRange ∧ outcome ≠ .error .panics) ∧
      (outcome ≠ .error .unfinished ↔ m ≠ 5 ∨ payload = [] ∨ (encrypt 0 (payload.take 1)).valid = false) := by
  by_cases tight : m = 5
  · subst tight
    by_cases some : payload = []
    · subst some
      exact ⟨_, empty_encoding encrypt isStart isLast 5, ⟨nofun, nofun⟩, fun _ => .inr (.inl rfl), fun _ => nofun⟩
    · obtain ⟨stuck, refused⟩ := tight_encoding encrypt payload isStart isLast some
      cases valid : (encrypt 0 (payload.take 1)).valid with
      | true => exact ⟨_, stuck valid, ⟨nofun, nofun⟩, by simp [some]⟩
      | false => exact ⟨_, refused valid, ⟨nofun, nofun⟩, fun _ => .inr (.inr rfl), fun _ => nofun⟩
  · rcases roomy_encoding encrypt payload isStart isLast m (by omega) with ⟨elements, settles⟩ | ⟨err, settles⟩
    · exact ⟨_, settles, ⟨nofun, nofun⟩, fun _ => .inl tight, fun _ => nofun⟩
    · exact ⟨_, settles, ⟨nofun, nofun⟩, fun _ => .inl tight, fun _ => nofun⟩

end Requests

/-- The request check leaves a geometry without room for a chunk of an element: its encoding never
ends once an envelope is added. -/
theorem encoding_terminates_iff {cap index : Type} (g : Wire.Geometry) (writeCap : Option cap) (startIndex : Option index)
    (payload : Bytes) (admitted : validateEnvelopePayloadRequest payload writeCap startIndex g.maxPlaintextPayloadLength = .ok ())
    (encrypt : Nat → Bytes → CourierEnvelope) (isStart isLast : Bool) :
    (∃ chunks, Settles (chunkPayload payload (g.maxPlaintextPayloadLength - 4).toNat) (.ok chunks) ∧ chunks.flatten = payload) ∧
    (∃ outcome, Settles (encodePayload g.maxPlaintextPayloadLength encrypt payload isStart isLast) outcome ∧
      outcome ≠ .error .outOfRange ∧ outcome ≠ .error .panics) ∧
    (Terminates (encodePayload g.maxPlaintextPayloadLength encrypt payload isStart isLast) ↔
      g.maxPlaintextPayloadLength ≠ 5 ∨ payload = [] ∨ (encrypt 0 (payload.take 1)).valid = false) := by
  have room := admitted_room payload writeCap startIndex _ admitted
  generalize g.maxPlaintextPayloadLength = m at room ⊢
  have positive : 0 < (m - 4).toNat := by omega
  refine ⟨⟨_, chunk_payload_settles payload _ positive, payload_chunks_flatten _ positive _ payload (Nat.le_refl _)⟩, ?_⟩
  obtain ⟨outcome, settles, answered, terminates⟩ := encoding_outcome encrypt payload isStart isLast m room
  exact ⟨⟨outcome, settles, answered⟩, (settles_terminates _ _ settles).trans terminates⟩

section Samples

def boxesOf (m : Int) : Wire.Geometry := ⟨m, 0, 0, 0, 0, "x25519", "Ed25519"⟩

def plainEnvelope (_ : Nat) (_ : Bytes) : CourierEnvelope :=
  ⟨Fixed.copy 2 [], Fixed.copy 60 [], Fixed.copy 60 [], 0, 0, 0, [], 0, []⟩

end Samples

theorem six_byte_boxes_terminate :
    (boxesOf 6).validate Wire.chachaSuite = .returns () ∧
    validateEnvelopePayloadRequest [7] (some ()) (some ()) 6 = .ok () ∧ Terminates (encodePayload 6 plainEnvelope [7] true true) := by
  have admitted : validateEnvelopePayloadRequest [7] (some ()) (some ()) (boxesOf 6).maxPlaintextPayloadLength = .ok () := rfl
  obtain ⟨_, _, terminates⟩ := encoding_terminates_iff (boxesOf 6) _ _ [7] admitted plainEnvelope true true
  exact ⟨rfl, rfl, terminates.mpr (Or.inl (by decide))⟩

/-- Boxes of five bytes and a payload of one pass both checks, and the call does not end. -/
theorem five_byte_boxes_never_end :
    (boxesOf 5).validate Wire.chachaSuite = .returns () ∧
    validateEnvelopePayloadRequest [7] (some ()) (some ()) (boxesOf 5).maxPlaintextPayloadLength = .ok () ∧
    ¬ Terminates (encodePayload (boxesOf 5).maxPlaintextPayloadLength plainEnvelope [7] true true) := by
  refine ⟨rfl, rfl, ?_⟩
  have settles := (tight_encoding plainEnvelope [7] true true (by decide)).1 (by decide)
  exact fun terminates => (settles_terminates _ _ settles).mp terminates rfl

end Katzenpost.Pigeonhole
