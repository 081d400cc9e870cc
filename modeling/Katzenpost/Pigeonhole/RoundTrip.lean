import Katzenpost.Pigeonhole.CopyStream

set_option autoImplicit false

namespace Katzenpost.Pigeonhole

open Go

-- The uses of an encoder: an envelope is added, or the buffer is saved and restored into
-- a new encoder, which may set the Start flag if no element was returned yet.
inductive EncoderStep where
  | add (envelope : CourierEnvelope)
  | restart

def EncoderStep.envelope : EncoderStep → Option CourierEnvelope
  | .add envelope => some envelope
  | .restart => none

def encodeSteps (g : Geometry) : List EncoderStep → List Bytes → CopyStreamEncoder → Except String (List Bytes × CopyStreamEncoder)
  | [], elements, e => .ok (elements, e)
  | .add envelope :: rest, elements, e => do
      let (new, next) ← e.addEnvelope envelope
      encodeSteps g rest (elements ++ new) next
  | .restart :: rest, elements, e =>
      let restored := (newCopyStreamEncoder g).setBuffer e.getBuffer
      encodeSteps g rest elements (if elements = [] then restored else restored.suppressStart)

def encodeStream (g : Geometry) (steps : List EncoderStep) : Except String (List Bytes) := do
  let (elements, e) ← encodeSteps g steps [] (newCopyStreamEncoder g)
  return elements ++ e.flush.1

section Chunks

def chunkElements : Bool → List Bytes → List CopyStreamElement
  | _, [] => []
  | first, chunk :: rest => ⟨if first then copyStreamFlagStart else 0, UInt32.ofNat chunk.length, chunk⟩ :: chunkElements false rest

theorem chunk_elements_append (first : Bool) (a b : List Bytes) :
    chunkElements first (a ++ b) = chunkElements first a ++ chunkElements (first && a.isEmpty) b := by
  cases a with
  | nil => simp [chunkElements]
  | cons chunk rest =>
      simp only [List.cons_append, chunkElements, List.isEmpty_cons, Bool.and_false]
      induction rest with
      | nil => rfl
      | cons next later ih => simpa [chunkElements] using ih

theorem chunk_elements_data (first : Bool) (chunks : List Bytes) :
    (chunkElements first chunks).map CopyStreamElement.envelopeData = chunks := by
  induction chunks generalizing first with
  | nil => rfl
  | cons chunk rest ih => simp [chunkElements, ih]

theorem chunk_valid (flags : UInt8) (chunk : Bytes) (small : chunk.length < 2 ^ 32) :
    (⟨flags, UInt32.ofNat chunk.length, chunk⟩ : CopyStreamElement).valid = true := by
  rw [CopyStreamElement.valid, decide_eq_true_eq, UInt32.toNat_ofNat_of_lt' small]

theorem chunk_marshal (flags : UInt8) (chunk : Bytes) (small : chunk.length < 2 ^ 32) :
    (⟨flags, UInt32.ofNat chunk.length, chunk⟩ : CopyStreamElement).marshalBinary.toOption.toList =
      [(⟨flags, UInt32.ofNat chunk.length, chunk⟩ : CopyStreamElement).encodeBinary] := by
  rw [CopyStreamElement.marshalBinary, if_pos (chunk_valid flags chunk small)]
  rfl

structure Extracted (e : CopyStreamEncoder) (result : List Bytes × CopyStreamEncoder) (chunks : List Bytes) (left : Bytes) : Prop where
  elements : result.1 = (chunkElements e.isFirstChunk chunks).map CopyStreamElement.encodeBinary
  encoder : result.2 = ⟨left, e.maxChunkSize, e.isFirstChunk && chunks.isEmpty⟩
  bytes : e.buffer = chunks.flatten ++ left
  full : ∀ chunk ∈ chunks, chunk.length = e.maxChunkSize
  kept : left.length ≤ e.maxChunkSize
  nonempty : e.buffer ≠ [] → left ≠ []

theorem extract_loop_spec (fuel : Nat) (e : CopyStreamEncoder) (positive : 0 < e.maxChunkSize) (small : e.maxChunkSize < 2 ^ 32)
    (enough : e.buffer.length ≤ fuel) : ∃ chunks left, Extracted e (extractLoop fuel e) chunks left := by
  induction fuel generalizing e with
  | zero =>
      have empty : e.buffer = [] := List.eq_nil_of_length_eq_zero (Nat.le_zero.mp enough)
      refine ⟨[], [], rfl, ?_, empty, by simp, by simp, fun some => absurd empty some⟩
      rw [extractLoop, ← empty]
      simp
  | succ n ih =>
      by_cases long : e.buffer.length > e.maxChunkSize
      · obtain ⟨chunks, left, spec⟩ := ih ⟨e.buffer.drop e.maxChunkSize, e.maxChunkSize, false⟩ positive small
          (by rw [List.length_drop]; omega)
        have size : (e.buffer.take e.maxChunkSize).length = e.maxChunkSize := List.length_take_of_le long.le
        have cut := spec.bytes
        simp only at cut
        refine ⟨e.buffer.take e.maxChunkSize :: chunks, left, ?_, ?_, ?_, ?_, spec.kept, fun _ => spec.nonempty ?_⟩
        · rw [extractLoop, if_pos long]
          simp only [CopyStreamEncoder.element, Bool.false_eq_true, if_false, UInt8.or_zero]
          rw [chunk_marshal _ _ (by omega), spec.elements]
          rfl
        · rw [extractLoop, if_pos long]
          simp only [spec.encoder, Bool.false_and, List.isEmpty_cons, Bool.and_false]
        · rw [List.flatten_cons, List.append_assoc, ← cut, List.take_append_drop]
        · intro chunk member
          cases List.mem_cons.mp member with
          | inl here => rw [here, size]
          | inr later => exact spec.full chunk later
        · intro empty
          have lengths := congrArg List.length empty
          rw [List.length_drop, List.length_nil] at lengths
          omega
      · refine ⟨[], e.buffer, ?_, ?_, rfl, by simp, not_lt.mp long, id⟩ <;> rw [extractLoop, if_neg long]
        · rfl
        · simp

end Chunks

section Encoding

structure Encoding (g : Geometry) (envelopes : List CourierEnvelope) (elements : List Bytes) (e : CopyStreamEncoder)
    (chunks : List Bytes) : Prop where
  elements : elements = (chunkElements true chunks).map CopyStreamElement.encodeBinary
  bytes : chunks.flatten ++ e.buffer = (envelopes.map CourierEnvelope.frame).flatten
  full : ∀ chunk ∈ chunks, chunk.length = e.maxChunkSize
  size : e.maxChunkSize = g.maxPlaintextPayloadLength - copyStreamElementOverhead
  first : e.isFirstChunk = chunks.isEmpty
  kept : e.buffer.length ≤ e.maxChunkSize
  nonempty : envelopes ≠ [] → e.buffer ≠ []

theorem frame_nonempty (envelope : CourierEnvelope) : envelope.frame ≠ [] := by
  intro empty
  have size := congrArg List.length empty
  rw [CourierEnvelope.frame, List.length_append, put_uint32BE_length, List.length_nil] at size
  omega

variable {g : Geometry} {envelopes : List CourierEnvelope} {elements chunks : List Bytes} {e : CopyStreamEncoder}

theorem add_encoding (small : g.maxPlaintextPayloadLength - copyStreamElementOverhead < 2 ^ 32) (envelope : CourierEnvelope)
    (valid : envelope.valid = true) (encoding : Encoding g envelopes elements e chunks) :
    ∃ new next more, e.addEnvelope envelope = .ok (new, next) ∧
      Encoding g (envelopes ++ [envelope]) (elements ++ new) next (chunks ++ more) := by
  have positive : 0 < e.maxChunkSize := by
    rw [encoding.size]
    exact Nat.sub_pos_of_lt g.fits
  let fed : CopyStreamEncoder := { e with buffer := e.buffer ++ envelope.frame }
  obtain ⟨more, left, spec⟩ := extract_loop_spec fed.buffer.length fed positive (encoding.size ▸ small) le_rfl
  have added : e.addEnvelope envelope = .ok fed.extractElements := by
    rw [CopyStreamEncoder.addEnvelope, CourierEnvelope.marshalBinary, if_pos valid]
    rfl
  refine ⟨fed.extractElements.1, fed.extractElements.2, more, added, ?_⟩
  have encoder : fed.extractElements.2 = ⟨left, e.maxChunkSize, e.isFirstChunk && more.isEmpty⟩ := spec.encoder
  have cut : e.buffer ++ envelope.frame = more.flatten ++ left := spec.bytes
  refine ⟨?_, ?_, ?_, ?_, ?_, ?_, fun _ => ?_⟩
  · rw [encoding.elements, chunk_elements_append, List.map_append, Bool.true_and, ← encoding.first]
    exact congrArg _ spec.elements
  · rw [encoder, List.flatten_append, List.append_assoc, ← cut, ← List.append_assoc, encoding.bytes, List.map_append,
      List.flatten_append]
    simp
  · rw [encoder]
    intro chunk member
    cases List.mem_append.mp member with
    | inl before => exact encoding.full chunk before
    | inr new => exact spec.full chunk new
  · rw [encoder]
    exact encoding.size
  · rw [encoder, encoding.first]
    cases chunks <;> simp
  · rw [encoder]
    exact spec.kept
  · rw [encoder]
    apply spec.nonempty
    intro empty
    exact frame_nonempty envelope (List.append_eq_nil_iff.mp empty).2

theorem restart_encoding (encoding : Encoding g envelopes elements e chunks) :
    (if elements = [] then (newCopyStreamEncoder g).setBuffer e.getBuffer
      else ((newCopyStreamEncoder g).setBuffer e.getBuffer).suppressStart) = e := by
  have first := encoding.first
  have size := encoding.size
  have emitted := encoding.elements
  obtain ⟨buffer, maxChunkSize, isFirstChunk⟩ := e
  simp only at first size
  subst size
  subst first
  cases chunks with
  | nil =>
      rw [emitted]
      rfl
  | cons chunk rest =>
      have some : elements ≠ [] := by
        rw [emitted]
        simp [chunkElements]
      rw [if_neg some]
      rfl

theorem steps_encoding (small : g.maxPlaintextPayloadLength - copyStreamElementOverhead < 2 ^ 32) (steps : List EncoderStep)
    (valid : ∀ envelope ∈ steps.filterMap EncoderStep.envelope, envelope.valid = true)
    (encoding : Encoding g envelopes elements e chunks) :
    ∃ all last more, encodeSteps g steps elements e = .ok (all, last) ∧
      Encoding g (envelopes ++ steps.filterMap EncoderStep.envelope) all last more := by
  induction steps generalizing envelopes elements e chunks with
  | nil => exact ⟨elements, e, chunks, rfl, by rw [List.filterMap_nil, List.append_nil]; exact encoding⟩
  | cons step rest ih =>
      cases step with
      | restart =>
          rw [encodeSteps]
          simp only [restart_encoding encoding]
          exact ih valid encoding
      | add envelope =>
          obtain ⟨new, next, more, added, encoding'⟩ := add_encoding small envelope (valid envelope (by simp [EncoderStep.envelope])) encoding
          obtain ⟨all, last, chunks', rest', encoding''⟩ := ih (fun other member => valid other (by
            simp only [List.filterMap_cons, EncoderStep.envelope]
            exact List.mem_cons_of_mem _ member)) encoding'
          refine ⟨all, last, chunks', ?_, ?_⟩
          · rw [encodeSteps, added]
            exact rest'
          · simpa [EncoderStep.envelope] using encoding''

theorem new_encoding (g : Geometry) : Encoding g [] [] (newCopyStreamEncoder g) [] :=
  ⟨rfl, rfl, (fun _ member => nomatch member), rfl, rfl, Nat.zero_le _, fun some => absurd rfl some⟩

def streamElements (chunks : List Bytes) (last : Bytes) : List CopyStreamElement :=
  chunkElements true chunks ++
    [⟨(if chunks.isEmpty then copyStreamFlagStart else 0) ||| copyStreamFlagFinal, UInt32.ofNat last.length, last⟩]

theorem flush_elements (small : g.maxPlaintextPayloadLength - copyStreamElementOverhead < 2 ^ 32)
    (encoding : Encoding g envelopes elements e chunks) (some : envelopes ≠ []) :
    elements ++ e.flush.1 = (streamElements chunks e.buffer).map CopyStreamElement.encodeBinary := by
  have filled := List.length_pos_iff.mpr (encoding.nonempty some)
  have whole : extractLoop e.buffer.length e = ([], e) := by
    obtain ⟨n, size⟩ : ∃ n, e.buffer.length = n + 1 := ⟨e.buffer.length - 1, by omega⟩
    rw [size, extractLoop, if_neg (not_lt.mpr encoding.kept)]
  have bound : e.buffer.length < 2 ^ 32 := lt_of_le_of_lt encoding.kept (encoding.size ▸ small)
  rw [CopyStreamEncoder.flush, if_neg filled.ne', whole]
  simp only [CopyStreamEncoder.element, if_true, List.nil_append]
  rw [chunk_marshal _ _ bound, streamElements, List.map_append, ← encoding.elements, encoding.first]
  rfl

end Encoding

section Framing

def Framed (g : Geometry) (elements : List Bytes) : Prop :=
  ∃ elems : List CopyStreamElement, elements = elems.map CopyStreamElement.encodeBinary ∧
    ∀ (i : Nat) elem, elems[i]? = some elem → elem.encodeBinary.length ≤ g.maxPlaintextPayloadLength ∧
      (i + 1 < elems.length → elem.encodeBinary.length = g.maxPlaintextPayloadLength) ∧
      (elem.isStart = true ↔ i = 0) ∧ (elem.isFinal = true ↔ i + 1 = elems.length)

theorem chunk_elements_length (first : Bool) (chunks : List Bytes) : (chunkElements first chunks).length = chunks.length := by
  have sizes := congrArg List.length (chunk_elements_data first chunks)
  rwa [List.length_map] at sizes

theorem stream_flags : ∀ first final : Bool,
    let flags := (if first then copyStreamFlagStart else 0) ||| (if final then copyStreamFlagFinal else 0)
    decide (flags &&& copyStreamFlagStart ≠ 0) = first ∧ decide (flags &&& copyStreamFlagFinal ≠ 0) = final := by
  decide

theorem chunk_elements_at (first : Bool) (chunks : List Bytes) (i : Nat) (elem : CopyStreamElement)
    (found : (chunkElements first chunks)[i]? = some elem) :
    ∃ chunk ∈ chunks, elem = ⟨if first && i = 0 then copyStreamFlagStart else 0, UInt32.ofNat chunk.length, chunk⟩ := by
  induction chunks generalizing first i with
  | nil => simp [chunkElements] at found
  | cons chunk rest ih =>
      cases i with
      | zero =>
          rw [chunkElements, List.getElem?_cons_zero] at found
          exact ⟨chunk, List.mem_cons_self, by simp [← Option.some.inj found]⟩
      | succ n =>
          rw [chunkElements, List.getElem?_cons_succ] at found
          obtain ⟨other, member, eq⟩ := ih false n found
          exact ⟨other, List.mem_cons_of_mem _ member, by simp [eq]⟩

theorem stream_elements_at (chunks : List Bytes) (last : Bytes) (i : Nat) (elem : CopyStreamElement)
    (found : (streamElements chunks last)[i]? = some elem) :
    ∃ data, elem = ⟨(if decide (i = 0) then copyStreamFlagStart else 0) |||
        (if decide (i = chunks.length) then copyStreamFlagFinal else 0), UInt32.ofNat data.length, data⟩ ∧
      ((data ∈ chunks ∧ i < chunks.length) ∨ (data = last ∧ i = chunks.length)) := by
  rw [streamElements] at found
  by_cases before : i < chunks.length
  · rw [List.getElem?_append_left (by rw [chunk_elements_length]; exact before)] at found
    obtain ⟨chunk, member, eq⟩ := chunk_elements_at true chunks i elem found
    exact ⟨chunk, by simp [eq, before.ne], .inl ⟨member, before⟩⟩
  · rw [List.getElem?_append_right (by rw [chunk_elements_length]; omega), chunk_elements_length] at found
    obtain ⟨bound, eq⟩ := List.getElem?_eq_some_iff.mp found
    rw [List.length_singleton] at bound
    have here : i = chunks.length := by omega
    subst here
    simp only [List.getElem_singleton] at eq
    exact ⟨last, by rw [← eq]; cases chunks <;> simp, .inr ⟨rfl, rfl⟩⟩

variable {g : Geometry} {envelopes : List CourierEnvelope} {elements chunks : List Bytes} {e : CopyStreamEncoder}

theorem stream_elements_fit (small : g.maxPlaintextPayloadLength - copyStreamElementOverhead < 2 ^ 32)
    (encoding : Encoding g envelopes elements e chunks) :
    ∀ elem ∈ streamElements chunks e.buffer, elem.Fits g.maxPlaintextPayloadLength := by
  have room := g.fits
  intro elem member
  obtain ⟨i, found⟩ := List.mem_iff_getElem?.mp member
  have bound := encoding.size
  obtain ⟨data, rfl, place⟩ := stream_elements_at chunks e.buffer i elem found
  have sized : data.length ≤ e.maxChunkSize := by
    obtain ⟨inside, _⟩ | ⟨rfl, _⟩ := place
    · exact (encoding.full data inside).le
    · exact encoding.kept
  refine ⟨chunk_valid _ data (by omega), ?_⟩
  simp only
  omega

theorem stream_framed (small : g.maxPlaintextPayloadLength - copyStreamElementOverhead < 2 ^ 32)
    (encoding : Encoding g envelopes elements e chunks) :
    Framed g ((streamElements chunks e.buffer).map CopyStreamElement.encodeBinary) := by
  have room := g.fits
  have size := encoding.size
  have count : (streamElements chunks e.buffer).length = chunks.length + 1 := by
    rw [streamElements, List.length_append, chunk_elements_length, List.length_singleton]
  refine ⟨_, rfl, fun i elem found => ?_⟩
  have fits := stream_elements_fit small encoding elem (List.mem_of_getElem? found)
  rw [element_encode_length elem fits.1, count]
  obtain ⟨data, rfl, place⟩ := stream_elements_at chunks e.buffer i elem found
  obtain ⟨start, final⟩ := stream_flags (decide (i = 0)) (decide (i = chunks.length))
  refine ⟨fits.2, fun before => ?_, (Bool.eq_iff_iff.mp start).trans decide_eq_true_iff,
    ((Bool.eq_iff_iff.mp final).trans decide_eq_true_iff).trans (by omega)⟩
  obtain ⟨inside, _⟩ | ⟨_, here⟩ := place
  · have full := encoding.full data inside
    simp only
    omega
  · omega

end Framing

def decodeBoxes : CopyStreamEnvelopeDecoder → List Bytes → List DecodedEnvelopes × CopyStreamEnvelopeDecoder
  | d, [] => ([], d)
  | d, data :: rest =>
      let (next, decoded) := (d.addBoxData data).decodeEnvelopes
      let (calls, last) := decodeBoxes next rest
      (decoded :: calls, last)

section Decoding

structure Decoding (g : Geometry) (elems : List CopyStreamElement) (envelopes : List CourierEnvelope) (fed : Bytes)
    (d : CopyStreamEnvelopeDecoder) (taken coming : List CopyStreamElement) (decoded next : List CourierEnvelope) : Prop where
  elems : elems = taken ++ coming
  fed : fed = (taken.map CopyStreamElement.encodeBinary).flatten ++ d.elementDecoder.buffer
  waits : decodeAvailable g.maxPlaintextPayloadLength d.elementDecoder.buffer = .more
  envelopes : envelopes = decoded ++ next
  payload : (taken.map CopyStreamElement.envelopeData).flatten = (decoded.map CourierEnvelope.frame).flatten ++ d.envelopeBuffer
  envelopeWaits : nextEnvelope g.courierQueryWriteLength d.envelopeBuffer = .more
  final : d.sawFinal = taken.any CopyStreamElement.isFinal
  maxElement : d.elementDecoder.maxElementSize = g.maxPlaintextPayloadLength
  maxEnvelope : d.maxEnvelopeSize = g.courierQueryWriteLength

variable {g : Geometry} {elems : List CopyStreamElement} {envelopes : List CourierEnvelope}

theorem decode_step (fit : ∀ elem ∈ elems, elem.Fits g.maxPlaintextPayloadLength)
    (whole : ∀ envelope ∈ envelopes, envelope.Fits g.courierQueryWriteLength) (tail envelopeTail : Bytes)
    (tailWaits : decodeAvailable g.maxPlaintextPayloadLength tail = .more)
    (envelopeTailWaits : nextEnvelope g.courierQueryWriteLength envelopeTail = .more)
    (stream : (elems.map CopyStreamElement.envelopeData).flatten = (envelopes.map CourierEnvelope.frame).flatten ++ envelopeTail)
    {fed : Bytes} {d : CopyStreamEnvelopeDecoder} {taken coming : List CopyStreamElement} {decoded next : List CourierEnvelope}
    (decoding : Decoding g elems envelopes fed d taken coming decoded next) (data more : Bytes)
    (split : fed ++ data ++ more = (elems.map CopyStreamElement.encodeBinary).flatten ++ tail) :
    ∃ d' taken' coming' new next', (d.addBoxData data).decodeEnvelopes = (d', ⟨new, d'.sawFinal, none⟩) ∧
      Decoding g elems envelopes (fed ++ data) d' taken' coming' (decoded ++ new) next' := by
  obtain ⟨rfl, rfl, _, rfl, payload, _, final, maxElement, maxEnvelope⟩ := decoding
  -- The bytes in the element buffer are the front of the elements to come.
  have buffered : (coming.map CopyStreamElement.encodeBinary).flatten ++ tail = (d.elementDecoder.buffer ++ data) ++ more := by
    simp only [List.map_append, List.flatten_append, List.append_assoc, List.append_cancel_left_eq] at split
    rw [← split, List.append_assoc]
  obtain ⟨got, coming', left, parts, drained, bytes, waits⟩ :=
    drain_delimited (elements_delimit g.maxPlaintextPayloadLength) coming
      (fun elem member => fit elem (List.mem_append_right _ member)) tail tailWaits _ more buffered _ le_rfl
  subst parts
  -- And the bytes in the envelope buffer the front of the envelopes to come.
  have accumulated : (next.map CourierEnvelope.frame).flatten ++ envelopeTail =
      (d.envelopeBuffer ++ (got.map CopyStreamElement.envelopeData).flatten) ++ (coming'.map CopyStreamElement.envelopeData).flatten := by
    simp only [List.map_append, List.flatten_append, payload, List.append_assoc, List.append_cancel_left_eq] at stream
    rw [← stream, List.append_assoc]
  obtain ⟨new, next', rest, envelopeParts, envelopesDrained, envelopeBytes, envelopeWaits⟩ :=
    drain_delimited (envelopes_delimit g.courierQueryWriteLength) next
      (fun envelope member => whole envelope (List.mem_append_right _ member)) envelopeTail envelopeTailWaits _ _ accumulated _ le_rfl
  subst envelopeParts
  refine ⟨⟨⟨left, g.maxPlaintextPayloadLength⟩, rest, d.sawFinal || got.any CopyStreamElement.isFinal, g.courierQueryWriteLength⟩,
    taken ++ got, coming', new, next', ?_, ?_⟩
  · simp only [CopyStreamEnvelopeDecoder.decodeEnvelopes, CopyStreamEnvelopeDecoder.addBoxData, maxElement, maxEnvelope, drained,
      envelopesDrained]
  · refine ⟨(List.append_assoc _ _ _).symm, ?_, waits, (List.append_assoc _ _ _).symm, ?_, envelopeWaits, ?_, rfl, rfl⟩
    · simp only [List.map_append, List.flatten_append, List.append_assoc, bytes]
    · simp only [List.map_append, List.flatten_append, List.append_assoc, payload, envelopeBytes]
    · simp only [final, List.any_append]

theorem decoding_end (fit : ∀ elem ∈ elems, elem.Fits g.maxPlaintextPayloadLength)
    (whole : ∀ envelope ∈ envelopes, envelope.Fits g.courierQueryWriteLength) (tail envelopeTail : Bytes)
    (stream : (elems.map CopyStreamElement.envelopeData).flatten = (envelopes.map CourierEnvelope.frame).flatten ++ envelopeTail)
    {fed : Bytes} {d : CopyStreamEnvelopeDecoder} {taken coming : List CopyStreamElement} {decoded next : List CourierEnvelope}
    (decoding : Decoding g elems envelopes fed d taken coming decoded next)
    (all : fed = (elems.map CopyStreamElement.encodeBinary).flatten ++ tail) :
    coming = [] ∧ next = [] ∧ d.elementDecoder.buffer = tail ∧ d.envelopeBuffer = envelopeTail := by
  obtain ⟨rfl, rfl, waits, rfl, payload, envelopeWaits, _⟩ := decoding
  rw [List.map_append, List.flatten_append, List.append_assoc, List.append_cancel_left_eq] at all
  rw [all] at waits
  have none := waits_items (elements_delimit g.maxPlaintextPayloadLength) coming
    (fun elem member => fit elem (List.mem_append_right _ member)) tail waits
  subst none
  simp only [List.map_append, List.flatten_append, List.append_nil, payload, List.append_assoc,
    List.append_cancel_left_eq] at stream
  rw [stream] at envelopeWaits
  have noNext := waits_items (envelopes_delimit g.courierQueryWriteLength) next
    (fun envelope member => whole envelope (List.mem_append_right _ member)) envelopeTail envelopeWaits
  subst noNext
  exact ⟨rfl, rfl, all, stream⟩

end Decoding

section Streams

variable {g : Geometry} {envelopes : List CourierEnvelope} {chunks : List Bytes} {last : Bytes}

theorem final_taken (taken coming : List CopyStreamElement) (all : streamElements chunks last = taken ++ coming) :
    taken.any CopyStreamElement.isFinal = true ↔ coming = [] := by
  have count : (taken ++ coming).length = chunks.length + 1 := by
    rw [← all, streamElements, List.length_append, chunk_elements_length, List.length_singleton]
  have final : ∀ (i : Nat) elem, (taken ++ coming)[i]? = some elem → (elem.isFinal = true ↔ i = chunks.length) := by
    intro i elem found
    rw [← all] at found
    obtain ⟨data, rfl, _⟩ := stream_elements_at chunks last i elem found
    exact (Bool.eq_iff_iff.mp (stream_flags (decide (i = 0)) (decide (i = chunks.length))).2).trans decide_eq_true_iff
  rw [List.length_append] at count
  constructor
  · intro seen
    obtain ⟨elem, member, isFinal⟩ := List.any_eq_true.mp seen
    obtain ⟨i, found⟩ := List.mem_iff_getElem?.mp member
    have bound := (List.getElem?_eq_some_iff.mp found).1
    have here := (final i elem ((List.getElem?_append_left bound).trans found)).mp isFinal
    exact List.eq_nil_of_length_eq_zero (by omega)
  · intro none
    subst none
    rw [List.length_nil, Nat.add_zero] at count
    have bound : chunks.length < taken.length := by omega
    have found : taken[chunks.length]? = some taken[chunks.length] := List.getElem?_eq_getElem bound
    refine List.any_eq_true.mpr ⟨_, List.getElem_mem bound, ?_⟩
    exact (final _ _ (by rw [List.append_nil]; exact found)).mpr rfl

theorem decode_boxes (fit : ∀ elem ∈ streamElements chunks last, elem.Fits g.maxPlaintextPayloadLength)
    (whole : ∀ envelope ∈ envelopes, envelope.Fits g.courierQueryWriteLength)
    (stream : ((streamElements chunks last).map CopyStreamElement.envelopeData).flatten = (envelopes.map CourierEnvelope.frame).flatten)
    (boxes : List Bytes) {fed : Bytes} {d : CopyStreamEnvelopeDecoder} {taken coming : List CopyStreamElement}
    {decoded next : List CourierEnvelope}
    (decoding : Decoding g (streamElements chunks last) envelopes fed d taken coming decoded next)
    (split : fed ++ boxes.flatten = ((streamElements chunks last).map CopyStreamElement.encodeBinary).flatten) :
    (∀ call ∈ (decodeBoxes d boxes).1, call.err = none) ∧
    decoded ++ ((decodeBoxes d boxes).1.map DecodedEnvelopes.envelopes).flatten = envelopes ∧
    (decodeBoxes d boxes).2.remaining = 0 ∧
    ∀ (i : Nat) call, (decodeBoxes d boxes).1[i]? = some call →
      (call.sawFinal = true ↔ fed ++ (boxes.take (i + 1)).flatten =
        ((streamElements chunks last).map CopyStreamElement.encodeBinary).flatten) := by
  have noTail : ((streamElements chunks last).map CopyStreamElement.envelopeData).flatten =
      (envelopes.map CourierEnvelope.frame).flatten ++ [] := by rw [stream, List.append_nil]
  induction boxes generalizing fed d taken coming decoded next with
  | nil =>
      rw [List.flatten_nil, List.append_nil] at split
      obtain ⟨_, none, empty, emptyToo⟩ := decoding_end fit whole [] [] noTail decoding (by rw [split, List.append_nil])
      refine ⟨fun _ member => (by cases member), ?_, ?_, fun i call found => (by cases found)⟩
      · rw [decoding.envelopes, none]
        rfl
      · simp only [decodeBoxes, CopyStreamEnvelopeDecoder.remaining, empty, emptyToo, List.length_nil]
  | cons data later ih =>
      rw [List.flatten_cons, ← List.append_assoc] at split
      obtain ⟨d', taken', coming', new, next', step, decoding'⟩ := decode_step fit whole [] [] rfl rfl noTail decoding data later.flatten
        (by rw [split, List.append_nil])
      obtain ⟨fine, result, remaining, finals⟩ := ih decoding' split
      have calls : decodeBoxes d (data :: later) = (⟨new, d'.sawFinal, none⟩ :: (decodeBoxes d' later).1, (decodeBoxes d' later).2) := by
        rw [decodeBoxes, step]
      rw [calls]
      refine ⟨?_, ?_, remaining, ?_⟩
      · intro call member
        cases List.mem_cons.mp member with
        | inl here => rw [here]
        | inr after => exact fine call after
      · rw [List.map_cons, List.flatten_cons, ← List.append_assoc]
        exact result
      · intro i call found
        rw [List.take_succ_cons, List.flatten_cons, ← List.append_assoc]
        cases i with
        | zero =>
            rw [List.getElem?_cons_zero] at found
            obtain rfl := Option.some.inj found
            rw [List.take_zero, List.flatten_nil, List.append_nil, decoding'.final,
              final_taken taken' coming' decoding'.elems]
            constructor
            · intro none
              have all := decoding'.elems
              have bytes := decoding'.fed
              rw [none, List.append_nil] at all
              rw [all, bytes, List.append_assoc] at split
              rw [all, bytes, (List.append_eq_nil_iff.mp (List.append_right_eq_self.mp split)).1, List.append_nil]
            · intro all
              exact (decoding_end fit whole [] [] noTail decoding' (by rw [all, List.append_nil])).1
        | succ n =>
            rw [List.getElem?_cons_succ] at found
            exact finals n call found

end Streams

theorem marshalled (envelope : CourierEnvelope) (bytes : Bytes) (marshal : envelope.marshalBinary = .ok bytes) :
    envelope.valid = true ∧ bytes = envelope.encodeBinary := by
  rw [CourierEnvelope.marshalBinary] at marshal
  split at marshal
  · rename_i valid
    exact ⟨valid, (Except.ok.inj marshal).symm⟩
  · cases marshal

/-- Whatever the envelopes are, wherever the encoder is restored and however the bytes of the
elements are cut into boxes, the decoder returns the envelopes. -/
theorem copy_stream_round_trip (g : Geometry) (steps : List EncoderStep)
    (small : g.maxPlaintextPayloadLength - copyStreamElementOverhead < 2 ^ 32)
    (filled : steps.filterMap EncoderStep.envelope ≠ [])
    (whole : ∀ envelope ∈ steps.filterMap EncoderStep.envelope, ∃ bytes, envelope.marshalBinary = .ok bytes ∧
      bytes.length ≤ g.courierQueryWriteLength ∧ bytes.length < 2 ^ 32) :
    ∃ elements, encodeStream g steps = .ok elements ∧ Framed g elements ∧
      ∀ boxes : List Bytes, boxes.flatten = elements.flatten →
        (∀ call ∈ (decodeBoxes (newCopyStreamEnvelopeDecoder g) boxes).1, call.err = none) ∧
        ((decodeBoxes (newCopyStreamEnvelopeDecoder g) boxes).1.map DecodedEnvelopes.envelopes).flatten =
          steps.filterMap EncoderStep.envelope ∧
        (decodeBoxes (newCopyStreamEnvelopeDecoder g) boxes).2.remaining = 0 ∧
        ∀ (i : Nat) call, (decodeBoxes (newCopyStreamEnvelopeDecoder g) boxes).1[i]? = some call →
          (call.sawFinal = true ↔ (boxes.take (i + 1)).flatten = elements.flatten) := by
  have fits : ∀ envelope ∈ steps.filterMap EncoderStep.envelope, envelope.Fits g.courierQueryWriteLength := by
    intro envelope member
    obtain ⟨bytes, marshal, bound, size⟩ := whole envelope member
    obtain ⟨valid, rfl⟩ := marshalled envelope bytes marshal
    exact ⟨valid, fun _ => bound, size⟩
  obtain ⟨elements, e, chunks, encoded, encoding⟩ :=
    steps_encoding small steps (fun envelope member => (fits envelope member).1) (new_encoding g)
  rw [List.nil_append] at encoding
  have stream : encodeStream g steps = .ok ((streamElements chunks e.buffer).map CopyStreamElement.encodeBinary) := by
    rw [encodeStream, encoded, ← flush_elements small encoding filled]
    rfl
  have payload : ((streamElements chunks e.buffer).map CopyStreamElement.envelopeData).flatten =
      ((steps.filterMap EncoderStep.envelope).map CourierEnvelope.frame).flatten := by
    rw [← encoding.bytes, streamElements, List.map_append, chunk_elements_data, List.flatten_append]
    simp
  refine ⟨_, stream, stream_framed small encoding, fun boxes cut => ?_⟩
  have initially : Decoding g (streamElements chunks e.buffer) (steps.filterMap EncoderStep.envelope) []
      (newCopyStreamEnvelopeDecoder g) [] (streamElements chunks e.buffer) [] (steps.filterMap EncoderStep.envelope) :=
    ⟨rfl, rfl, rfl, rfl, rfl, rfl, rfl, rfl, rfl⟩
  exact decode_boxes (stream_elements_fit small encoding) fits payload boxes initially cut

def smallGeometry : Geometry := ⟨10, 200, by decide⟩

def boxEnvelope (byte : UInt8) : CourierEnvelope :=
  ⟨⟨[3, 4], rfl⟩, ⟨zeros 60, rfl⟩, ⟨zeros 60, rfl⟩, 0, 1, 0, [], 1, [byte]⟩

theorem small_stream_round_trip :
    ∃ elements, encodeStream smallGeometry [.add (boxEnvelope 7), .restart, .add (boxEnvelope 8)] = .ok elements ∧
      Framed smallGeometry elements ∧
      ∀ boxes : List Bytes, boxes.flatten = elements.flatten →
        (∀ call ∈ (decodeBoxes (newCopyStreamEnvelopeDecoder smallGeometry) boxes).1, call.err = none) ∧
        ((decodeBoxes (newCopyStreamEnvelopeDecoder smallGeometry) boxes).1.map DecodedEnvelopes.envelopes).flatten =
          [boxEnvelope 7, boxEnvelope 8] ∧
        (decodeBoxes (newCopyStreamEnvelopeDecoder smallGeometry) boxes).2.remaining = 0 ∧
        ∀ (i : Nat) call, (decodeBoxes (newCopyStreamEnvelopeDecoder smallGeometry) boxes).1[i]? = some call →
          (call.sawFinal = true ↔ (boxes.take (i + 1)).flatten = elements.flatten) :=
  copy_stream_round_trip smallGeometry [.add (boxEnvelope 7), .restart, .add (boxEnvelope 8)] (by decide) (by decide) (by
    intro envelope member
    have either : envelope = boxEnvelope 7 ∨ envelope = boxEnvelope 8 := by
      simpa [EncoderStep.envelope, eq_comm] using member
    obtain rfl | rfl := either
    · exact ⟨_, rfl, by decide +kernel, by decide +kernel⟩
    · exact ⟨_, rfl, by decide +kernel, by decide +kernel⟩)

section Oversized

variable {g : Geometry}

theorem oversized_dropped (e : CopyStreamEncoder) (size : e.maxChunkSize = 2 ^ 32) (long : e.maxChunkSize < e.buffer.length)
    (twice : e.buffer.length ≤ 2 * e.maxChunkSize) :
    extractLoop e.buffer.length e = ([], ⟨e.buffer.drop e.maxChunkSize, e.maxChunkSize, false⟩) := by
  obtain ⟨n, count⟩ : ∃ n, e.buffer.length = n + 1 := ⟨e.buffer.length - 1, by omega⟩
  have chunk : (e.buffer.take e.maxChunkSize).length = 2 ^ 32 := by rw [List.length_take_of_le long.le, size]
  have invalid : (e.element (e.buffer.take e.maxChunkSize) false).valid = false := by
    rw [CopyStreamElement.valid, decide_eq_false_iff_not]
    simp only [CopyStreamEncoder.element, chunk]
    decide
  have rest : extractLoop n ⟨e.buffer.drop e.maxChunkSize, e.maxChunkSize, false⟩ =
      ([], ⟨e.buffer.drop e.maxChunkSize, e.maxChunkSize, false⟩) := by
    cases n with
    | zero => rfl
    | succ k =>
        rw [extractLoop, if_neg]
        simp only [List.length_drop]
        omega
  rw [count, extractLoop, if_pos long]
  simp only [rest, CopyStreamElement.marshalBinary, invalid, Bool.false_eq_true, if_false]
  rfl

theorem oversized_unframed (chunk : g.maxPlaintextPayloadLength - copyStreamElementOverhead = 2 ^ 32) (envelope : CourierEnvelope)
    (valid : envelope.valid = true) (size : envelope.frame.length = 2 ^ 32 + 3) :
    ∃ elements, encodeStream g [.add envelope] = .ok elements ∧ ¬ Framed g elements := by
  let fed : CopyStreamEncoder := ⟨envelope.frame, 2 ^ 32, true⟩
  let left : CopyStreamEncoder := ⟨envelope.frame.drop (2 ^ 32), 2 ^ 32, false⟩
  have dropped : extractLoop fed.buffer.length fed = ([], left) := oversized_dropped fed rfl (by simp only [fed, size]; omega)
    (by simp only [fed, size]; omega)
  have three : left.buffer.length = 3 := by
    simp only [left, List.length_drop, size]
    omega
  have added : (newCopyStreamEncoder g).addEnvelope envelope = .ok ([], left) := by
    rw [CopyStreamEncoder.addEnvelope, CourierEnvelope.marshalBinary, if_pos valid, newCopyStreamEncoder, chunk]
    exact congrArg Except.ok dropped
  have flushed : left.flush.1 = [(left.element left.buffer true).encodeBinary] := by
    have none : extractLoop left.buffer.length left = ([], left) := by
      rw [three, extractLoop, if_neg (by rw [three]; simp only [left]; omega)]
    rw [CopyStreamEncoder.flush, if_neg (by omega), none]
    simp only [List.nil_append, CopyStreamEncoder.element]
    exact chunk_marshal _ _ (by omega)
  refine ⟨[(left.element left.buffer true).encodeBinary], ?_, ?_⟩
  · rw [encodeStream, encodeSteps, added]
    simp only [bind, Except.bind, encodeSteps, pure, Except.pure, List.nil_append, flushed]
  · -- The only element does not have the Start flag.
    rintro ⟨elems, same, framed⟩
    cases elems with
    | nil => cases same
    | cons elem rest =>
        have start := (framed 0 elem rfl).2.2.1.mpr rfl
        rw [List.map_cons, List.cons.injEq] at same
        have flags : (left.element left.buffer true).flags = elem.flags := by
          have heads := congrArg List.head? same.1
          simpa [CopyStreamElement.encodeBinary] using heads
        rw [CopyStreamElement.isStart, ← flags] at start
        exact Bool.noConfusion (start.symm.trans (stream_flags false true).1)

end Oversized

/-- Boxes with 2^32 bytes of payload and an envelope that does not fit into one: the first element
cannot be marshalled, and the stream does not start with the Start flag. -/
theorem oversized_box_unframed :
    ∃ (g : Geometry) (envelope : CourierEnvelope) (bytes : Bytes) (elements : List Bytes),
      envelope.marshalBinary = .ok bytes ∧ bytes.length ≤ g.courierQueryWriteLength ∧
      encodeStream g [.add envelope] = .ok elements ∧ ¬ Framed g elements := by
  have general : ∀ n : Nat, 137 + n = 2 ^ 32 - 1 →
      ∃ envelope : CourierEnvelope, envelope.valid = true ∧ envelope.encodeBinary.length = 2 ^ 32 - 1 := by
    intro n size
    have small : n < 2 ^ 32 := by omega
    refine ⟨⟨⟨[3, 4], rfl⟩, ⟨zeros 60, rfl⟩, ⟨zeros 60, rfl⟩, 0, 1, 0, [], UInt32.ofNat n, zeros n⟩, ?_, ?_⟩
    · simp [CourierEnvelope.valid, UInt32.toNat_ofNat_of_lt' small]
    · simp [CourierEnvelope.encodeBinary, UInt32.toNat_ofNat_of_lt' small, putUint64BE, putUint16BE, putUint32BE, big_endian_length]
      omega
  obtain ⟨envelope, valid, size⟩ := general (2 ^ 32 - 138) (by omega)
  have frame : envelope.frame.length = 2 ^ 32 + 3 := by
    rw [CourierEnvelope.frame, List.length_append, put_uint32BE_length, size]
    omega
  obtain ⟨elements, encoded, unframed⟩ := oversized_unframed (g := ⟨2 ^ 32 + 5, 2 ^ 32, by decide⟩) (by decide) envelope valid frame
  refine ⟨_, envelope, envelope.encodeBinary, elements, by rw [CourierEnvelope.marshalBinary, if_pos valid], ?_, encoded, unframed⟩
  rw [size]
  decide

end Katzenpost.Pigeonhole
