import Katzenpost.Pigeonhole.Messages

set_option autoImplicit false

namespace Katzenpost.Pigeonhole

open Go

def copyStreamFlagStart : UInt8 := 1

def copyStreamFlagFinal : UInt8 := 2

def copyStreamElementOverhead : Nat := 5

-- The lengths of a Geometry that the copy stream uses. The encoder needs room for the
-- overhead of an element, its loops do not end otherwise.
structure Geometry where
  maxPlaintextPayloadLength : Nat
  courierQueryWriteLength : Nat
  fits : copyStreamElementOverhead < maxPlaintextPayloadLength

structure CopyStreamEncoder where
  buffer : Bytes
  maxChunkSize : Nat
  isFirstChunk : Bool
deriving DecidableEq

def newCopyStreamEncoder (g : Geometry) : CopyStreamEncoder := ⟨[], g.maxPlaintextPayloadLength - copyStreamElementOverhead, true⟩

section Encoder

variable (e : CopyStreamEncoder)

def CopyStreamEncoder.suppressStart : CopyStreamEncoder := { e with isFirstChunk := false }

def CopyStreamEncoder.element (chunk : Bytes) (final : Bool) : CopyStreamElement :=
  ⟨(if e.isFirstChunk then copyStreamFlagStart else 0) ||| (if final then copyStreamFlagFinal else 0), UInt32.ofNat chunk.length, chunk⟩

end Encoder

-- The loop of extractElements and of Flush. An element that cannot be marshalled is
-- left out.
def extractLoop : Nat → CopyStreamEncoder → List Bytes × CopyStreamEncoder
  | 0, e => ([], e)
  | fuel + 1, e =>
      if e.buffer.length > e.maxChunkSize then
        let element := e.element (e.buffer.take e.maxChunkSize) false
        let (elements, last) := extractLoop fuel { e with buffer := e.buffer.drop e.maxChunkSize, isFirstChunk := false }
        (element.marshalBinary.toOption.toList ++ elements, last)
      else ([], e)

def CopyStreamEncoder.extractElements (e : CopyStreamEncoder) : List Bytes × CopyStreamEncoder := extractLoop e.buffer.length e

def CopyStreamEncoder.addEnvelope (e : CopyStreamEncoder) (envelope : CourierEnvelope) :
    Except String (List Bytes × CopyStreamEncoder) := do
  let envelopeBytes ← envelope.marshalBinary
  let lengthPrefixed := putUint32BE (UInt32.ofNat envelopeBytes.length) ++ envelopeBytes
  return { e with buffer := e.buffer ++ lengthPrefixed }.extractElements

def CopyStreamEncoder.flush (e : CopyStreamEncoder) : List Bytes × CopyStreamEncoder :=
  if e.buffer.length = 0 then ([], e)
  else
    let (elements, last) := extractLoop e.buffer.length e
    (elements ++ (last.element last.buffer true).marshalBinary.toOption.toList, { last with buffer := [], isFirstChunk := false })

def CopyStreamEncoder.getBuffer (e : CopyStreamEncoder) : Bytes := e.buffer

def CopyStreamEncoder.setBuffer (e : CopyStreamEncoder) (buffer : Bytes) : CopyStreamEncoder := { e with buffer := buffer }

structure CopyStreamDecoder where
  buffer : Bytes
  maxElementSize : Nat
deriving DecidableEq

inductive CopyStreamError where
  | elementSize (totalSize maxElementSize : Nat)
  | parseElement (err : String)
  | envelopeLength (envelopeLen maxEnvelopeSize : Nat)
  | parseEnvelope (err : String)
  | trailingBytes (count : Nat)
deriving DecidableEq

def decodeAvailable (maxElementSize : Nat) (buffer : Bytes) : Front CopyStreamError CopyStreamElement :=
  if buffer.length < copyStreamElementOverhead then .more
  else
    let totalSize := copyStreamElementOverhead + (uint32BE (buffer.drop 1)).toNat
    if maxElementSize > 0 ∧ totalSize > maxElementSize then .bad (.elementSize totalSize maxElementSize)
    else match CopyStreamElement.parse buffer with
      | .error err => if err = tooShort then .more else .bad (.parseElement err)
      | .ok (elem, remaining) => .item elem remaining

def CopyStreamElement.isStart (elem : CopyStreamElement) : Bool := elem.flags &&& copyStreamFlagStart ≠ 0

def CopyStreamElement.isFinal (elem : CopyStreamElement) : Bool := elem.flags &&& copyStreamFlagFinal ≠ 0

structure CopyStreamEnvelopeDecoder where
  elementDecoder : CopyStreamDecoder
  envelopeBuffer : Bytes
  sawFinal : Bool
  maxEnvelopeSize : Nat
deriving DecidableEq

def newCopyStreamEnvelopeDecoder (g : Geometry) : CopyStreamEnvelopeDecoder :=
  ⟨⟨[], g.maxPlaintextPayloadLength⟩, [], false, g.courierQueryWriteLength⟩

def nextEnvelope (maxEnvelopeSize : Nat) (buffer : Bytes) : Front CopyStreamError CourierEnvelope :=
  if buffer.length < 4 then .more
  else
    let envelopeLen := (uint32BE buffer).toNat
    if maxEnvelopeSize > 0 ∧ envelopeLen > maxEnvelopeSize then .bad (.envelopeLength envelopeLen maxEnvelopeSize)
    else
      let totalSize := 4 + envelopeLen
      if buffer.length < totalSize then .more
      else match CourierEnvelope.parse (part buffer 4 envelopeLen) with
        | .error err => .bad (.parseEnvelope err)
        | .ok (envelope, remaining) =>
            if remaining.length > 0 then .bad (.trailingBytes remaining.length) else .item envelope (buffer.drop totalSize)

section Decoder

variable (d : CopyStreamEnvelopeDecoder)

def CopyStreamEnvelopeDecoder.addBoxData (data : Bytes) : CopyStreamEnvelopeDecoder :=
  { d with elementDecoder := { d.elementDecoder with buffer := d.elementDecoder.buffer ++ data } }

structure DecodedEnvelopes where
  envelopes : List CourierEnvelope
  sawFinal : Bool
  err : Option CopyStreamError
deriving DecidableEq

def CopyStreamEnvelopeDecoder.decodeEnvelopes : CopyStreamEnvelopeDecoder × DecodedEnvelopes :=
  let buffer := d.elementDecoder.buffer
  let (elements, left, err) := drain (decodeAvailable d.elementDecoder.maxElementSize) buffer.length buffer
  let accumulated := d.envelopeBuffer ++ (elements.map CopyStreamElement.envelopeData).flatten
  let sawFinal := d.sawFinal || elements.any CopyStreamElement.isFinal
  let fed := { d with
    elementDecoder := { d.elementDecoder with buffer := left }
    envelopeBuffer := accumulated
    sawFinal := sawFinal }
  match err with
  | some e => (fed, ⟨[], sawFinal, some e⟩)
  | none =>
      let (envelopes, rest, err) := drain (nextEnvelope d.maxEnvelopeSize) accumulated.length accumulated
      ({ fed with envelopeBuffer := rest }, ⟨envelopes, sawFinal, err⟩)

def CopyStreamEnvelopeDecoder.remaining : Nat := d.elementDecoder.buffer.length + d.envelopeBuffer.length

end Decoder

section Elements

theorem split_front (front rest p q : Bytes) (same : front ++ rest = p ++ q) (covers : front.length ≤ p.length) :
    ∃ d, p = front ++ d ∧ rest = d ++ q := by
  obtain ⟨d, eq, rest'⟩ | ⟨d, eq, rest'⟩ := List.append_eq_append_iff.mp same
  · exact ⟨d, eq, rest'⟩
  · have empty : d = [] := by
      have sizes := congrArg List.length eq
      rw [List.length_append] at sizes
      exact List.eq_nil_of_length_eq_zero (by omega)
    subst empty
    rw [List.append_nil] at eq
    exact ⟨[], by rw [List.append_nil, eq], by rw [List.nil_append]; exact rest'.symm⟩

def CopyStreamElement.Fits (maxElementSize : Nat) (elem : CopyStreamElement) : Prop :=
  elem.valid = true ∧ copyStreamElementOverhead + elem.envelopeData.length ≤ maxElementSize

theorem element_encode_valid (elem : CopyStreamElement) (valid : elem.valid = true) :
    elem.encodeBinary = (elem.flags :: putUint32BE elem.envelopeLen) ++ elem.envelopeData := by
  rw [CopyStreamElement.valid, decide_eq_true_eq] at valid
  rw [CopyStreamElement.encodeBinary, List.take_of_length_le valid.le, List.cons_append]

theorem element_header_length (elem : CopyStreamElement) :
    (elem.flags :: putUint32BE elem.envelopeLen).length = copyStreamElementOverhead := by
  rw [List.length_cons, put_uint32BE_length]
  rfl

theorem element_encode_length (elem : CopyStreamElement) (valid : elem.valid = true) :
    elem.encodeBinary.length = copyStreamElementOverhead + elem.envelopeData.length := by
  rw [element_encode_valid elem valid, List.length_append, element_header_length]

theorem element_size (maxElementSize : Nat) (elem : CopyStreamElement) (fits : elem.Fits maxElementSize) (rest : Bytes) :
    ¬ ((elem.flags :: putUint32BE elem.envelopeLen) ++ rest).length < copyStreamElementOverhead ∧
    ¬ (maxElementSize > 0 ∧ copyStreamElementOverhead +
      (uint32BE (((elem.flags :: putUint32BE elem.envelopeLen) ++ rest).drop 1)).toNat > maxElementSize) := by
  obtain ⟨valid, bound⟩ := fits
  rw [CopyStreamElement.valid, decide_eq_true_eq] at valid
  constructor
  · rw [List.length_append, element_header_length]
    omega
  · rw [List.cons_append, List.drop_one, List.tail_cons, uint32BE_put]
    omega

theorem element_parse_error (data : Bytes) (err : String) (failed : CopyStreamElement.parse data = .error err) : err = tooShort := by
  have reads : ∀ (n : Nat) (cur : Bytes) (size : UInt32) (flags : UInt8) (err : String),
      (readBytes n cur >>= fun x => pure (⟨flags, size, x.1⟩, x.2) : Except String (CopyStreamElement × Bytes)) = .error err →
        err = tooShort := by
    intro n cur size flags err failed
    rw [readBytes] at failed
    split at failed
    · cases failed
      rfl
    · cases failed
  cases data with
  | nil =>
      cases failed
      rfl
  | cons flags cur =>
      have rest : (readUint32 cur >>= fun x => readBytes x.1.toNat x.2 >>= fun y => pure (⟨flags, x.1, y.1⟩, y.2) :
          Except String (CopyStreamElement × Bytes)) = .error err := failed
      rw [readUint32] at rest
      split at rest
      · cases rest
        rfl
      · exact reads _ _ _ _ err rest

theorem elements_stable (maxElementSize : Nat) : Stable (decodeAvailable maxElementSize) := by
  refine stable_of_append rfl fun p q => ?_
  by_cases short : p.length < copyStreamElementOverhead
  · rw [decodeAvailable, if_pos short]
    trivial
  · have long : ¬ (p ++ q).length < copyStreamElementOverhead := by
      rw [List.length_append]
      omega
    have header : uint32BE ((p ++ q).drop 1) = uint32BE (p.drop 1) := by
      have five : 5 ≤ p.length := not_lt.mp short
      rw [uint32BE, uint32BE, List.drop_append_of_le_length (by omega),
        List.take_append_of_le_length (by rw [List.length_drop]; omega)]
    rw [decodeAvailable, if_neg short, decodeAvailable, if_neg long, header]
    simp only
    by_cases large : maxElementSize > 0 ∧ copyStreamElementOverhead + (uint32BE (p.drop 1)).toNat > maxElementSize
    · simp only [if_pos large]
    · simp only [if_neg large]
      cases parsed : CopyStreamElement.parse p with
      | error err => simp only [element_parse_error p err parsed, if_true]
      | ok result =>
          obtain ⟨elem, rest⟩ := result
          obtain ⟨bytes, valid⟩ := element_encode_parse p rest elem parsed
          have size := element_encode_length elem valid
          have overhead : copyStreamElementOverhead = 5 := rfl
          simp only
          rw [bytes, List.append_assoc, element_parse_encode elem (rest ++ q) valid, List.length_append]
          exact ⟨rfl, by omega⟩

theorem elements_delimit (maxElementSize : Nat) :
    Delimits (decodeAvailable maxElementSize) CopyStreamElement.encodeBinary (CopyStreamElement.Fits maxElementSize) := by
  refine ⟨fun elem rest fits => ?_, fun elem p q fits split some => ?_, (elements_stable maxElementSize).patient, fun elem fits => ?_⟩
  · have parsed := element_parse_encode elem rest fits.1
    obtain ⟨long, small⟩ := element_size maxElementSize elem fits (elem.envelopeData ++ rest)
    rw [element_encode_valid elem fits.1, List.append_assoc] at parsed ⊢
    rw [decodeAvailable, if_neg long]
    simp only [if_neg small, parsed]
  · by_cases short : p.length < copyStreamElementOverhead
    · rw [decodeAvailable, if_pos short]
    · rw [element_encode_valid elem fits.1] at split
      obtain ⟨d, rfl, data⟩ := split_front _ _ p q split (by rw [element_header_length]; omega)
      obtain ⟨long, small⟩ := element_size maxElementSize elem fits d
      have valid := fits.1
      rw [CopyStreamElement.valid, decide_eq_true_eq, data, List.length_append] at valid
      have missing := List.length_pos_iff.mpr some
      have parsed : CopyStreamElement.parse ((elem.flags :: putUint32BE elem.envelopeLen) ++ d) = .error tooShort := by
        have part : d.length < elem.envelopeLen.toNat := by omega
        simp only [CopyStreamElement.parse, List.cons_append, readUint8, read_uint32_write, readBytes, part, if_true, bind,
          Except.bind]
      rw [decodeAvailable, if_neg long]
      simp only [if_neg small, parsed, if_true]
  · rw [element_encode_valid elem fits.1]
    exact List.cons_ne_nil _ _

end Elements

section Envelopes

def CourierEnvelope.frame (envelope : CourierEnvelope) : Bytes :=
  putUint32BE (UInt32.ofNat envelope.encodeBinary.length) ++ envelope.encodeBinary

def CourierEnvelope.Fits (maxEnvelopeSize : Nat) (envelope : CourierEnvelope) : Prop :=
  envelope.valid = true ∧ (0 < maxEnvelopeSize → envelope.encodeBinary.length ≤ maxEnvelopeSize) ∧
    envelope.encodeBinary.length < 2 ^ 32

theorem frame_size (maxEnvelopeSize : Nat) (envelope : CourierEnvelope) (fits : envelope.Fits maxEnvelopeSize) (rest : Bytes) :
    (uint32BE (putUint32BE (UInt32.ofNat envelope.encodeBinary.length) ++ rest)).toNat = envelope.encodeBinary.length := by
  rw [uint32BE_put, UInt32.toNat_ofNat_of_lt' fits.2.2]

theorem envelopes_stable (maxEnvelopeSize : Nat) : Stable (nextEnvelope maxEnvelopeSize) := by
  refine stable_of_append rfl fun p q => ?_
  by_cases short : p.length < 4
  · rw [nextEnvelope, if_pos short]
    trivial
  · have long : ¬ (p ++ q).length < 4 := by
      rw [List.length_append]
      omega
    have header : uint32BE (p ++ q) = uint32BE p := by
      rw [uint32BE, uint32BE, List.take_append_of_le_length (not_lt.mp short)]
    rw [nextEnvelope, if_neg short, nextEnvelope, if_neg long, header]
    simp only
    by_cases large : maxEnvelopeSize > 0 ∧ (uint32BE p).toNat > maxEnvelopeSize
    · simp only [if_pos large]
    · simp only [if_neg large]
      by_cases unfinished : p.length < 4 + (uint32BE p).toNat
      · simp only [if_pos unfinished]
      · -- All of the envelope is in the first part.
        have inside : part (p ++ q) 4 (uint32BE p).toNat = part p 4 (uint32BE p).toNat := by
          rw [part, part, List.drop_append_of_le_length (by omega), List.take_append_of_le_length (by rw [List.length_drop]; omega)]
        have whole : ¬ (p ++ q).length < 4 + (uint32BE p).toNat := by
          rw [List.length_append]
          omega
        simp only [if_neg unfinished, if_neg whole, inside]
        cases CourierEnvelope.parse (part p 4 (uint32BE p).toNat) with
        | error err => rfl
        | ok result =>
            simp only
            by_cases trailing : result.2.length > 0
            · simp only [if_pos trailing]
            · simp only [if_neg trailing, Front.item.injEq, true_and]
              exact ⟨List.drop_append_of_le_length (by omega), by rw [List.length_drop]; omega⟩

theorem envelopes_delimit (maxEnvelopeSize : Nat) :
    Delimits (nextEnvelope maxEnvelopeSize) CourierEnvelope.frame (CourierEnvelope.Fits maxEnvelopeSize) := by
  have header : ∀ n : UInt32, (putUint32BE n).length = 4 := put_uint32BE_length
  refine ⟨fun envelope rest fits => ?_, fun envelope p q fits split some => ?_, (envelopes_stable maxEnvelopeSize).patient,
    fun envelope fits => ?_⟩
  · have size := frame_size maxEnvelopeSize envelope fits (envelope.encodeBinary ++ rest)
    have parsed := envelope_parse_encode envelope [] fits.1
    rw [List.append_nil] at parsed
    rw [CourierEnvelope.frame, List.append_assoc, nextEnvelope, if_neg (by rw [List.length_append, header]; omega)]
    simp only [size]
    rw [if_neg (by have bound := fits.2.1; omega), if_neg (by simp only [List.length_append, header]; omega),
      part_middle _ _ rest 4 _ (header _) rfl, parsed]
    simp only [List.length_nil, gt_iff_lt, lt_irrefl, if_false]
    rw [← List.append_assoc, List.drop_left' (by rw [List.length_append, header])]
  · by_cases short : p.length < 4
    · rw [nextEnvelope, if_pos short]
    · rw [CourierEnvelope.frame] at split
      obtain ⟨d, rfl, data⟩ := split_front _ _ p q split (by rw [header]; omega)
      have size := frame_size maxEnvelopeSize envelope fits d
      have missing := List.length_pos_iff.mpr some
      have part : d.length + q.length = envelope.encodeBinary.length := by rw [data, List.length_append]
      rw [nextEnvelope, if_neg short]
      simp only [size]
      rw [if_neg (by have bound := fits.2.1; omega), if_pos (by rw [List.length_append, header]; omega)]
  · have size := header (UInt32.ofNat envelope.encodeBinary.length)
    intro empty
    rw [CourierEnvelope.frame, List.append_eq_nil_iff] at empty
    rw [empty.1] at size
    cases size

end Envelopes

end Katzenpost.Pigeonhole
