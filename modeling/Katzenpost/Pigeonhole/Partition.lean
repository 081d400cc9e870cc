import Katzenpost.Pigeonhole.CopyStream

set_option autoImplicit false

namespace Katzenpost.Pigeonhole

open Go

def CopyStreamEnvelopeDecoder.feed (d : CopyStreamEnvelopeDecoder) :
    List Bytes → CopyStreamEnvelopeDecoder × List DecodedEnvelopes
  | [] => (d, [])
  | piece :: pieces =>
      let (next, decoded) := (d.addBoxData piece).decodeEnvelopes
      let (last, results) := next.feed pieces
      (last, decoded :: results)

def freshDecoder (maxElementSize maxEnvelopeSize : Nat) : CopyStreamEnvelopeDecoder :=
  ⟨⟨[], maxElementSize⟩, [], false, maxEnvelopeSize⟩

theorem decode_envelopes_ok (d : CopyStreamEnvelopeDecoder) (fine : d.decodeEnvelopes.2.err = none) :
    ∃ elements left envelopes rest,
      drain (decodeAvailable d.elementDecoder.maxElementSize) d.elementDecoder.buffer.length d.elementDecoder.buffer =
        (elements, left, none) ∧
      drain (nextEnvelope d.maxEnvelopeSize) (d.envelopeBuffer ++ (elements.map CopyStreamElement.envelopeData).flatten).length
        (d.envelopeBuffer ++ (elements.map CopyStreamElement.envelopeData).flatten) = (envelopes, rest, none) ∧
      d.decodeEnvelopes = (⟨⟨left, d.elementDecoder.maxElementSize⟩, rest, d.sawFinal || elements.any CopyStreamElement.isFinal,
        d.maxEnvelopeSize⟩, ⟨envelopes, d.sawFinal || elements.any CopyStreamElement.isFinal, none⟩) := by
  obtain ⟨elements, left, err, drained⟩ : ∃ elements left err,
      drain (decodeAvailable d.elementDecoder.maxElementSize) d.elementDecoder.buffer.length d.elementDecoder.buffer =
        (elements, left, err) := ⟨_, _, _, rfl⟩
  obtain ⟨envelopes, rest, err', parsed⟩ : ∃ envelopes rest err',
      drain (nextEnvelope d.maxEnvelopeSize) (d.envelopeBuffer ++ (elements.map CopyStreamElement.envelopeData).flatten).length
        (d.envelopeBuffer ++ (elements.map CopyStreamElement.envelopeData).flatten) = (envelopes, rest, err') := ⟨_, _, _, rfl⟩
  cases err with
  | some e => simp [CopyStreamEnvelopeDecoder.decodeEnvelopes, drained] at fine
  | none =>
      have run : d.decodeEnvelopes = (⟨⟨left, d.elementDecoder.maxElementSize⟩, rest,
          d.sawFinal || elements.any CopyStreamElement.isFinal, d.maxEnvelopeSize⟩,
          ⟨envelopes, d.sawFinal || elements.any CopyStreamElement.isFinal, err'⟩) := by
        simp only [CopyStreamEnvelopeDecoder.decodeEnvelopes, drained, parsed]
      rw [run] at fine
      obtain rfl : err' = none := fine
      exact ⟨elements, left, envelopes, rest, drained, parsed, run⟩

theorem decode_envelopes_of (d : CopyStreamEnvelopeDecoder) (elements : List CopyStreamElement) (left : Bytes)
    (envelopes : List CourierEnvelope) (rest : Bytes)
    (drained : drain (decodeAvailable d.elementDecoder.maxElementSize) d.elementDecoder.buffer.length d.elementDecoder.buffer =
      (elements, left, none))
    (parsed : drain (nextEnvelope d.maxEnvelopeSize) (d.envelopeBuffer ++ (elements.map CopyStreamElement.envelopeData).flatten).length
      (d.envelopeBuffer ++ (elements.map CopyStreamElement.envelopeData).flatten) = (envelopes, rest, none)) :
    d.decodeEnvelopes = (⟨⟨left, d.elementDecoder.maxElementSize⟩, rest, d.sawFinal || elements.any CopyStreamElement.isFinal,
      d.maxEnvelopeSize⟩, ⟨envelopes, d.sawFinal || elements.any CopyStreamElement.isFinal, none⟩) := by
  simp only [CopyStreamEnvelopeDecoder.decodeEnvelopes, drained, parsed]

theorem resumed_ok {ε α : Type} (front : Bytes → Front ε α) (more left rest : Bytes) (items all : List α) (err : Option ε)
    (resumed : (all, rest, none) = resume front more (items, left, err)) :
    err = none ∧ ∃ later, all = items ++ later ∧ drain front (left ++ more).length (left ++ more) = (later, rest, none) := by
  cases err with
  | some e => cases resumed
  | none =>
      obtain ⟨whole, tail⟩ := Prod.mk.inj resumed
      exact ⟨rfl, _, whole, Prod.ext rfl tail.symm⟩

theorem decode_split (d : CopyStreamEnvelopeDecoder) (p q : Bytes) (fine : (d.addBoxData (p ++ q)).decodeEnvelopes.2.err = none) :
    (d.addBoxData p).decodeEnvelopes.2.err = none ∧
    (((d.addBoxData p).decodeEnvelopes.1).addBoxData q).decodeEnvelopes.1 = (d.addBoxData (p ++ q)).decodeEnvelopes.1 ∧
    (((d.addBoxData p).decodeEnvelopes.1).addBoxData q).decodeEnvelopes.2.err = none ∧
    (((d.addBoxData p).decodeEnvelopes.1).addBoxData q).decodeEnvelopes.2.sawFinal = (d.addBoxData (p ++ q)).decodeEnvelopes.2.sawFinal ∧
    (d.addBoxData (p ++ q)).decodeEnvelopes.2.envelopes = (d.addBoxData p).decodeEnvelopes.2.envelopes ++
      (((d.addBoxData p).decodeEnvelopes.1).addBoxData q).decodeEnvelopes.2.envelopes := by
  obtain ⟨elements, left, envelopes, rest, drained, parsed, run⟩ := decode_envelopes_ok _ fine
  change drain (decodeAvailable d.elementDecoder.maxElementSize) (d.elementDecoder.buffer ++ (p ++ q)).length
    (d.elementDecoder.buffer ++ (p ++ q)) = _ at drained
  change drain (nextEnvelope d.maxEnvelopeSize) (d.envelopeBuffer ++ (elements.map CopyStreamElement.envelopeData).flatten).length
    (d.envelopeBuffer ++ (elements.map CopyStreamElement.envelopeData).flatten) = _ at parsed
  -- The elements: those of the first part, then those found with the second.
  have resumed := drain_append (elements_stable d.elementDecoder.maxElementSize) (d.elementDecoder.buffer ++ p) q
  rw [List.append_assoc, drained] at resumed
  obtain ⟨first, waiting, err, before⟩ : ∃ first waiting err, drain (decodeAvailable d.elementDecoder.maxElementSize)
      (d.elementDecoder.buffer ++ p).length (d.elementDecoder.buffer ++ p) = (first, waiting, err) := ⟨_, _, _, rfl⟩
  rw [before] at resumed
  obtain ⟨rfl, second, rfl, after⟩ := resumed_ok _ _ _ _ _ _ _ resumed
  -- The envelopes in the data of the elements, in the same way.
  rw [List.map_append, List.flatten_append, ← List.append_assoc, drain_append (envelopes_stable _)] at parsed
  obtain ⟨found, kept, err, early⟩ : ∃ found kept err, drain (nextEnvelope d.maxEnvelopeSize)
      (d.envelopeBuffer ++ (first.map CopyStreamElement.envelopeData).flatten).length
      (d.envelopeBuffer ++ (first.map CopyStreamElement.envelopeData).flatten) = (found, kept, err) := ⟨_, _, _, rfl⟩
  rw [early] at parsed
  obtain ⟨rfl, later, rfl, late⟩ := resumed_ok _ _ _ _ _ _ _ parsed.symm
  have one := decode_envelopes_of (d.addBoxData p) first waiting found kept before early
  have two := decode_envelopes_of ((d.addBoxData p).decodeEnvelopes.1.addBoxData q) second left later rest
    (by rw [one]; exact after) (by rw [one]; exact late)
  rw [run, two, one]
  refine ⟨rfl, ?_, rfl, ?_, rfl⟩
  · simp [CopyStreamEnvelopeDecoder.addBoxData, List.any_append, Bool.or_assoc]
  · simp [CopyStreamEnvelopeDecoder.addBoxData, List.any_append, Bool.or_assoc]

theorem feed_cons (d : CopyStreamEnvelopeDecoder) (piece : Bytes) (pieces : List Bytes) :
    d.feed (piece :: pieces) = (((d.addBoxData piece).decodeEnvelopes.1.feed pieces).1,
      (d.addBoxData piece).decodeEnvelopes.2 :: ((d.addBoxData piece).decodeEnvelopes.1.feed pieces).2) := rfl

theorem feed_pieces (d : CopyStreamEnvelopeDecoder) (piece : Bytes) (pieces : List Bytes)
    (fine : (d.addBoxData (piece :: pieces).flatten).decodeEnvelopes.2.err = none) :
    (d.feed (piece :: pieces)).1 = (d.addBoxData (piece :: pieces).flatten).decodeEnvelopes.1 ∧
    (∀ result ∈ (d.feed (piece :: pieces)).2, result.err = none) ∧
    ((d.feed (piece :: pieces)).2.map DecodedEnvelopes.envelopes).flatten =
      (d.addBoxData (piece :: pieces).flatten).decodeEnvelopes.2.envelopes ∧
    ∀ result, (d.feed (piece :: pieces)).2.getLast? = some result →
      result.sawFinal = (d.addBoxData (piece :: pieces).flatten).decodeEnvelopes.2.sawFinal := by
  induction pieces generalizing d piece with
  | nil =>
      rw [List.flatten_cons, List.flatten_nil, List.append_nil] at fine ⊢
      rw [feed_cons]
      refine ⟨rfl, fun result member => ?_, List.append_nil _, fun result last => ?_⟩
      · rw [List.mem_singleton.mp member]
        exact fine
      · change some (d.addBoxData piece).decodeEnvelopes.2 = some result at last
        rw [← Option.some.inj last]
  | cons second later ih =>
      rw [List.flatten_cons] at fine ⊢
      obtain ⟨first, state, next, final, envelopes⟩ := decode_split d piece _ fine
      obtain ⟨last, results, decoded, flag⟩ := ih (d.addBoxData piece).decodeEnvelopes.1 second next
      rw [feed_cons]
      refine ⟨last.trans state, fun result member => ?_, ?_, fun result last => ?_⟩
      · cases List.mem_cons.mp member with
        | inl here => rw [here]; exact first
        | inr there => exact results result there
      · rw [envelopes, ← decoded]
        rfl
      · rw [feed_cons, List.getLast?_cons_cons] at last
        exact (flag result last).trans final

/-- However a stream is cut into boxes, the decoder finds the same in it. -/
theorem decoding_partition_free (maxElementSize maxEnvelopeSize : Nat) (pieces : List Bytes)
    (fine : ((freshDecoder maxElementSize maxEnvelopeSize).addBoxData pieces.flatten).decodeEnvelopes.2.err = none) :
    (∀ result ∈ ((freshDecoder maxElementSize maxEnvelopeSize).feed pieces).2, result.err = none) ∧
    (((freshDecoder maxElementSize maxEnvelopeSize).feed pieces).2.map DecodedEnvelopes.envelopes).flatten =
      ((freshDecoder maxElementSize maxEnvelopeSize).addBoxData pieces.flatten).decodeEnvelopes.2.envelopes ∧
    (∀ result, ((freshDecoder maxElementSize maxEnvelopeSize).feed pieces).2.getLast? = some result →
      result.sawFinal = ((freshDecoder maxElementSize maxEnvelopeSize).addBoxData pieces.flatten).decodeEnvelopes.2.sawFinal) ∧
    ((freshDecoder maxElementSize maxEnvelopeSize).feed pieces).1.sawFinal =
      ((freshDecoder maxElementSize maxEnvelopeSize).addBoxData pieces.flatten).decodeEnvelopes.2.sawFinal ∧
    ((freshDecoder maxElementSize maxEnvelopeSize).feed pieces).1.remaining =
      ((freshDecoder maxElementSize maxEnvelopeSize).addBoxData pieces.flatten).decodeEnvelopes.1.remaining := by
  cases pieces with
  | nil => exact ⟨nofun, rfl, nofun, rfl, rfl⟩
  | cons piece pieces =>
      obtain ⟨last, results, decoded, flag⟩ := feed_pieces _ piece pieces fine
      refine ⟨results, decoded, flag, ?_, by rw [last]⟩
      obtain ⟨_, _, _, _, _, _, run⟩ := decode_envelopes_ok _ fine
      rw [last, run]

theorem cut_stream_decoded :
    ((freshDecoder 9 0).addBoxData ([[0, 0, 0, 0], [2, 7, 8, 2, 0, 0, 0, 0]] : List Bytes).flatten).decodeEnvelopes.2 = ⟨[], true, none⟩ ∧
    ((freshDecoder 9 0).feed [[0, 0, 0, 0], [2, 7, 8, 2, 0, 0, 0, 0]]).1.remaining =
      ((freshDecoder 9 0).addBoxData ([[0, 0, 0, 0], [2, 7, 8, 2, 0, 0, 0, 0]] : List Bytes).flatten).decodeEnvelopes.1.remaining :=
  ⟨by decide +kernel, (decoding_partition_free 9 0 [[0, 0, 0, 0], [2, 7, 8, 2, 0, 0, 0, 0]] (by decide +kernel)).2.2.2.2⟩

end Katzenpost.Pigeonhole
