import Katzenpost.Go.Framing

set_option autoImplicit false

namespace Katzenpost.Pigeonhole

open Go

def tooShort : String := "data too short"

def lengthViolated : String := "array length constraint violated"

section Reading

def readArray (n : Nat) (cur : Bytes) : Except String (Fixed n × Bytes) :=
  if cur.length < n then .error tooShort else .ok (Fixed.copy n cur, cur.drop n)

def readBytes (n : Nat) (cur : Bytes) : Except String (Bytes × Bytes) :=
  if cur.length < n then .error tooShort else .ok (cur.take n, cur.drop n)

def readUint8 : Bytes → Except String (UInt8 × Bytes)
  | [] => .error tooShort
  | byte :: cur => .ok (byte, cur)

def readUint16 (cur : Bytes) : Except String (UInt16 × Bytes) :=
  if cur.length < 2 then .error tooShort else .ok (uint16BE cur, cur.drop 2)

def readUint32 (cur : Bytes) : Except String (UInt32 × Bytes) :=
  if cur.length < 4 then .error tooShort else .ok (uint32BE cur, cur.drop 4)

def readUint64 (cur : Bytes) : Except String (UInt64 × Bytes) :=
  if cur.length < 8 then .error tooShort else .ok (uint64BE cur, cur.drop 8)

@[simp] theorem read_array_write (n : Nat) (a : Fixed n) (rest : Bytes) : readArray n (a.bytes ++ rest) = .ok (a, rest) := by
  have short : ¬ (a.bytes ++ rest).length < n := by
    rw [List.length_append, a.size]
    omega
  rw [readArray, if_neg short, fixed_copy_front, List.drop_left' a.size]

@[simp] theorem read_bytes_write (n : Nat) (data rest : Bytes) (sized : data.length = n) :
    readBytes n (data ++ rest) = .ok (data, rest) := by
  have short : ¬ (data ++ rest).length < n := by
    rw [List.length_append]
    omega
  rw [readBytes, if_neg short, List.take_left' sized, List.drop_left' sized]

@[simp] theorem read_uint16_write (n : UInt16) (rest : Bytes) : readUint16 (putUint16BE n ++ rest) = .ok (n, rest) := by
  have size : (putUint16BE n).length = 2 := big_endian_length 2 n.toNat
  have short : ¬ (putUint16BE n ++ rest).length < 2 := by
    rw [List.length_append, size]
    omega
  rw [readUint16, if_neg short, uint16BE_put, List.drop_left' size]

@[simp] theorem read_uint32_write (n : UInt32) (rest : Bytes) : readUint32 (putUint32BE n ++ rest) = .ok (n, rest) := by
  have size := put_uint32BE_length n
  have short : ¬ (putUint32BE n ++ rest).length < 4 := by
    rw [List.length_append, size]
    omega
  rw [readUint32, if_neg short, uint32BE_put, List.drop_left' size]

@[simp] theorem read_uint64_write (n : UInt64) (rest : Bytes) : readUint64 (putUint64BE n ++ rest) = .ok (n, rest) := by
  have size : (putUint64BE n).length = 8 := big_endian_length 8 n.toNat
  have short : ¬ (putUint64BE n ++ rest).length < 8 := by
    rw [List.length_append, size]
    omega
  rw [readUint64, if_neg short, uint64BE_put, List.drop_left' size]

theorem of_read_array (n : Nat) (cur rest : Bytes) (a : Fixed n) (read : readArray n cur = .ok (a, rest)) :
    cur = a.bytes ++ rest := by
  rw [readArray] at read
  split at read
  · cases read
  · rename_i enough
    cases read
    have full : n - cur.length = 0 := by omega
    show cur = copied n cur ++ cur.drop n
    rw [copied, full, List.replicate_zero, List.append_nil, List.take_append_drop]

theorem of_read_bytes (n : Nat) (cur data rest : Bytes) (read : readBytes n cur = .ok (data, rest)) :
    cur = data ++ rest ∧ data.length = n := by
  rw [readBytes] at read
  split at read
  · cases read
  · rename_i enough
    cases read
    exact ⟨(List.take_append_drop n cur).symm, List.length_take_of_le (not_lt.mp enough)⟩

theorem of_read_uint8 (cur rest : Bytes) (byte : UInt8) (read : readUint8 cur = .ok (byte, rest)) : cur = byte :: rest := by
  cases cur with
  | nil => cases read
  | cons head tail =>
      cases read
      rfl

theorem of_read_uint16 (cur rest : Bytes) (n : UInt16) (read : readUint16 cur = .ok (n, rest)) : cur = putUint16BE n ++ rest := by
  rw [readUint16] at read
  split at read
  · cases read
  · rename_i enough
    cases read
    rw [put_uint16BE_read cur (not_lt.mp enough), List.take_append_drop]

theorem of_read_uint32 (cur rest : Bytes) (n : UInt32) (read : readUint32 cur = .ok (n, rest)) : cur = putUint32BE n ++ rest := by
  rw [readUint32] at read
  split at read
  · cases read
  · rename_i enough
    cases read
    rw [put_uint32BE_read cur (not_lt.mp enough), List.take_append_drop]

theorem of_read_uint64 (cur rest : Bytes) (n : UInt64) (read : readUint64 cur = .ok (n, rest)) : cur = putUint64BE n ++ rest := by
  rw [readUint64] at read
  split at read
  · cases read
  · rename_i enough
    cases read
    rw [put_uint64BE_read cur (not_lt.mp enough), List.take_append_drop]

theorem of_bind_ok {α β : Type} (x : Except String α) (f : α → Except String β) (b : β) (returned : (x >>= f) = .ok b) :
    ∃ a, x = .ok a ∧ f a = .ok b := by
  cases x with
  | error e => cases returned
  | ok a => exact ⟨a, rfl, returned⟩

end Reading

structure CourierEnvelope where
  intermediateReplicas : Fixed 2
  dek1 : Fixed 60
  dek2 : Fixed 60
  replyIndex : UInt8
  epoch : UInt64
  senderPubkeyLen : UInt16
  senderPubkey : Bytes
  ciphertextLen : UInt32
  ciphertext : Bytes
deriving DecidableEq

def CourierEnvelope.parse (data : Bytes) : Except String (CourierEnvelope × Bytes) := do
  let (intermediateReplicas, cur) ← readArray 2 data
  let (dek1, cur) ← readArray 60 cur
  let (dek2, cur) ← readArray 60 cur
  let (replyIndex, cur) ← readUint8 cur
  let (epoch, cur) ← readUint64 cur
  let (senderPubkeyLen, cur) ← readUint16 cur
  let (senderPubkey, cur) ← readBytes senderPubkeyLen.toNat cur
  let (ciphertextLen, cur) ← readUint32 cur
  let (ciphertext, cur) ← readBytes ciphertextLen.toNat cur
  return (⟨intermediateReplicas, dek1, dek2, replyIndex, epoch, senderPubkeyLen, senderPubkey, ciphertextLen, ciphertext⟩, cur)

def CourierEnvelope.encodeBinary (c : CourierEnvelope) : Bytes :=
  c.intermediateReplicas.bytes ++ c.dek1.bytes ++ c.dek2.bytes ++ [c.replyIndex] ++ putUint64BE c.epoch ++
    putUint16BE c.senderPubkeyLen ++ c.senderPubkey.take c.senderPubkeyLen.toNat ++ putUint32BE c.ciphertextLen ++
    c.ciphertext.take c.ciphertextLen.toNat

-- validate; the lengths of the arrays hold by their types.
def CourierEnvelope.valid (c : CourierEnvelope) : Bool :=
  c.senderPubkey.length = c.senderPubkeyLen.toNat && c.ciphertext.length = c.ciphertextLen.toNat

def CourierEnvelope.marshalBinary (c : CourierEnvelope) : Except String Bytes :=
  if c.valid then .ok c.encodeBinary else .error lengthViolated

structure CopyStreamElement where
  flags : UInt8
  envelopeLen : UInt32
  envelopeData : Bytes
deriving DecidableEq

def CopyStreamElement.parse (data : Bytes) : Except String (CopyStreamElement × Bytes) := do
  let (flags, cur) ← readUint8 data
  let (envelopeLen, cur) ← readUint32 cur
  let (envelopeData, cur) ← readBytes envelopeLen.toNat cur
  return (⟨flags, envelopeLen, envelopeData⟩, cur)

def CopyStreamElement.encodeBinary (c : CopyStreamElement) : Bytes :=
  c.flags :: (putUint32BE c.envelopeLen ++ c.envelopeData.take c.envelopeLen.toNat)

def CopyStreamElement.valid (c : CopyStreamElement) : Bool := c.envelopeData.length = c.envelopeLen.toNat

def CopyStreamElement.marshalBinary (c : CopyStreamElement) : Except String Bytes :=
  if c.valid then .ok c.encodeBinary else .error lengthViolated

section RoundTrips

theorem envelope_parse_encode (c : CourierEnvelope) (rest : Bytes) (valid : c.valid = true) :
    CourierEnvelope.parse (c.encodeBinary ++ rest) = .ok (c, rest) := by
  rw [CourierEnvelope.valid, Bool.and_eq_true, decide_eq_true_eq, decide_eq_true_eq] at valid
  have key : c.senderPubkey.take c.senderPubkeyLen.toNat = c.senderPubkey := List.take_of_length_le valid.1.le
  have text : c.ciphertext.take c.ciphertextLen.toNat = c.ciphertext := List.take_of_length_le valid.2.le
  simp only [CourierEnvelope.parse, CourierEnvelope.encodeBinary, key, text, List.append_assoc, read_array_write,
    List.cons_append, List.nil_append, readUint8, read_uint64_write, read_uint16_write, read_uint32_write, read_bytes_write _ _ _ valid.1,
    read_bytes_write _ _ _ valid.2, bind, Except.bind, pure, Except.pure]

theorem envelope_encode_parse (data rest : Bytes) (c : CourierEnvelope) (parsed : CourierEnvelope.parse data = .ok (c, rest)) :
    data = c.encodeBinary ++ rest ∧ c.valid = true := by
  obtain ⟨⟨replicas, cur⟩, read, parsed⟩ := of_bind_ok _ _ _ parsed
  have front := of_read_array _ _ _ _ read
  obtain ⟨⟨dek1, cur1⟩, read, parsed⟩ := of_bind_ok _ _ _ parsed
  have front1 := of_read_array _ _ _ _ read
  obtain ⟨⟨dek2, cur2⟩, read, parsed⟩ := of_bind_ok _ _ _ parsed
  have front2 := of_read_array _ _ _ _ read
  obtain ⟨⟨index, cur3⟩, read, parsed⟩ := of_bind_ok _ _ _ parsed
  have front3 := of_read_uint8 _ _ _ read
  obtain ⟨⟨epoch, cur4⟩, read, parsed⟩ := of_bind_ok _ _ _ parsed
  have front4 := of_read_uint64 _ _ _ read
  obtain ⟨⟨keyLen, cur5⟩, read, parsed⟩ := of_bind_ok _ _ _ parsed
  have front5 := of_read_uint16 _ _ _ read
  obtain ⟨⟨key, cur6⟩, read, parsed⟩ := of_bind_ok _ _ _ parsed
  obtain ⟨front6, keySize⟩ := of_read_bytes _ _ _ _ read
  obtain ⟨⟨textLen, cur7⟩, read, parsed⟩ := of_bind_ok _ _ _ parsed
  have front7 := of_read_uint32 _ _ _ read
  obtain ⟨⟨text, cur8⟩, read, parsed⟩ := of_bind_ok _ _ _ parsed
  obtain ⟨front8, textSize⟩ := of_read_bytes _ _ _ _ read
  cases parsed
  refine ⟨?_, by simp [CourierEnvelope.valid, keySize, textSize]⟩
  rw [front, front1, front2, front3, front4, front5, front6, front7, front8]
  simp [CourierEnvelope.encodeBinary, List.take_of_length_le keySize.le, List.take_of_length_le textSize.le]

theorem element_parse_encode (c : CopyStreamElement) (rest : Bytes) (valid : c.valid = true) :
    CopyStreamElement.parse (c.encodeBinary ++ rest) = .ok (c, rest) := by
  rw [CopyStreamElement.valid, decide_eq_true_eq] at valid
  simp only [CopyStreamElement.parse, CopyStreamElement.encodeBinary, List.take_of_length_le valid.le, List.cons_append,
    List.append_assoc, readUint8, read_uint32_write, read_bytes_write _ _ _ valid, bind, Except.bind, pure, Except.pure]

theorem element_encode_parse (data rest : Bytes) (c : CopyStreamElement) (parsed : CopyStreamElement.parse data = .ok (c, rest)) :
    data = c.encodeBinary ++ rest ∧ c.valid = true := by
  obtain ⟨⟨flags, cur⟩, read, parsed⟩ := of_bind_ok _ _ _ parsed
  have front := of_read_uint8 _ _ _ read
  obtain ⟨⟨size, cur1⟩, read, parsed⟩ := of_bind_ok _ _ _ parsed
  have front1 := of_read_uint32 _ _ _ read
  obtain ⟨⟨bytes, cur2⟩, read, parsed⟩ := of_bind_ok _ _ _ parsed
  obtain ⟨front2, sized⟩ := of_read_bytes _ _ _ _ read
  cases parsed
  refine ⟨?_, by simp [CopyStreamElement.valid, sized]⟩
  rw [front, front1, front2]
  simp [CopyStreamElement.encodeBinary, List.take_of_length_le sized.le]

end RoundTrips

structure Box where
  boxID : Fixed 32
  payloadLen : UInt32
  payload : Bytes
  signature : Fixed 64
deriving DecidableEq

def Box.parse (data : Bytes) : Except String (Box × Bytes) := do
  let (boxID, cur) ← readArray 32 data
  let (payloadLen, cur) ← readUint32 cur
  let (payload, cur) ← readBytes payloadLen.toNat cur
  let (signature, cur) ← readArray 64 cur
  return (⟨boxID, payloadLen, payload, signature⟩, cur)

def Box.encodeBinary (b : Box) : Bytes :=
  b.boxID.bytes ++ (putUint32BE b.payloadLen ++ (b.payload.take b.payloadLen.toNat ++ b.signature.bytes))

def Box.valid (b : Box) : Bool := b.payload.length = b.payloadLen.toNat

def Box.marshalBinary (b : Box) : Except String Bytes := if b.valid then .ok b.encodeBinary else .error lengthViolated

-- The Bytes method drops the error and returns no bytes then.
def Box.bytes (b : Box) : Bytes :=
  match b.marshalBinary with
  | .error _ => []
  | .ok data => data

def boxFromBytes (data : Bytes) : Except String Box := do
  let (b, _) ← Box.parse data
  return b

theorem box_parse_encode (b : Box) (rest : Bytes) (valid : b.valid = true) : Box.parse (b.encodeBinary ++ rest) = .ok (b, rest) := by
  rw [Box.valid, decide_eq_true_eq] at valid
  simp only [Box.parse, Box.encodeBinary, List.take_of_length_le valid.le, List.append_assoc, read_array_write, read_uint32_write,
    read_bytes_write _ _ _ valid, bind, Except.bind, pure, Except.pure]

theorem box_from_bytes (b : Box) (valid : b.valid = true) : boxFromBytes b.bytes = .ok b := by
  have parsed := box_parse_encode b [] valid
  rw [List.append_nil] at parsed
  rw [boxFromBytes, Box.bytes, Box.marshalBinary, if_pos valid]
  simp only [parsed, bind, Except.bind, pure, Except.pure]

theorem box_bytes_nonempty (b : Box) (valid : b.valid = true) : b.bytes ≠ [] := by
  intro empty
  have parsed := box_from_bytes b valid
  rw [empty] at parsed
  cases parsed

end Katzenpost.Pigeonhole
