import Katzenpost.Go.Block

set_option autoImplicit false

namespace Go

inductive Front (ε α : Type) where
  | more
  | item (a : α) (rest : Bytes)
  | bad (e : ε)

section Drain

variable {ε α : Type} (front : Bytes → Front ε α)

def drain : Nat → Bytes → List α × Bytes × Option ε
  | 0, buffer => ([], buffer, none)
  | fuel + 1, buffer =>
      match front buffer with
      | .more => ([], buffer, none)
      | .bad e => ([], buffer, some e)
      | .item a rest =>
          let (items, left, err) := drain fuel rest
          (a :: items, left, err)

-- A self-delimiting format: an item is found whatever follows it, a part of one only
-- asks for more, and so does a part of what asks for more.
structure Delimits (write : α → Bytes) (valid : α → Prop) : Prop where
  whole : ∀ a rest, valid a → front (write a ++ rest) = .item a rest
  part : ∀ a p q, valid a → write a = p ++ q → q ≠ [] → front p = .more
  patient : ∀ p q, front (p ++ q) = .more → front p = .more
  nonempty : ∀ a, valid a → write a ≠ []

variable {front} {write : α → Bytes} {valid : α → Prop}

theorem drain_more (buffer : Bytes) (waits : front buffer = .more) (fuel : Nat) : drain front fuel buffer = ([], buffer, none) := by
  cases fuel with
  | zero => rfl
  | succ n => rw [drain, waits]

theorem waits_items (delimits : Delimits front write valid) (items : List α) (good : ∀ a ∈ items, valid a) (tail : Bytes)
    (waits : front ((items.map write).flatten ++ tail) = .more) : items = [] := by
  cases items with
  | nil => rfl
  | cons a later =>
      rw [List.map_cons, List.flatten_cons, List.append_assoc, delimits.whole a _ (good a List.mem_cons_self)] at waits
      cases waits

theorem drain_delimited (delimits : Delimits front write valid) (items : List α) (good : ∀ a ∈ items, valid a) (tail : Bytes)
    (tailWaits : front tail = .more) (buffer more : Bytes) (split : (items.map write).flatten ++ tail = buffer ++ more) (fuel : Nat)
    (enough : buffer.length ≤ fuel) :
    ∃ done coming left, items = done ++ coming ∧ drain front fuel buffer = (done, left, none) ∧
      buffer = (done.map write).flatten ++ left ∧ front left = .more := by
  induction items generalizing buffer fuel with
  | nil =>
      have waits : front buffer = .more := by
        rw [List.map_nil, List.flatten_nil, List.nil_append] at split
        rw [split] at tailWaits
        exact delimits.patient buffer more tailWaits
      exact ⟨[], [], buffer, rfl, drain_more buffer waits fuel, rfl, waits⟩
  | cons a later ih =>
      have valid := good a List.mem_cons_self
      rw [List.map_cons, List.flatten_cons, List.append_assoc, List.append_eq_append_iff] at split
      have cut : (∃ rest, buffer = write a ++ rest ∧ (later.map write).flatten ++ tail = rest ++ more) ∨
          ∃ q, write a = buffer ++ q ∧ q ≠ [] := by
        obtain whole | ⟨q, part, next⟩ := split
        · exact .inl whole
        · by_cases all : q = []
          · subst all
            rw [List.append_nil] at part
            exact .inl ⟨[], by rw [part, List.append_nil], next.symm⟩
          · exact .inr ⟨q, part, all⟩
      obtain ⟨rest, rfl, next⟩ | ⟨q, part, some⟩ := cut
      · -- The first item is whole; the induction hypothesis is about what follows it.
        have size := List.length_pos_iff.mpr (delimits.nonempty a valid)
        rw [List.length_append] at enough
        obtain ⟨n, rfl⟩ : ∃ n, fuel = n + 1 := ⟨fuel - 1, by omega⟩
        obtain ⟨done, coming, left, items, drained, buffer, waits⟩ :=
          ih (fun b member => good b (List.mem_cons_of_mem a member)) rest next n (by omega)
        refine ⟨a :: done, coming, left, by rw [items, List.cons_append], ?_, ?_, waits⟩
        · rw [drain, delimits.whole a rest valid]
          simp only [drained]
        · rw [List.map_cons, List.flatten_cons, List.append_assoc, ← buffer]
      · have waits := delimits.part a buffer q valid part some
        exact ⟨[], a :: later, buffer, rfl, drain_more buffer waits fuel, rfl, waits⟩

structure Stable (front : Bytes → Front ε α) : Prop where
  item : ∀ p q a rest, front p = .item a rest → front (p ++ q) = .item a (rest ++ q)
  bad : ∀ p q e, front p = .bad e → front (p ++ q) = .bad e
  takes : ∀ p a rest, front p = .item a rest → rest.length < p.length
  nothing : front [] = .more

theorem stable_of_append (nothing : front [] = .more) (appends : ∀ p q, match front p with
      | .more => True
      | .item a rest => front (p ++ q) = .item a (rest ++ q) ∧ rest.length < p.length
      | .bad e => front (p ++ q) = .bad e) : Stable front := by
  refine ⟨fun p q a rest found => ?_, fun p q e found => ?_, fun p a rest found => ?_, nothing⟩
  · have holds := appends p q
    rw [found] at holds
    exact holds.1
  · have holds := appends p q
    rw [found] at holds
    exact holds
  · have holds := appends p []
    rw [found] at holds
    exact holds.2

theorem Stable.patient (stable : Stable front) (p q : Bytes) (waits : front (p ++ q) = .more) : front p = .more := by
  cases found : front p with
  | more => rfl
  | item a rest =>
      rw [stable.item p q a rest found] at waits
      cases waits
  | bad e =>
      rw [stable.bad p q e found] at waits
      cases waits

theorem drain_enough (stable : Stable front) (fuel : Nat) (buffer : Bytes) (enough : buffer.length ≤ fuel) :
    drain front fuel buffer = drain front buffer.length buffer := by
  -- Any two sufficient amounts of fuel give the same result.
  have same : ∀ (n m : Nat) (b : Bytes), b.length ≤ n → b.length ≤ m → drain front n b = drain front m b := by
    intro n
    induction n with
    | zero =>
        intro m b left _
        rw [List.eq_nil_of_length_eq_zero (Nat.le_zero.mp left), drain_more [] stable.nothing 0, drain_more [] stable.nothing m]
    | succ n ih =>
        intro m b left right
        cases m with
        | zero =>
            rw [List.eq_nil_of_length_eq_zero (Nat.le_zero.mp right), drain_more [] stable.nothing _, drain_more [] stable.nothing 0]
        | succ m =>
            rw [drain, drain]
            cases found : front b with
            | more => rfl
            | bad e => rfl
            | item a rest =>
                have shorter := stable.takes b a rest found
                simp only [ih m rest (by omega) (by omega)]
  exact same fuel buffer.length buffer enough (le_refl _)

theorem drain_turn (stable : Stable front) (buffer : Bytes) :
    drain front buffer.length buffer = match front buffer with
      | .more => ([], buffer, none)
      | .bad e => ([], buffer, some e)
      | .item a rest => (a :: (drain front rest.length rest).1, (drain front rest.length rest).2) := by
  cases buffer with
  | nil => rw [stable.nothing, drain_more [] stable.nothing]
  | cons byte bytes =>
      rw [List.length_cons, drain]
      cases found : front (byte :: bytes) with
      | more => rfl
      | bad e => rfl
      | item a rest =>
          have shorter := stable.takes _ a rest found
          rw [List.length_cons] at shorter
          simp only [drain_enough stable bytes.length rest (by omega)]

def resume (front : Bytes → Front ε α) (more : Bytes) : List α × Bytes × Option ε → List α × Bytes × Option ε
  | (items, left, none) => (items ++ (drain front (left ++ more).length (left ++ more)).1, (drain front (left ++ more).length (left ++ more)).2)
  | (items, left, some e) => (items, left ++ more, some e)

theorem drain_append (stable : Stable front) (p q : Bytes) :
    drain front (p ++ q).length (p ++ q) = resume front q (drain front p.length p) := by
  induction size : p.length using Nat.strong_induction_on generalizing p with
  | _ n ih =>
      subst size
      rw [drain_turn stable p]
      cases found : front p with
      | more => rfl
      | bad e => rw [drain_turn stable, stable.bad p q e found, resume]
      | item a rest =>
          rw [drain_turn stable, stable.item p q a rest found]
          simp only [ih rest.length (stable.takes p a rest found) rest rfl]
          obtain ⟨later, left, err, drained⟩ : ∃ later left err, drain front rest.length rest = (later, left, err) := ⟨_, _, _, rfl⟩
          rw [drained]
          cases err <;> rfl

end Drain

section Words

theorem little_value_lt (bytes : Bytes) : littleValue bytes < 256 ^ bytes.length := by
  induction bytes with
  | nil => exact Nat.one_pos
  | cons byte rest ih =>
      have bound : byte.toNat < 256 := byte.toNat_lt
      rw [littleValue, List.length_cons, Nat.pow_succ]
      omega

theorem little_endian_value (bytes : Bytes) : littleEndian bytes.length (littleValue bytes) = bytes := by
  induction bytes with
  | nil => rfl
  | cons byte rest ih =>
      have bound : byte.toNat < 256 := byte.toNat_lt
      have low : (byte.toNat + 256 * littleValue rest) % 256 = byte.toNat := by omega
      have high : (byte.toNat + 256 * littleValue rest) / 256 = littleValue rest := by omega
      rw [List.length_cons, littleEndian, littleValue, low, high, ih, UInt8.ofNat_toNat]

theorem big_endian_value (bytes : Bytes) : bigEndian bytes.length (bigValue bytes) = bytes := by
  have same := little_endian_value bytes.reverse
  rw [List.length_reverse] at same
  rw [bigEndian, bigValue, same, List.reverse_reverse]

theorem big_value_lt (bytes : Bytes) : bigValue bytes < 256 ^ bytes.length := by
  have bound := little_value_lt bytes.reverse
  rwa [List.length_reverse] at bound

theorem put_uint32BE_read (bytes : Bytes) (sized : 4 ≤ bytes.length) : putUint32BE (uint32BE bytes) = bytes.take 4 := by
  have size : (bytes.take 4).length = 4 := List.length_take_of_le sized
  have bound := big_value_lt (bytes.take 4)
  rw [size] at bound
  have same := big_endian_value (bytes.take 4)
  rw [size] at same
  rw [putUint32BE, uint32BE, UInt32.toNat_ofNat_of_lt' bound, same]

theorem put_uint64BE_read (bytes : Bytes) (sized : 8 ≤ bytes.length) : putUint64BE (uint64BE bytes) = bytes.take 8 := by
  have size : (bytes.take 8).length = 8 := List.length_take_of_le sized
  have bound := big_value_lt (bytes.take 8)
  rw [size] at bound
  have same := big_endian_value (bytes.take 8)
  rw [size] at same
  rw [putUint64BE, uint64BE, UInt64.toNat_ofNat_of_lt' bound, same]

def putUint16BE (n : UInt16) : Bytes := bigEndian 2 n.toNat

def uint16BE (bytes : Bytes) : UInt16 := UInt16.ofNat (bigValue (bytes.take 2))

theorem uint16BE_put (n : UInt16) (rest : Bytes) : uint16BE (putUint16BE n ++ rest) = n := by
  have bound : n.toNat < 256 ^ 2 := n.toNat_lt
  have front : (putUint16BE n ++ rest).take 2 = putUint16BE n := List.take_left' (big_endian_length 2 n.toNat)
  rw [uint16BE, front, putUint16BE, big_value_endian, Nat.mod_eq_of_lt bound, UInt16.ofNat_toNat]

theorem put_uint16BE_read (bytes : Bytes) (sized : 2 ≤ bytes.length) : putUint16BE (uint16BE bytes) = bytes.take 2 := by
  have size : (bytes.take 2).length = 2 := List.length_take_of_le sized
  have bound := big_value_lt (bytes.take 2)
  rw [size] at bound
  have same := big_endian_value (bytes.take 2)
  rw [size] at same
  rw [putUint16BE, uint16BE, UInt16.toNat_ofNat_of_lt' bound, same]

end Words

end Go
