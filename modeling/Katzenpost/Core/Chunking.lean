import Katzenpost.Go.Call

set_option autoImplicit false

namespace Katzenpost

open Go

-- What io.Copy gets out of a gzip reader: the bytes up to the end of the stream or up to
-- the first error, whether it was the end, and what is left in the buffer.
structure Inflated where
  output : Bytes
  complete : Bool
  unread : Bytes
deriving DecidableEq

structure Gzip where
  compress : Bytes → Bytes
  newReader : Bytes → Option Inflated

structure GzipLaws (gzip : Gzip) : Prop where
  inflate_compress : ∀ blob, ∃ unread, gzip.newReader (gzip.compress blob) = some ⟨blob, true, unread⟩
  nonempty : ∀ blob, gzip.compress blob ≠ []

def chunkLoop (compressedRawDoc : Bytes) (chunkSize : Nat) : Nat → Nat → Call String (List Bytes)
  | 0, _ => .returns []
  | 1, offset => do
      let chunk ← slice compressedRawDoc offset compressedRawDoc.length
      .returns [chunk]
  | left + 2, offset => do
      let chunk ← slice compressedRawDoc offset (offset + chunkSize)
      let chunks ← chunkLoop compressedRawDoc chunkSize (left + 1) (offset + chunkSize)
      .returns (chunk :: chunks)

def chunkCount (docSize chunkSize : Nat) : Nat :=
  let total := docSize / chunkSize
  let size := chunkSize * total
  if size < docSize then total + 1 else total

-- Chunk. The writes go to memory and do not fail; a chunk size of 0 is a division by it.
def chunk (gzip : Gzip) (blob : Bytes) (chunkSize : Nat) : Call String (List Bytes) :=
  if chunkSize = 0 then .panics
  else
    let compressedRawDoc := gzip.compress blob
    chunkLoop compressedRawDoc chunkSize (chunkCount compressedRawDoc.length chunkSize) 0

structure PiecesOf (size : Nat) (whole : Bytes) (pieces : List Bytes) : Prop where
  joined : pieces.flatten = whole
  full : ∀ piece ∈ pieces.dropLast, piece.length = size
  nonempty : ∀ piece ∈ pieces, piece ≠ []
  bounded : ∀ piece ∈ pieces, piece.length ≤ size

theorem chunk_count_bounds (docSize chunkSize : Nat) (positive : 0 < chunkSize) (some : 0 < docSize) :
    ∃ count, chunkCount docSize chunkSize = count + 1 ∧ chunkSize * count < docSize ∧ docSize ≤ chunkSize * (count + 1) := by
  have split := Nat.div_add_mod docSize chunkSize
  have rest := Nat.mod_lt docSize positive
  unfold chunkCount
  dsimp only
  by_cases more : chunkSize * (docSize / chunkSize) < docSize
  · rw [if_pos more]
    refine ⟨docSize / chunkSize, rfl, more, ?_⟩
    rw [Nat.mul_succ]
    omega
  · rw [if_neg more]
    -- An exact multiple, and not of 0.
    cases count : docSize / chunkSize with
    | zero =>
        rw [count, Nat.mul_zero] at more
        omega
    | succ count' =>
        rw [count, Nat.mul_succ] at more split
        refine ⟨count', rfl, ?_, ?_⟩
        · omega
        · rw [Nat.mul_succ]
          omega

theorem chunk_loop_pieces (compressed : Bytes) (chunkSize left offset : Nat) (positive : 0 < chunkSize)
    (enough : compressed.length ≤ offset + chunkSize * (left + 1)) (needed : offset + chunkSize * left < compressed.length) :
    ∃ pieces, chunkLoop compressed chunkSize (left + 1) offset = .returns pieces ∧ pieces.length = left + 1 ∧
      PiecesOf chunkSize (compressed.drop offset) pieces := by
  induction left generalizing offset with
  | zero =>
      rw [Nat.mul_zero, Nat.add_zero] at needed
      rw [Nat.zero_add, Nat.mul_one] at enough
      have size : (compressed.drop offset).length = compressed.length - offset := List.length_drop
      refine ⟨[compressed.drop offset], ?_, rfl, ⟨by rw [List.flatten_singleton], (fun _ member => nomatch member), ?_, ?_⟩⟩
      · rw [chunkLoop, slice_returns _ _ _ ⟨by omega, le_refl _⟩, returns_bind, List.take_length]
      · intro piece member
        rw [List.mem_singleton] at member
        rw [member]
        exact List.ne_nil_of_length_pos (by omega)
      · intro piece member
        rw [List.mem_singleton] at member
        rw [member]
        omega
  | succ left ih =>
      rw [Nat.mul_succ] at needed
      have whole : offset + chunkSize ≤ compressed.length := by omega
      obtain ⟨pieces, looped, count, rest⟩ := ih (offset + chunkSize) (by rw [Nat.mul_succ] at enough; omega) (by omega)
      have size : ((compressed.take (offset + chunkSize)).drop offset).length = chunkSize := by
        rw [List.length_drop, List.length_take]
        omega
      refine ⟨(compressed.take (offset + chunkSize)).drop offset :: pieces, ?_, by rw [List.length_cons, count], ?_⟩
      · rw [chunkLoop, slice_returns _ _ _ ⟨by omega, whole⟩, returns_bind, looped, returns_bind]
      · refine ⟨?_, fun piece member => ?_, fun piece member => ?_, fun piece member => ?_⟩
        · rw [List.flatten_cons, rest.joined, List.drop_take, Nat.add_sub_cancel_left, ← List.drop_drop, List.take_append_drop]
        · cases pieces with
          | nil => cases count
          | cons second others =>
              rw [List.dropLast_cons_cons, List.mem_cons] at member
              obtain rfl | later := member
              · exact size
              · exact rest.full piece later
        · obtain rfl | later := List.mem_cons.mp member
          · exact List.ne_nil_of_length_pos (by omega)
          · exact rest.nonempty piece later
        · obtain rfl | later := List.mem_cons.mp member
          · omega
          · exact rest.bounded piece later

theorem chunk_pieces (gzip : Gzip) (laws : GzipLaws gzip) (blob : Bytes) (chunkSize : Nat) (positive : 0 < chunkSize) :
    ∃ pieces, chunk gzip blob chunkSize = .returns pieces ∧ pieces ≠ [] ∧ PiecesOf chunkSize (gzip.compress blob) pieces := by
  obtain ⟨count, counted, needed, enough⟩ := chunk_count_bounds (gzip.compress blob).length chunkSize positive
    (List.length_pos_iff.mpr (laws.nonempty blob))
  obtain ⟨pieces, looped, length, rest⟩ := chunk_loop_pieces (gzip.compress blob) chunkSize count 0 positive
    (by omega) (by omega)
  refine ⟨pieces, ?_, List.ne_nil_of_length_pos (by omega), rest⟩
  rw [chunk, if_neg (Nat.ne_of_gt positive)]
  dsimp only
  rw [counted, looped]

end Katzenpost
