import Katzenpost.Client.Consensus
import Katzenpost.Wire.TrafficSize

set_option autoImplicit false

namespace Katzenpost

open Go

-- What GetRawConsensus returns; every error but ErrNoDocument is treated as errNotCached.
inductive RawConsensus where
  | document (rawDoc : Bytes)
  | noDocument
  | notCached
deriving DecidableEq

inductive SendResult where
  | refused
  | writeFailed
  | written
deriving DecidableEq

def Consensus2.wire (cmd : Consensus2) : WireCommand := .consensus2 cmd.errorCode cmd.chunkNum cmd.chunkTotal cmd.payload

section Handler

variable (g : Geometry) (mesgSize : Nat) (result : Nat → SendResult)

def sendCommands : Nat → List Consensus2 → List Bytes
  | _, [] => []
  | i, cmd :: cmds =>
      match mixnetBytes g cmd.wire with
      | none => []
      | some pt =>
          if macLen + pt.length > mesgSize then []
          else
            match result i with
            | .refused => []
            | .writeFailed => [pt]
            | .written => pt :: sendCommands (i + 1) cmds

def errorReply (errorCode : UInt8) : Consensus2 := ⟨errorCode, 0, 1, []⟩

def onGetConsensus2 (gzip : Gzip) : RawConsensus → Call String (List Bytes)
  | .noDocument => .returns (sendCommands g mesgSize result 0 [errorReply consensusGone])
  | .notCached => .returns (sendCommands g mesgSize result 0 [errorReply consensusNotFound])
  | .document rawDoc => do
      let chunks ← chunk gzip rawDoc (mixnetLengths g).serverToClient
      .returns (sendCommands g mesgSize result 0 (chunkCommands chunks.length 0 chunks))

end Handler

def consensus2Overhead : Nat := cmdOverhead + consensus2BaseLength

theorem consensus2_length (g : Geometry) (cmd : Consensus2) :
    ∃ pt, mixnetBytes g cmd.wire = some pt ∧
      pt.length = max (mixnetLengths g).serverToClient (consensus2Overhead + cmd.payload.length) := by
  obtain ⟨pt, made, length⟩ := to_bytes_length (newMixnetCommands g) (mixnetLengths g) true cmd.wire
    (consensus2Header.put (cmd.errorCode, cmd.chunkNum, cmd.chunkTotal) ++ cmd.payload) rfl rfl
  refine ⟨pt, made, length.trans ?_⟩
  rw [List.length_append, consensus2Header.put_length, ← Nat.add_assoc]
  rfl

theorem consensus2_room (g : Geometry) : consensus2Overhead ≤ (mixnetLengths g).serverToClient := by
  have room := ack_fits g
  rw [surbIDLength, cmdOverhead] at room
  rw [consensus2Overhead, cmdOverhead, consensus2BaseLength]
  omega

section Sent

variable (g : Geometry) (mesgSize : Nat) (result : Nat → SendResult)

theorem first_sent (i : Nat) (cmd : Consensus2) (cmds : List Consensus2) (pt : Bytes) (made : mixnetBytes g cmd.wire = some pt) :
    (sendCommands g mesgSize result i (cmd :: cmds) = [] ∧ (mesgSize < macLen + pt.length ∨ result i = .refused)) ∨
      ∃ rest, sendCommands g mesgSize result i (cmd :: cmds) = pt :: rest ∧ macLen + pt.length ≤ mesgSize ∧ result i ≠ .refused ∧
        (cmds = [] → rest = []) := by
  rw [sendCommands, made]
  dsimp only
  by_cases large : macLen + pt.length > mesgSize
  · rw [if_pos large]
    exact .inl ⟨rfl, .inl large⟩
  · rw [if_neg large]
    cases ended : result i with
    | refused => exact .inl ⟨rfl, .inr rfl⟩
    | writeFailed => exact .inr ⟨[], rfl, by omega, nofun, fun _ => rfl⟩
    | written => exact .inr ⟨_, rfl, by omega, nofun, fun none => by rw [none]; rfl⟩

theorem error_reply_uniform (errorCode : UInt8) :
    ∀ bytes ∈ sendCommands g mesgSize result 0 [errorReply errorCode], bytes.length = (mixnetLengths g).serverToClient := by
  obtain ⟨pt, made, length⟩ := consensus2_length g (errorReply errorCode)
  intro bytes member
  obtain ⟨none, _⟩ | ⟨rest, sent, _, _, last⟩ := first_sent g mesgSize result 0 (errorReply errorCode) [] pt made
  · rw [none] at member
    cases member
  · rw [sent, last rfl] at member
    rw [List.mem_singleton.mp member]
    exact length.trans (Nat.max_eq_left (consensus2_room g))

omit g mesgSize result in
theorem first_piece (size : Nat) (whole first : Bytes) (rest : List Bytes) (pieces : PiecesOf size whole (first :: rest)) :
    first.length = min whole.length size ∧ (whole.length < size → rest = []) := by
  have joined := congrArg List.length pieces.joined
  rw [List.flatten_cons, List.length_append] at joined
  cases rest with
  | nil =>
      have bounded := pieces.bounded first List.mem_cons_self
      rw [List.flatten_nil, List.length_nil] at joined
      exact ⟨by omega, fun _ => rfl⟩
  | cons second others =>
      have full := pieces.full first List.mem_cons_self
      exact ⟨by omega, fun short => by omega⟩

end Sent

/-- Whatever a document is answered with has the size of the other commands, unless the header of
Consensus2 does not fit in beside the compressed document. -/
theorem consensus_download_uniform_iff (gzip : Gzip) (laws : GzipLaws gzip) (g : Geometry)
    (mesgSize : Nat) (result : Nat → SendResult) :
    (∀ raw, raw = .noDocument ∨ raw = .notCached → ∃ sent, onGetConsensus2 g mesgSize result gzip raw = .returns sent ∧
      ∀ bytes ∈ sent, bytes.length = (mixnetLengths g).serverToClient) ∧
    (∀ rawDoc, ∃ sent, onGetConsensus2 g mesgSize result gzip (.document rawDoc) = .returns sent ∧
      ((∀ bytes ∈ sent, bytes.length = (mixnetLengths g).serverToClient) ↔
        sent = [] ∨ consensus2Overhead + (gzip.compress rawDoc).length ≤ (mixnetLengths g).serverToClient) ∧
      (sent = [] ↔ result 0 = .refused ∨
        mesgSize < macLen + max (mixnetLengths g).serverToClient
          (consensus2Overhead + min (gzip.compress rawDoc).length (mixnetLengths g).serverToClient))) := by
  refine ⟨?_, fun rawDoc => ?_⟩
  · rintro raw (rfl | rfl)
    · exact ⟨_, rfl, error_reply_uniform g mesgSize result consensusGone⟩
    · exact ⟨_, rfl, error_reply_uniform g mesgSize result consensusNotFound⟩
  · have positive : 0 < (mixnetLengths g).serverToClient := Nat.lt_of_lt_of_le (by decide) (consensus2_room g)
    obtain ⟨pieces, chunked, some, whole⟩ := chunk_pieces gzip laws rawDoc _ positive
    obtain ⟨first, rest, rfl⟩ := List.exists_cons_of_ne_nil some
    obtain ⟨firstLength, single⟩ := first_piece _ _ _ _ whole
    have overhead : consensus2Overhead = 15 := rfl
    let cmd : Consensus2 := ⟨consensusOk, UInt32.ofNat 0, UInt32.ofNat (first :: rest).length, first⟩
    obtain ⟨pt, made, length⟩ := consensus2_length g cmd
    rw [show cmd.payload = first from rfl, firstLength] at length
    refine ⟨_, by rw [onGetConsensus2, chunked, returns_bind], ?_⟩
    rw [chunkCommands]
    obtain ⟨none, why⟩ | ⟨others, sent, fits, accepted, last⟩ := first_sent g mesgSize result 0 cmd
      (chunkCommands (first :: rest).length (0 + 1) rest) pt made
    · rw [none]
      refine ⟨⟨fun _ => .inl rfl, fun _ bytes member => absurd member List.not_mem_nil⟩, fun _ => ?_, fun _ => rfl⟩
      rw [← length]
      exact why.symm
    · rw [sent]
      refine ⟨⟨fun uniform => .inr ?_, ?_⟩, fun none => absurd none (List.cons_ne_nil _ _), ?_⟩
      · have same := uniform pt List.mem_cons_self
        omega
      · rintro (none | short)
        · cases none
        · have alone : others = [] := last (by rw [single (by omega)]; rfl)
          intro bytes member
          rw [alone, List.mem_singleton] at member
          rw [member]
          omega
      · rintro (refused | large)
        · exact absurd refused accepted
        · rw [← length] at large
          omega

theorem short_document_uniform :
    ∃ sent, onGetConsensus2 (surbGeometry (.nike 32) 0 1) wireMaxMessageSize (fun _ => .written) markGzip
        (.document [7]) = .returns sent ∧
      sent ≠ [] ∧ ∀ bytes ∈ sent, bytes.length = (mixnetLengths (surbGeometry (.nike 32) 0 1)).serverToClient := by
  obtain ⟨sent, returned, uniform, empty⟩ := (consensus_download_uniform_iff markGzip mark_gzip_laws (surbGeometry (.nike 32) 0 1)
    wireMaxMessageSize fun _ => .written).2 [7]
  exact ⟨sent, returned, fun none => absurd (empty.mp none) (by decide +kernel), uniform.mpr (.inr (by decide +kernel))⟩

/-- A document in two chunks: the first one is as long as the padded commands without its header,
and only the second one is padded. -/
theorem full_chunk_longer :
    (mixnetLengths (surbGeometry (.nike 32) 0 1)).serverToClient = 453 ∧
    (onGetConsensus2 (surbGeometry (.nike 32) 0 1) wireMaxMessageSize (fun _ => .written) markGzip
      (.document (List.replicate 300 7)) >>= fun sent => .returns (sent.map List.length)) = .returns [468, 453] := by
  decide +kernel

end Katzenpost
