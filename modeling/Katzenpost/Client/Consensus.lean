import Katzenpost.Client.GatewayConn
import Katzenpost.Client.PkiDocs
import Katzenpost.Core.Chunking

set_option autoImplicit false

namespace Katzenpost

open Go

structure Consensus2 where
  errorCode : UInt8
  chunkNum : UInt32
  chunkTotal : UInt32
  payload : Bytes
deriving DecidableEq

inductive ConsensusConnError where
  | spuriousConsensus
  | dechunkerError
  | emptyConsensus
  | sendFailed
deriving DecidableEq

-- The reader that Consume makes. The error of its io.Copy is dropped: what has been
-- copied by then is the output.
def Gzip.gunzip (gzip : Gzip) (b : Bytes) : Option Bytes := (gzip.newReader b).map Inflated.output

def Gzip.config (gzip : Gzip) : ConnConfig := ⟨true, gzip.gunzip⟩

inductive ChunkHandled where
  | goesOn (l : WireLoop)
  | replies (caller : Nat) (reply : Consensus2) (l : WireLoop)
  | leaves (wireErr : ConsensusConnError)

def Dechunker.takeOver (d : Dechunker) (cmd : Consensus2) : Dechunker :=
  if d.chunkNum = 0 then { d with chunkNum := cmd.chunkNum.toNat, chunkTotal := cmd.chunkTotal.toNat } else d

def WireLoop.onConsensus2 (gzip : Gzip) (l : WireLoop) (cmd : Consensus2) : ChunkHandled :=
  match l.consensusCtx with
  | none => .leaves .spuriousConsensus
  | some caller =>
      if cmd.errorCode ≠ consensusOk then .replies caller cmd l.answered
      else
        match (l.dechunker.takeOver cmd).consume gzip.config cmd.payload cmd.chunkNum.toNat cmd.chunkTotal.toNat with
        | none => .leaves .dechunkerError
        | some d =>
            if cmd.chunkNum.toNat + 1 = d.chunkTotal then
              if d.output = [] then .leaves .emptyConsensus else .replies caller { cmd with payload := d.output } l.answered
            else .goesOn { l with dechunker := d }

def ChunkHandled.handled : ChunkHandled → CommandHandled
  | .goesOn l => .goesOn l
  | .replies caller _ l => .replies caller l
  | .leaves _ => .leaves

/-- The handling without its data is that of the loop with all of its commands. -/
theorem on_consensus2_handled (gzip : Gzip) (l : WireLoop) (cmd : Consensus2) :
    (l.onConsensus2 gzip cmd).handled =
      l.consensus2 gzip.config cmd.errorCode cmd.chunkNum.toNat cmd.chunkTotal.toNat cmd.payload := by
  unfold WireLoop.onConsensus2 WireLoop.consensus2
  cases l.consensusCtx with
  | none => rfl
  | some caller =>
      dsimp only
      rw [consensusOk, Dechunker.takeOver]
      by_cases failed : cmd.errorCode ≠ 0
      · rw [if_pos failed, if_pos failed]
        rfl
      · rw [if_neg failed, if_neg failed]
        generalize Dechunker.consume _ _ _ _ _ = consumed
        cases consumed with
        | none => rfl
        | some d =>
            dsimp only
            by_cases last : cmd.chunkNum.toNat + 1 = d.chunkTotal
            · rw [if_pos last, if_pos last]
              by_cases empty : d.output = []
              · rw [if_pos empty, if_pos empty]
                rfl
              · rw [if_neg empty, if_neg empty]
                rfl
            · rw [if_neg last, if_neg last]
              rfl

structure ConsensusConn where
  loop : WireLoop
  replies : List (Nat × Consensus2)
  consumed : List Consensus2
  wireErr : Option ConsensusConnError
deriving DecidableEq

def openConn : ConsensusConn := ⟨newWireLoop, [], [], none⟩

inductive ConsensusEvent where
  | getConsensus (caller : Nat) (sent : Bool)
  | consensus2 (cmd : Consensus2)
deriving DecidableEq

def ConsensusConn.getConsensus (s : ConsensusConn) (caller : Nat) (sent : Bool) : ConsensusConn :=
  match s.loop.consensusCtx with
  | some _ => s
  | none => { s with loop := { s.loop with consensusCtx := some caller }, wireErr := if sent then none else some .sendFailed }

def ConsensusConn.handle (s : ConsensusConn) (cmd : Consensus2) : ChunkHandled → ConsensusConn
  | .goesOn l => { s with loop := l, consumed := s.consumed ++ [cmd] }
  | .replies caller reply l => { s with loop := l, replies := s.replies ++ [(caller, reply)], consumed := [] }
  | .leaves wireErr => { s with wireErr := some wireErr }

def ConsensusConn.step (gzip : Gzip) (s : ConsensusConn) (event : ConsensusEvent) : Option ConsensusConn :=
  if s.wireErr.isSome then none
  else match event with
    | .getConsensus caller sent => some (s.getConsensus caller sent)
    | .consensus2 cmd => some (s.handle cmd (s.loop.onConsensus2 gzip cmd))

theorem step_open (gzip : Gzip) (s : ConsensusConn) (cmd : Consensus2) (up : s.wireErr = none) :
    s.step gzip (.consensus2 cmd) = some (s.handle cmd (s.loop.onConsensus2 gzip cmd)) := by
  rw [ConsensusConn.step, if_neg (by simp [up])]

section Handling

variable (gzip : Gzip) (l : WireLoop) (caller : Nat) (cmd : Consensus2)

def Dechunker.Agrees (d : Dechunker) (total : Nat) : Prop := d.chunkNum ≠ 0 → total = d.chunkTotal

theorem take_over_total (d : Dechunker) (agrees : d.Agrees cmd.chunkTotal.toNat) :
    (d.takeOver cmd).chunkTotal = cmd.chunkTotal.toNat := by
  unfold Dechunker.takeOver
  by_cases first : d.chunkNum = 0
  · rw [if_pos first]
  · rw [if_neg first]
    exact (agrees first).symm

theorem take_over_chunks (d : Dechunker) : (d.takeOver cmd).chunks = d.chunks := by
  unfold Dechunker.takeOver
  by_cases first : d.chunkNum = 0
  · rw [if_pos first]
  · rw [if_neg first]

theorem on_chunk (ctx : l.consensusCtx = some caller) (ok : cmd.errorCode = consensusOk)
    (agrees : l.dechunker.Agrees cmd.chunkTotal.toNat) :
    l.onConsensus2 gzip cmd =
      if cmd.chunkNum.toNat + 1 = cmd.chunkTotal.toNat then
        match gzip.newReader (l.dechunker.chunks ++ cmd.payload) with
        | none => .leaves .dechunkerError
        | some read =>
            if read.output = [] then .leaves .emptyConsensus
            else .replies caller { cmd with payload := read.output } l.answered
      else .goesOn { l with dechunker := { l.dechunker.takeOver cmd with chunks := l.dechunker.chunks ++ cmd.payload } } := by
  have total := take_over_total cmd l.dechunker agrees
  have chunks := take_over_chunks cmd l.dechunker
  simp only [WireLoop.onConsensus2, ctx, ok, ne_eq, not_true, if_false, Dechunker.consume, total, chunks]
  by_cases last : cmd.chunkNum.toNat + 1 = cmd.chunkTotal.toNat
  · rw [if_pos last, if_pos last]
    cases read : gzip.newReader (l.dechunker.chunks ++ cmd.payload) with
    | none => simp [Gzip.config, Gzip.gunzip, read]
    | some inflated => simp [Gzip.config, Gzip.gunzip, read, last]
  · rw [if_neg last, if_neg last]
    simp [last]

theorem on_disagreeing_chunk (ctx : l.consensusCtx = some caller) (ok : cmd.errorCode = consensusOk)
    (disagrees : ¬ l.dechunker.Agrees cmd.chunkTotal.toNat) : l.onConsensus2 gzip cmd = .leaves .dechunkerError := by
  obtain ⟨later, wrong⟩ := Classical.not_imp.mp disagrees
  have same : l.dechunker.takeOver cmd = l.dechunker := if_neg later
  simp only [WireLoop.onConsensus2, ctx, ok, ne_eq, not_true, if_false, same, Dechunker.consume, if_pos (And.intro later wrong)]

theorem take_over_agrees (d : Dechunker) (chunks : Bytes) (agrees : d.Agrees cmd.chunkTotal.toNat) :
    ({ d.takeOver cmd with chunks := chunks } : Dechunker).Agrees cmd.chunkTotal.toNat :=
  fun _ => (take_over_total cmd d agrees).symm

end Handling

def chunkCommands (total : Nat) : Nat → List Bytes → List Consensus2
  | _, [] => []
  | i, chunk :: chunks => ⟨consensusOk, UInt32.ofNat i, UInt32.ofNat total, chunk⟩ :: chunkCommands total (i + 1) chunks

theorem chunk_commands_append (total i : Nat) (before after : List Bytes) :
    chunkCommands total i (before ++ after) = chunkCommands total i before ++ chunkCommands total (i + before.length) after := by
  induction before generalizing i with
  | nil => rfl
  | cons chunk chunks ih =>
      have number : i + 1 + chunks.length = i + (chunk :: chunks).length := by
        rw [List.length_cons]
        omega
      rw [List.cons_append, chunkCommands, ih (i + 1), chunkCommands, List.cons_append, number]

section Transfer

variable (gzip : Gzip) (total : Nat) (small : total < 2 ^ 32)

include small in
theorem chunk_number (i : Nat) (inside : i ≤ total) : (UInt32.ofNat i).toNat = i :=
  UInt32.toNat_ofNat_of_lt' (by rw [UInt32.size]; omega)

def ConsensusConn.collecting (s : ConsensusConn) (caller : Nat) (d : Dechunker) (consumed : List Consensus2) : ConsensusConn :=
  ⟨{ s.loop with consensusCtx := some caller, dechunker := d }, s.replies, consumed, none⟩

include small in
theorem chunks_collected (s : ConsensusConn) (caller i : Nat) (chunks : List Bytes) (more : i + chunks.length < total) (d : Dechunker)
    (consumed : List Consensus2) (agrees : d.Agrees total) :
    ∃ d' : Dechunker, d'.Agrees total ∧ d'.chunks = d.chunks ++ chunks.flatten ∧
      run (ConsensusConn.step gzip) (s.collecting caller d consumed) ((chunkCommands total i chunks).map .consensus2) =
        some (s.collecting caller d' (consumed ++ chunkCommands total i chunks)) := by
  induction chunks generalizing i d consumed with
  | nil => exact ⟨d, agrees, by simp, by simp [run, chunkCommands]⟩
  | cons chunk chunks ih =>
      rw [List.length_cons] at more
      let cmd : Consensus2 := ⟨consensusOk, UInt32.ofNat i, UInt32.ofNat total, chunk⟩
      have number : cmd.chunkNum.toNat = i := chunk_number total small i (by omega)
      have same : cmd.chunkTotal.toNat = total := chunk_number total small total (le_refl _)
      have agreesNow : d.Agrees cmd.chunkTotal.toNat := by
        rw [same]
        exact agrees
      have handled := on_chunk gzip (s.collecting caller d consumed).loop caller cmd rfl rfl agreesNow
      rw [if_neg (by omega)] at handled
      have kept := take_over_agrees cmd d (d.chunks ++ chunk) agreesNow
      rw [same] at kept
      obtain ⟨final, finalAgrees, collected, ran⟩ := ih (i + 1) (by omega) _ (consumed ++ [cmd]) kept
      refine ⟨final, finalAgrees, ?_, ?_⟩
      · rw [collected, List.flatten_cons, ← List.append_assoc]
      · rw [chunkCommands, List.map_cons, run, step_open gzip _ cmd rfl, handled]
        refine ran.trans ?_
        rw [List.append_assoc, List.singleton_append]

end Transfer

structure ConnReady (s : ConsensusConn) : Prop where
  idle : s.loop.consensusCtx = none
  fresh : s.loop.dechunker = newDechunker
  reset : s.consumed = []
  up : s.wireErr = none

theorem open_ready : ConnReady openConn := ⟨rfl, rfl, rfl, rfl⟩

structure Transfer (gzip : Gzip) where
  caller : Nat
  blob : Bytes
  chunkSize : Nat
  pieces : List Bytes
  positive : 0 < chunkSize
  chunked : chunk gzip blob chunkSize = .returns pieces
  numbered : pieces.length < 2 ^ 32

section Transfers

variable {gzip : Gzip} (laws : GzipLaws gzip)

def Transfer.upTo (t : Transfer gzip) (sent : List Bytes) : List ConsensusEvent :=
  .getConsensus t.caller true :: (chunkCommands t.pieces.length 0 sent).map .consensus2

def Transfer.events (t : Transfer gzip) : List ConsensusEvent := t.upTo t.pieces

def Transfer.reply (t : Transfer gzip) : Nat × Consensus2 :=
  (t.caller, ⟨consensusOk, UInt32.ofNat (t.pieces.length - 1), UInt32.ofNat t.pieces.length, t.blob⟩)

variable (s : ConsensusConn) (ready : ConnReady s) (t : Transfer gzip)

include ready in
theorem request_sent : s.step gzip (.getConsensus t.caller true) = some (s.collecting t.caller newDechunker []) := by
  rw [ConsensusConn.step, if_neg (by simp [ready.up]), ConsensusConn.getConsensus, ready.idle]
  simp only [if_true, ConsensusConn.collecting, ready.fresh, ready.reset]

omit t in
include ready in
theorem answered_ready (caller : Nat) (d : Dechunker) (consumed : List Consensus2) (reply : Nat × Consensus2) :
    { s.collecting caller d consumed with
      loop := (s.collecting caller d consumed).loop.answered, replies := s.replies ++ [reply], consumed := [] } =
      { s with replies := s.replies ++ [reply] } := by
  obtain ⟨⟨ctx, dechunker, seq, nrReqs, nrResps⟩, replies, old, wireErr⟩ := s
  obtain ⟨idle, fresh, reset, up⟩ := ready
  dsimp only at idle fresh reset up
  subst idle fresh reset up
  rfl

include ready in
theorem before_last (before after : List Bytes) (split : t.pieces = before ++ after) (more : after ≠ []) :
    ∃ d : Dechunker, d.Agrees t.pieces.length ∧ d.chunks = before.flatten ∧
      run (ConsensusConn.step gzip) s (t.upTo before) =
        some (s.collecting t.caller d (chunkCommands t.pieces.length 0 before)) := by
  have shorter : 0 + before.length < t.pieces.length := by
    have rest := List.length_pos_iff.mpr more
    rw [split, List.length_append]
    omega
  obtain ⟨d, agrees, collected, ran⟩ := chunks_collected gzip t.pieces.length t.numbered s t.caller 0 before shorter newDechunker []
    fun some => absurd rfl some
  refine ⟨d, agrees, collected, ?_⟩
  rw [Transfer.upTo, run, request_sent s ready t]
  exact ran

include laws in
theorem transfer_pieces : t.pieces ≠ [] ∧ PiecesOf t.chunkSize (gzip.compress t.blob) t.pieces := by
  obtain ⟨pieces, chunked, some, whole⟩ := chunk_pieces gzip laws t.blob t.chunkSize t.positive
  obtain rfl := returns_inj _ _ (chunked.symm.trans t.chunked)
  exact ⟨some, whole⟩

include laws ready in
theorem last_chunk (before : List Bytes) (last : Bytes) (split : t.pieces = before ++ [last]) :
    ∃ d : Dechunker, run (ConsensusConn.step gzip) s t.events =
      some (if t.blob = [] then
          { s.collecting t.caller d (chunkCommands t.pieces.length 0 before) with wireErr := some .emptyConsensus }
        else { s with replies := s.replies ++ [t.reply] }) := by
  obtain ⟨d, agrees, collected, ran⟩ := before_last s ready t before [last] split (List.cons_ne_nil _ _)
  obtain ⟨_, whole⟩ := transfer_pieces laws t
  have count : t.pieces.length = before.length + 1 := by rw [split, List.length_append, List.length_singleton]
  have bytes : d.chunks ++ last = gzip.compress t.blob := by
    rw [collected, ← whole.joined, split, List.flatten_append, List.flatten_singleton]
  obtain ⟨unread, inflated⟩ := laws.inflate_compress t.blob
  let cmd : Consensus2 := ⟨consensusOk, UInt32.ofNat before.length, UInt32.ofNat t.pieces.length, last⟩
  have number : cmd.chunkNum.toNat = before.length := chunk_number _ t.numbered _ (by omega)
  have total : cmd.chunkTotal.toNat = t.pieces.length := chunk_number _ t.numbered _ (le_refl _)
  have commands : t.events = t.upTo before ++ [.consensus2 cmd] := by
    have same := congrArg (chunkCommands t.pieces.length 0) split
    rw [chunk_commands_append, Nat.zero_add] at same
    rw [Transfer.events, Transfer.upTo, Transfer.upTo, same, List.map_append, List.cons_append]
    rfl
  have handled := on_chunk gzip (s.collecting t.caller d (chunkCommands t.pieces.length 0 before)).loop t.caller cmd rfl rfl
    (by rw [total]; exact agrees)
  rw [if_pos (by omega), show (s.collecting t.caller d _).loop.dechunker.chunks ++ cmd.payload = _ from bytes, inflated] at handled
  refine ⟨d, ?_⟩
  rw [commands, run_append _ _ _ _ _ ran, run, step_open gzip _ cmd rfl, handled]
  dsimp only
  by_cases empty : t.blob = []
  · rw [if_pos empty, if_pos empty]
    rfl
  · rw [if_neg empty, if_neg empty]
    have reply : t.reply = (t.caller, { cmd with payload := t.blob }) := by
      rw [Transfer.reply, count, Nat.add_sub_cancel, ← count]
    rw [reply]
    exact congrArg some (answered_ready s ready t.caller d _ _)

include laws in
theorem pieces_last : ∃ before last, t.pieces = before ++ [last] := by
  obtain ⟨some, _⟩ := transfer_pieces laws t
  exact ⟨t.pieces.dropLast, t.pieces.getLast some, (List.dropLast_append_getLast some).symm⟩

include laws ready in
theorem transfers_delivered (ts : List (Transfer gzip)) (full : ∀ t ∈ ts, t.blob ≠ []) :
    run (ConsensusConn.step gzip) s (ts.flatMap Transfer.events) = some { s with replies := s.replies ++ ts.map Transfer.reply } := by
  induction ts generalizing s with
  | nil => simp [run]
  | cons t ts ih =>
      obtain ⟨before, last, split⟩ := pieces_last laws t
      obtain ⟨d, first⟩ := last_chunk laws s ready t before last split
      rw [if_neg (full t List.mem_cons_self)] at first
      have onwards := ih { s with replies := s.replies ++ [t.reply] } ⟨ready.idle, ready.fresh, ready.reset, ready.up⟩
        fun other later => full other (List.mem_cons_of_mem t later)
      rw [List.flatMap_cons, run_append _ _ _ _ _ first, onwards]
      dsimp only
      rw [List.append_assoc, List.singleton_append, List.map_cons]

end Transfers

/-- The chunks of a blob make up its compression, and transfers one after the other deliver every
blob that is not empty once, with the last of its chunks. -/
theorem chunked_consensus_round_trip (gzip : Gzip) (laws : GzipLaws gzip) :
    (∀ blob chunkSize, 0 < chunkSize → ∃ pieces, chunk gzip blob chunkSize = .returns pieces ∧ pieces ≠ [] ∧
      PiecesOf chunkSize (gzip.compress blob) pieces) ∧
    (∀ s, ConnReady s → ∀ ts : List (Transfer gzip), (∀ t ∈ ts, t.blob ≠ []) →
      run (ConsensusConn.step gzip) s (ts.flatMap Transfer.events) = some { s with replies := s.replies ++ ts.map Transfer.reply }) ∧
    (∀ s, ConnReady s → ∀ (t : Transfer gzip) before after, t.pieces = before ++ after → after ≠ [] →
      ∃ mid, run (ConsensusConn.step gzip) s (t.upTo before) = some mid ∧ mid.replies = s.replies ∧ mid.wireErr = none) ∧
    (∀ s, ConnReady s → ∀ t : Transfer gzip, t.blob = [] →
      ∃ final, run (ConsensusConn.step gzip) s t.events = some final ∧ final.replies = s.replies ∧
        final.wireErr = some .emptyConsensus) := by
  refine ⟨chunk_pieces gzip laws, transfers_delivered laws, fun s ready t before after split more => ?_, fun s ready t empty => ?_⟩
  · obtain ⟨d, _, _, ran⟩ := before_last s ready t before after split more
    exact ⟨_, ran, rfl, rfl⟩
  · obtain ⟨before, last, split⟩ := pieces_last laws t
    obtain ⟨d, ran⟩ := last_chunk laws s ready t before last split
    rw [if_pos empty] at ran
    exact ⟨_, ran, rfl, rfl⟩

def markBytes : Bytes → Bytes
  | [] => [0]
  | byte :: rest => 1 :: byte :: markBytes rest

def unmarkBytes : Bytes → Inflated
  | [] => ⟨[], false, []⟩
  | [mark] => ⟨[], mark = 0, []⟩
  | mark :: byte :: rest =>
      if mark = 0 then ⟨[], true, byte :: rest⟩
      else
        let read := unmarkBytes rest
        ⟨byte :: read.output, read.complete, read.unread⟩

def markGzip : Gzip where
  compress blob := 31 :: markBytes blob
  newReader b := if b.head? = some 31 then some (unmarkBytes b.tail) else none

theorem unmark_mark (blob : Bytes) : unmarkBytes (markBytes blob) = ⟨blob, true, []⟩ := by
  induction blob with
  | nil => rfl
  | cons byte rest ih => rw [markBytes, unmarkBytes, if_neg (by decide), ih]

theorem mark_gzip_laws : GzipLaws markGzip where
  inflate_compress blob := ⟨[], congrArg some (unmark_mark blob)⟩
  nonempty _ := List.cons_ne_nil _ _

def firstTransfer : Transfer markGzip := ⟨1, [8, 9], 2, [[31, 1], [8, 1], [9, 0]], by decide, by decide, by decide⟩

def secondTransfer : Transfer markGzip := ⟨2, [7], 9, [[31, 1, 7, 0]], by decide, by decide, by decide⟩

theorem two_documents_delivered :
    run (ConsensusConn.step markGzip) openConn ([firstTransfer, secondTransfer].flatMap Transfer.events) =
      some { openConn with replies := [(1, ⟨consensusOk, 2, 3, [8, 9]⟩), (2, ⟨consensusOk, 0, 1, [7]⟩)] } :=
  (chunked_consensus_round_trip markGzip mark_gzip_laws).2.1 openConn open_ready [firstTransfer, secondTransfer] (by decide)

/-- An empty document is taken for the sign of a shutdown, and the client closes the connection.
-/
theorem empty_document_refused :
    ∃ final, chunk markGzip [] 9 = .returns [[31, 0]] ∧
      run (ConsensusConn.step markGzip) openConn [.getConsensus 1 true, .consensus2 ⟨consensusOk, 0, 1, [31, 0]⟩] = some final ∧
      final.replies = [] ∧ final.wireErr = some .emptyConsensus :=
  ⟨_, by decide, rfl, rfl, rfl⟩

end Katzenpost
