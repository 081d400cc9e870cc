import Katzenpost.Client.Consensus

set_option autoImplicit false

namespace Katzenpost

open Go

-- What the dechunker knows of the chunks since it was reset: their bytes, and the total of
-- those whose number is not 0.
structure Assembling (s : ConsensusConn) : Prop where
  joined : s.loop.dechunker.chunks = s.consumed.flatMap Consensus2.payload
  number : s.loop.dechunker.chunkNum ≠ 0 → ∃ chunk ∈ s.consumed, chunk.chunkNum ≠ 0
  total : ∀ chunk ∈ s.consumed, chunk.chunkNum ≠ 0 →
    s.loop.dechunker.chunkNum ≠ 0 ∧ chunk.chunkTotal.toNat = s.loop.dechunker.chunkTotal

theorem reset_assembling (s : ConsensusConn) (fresh : s.loop.dechunker = newDechunker) (reset : s.consumed = []) : Assembling s where
  joined := by rw [fresh, reset]; rfl
  number some := absurd (by rw [fresh]; rfl) some
  total chunk member := by rw [reset] at member; exact nomatch member

def TotalsAgree (consumed : List Consensus2) (cmd : Consensus2) : Prop :=
  ∀ chunk ∈ consumed, chunk.chunkNum ≠ 0 → chunk.chunkTotal = cmd.chunkTotal

theorem agrees_iff (s : ConsensusConn) (assembling : Assembling s) (cmd : Consensus2) :
    s.loop.dechunker.Agrees cmd.chunkTotal.toNat ↔ TotalsAgree s.consumed cmd := by
  constructor
  · intro agrees chunk member nonzero
    obtain ⟨later, same⟩ := assembling.total chunk member nonzero
    exact UInt32.toNat_inj.mp (same.trans (agrees later).symm)
  · intro agree later
    obtain ⟨chunk, member, nonzero⟩ := assembling.number later
    rw [← agree chunk member nonzero]
    exact (assembling.total chunk member nonzero).2

theorem number_zero (cmd : Consensus2) : cmd.chunkNum.toNat ≠ 0 ↔ cmd.chunkNum ≠ 0 :=
  not_congr (UInt32.toNat_inj (b := 0))

theorem collected_assembling (s : ConsensusConn) (assembling : Assembling s) (cmd : Consensus2)
    (agrees : s.loop.dechunker.Agrees cmd.chunkTotal.toNat) :
    Assembling (s.handle cmd (.goesOn { s.loop with dechunker :=
      { s.loop.dechunker.takeOver cmd with chunks := s.loop.dechunker.chunks ++ cmd.payload } })) where
  joined := by
    dsimp only [ConsensusConn.handle]
    rw [assembling.joined, List.flatMap_append, List.flatMap_singleton]
  number := by
    dsimp only [ConsensusConn.handle, Dechunker.takeOver]
    intro later
    by_cases first : s.loop.dechunker.chunkNum = 0
    · rw [if_pos first] at later
      exact ⟨cmd, List.mem_append_right _ List.mem_cons_self, (number_zero cmd).mp later⟩
    · obtain ⟨chunk, member, nonzero⟩ := assembling.number first
      exact ⟨chunk, List.mem_append_left _ member, nonzero⟩
  total := by
    intro chunk member nonzero
    dsimp only [ConsensusConn.handle] at member ⊢
    rw [take_over_total cmd _ agrees]
    obtain before | now := List.mem_append.mp member
    · obtain ⟨later, same⟩ := assembling.total chunk before nonzero
      refine ⟨?_, same.trans (agrees later).symm⟩
      rw [Dechunker.takeOver, if_neg later]
      exact later
    · obtain rfl := List.mem_singleton.mp now
      refine ⟨?_, rfl⟩
      unfold Dechunker.takeOver
      by_cases first : s.loop.dechunker.chunkNum = 0
      · rw [if_pos first]
        exact (number_zero chunk).mpr nonzero
      · rw [if_neg first]
        exact first

theorem step_assembling (gzip : Gzip) (s : ConsensusConn) (event : ConsensusEvent) (next : ConsensusConn) (assembling : Assembling s)
    (stepped : s.step gzip event = some next) : Assembling next := by
  unfold ConsensusConn.step at stepped
  by_cases closed : s.wireErr.isSome
  · rw [if_pos closed] at stepped
    cases stepped
  · rw [if_neg closed] at stepped
    cases event with
    | getConsensus caller sent =>
        obtain rfl := Option.some.inj stepped
        unfold ConsensusConn.getConsensus
        cases s.loop.consensusCtx with
        | some _ => exact assembling
        | none => exact ⟨assembling.joined, assembling.number, assembling.total⟩
    | consensus2 cmd =>
        obtain rfl := Option.some.inj stepped
        have left (wireErr : ConsensusConnError) : Assembling (s.handle cmd (.leaves wireErr)) :=
          ⟨assembling.joined, assembling.number, assembling.total⟩
        have answered (caller : Nat) (reply : Consensus2) : Assembling (s.handle cmd (.replies caller reply s.loop.answered)) :=
          reset_assembling _ rfl rfl
        cases ctx : s.loop.consensusCtx with
        | none =>
            rw [WireLoop.onConsensus2, ctx]
            exact left _
        | some caller =>
            by_cases ok : cmd.errorCode = consensusOk
            · by_cases agrees : s.loop.dechunker.Agrees cmd.chunkTotal.toNat
              · rw [on_chunk gzip s.loop caller cmd ctx ok agrees]
                by_cases last : cmd.chunkNum.toNat + 1 = cmd.chunkTotal.toNat
                · rw [if_pos last]
                  cases gzip.newReader (s.loop.dechunker.chunks ++ cmd.payload) with
                  | none => exact left _
                  | some read =>
                      by_cases empty : read.output = []
                      · simp only [if_pos empty]
                        exact left _
                      · simp only [if_neg empty]
                        exact answered _ _
                · rw [if_neg last]
                  exact collected_assembling s assembling cmd agrees
              · rw [on_disagreeing_chunk gzip s.loop caller cmd ctx ok agrees]
                exact left _
            · rw [WireLoop.onConsensus2, ctx]
              simp only [if_pos ok]
              exact answered _ _

theorem run_assembling (gzip : Gzip) (events : List ConsensusEvent) (s : ConsensusConn)
    (ran : run (ConsensusConn.step gzip) openConn events = some s) : Assembling s :=
  run_preserves _ Assembling (fun _ _ => True)
    (fun state event next assembling _ stepped => step_assembling gzip state event next assembling stepped)
    events openConn s (reset_assembling openConn rfl rfl) (meets_always _ _ (fun _ _ => trivial) _ _) ran

def Delivers (gzip : Gzip) (s : ConsensusConn) (cmd : Consensus2) (caller : Nat) (document : Bytes) : Prop :=
  ∃ next, s.step gzip (.consensus2 cmd) = some next ∧ next.replies = s.replies ++ [(caller, { cmd with payload := document })]

structure Strict (gzip : Gzip) (chunks : List Consensus2) (document : Bytes) : Prop where
  numbers : chunks.map (fun chunk => chunk.chunkNum.toNat) = List.range chunks.length
  totals : ∀ chunk ∈ chunks, chunk.chunkTotal.toNat = chunks.length
  whole : ∃ unread, gzip.newReader (chunks.flatMap Consensus2.payload) = some ⟨document, true, unread⟩

def Errs (gzip : Gzip) (s : ConsensusConn) (cmd : Consensus2) : Prop :=
  ∃ next, s.step gzip (.consensus2 cmd) = some next ∧ next.wireErr ≠ none

structure NextChunk (gzip : Gzip) (s : ConsensusConn) (cmd : Consensus2) : Prop where
  number : cmd.chunkNum.toNat = s.consumed.length
  below : cmd.chunkNum.toNat < cmd.chunkTotal.toNat
  total : ∀ chunk ∈ s.consumed, chunk.chunkTotal = cmd.chunkTotal
  whole : cmd.chunkNum.toNat + 1 = cmd.chunkTotal.toNat →
    ∃ document unread, gzip.newReader ((s.consumed ++ [cmd]).flatMap Consensus2.payload) = some ⟨document, true, unread⟩

-- All that the client notices: no request, a total other than that of an earlier chunk whose
-- number is not 0, and a last chunk after which there is nothing to read.
def Refused (gzip : Gzip) (s : ConsensusConn) (cmd : Consensus2) : Prop :=
  s.loop.consensusCtx = none ∨ ¬TotalsAgree s.consumed cmd ∨
    cmd.chunkNum.toNat + 1 = cmd.chunkTotal.toNat ∧
      ∀ read, gzip.newReader ((s.consumed ++ [cmd]).flatMap Consensus2.payload) = some read → read.output = []

def StrictAt (gzip : Gzip) (s : ConsensusConn) : ConsensusEvent → Prop
  | .getConsensus _ _ => True
  | .consensus2 cmd => s.wireErr = none → cmd.errorCode = consensusOk →
      (∀ caller document, Delivers gzip s cmd caller document → Strict gzip (s.consumed ++ [cmd]) document) ∧
      (¬NextChunk gzip s cmd → Errs gzip s cmd)

def NextOrRefused (gzip : Gzip) (s : ConsensusConn) : ConsensusEvent → Prop
  | .getConsensus _ _ => True
  | .consensus2 cmd => s.wireErr = none → cmd.errorCode = consensusOk → NextChunk gzip s cmd ∨ Refused gzip s cmd

section Delivery

variable (gzip : Gzip) (s : ConsensusConn) (cmd : Consensus2) (caller : Nat) (document : Bytes)

theorem handle_replies (handled : ChunkHandled) (reply : Consensus2) :
    (s.handle cmd handled).replies = s.replies ++ [(caller, reply)] ↔ ∃ l, handled = .replies caller reply l := by
  cases handled with
  | goesOn l => simp [ConsensusConn.handle]
  | leaves wireErr => simp [ConsensusConn.handle]
  | replies other sent l => simp [ConsensusConn.handle]

theorem delivers_replies :
    Delivers gzip s cmd caller document ↔
      s.wireErr = none ∧ ∃ l, s.loop.onConsensus2 gzip cmd = .replies caller { cmd with payload := document } l := by
  unfold Delivers
  cases closed : s.wireErr with
  | some wireErr =>
      have ended : s.step gzip (.consensus2 cmd) = none := by rw [ConsensusConn.step, if_pos (by rw [closed]; rfl)]
      simp [ended]
  | none => simp [step_open gzip s cmd closed, handle_replies]

theorem delivers_iff (assembling : Assembling s) (ok : cmd.errorCode = consensusOk) :
    Delivers gzip s cmd caller document ↔
      s.wireErr = none ∧ s.loop.consensusCtx = some caller ∧ TotalsAgree s.consumed cmd ∧
        cmd.chunkNum.toNat + 1 = cmd.chunkTotal.toNat ∧ document ≠ [] ∧
        ∃ read, gzip.newReader ((s.consumed ++ [cmd]).flatMap Consensus2.payload) = some read ∧ read.output = document := by
  have bytes : s.loop.dechunker.chunks ++ cmd.payload = (s.consumed ++ [cmd]).flatMap Consensus2.payload := by
    rw [assembling.joined, List.flatMap_append, List.flatMap_singleton]
  rw [delivers_replies, ← agrees_iff s assembling cmd, ← bytes]
  refine and_congr_right fun _ => ?_
  cases ctx : s.loop.consensusCtx with
  | none => simp [WireLoop.onConsensus2, ctx]
  | some other =>
      by_cases agrees : s.loop.dechunker.Agrees cmd.chunkTotal.toNat
      · rw [on_chunk gzip s.loop other cmd ctx ok agrees]
        by_cases last : cmd.chunkNum.toNat + 1 = cmd.chunkTotal.toNat
        · rw [if_pos last]
          cases read : gzip.newReader (s.loop.dechunker.chunks ++ cmd.payload) with
          | none => simp
          | some inflated =>
              by_cases empty : inflated.output = []
              · simp [empty, eq_comm]
              · constructor
                · rintro ⟨l, sent⟩
                  simp only [if_neg empty] at sent
                  obtain ⟨rfl, same, _⟩ := ChunkHandled.replies.inj sent
                  obtain rfl := congrArg Consensus2.payload same
                  exact ⟨rfl, agrees, last, empty, inflated, rfl, rfl⟩
                · rintro ⟨same, _, _, _, other, found, rfl⟩
                  obtain rfl := Option.some.inj same
                  obtain rfl := Option.some.inj found
                  exact ⟨s.loop.answered, if_neg empty⟩
        · simp [last]
      · simp [on_disagreeing_chunk gzip s.loop other cmd ctx ok agrees, agrees]

theorem errs_iff (assembling : Assembling s) (up : s.wireErr = none) (ok : cmd.errorCode = consensusOk) :
    Errs gzip s cmd ↔ Refused gzip s cmd := by
  have bytes : s.loop.dechunker.chunks ++ cmd.payload = (s.consumed ++ [cmd]).flatMap Consensus2.payload := by
    rw [assembling.joined, List.flatMap_append, List.flatMap_singleton]
  have leaves : Errs gzip s cmd ↔ ∃ wireErr, s.loop.onConsensus2 gzip cmd = .leaves wireErr := by
    rw [Errs, step_open gzip s cmd up]
    cases s.loop.onConsensus2 gzip cmd <;> simp [ConsensusConn.handle, up]
  rw [leaves, Refused, ← agrees_iff s assembling cmd, ← bytes]
  cases ctx : s.loop.consensusCtx with
  | none => simp [WireLoop.onConsensus2, ctx]
  | some caller =>
      by_cases agrees : s.loop.dechunker.Agrees cmd.chunkTotal.toNat
      · rw [on_chunk gzip s.loop caller cmd ctx ok agrees]
        by_cases last : cmd.chunkNum.toNat + 1 = cmd.chunkTotal.toNat
        · rw [if_pos last]
          cases gzip.newReader (s.loop.dechunker.chunks ++ cmd.payload) with
          | none => simp [last]
          | some read => by_cases empty : read.output = [] <;> simp [empty, agrees, last]
        · simp [last, agrees]
      · simp [on_disagreeing_chunk gzip s.loop caller cmd ctx ok agrees, agrees]

end Delivery

def Numbered (chunks : List Consensus2) : Prop := chunks.map (fun chunk => chunk.chunkNum.toNat) = List.range chunks.length

section Order

variable {gzip : Gzip} {s next : ConsensusConn}

theorem next_chunk_numbered (cmd : Consensus2) (numbered : Numbered s.consumed) (place : NextChunk gzip s cmd) :
    Numbered (s.consumed ++ [cmd]) := by
  rw [Numbered, List.map_append, numbered, List.length_append, List.length_singleton, List.range_succ, List.map_singleton, place.number]

theorem next_chunk_strict (cmd : Consensus2) (caller : Nat) (document : Bytes) (assembling : Assembling s) (numbered : Numbered s.consumed)
    (ok : cmd.errorCode = consensusOk) (place : NextChunk gzip s cmd) (delivered : Delivers gzip s cmd caller document) :
    Strict gzip (s.consumed ++ [cmd]) document := by
  obtain ⟨_, _, _, last, _, read, found, rfl⟩ := (delivers_iff gzip s cmd caller document assembling ok).mp delivered
  obtain ⟨document, unread, whole⟩ := place.whole last
  obtain rfl := Option.some.inj (found.symm.trans whole)
  refine ⟨next_chunk_numbered cmd numbered place, fun chunk member => ?_, unread, whole⟩
  have length : cmd.chunkTotal.toNat = (s.consumed ++ [cmd]).length := by
    rw [← last, place.number, List.length_append, List.length_singleton]
  obtain before | now := List.mem_append.mp member
  · rw [place.total chunk before, length]
  · rw [List.mem_singleton.mp now, length]

theorem consumed_step (event : ConsensusEvent) (stepped : s.step gzip event = some next) :
    next.consumed = s.consumed ∨ next.consumed = [] ∨
      ∃ cmd, event = .consensus2 cmd ∧ s.wireErr = none ∧ cmd.errorCode = consensusOk ∧ ¬Errs gzip s cmd ∧
        next.consumed = s.consumed ++ [cmd] := by
  cases up : s.wireErr with
  | some wireErr =>
      unfold ConsensusConn.step at stepped
      rw [if_pos (by rw [up]; rfl)] at stepped
      cases stepped
  | none =>
      cases event with
      | getConsensus caller sent =>
          rw [ConsensusConn.step, if_neg (by simp [up])] at stepped
          obtain rfl := Option.some.inj stepped
          unfold ConsensusConn.getConsensus
          cases s.loop.consensusCtx <;> exact .inl rfl
      | consensus2 cmd =>
          have taken := stepped
          rw [step_open gzip s cmd up] at stepped
          obtain rfl := Option.some.inj stepped
          cases handled : s.loop.onConsensus2 gzip cmd with
          | leaves wireErr => exact .inl rfl
          | replies caller reply l => exact .inr (.inl rfl)
          | goesOn l =>
              refine .inr (.inr ⟨cmd, rfl, rfl, ?_, ?_, rfl⟩)
              · by_contra failed
                cases ctx : s.loop.consensusCtx <;> simp [WireLoop.onConsensus2, ctx, failed] at handled
              · rintro ⟨after, reached, erred⟩
                rw [taken, handled] at reached
                obtain rfl := Option.some.inj reached
                exact erred up

theorem numbered_step (event : ConsensusEvent) (assembling : Assembling s) (numbered : Numbered s.consumed)
    (allowed : NextOrRefused gzip s event) (stepped : s.step gzip event = some next) : Numbered next.consumed := by
  obtain same | reset | ⟨cmd, rfl, up, ok, kept, extended⟩ := consumed_step event stepped
  · rwa [same]
  · rw [reset]
    rfl
  · rw [extended]
    obtain place | refused := allowed up ok
    · exact next_chunk_numbered cmd numbered place
    · exact absurd ((errs_iff gzip s cmd assembling up ok).mpr refused) kept

theorem strict_at_of (event : ConsensusEvent) (assembling : Assembling s) (numbered : Numbered s.consumed)
    (allowed : NextOrRefused gzip s event) : StrictAt gzip s event := by
  cases event with
  | getConsensus caller sent => trivial
  | consensus2 cmd =>
      intro up ok
      have errs := errs_iff gzip s cmd assembling up ok
      refine ⟨fun caller document delivered => ?_, fun misplaced => errs.mpr ((allowed up ok).resolve_left misplaced)⟩
      obtain place | refused := allowed up ok
      · exact next_chunk_strict cmd caller document assembling numbered ok place delivered
      · obtain ⟨_, ctx, agree, last, some, read, found, rfl⟩ := (delivers_iff gzip s cmd caller document assembling ok).mp delivered
        obtain none | disagree | ⟨_, empty⟩ := refused
        · cases ctx.symm.trans none
        · exact absurd agree disagree
        · exact absurd (empty read found) some

theorem allowed_of_strict (event : ConsensusEvent) (assembling : Assembling s) (strict : StrictAt gzip s event) :
    NextOrRefused gzip s event := by
  cases event with
  | getConsensus caller sent => trivial
  | consensus2 cmd =>
      intro up ok
      by_cases place : NextChunk gzip s cmd
      · exact .inl place
      · exact .inr ((errs_iff gzip s cmd assembling up ok).mp ((strict up ok).2 place))

end Order

/-- A document is delivered on the number and the total of the chunk alone. The reassembly is
strict in just the runs in which every chunk is the next one or is among the few that the client
refuses. -/
theorem consensus_delivery_strict_iff (gzip : Gzip) (events : List ConsensusEvent) :
    (∀ s, run (ConsensusConn.step gzip) openConn events = some s → ∀ cmd, cmd.errorCode = consensusOk → ∀ caller document,
      (Delivers gzip s cmd caller document ↔
        s.wireErr = none ∧ s.loop.consensusCtx = some caller ∧ TotalsAgree s.consumed cmd ∧
          cmd.chunkNum.toNat + 1 = cmd.chunkTotal.toNat ∧ document ≠ [] ∧
          ∃ read, gzip.newReader ((s.consumed ++ [cmd]).flatMap Consensus2.payload) = some read ∧ read.output = document)) ∧
    (Meets (ConsensusConn.step gzip) (StrictAt gzip) openConn events ↔
      Meets (ConsensusConn.step gzip) (NextOrRefused gzip) openConn events) := by
  have started := reset_assembling openConn rfl rfl
  refine ⟨fun s ran cmd ok caller document => delivers_iff gzip s cmd caller document (run_assembling gzip events s ran) ok, ?_, ?_⟩
  · exact meets_implied _ Assembling _ _ (fun s event next assembling _ => step_assembling gzip s event next assembling)
      (fun _ event => allowed_of_strict event) events openConn started
  · exact meets_implied _ (fun s => Assembling s ∧ Numbered s.consumed) _ _
      (fun s event next sound allowed stepped =>
        ⟨step_assembling gzip s event next sound.1 stepped, numbered_step event sound.1 sound.2 allowed stepped⟩)
      (fun _ event sound => strict_at_of event sound.1 sound.2) events openConn ⟨started, rfl⟩

theorem ordered_chunks_strict :
    ∃ s, run (ConsensusConn.step markGzip) openConn [.getConsensus 1 true, .consensus2 ⟨consensusOk, 0, 2, [31, 1]⟩] = some s ∧
      Delivers markGzip s ⟨consensusOk, 1, 2, [7, 0]⟩ 1 [7] ∧ Strict markGzip (s.consumed ++ [⟨consensusOk, 1, 2, [7, 0]⟩]) [7] := by
  have delivery := (consensus_delivery_strict_iff markGzip [.getConsensus 1 true, .consensus2 ⟨consensusOk, 0, 2, [31, 1]⟩]).1 _ rfl
    ⟨consensusOk, 1, 2, [7, 0]⟩ rfl 1 [7]
  have strict := (consensus_delivery_strict_iff markGzip [.getConsensus 1 true, .consensus2 ⟨consensusOk, 0, 2, [31, 1]⟩,
    .consensus2 ⟨consensusOk, 1, 2, [7, 0]⟩]).2.mpr ⟨trivial, ?_⟩
  · have delivered := delivery.mpr ⟨rfl, rfl, by unfold TotalsAgree; decide, rfl, by decide, _, rfl, rfl⟩
    exact ⟨_, rfl, delivered, ((strict.2 _ rfl).2 _ rfl).1 rfl rfl |>.1 1 [7] delivered⟩
  · rintro _ ⟨⟩
    refine ⟨fun _ _ => .inl ⟨rfl, by decide, by decide, fun last => absurd last (by decide)⟩, ?_⟩
    rintro _ ⟨⟩
    exact ⟨fun _ _ => .inl ⟨rfl, by decide, by decide, fun _ => ⟨[7], [], rfl⟩⟩, fun _ _ => trivial⟩

def Misassembled (earlier : List Consensus2) (cmd : Consensus2) (document : Bytes) : Prop :=
  ∃ s, run (ConsensusConn.step markGzip) openConn (.getConsensus 1 true :: earlier.map .consensus2) = some s ∧
    s.consumed = earlier ∧ Delivers markGzip s cmd 1 document ∧ ¬ Strict markGzip (earlier ++ [cmd]) document

def Unnoticed (chunks : List Consensus2) : Prop :=
  ∃ s, run (ConsensusConn.step markGzip) openConn (.getConsensus 1 true :: chunks.map .consensus2) = some s ∧
    s.consumed = chunks ∧ s.wireErr = none ∧ s.replies = [] ∧ ¬Numbered chunks

/-- The second chunk without the first, a chunk twice, two chunks exchanged, another total in the
first chunk, a stream that ends early, and chunks that lead nowhere. -/
theorem misassembled_documents :
    Misassembled [] ⟨consensusOk, 1, 2, [31, 1, 7, 0]⟩ [7] ∧
    Misassembled [⟨consensusOk, 0, 3, [31]⟩, ⟨consensusOk, 1, 3, [1, 7]⟩, ⟨consensusOk, 1, 3, [1, 7]⟩]
      ⟨consensusOk, 2, 3, [0]⟩ [7, 7] ∧
    Misassembled [⟨consensusOk, 0, 4, [31]⟩, ⟨consensusOk, 2, 4, [1, 8]⟩, ⟨consensusOk, 1, 4, [1, 7]⟩]
      ⟨consensusOk, 3, 4, [0]⟩ [8, 7] ∧
    Misassembled [⟨consensusOk, 0, 9, [31, 1]⟩] ⟨consensusOk, 1, 2, [7, 0]⟩ [7] ∧
    Misassembled [] ⟨consensusOk, 0, 1, [31, 1, 7]⟩ [7] ∧
    Unnoticed [⟨consensusOk, 0, 3, [31]⟩, ⟨consensusOk, 0, 3, [31]⟩, ⟨consensusOk, 7, 3, [0]⟩] := by
  refine ⟨⟨_, rfl, rfl, ⟨_, rfl, rfl⟩, fun strict => ?_⟩, ⟨_, rfl, rfl, ⟨_, rfl, rfl⟩, fun strict => ?_⟩,
    ⟨_, rfl, rfl, ⟨_, rfl, rfl⟩, fun strict => ?_⟩, ⟨_, rfl, rfl, ⟨_, rfl, rfl⟩, fun strict => ?_⟩,
    ⟨_, rfl, rfl, ⟨_, rfl, rfl⟩, fun strict => ?_⟩, ⟨_, rfl, rfl, rfl, rfl, by unfold Numbered; decide⟩⟩
  · exact absurd strict.numbers (by decide)
  · exact absurd strict.numbers (by decide)
  · exact absurd strict.numbers (by decide)
  · exact absurd (strict.totals _ List.mem_cons_self) (by decide)
  · obtain ⟨unread, read⟩ := strict.whole
    exact Bool.false_ne_true (congrArg Inflated.complete (Option.some.inj read))

end Katzenpost
