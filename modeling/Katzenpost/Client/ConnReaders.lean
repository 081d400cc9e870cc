import Katzenpost.Client.GatewayCallers
import Katzenpost.Go.Slots

set_option autoImplicit false

namespace Katzenpost

open Go

def GatewayPhase.inLoop : GatewayPhase → Bool
  | .loop _ => true
  | .sendDone _ _ _ => true
  | .consensusDone _ _ _ => true
  | .replying _ _ => true
  | _ => false

def GatewayPhase.writeFailed : GatewayPhase → Bool
  | .sendDone _ _ failed => failed
  | .consensusDone _ _ .failed => true
  | _ => false

def CommandHandled.accepted : CommandHandled → Bool
  | .leaves => false
  | _ => true

-- Every write succeeds, no callback fails, and the gateway is valid and sends nothing
-- that onWireConn refuses: what remains to end a connection is an error of RecvCommand.
def GatewayConn.orderly (cfg : ConnConfig) (s : GatewayConn) : GatewayEvent → Bool
  | .fetch sent => sent
  | .takeSend _ sent => sent
  | .takeConsensus sent => sent
  | .callbackError => false
  | .receive check =>
      match s.phase, s.readers.getLast? with
      | .loop l, some (.offering cmd) => check = .unavailable || check = .valid && (l.handle cfg cmd).accepted
      | _, _ => true
  | _ => true

section Frames

variable (s : GatewayConn)

@[simp] theorem lost_halted (round : StatusRound) : (s.lost round).halted = s.halted := by
  cases round <;> (rw [GatewayConn.lost]; split <;> rfl)

@[simp] theorem lost_is_shutdown (round : StatusRound) : (s.lost round).isShutdown = s.isShutdown := by
  cases round <;> (rw [GatewayConn.lost]; split <;> rfl)

@[simp] theorem lost_readers (round : StatusRound) : (s.lost round).readers = s.readers := by
  cases round <;> (rw [GatewayConn.lost]; split <;> rfl)

@[simp] theorem lost_outside (round : StatusRound) : (s.lost round).phase.inLoop = false := by
  cases round <;> (rw [GatewayConn.lost]; split <;> rfl)

@[simp] theorem drained_halted (round : StatusRound) : (s.drained round).halted = s.halted := by
  cases round with
  | emitted => rfl
  | deferred => rw [GatewayConn.drained, lost_halted]

@[simp] theorem drained_is_shutdown (round : StatusRound) : (s.drained round).isShutdown = s.isShutdown := by
  cases round with
  | emitted => rfl
  | deferred => rw [GatewayConn.drained, lost_is_shutdown]

@[simp] theorem drained_readers (round : StatusRound) : (s.drained round).readers = s.readers := by
  cases round with
  | emitted => rfl
  | deferred => rw [GatewayConn.drained, lost_readers]

@[simp] theorem drained_outside (round : StatusRound) : (s.drained round).phase.inLoop = false := by
  cases round with
  | emitted => rfl
  | deferred => rw [GatewayConn.drained, lost_outside]

@[simp] theorem leave_loop_halted (l : WireLoop) : (s.leaveLoop l).halted = s.halted := by
  rw [GatewayConn.leaveLoop]
  split
  · rfl
  · exact lost_halted s .deferred

@[simp] theorem leave_loop_is_shutdown (l : WireLoop) : (s.leaveLoop l).isShutdown = s.isShutdown := by
  rw [GatewayConn.leaveLoop]
  split
  · rfl
  · exact lost_is_shutdown s .deferred

@[simp] theorem leave_loop_readers (l : WireLoop) : (s.leaveLoop l).readers = s.readers := by
  rw [GatewayConn.leaveLoop]
  split
  · rfl
  · exact lost_readers s .deferred

@[simp] theorem leave_loop_outside (l : WireLoop) : (s.leaveLoop l).phase.inLoop = false := by
  rw [GatewayConn.leaveLoop]
  split
  · rfl
  · exact lost_outside s .deferred

end Frames

section Moves

variable {cfg : ConnConfig} {s next : GatewayConn}

inductive ConnMove (cfg : ConnConfig) (s next : GatewayConn) (event : GatewayEvent) : Prop where
  | aside (phase : next.phase = s.phase) (readers : next.readers = s.readers)
  | connects (dialing : s.phase = .dialing) (phase : next.phase = .loop newWireLoop)
      (readers : next.readers = s.readers ++ [.receiving])
  | reader (k : Nat) (before after : ConnReader) (phase : next.phase = s.phase) (found : s.readers[k]? = some before)
      (running : before ≠ .closed) (readers : next.readers = s.readers.set k after) (halts : after = .closed → s.halted = true)
  | loops (before : s.phase.inLoop = true) (after : next.phase.inLoop = true)
      (clean : s.orderly cfg event = true → s.phase.writeFailed = false → next.phase.writeFailed = false)
      (readers : next.readers = s.readers ∨ next.readers = s.readers.set (s.readers.length - 1) .receiving)
  | readError (before : s.phase.inLoop = true) (after : next.phase.inLoop = false)
      (readers : next.readers = s.readers.set (s.readers.length - 1) .closed)
  | leaves (before : s.phase.inLoop = true)
      (cause : s.orderly cfg event = false ∨ s.halted = true ∨ s.phase.writeFailed = true ∨
        s.readers.getLast? = some .closed ∧ next.readers = s.readers ∧ next.phase.inLoop = false)
  | outside (running : s.phase ≠ .exited) (before : s.phase.inLoop = false) (after : next.phase.inLoop = false)
      (readers : next.readers = s.readers)

theorem fetch_moves (sent : Bool) (taken : s.fetch sent = some next) : ConnMove cfg s next (.fetch sent) := by
  rw [GatewayConn.fetch] at taken
  split at taken
  · rename_i l here
    have before : s.phase.inLoop = true := by rw [here]; rfl
    split at taken
    · cases taken
      exact .aside rfl rfl
    · split at taken
      · cases taken
        exact .loops before rfl (fun _ _ => rfl) (.inl rfl)
      · rename_i failed
        exact .leaves before (.inl (by simpa [GatewayConn.orderly] using failed))
  · cases taken

theorem take_send_moves (i : Nat) (sent : Bool) (taken : s.takeSend i sent = some next) : ConnMove cfg s next (.takeSend i sent) := by
  rw [GatewayConn.takeSend] at taken
  split at taken
  · rename_i l here _
    cases taken
    refine .loops (by rw [here]; rfl) rfl (fun orderly _ => ?_) (.inl rfl)
    rw [GatewayConn.orderly] at orderly
    rw [orderly]
    rfl
  · cases taken

theorem take_consensus_moves (sent : Bool) (taken : s.takeConsensus sent = some next) : ConnMove cfg s next (.takeConsensus sent) := by
  rw [GatewayConn.takeConsensus] at taken
  split at taken
  · rename_i l i here _
    have before : s.phase.inLoop = true := by rw [here]; rfl
    split at taken
    · cases taken
      exact .loops before rfl (fun _ _ => rfl) (.inl rfl)
    · cases taken
      refine .loops before rfl (fun orderly _ => ?_) (.inl rfl)
      rw [GatewayConn.orderly] at orderly
      rw [orderly]
      rfl
  · cases taken

theorem receive_moves (check : GatewayCheck) (taken : s.receive cfg check = some next) : ConnMove cfg s next (.receive check) := by
  rw [GatewayConn.receive] at taken
  split at taken
  · rename_i l cmd here last
    have before : s.phase.inLoop = true := by rw [here]; rfl
    have orderly : s.orderly cfg (.receive check) = (check = .unavailable || check = .valid && (l.handle cfg cmd).accepted) := by
      rw [GatewayConn.orderly, here, last]
    simp only at taken
    split at taken
    · cases taken
      exact .loops before before (fun _ clean => clean) (.inr rfl)
    · exact .leaves before (.inl (by rw [orderly]; rfl))
    · unfold GatewayConn.handled at taken
      split at taken
      · cases taken
        exact .loops before rfl (fun _ _ => rfl) (.inr rfl)
      · cases taken
        exact .loops before rfl (fun _ _ => rfl) (.inr rfl)
      · rename_i refused
        refine .leaves before (.inl ?_)
        rw [orderly, refused]
        rfl
      · cases taken
  · rename_i l here last
    cases taken
    exact .readError (by rw [here]; rfl) (leave_loop_outside _ _) (leave_loop_readers _ _)
  · rename_i l here last
    cases taken
    exact .leaves (by rw [here]; rfl) (.inr (.inr (.inr ⟨last, leave_loop_readers _ _, leave_loop_outside _ _⟩)))
  · cases taken

theorem hand_over_moves (taken : s.handOver = some next) : ConnMove cfg s next .handOver := by
  rw [GatewayConn.handOver] at taken
  split at taken
  · rename_i i l failed here
    have before : s.phase.inLoop = true := by rw [here]; rfl
    split at taken
    · cases failed with
      | true => exact .leaves before (.inr (.inr (.inl (by rw [here]; rfl))))
      | false =>
          cases taken
          exact .loops before rfl (fun _ _ => rfl) (.inl rfl)
    · cases taken
  · rename_i i l result here
    have before : s.phase.inLoop = true := by rw [here]; rfl
    split at taken
    · cases result with
      | outstanding =>
          cases taken
          exact .loops before rfl (fun _ _ => rfl) (.inl rfl)
      | sent =>
          cases taken
          exact .loops before rfl (fun _ _ => rfl) (.inl rfl)
      | failed => exact .leaves before (.inr (.inr (.inl (by rw [here]; rfl))))
    · cases taken
  · rename_i i l here
    split at taken
    · cases taken
      exact .loops (by rw [here]; rfl) rfl (fun _ _ => rfl) (.inl rfl)
    · cases taken
  · rename_i i here
    split at taken
    · cases taken
      exact .outside (by rw [here]; rintro ⟨⟩) (by rw [here]; rfl) (lost_outside _ _) (lost_readers _ _)
    · cases taken
  · rename_i i round here
    split at taken
    · cases taken
      exact .outside (by rw [here]; rintro ⟨⟩) (by rw [here]; rfl) rfl rfl
    · cases taken
  · rename_i i round here
    split at taken
    · cases taken
      exact .outside (by rw [here]; rintro ⟨⟩) (by rw [here]; rfl) (drained_outside _ _) (drained_readers _ _)
    · cases taken
  · cases taken

theorem drain_moves (i : Option Nat) (taken : s.drain i = some next) : ConnMove cfg s next (.drain i) := by
  unfold GatewayConn.drain at taken
  split at taken
  · rename_i round i here
    split at taken
    · cases taken
      exact .outside (by rw [here]; rintro ⟨⟩) (by rw [here]; rfl) rfl rfl
    · cases taken
  · rename_i round here
    cases taken
    exact .outside (by rw [here]; rintro ⟨⟩) (by rw [here]; rfl) rfl rfl
  · rename_i round here
    split at taken
    · cases taken
      exact .outside (by rw [here]; rintro ⟨⟩) (by rw [here]; rfl) rfl rfl
    · cases taken
      exact .outside (by rw [here]; rintro ⟨⟩) (by rw [here]; rfl) (drained_outside _ _) (drained_readers _ _)
  · cases taken

theorem reader_receives_moves (k : Nat) (cmd : Option GatewayCommand) (taken : s.readerReceives k cmd = some next) :
    ConnMove cfg s next (.readerReceives k cmd) := by
  rw [GatewayConn.readerReceives] at taken
  split at taken
  · rename_i found
    cases taken
    refine .reader k .receiving _ rfl found (by decide) rfl fun closed => ?_
    cases cmd <;> cases closed
  · cases taken

theorem reader_halts_moves (k : Nat) (taken : s.readerHalts k = some next) : ConnMove cfg s next (.readerHalts k) := by
  rw [GatewayConn.readerHalts] at taken
  split at taken
  · rename_i cmd found
    split at taken
    · rename_i halted
      cases taken
      exact .reader k _ .closed rfl found (by rintro ⟨⟩) rfl fun _ => halted
    · cases taken
  · rename_i found
    split at taken
    · rename_i halted
      cases taken
      exact .reader k _ .closed rfl found (by rintro ⟨⟩) rfl fun _ => halted
    · cases taken
  · cases taken

theorem gateway_moves (event : GatewayEvent) (taken : s.step cfg event = some next) : ConnMove cfg s next event := by
  cases event with
  | sendPacket =>
      simp only [GatewayConn.step, GatewayConn.sendPacket] at taken
      split at taken <;> cases taken
      exact .aside rfl rfl
  | getConsensus =>
      simp only [GatewayConn.step, GatewayConn.getConsensus] at taken
      split at taken <;> cases taken
      exact .aside rfl rfl
  | put i =>
      simp only [GatewayConn.step, GatewayConn.put] at taken
      split at taken <;> cases taken
      exact .aside rfl rfl
  | leave i =>
      simp only [GatewayConn.step, GatewayConn.leave] at taken
      repeat' split at taken
      all_goals cases taken
      all_goals exact .aside rfl rfl
  | forceFetch =>
      cases taken
      exact .aside rfl rfl
  | shutdown =>
      cases taken
      exact .aside rfl rfl
  | halt =>
      cases taken
      exact .aside rfl rfl
  | connect =>
      simp only [GatewayConn.step, GatewayConn.connect] at taken
      split at taken
      · rename_i here
        cases taken
        exact .connects here rfl rfl
      · cases taken
  | stopDialing =>
      simp only [GatewayConn.step, GatewayConn.stopDialing] at taken
      split at taken
      · rename_i here
        split at taken <;> cases taken
        exact .outside (by rw [here]; rintro ⟨⟩) (by rw [here]; rfl) rfl rfl
      · cases taken
  | fetch sent => exact fetch_moves sent taken
  | takeSend i sent => exact take_send_moves i sent taken
  | takeConsensus sent => exact take_consensus_moves sent taken
  | receive check => exact receive_moves check taken
  | seeHalt =>
      simp only [GatewayConn.step, GatewayConn.quit] at taken
      split at taken
      · rename_i halted
        split at taken
        · rename_i l here
          exact .leaves (by rw [here]; rfl) (.inr (.inl halted))
        · cases taken
      · cases taken
  | callbackError =>
      simp only [GatewayConn.step, GatewayConn.quit] at taken
      split at taken
      · rename_i l here
        exact .leaves (by rw [here]; rfl) (.inl rfl)
      · cases taken
  | handOver => exact hand_over_moves taken
  | deferredHalt =>
      simp only [GatewayConn.step, GatewayConn.deferredHalt] at taken
      split at taken
      · rename_i here
        split at taken <;> cases taken
        exact .outside (by rw [here]; rintro ⟨⟩) (by rw [here]; rfl) (lost_outside _ _) (lost_readers _ _)
      · cases taken
  | drain i => exact drain_moves i taken
  | readerReceives k cmd => exact reader_receives_moves k cmd taken
  | readerHalts k => exact reader_halts_moves k taken

theorem step_flags (event : GatewayEvent) (taken : s.step cfg event = some next) :
    (s.halted = true → next.halted = true) ∧ (s.isShutdown = true → next.isShutdown = true) := by
  cases event
  all_goals simp only [GatewayConn.step, GatewayConn.sendPacket, GatewayConn.getConsensus, GatewayConn.put, GatewayConn.leave,
    GatewayConn.connect, GatewayConn.stopDialing, GatewayConn.fetch, GatewayConn.takeSend, GatewayConn.takeConsensus,
    GatewayConn.receive, GatewayConn.quit, GatewayConn.handOver, GatewayConn.deferredHalt, GatewayConn.readerReceives,
    GatewayConn.readerHalts] at taken
  all_goals try unfold GatewayConn.drain at taken
  all_goals try unfold GatewayConn.handled at taken
  all_goals repeat' split at taken
  all_goals cases taken
  all_goals simp [GatewayConn.setCaller, GatewayConn.setReader]

end Moves

section Readers

variable {cfg : ConnConfig} {s next : GatewayConn}

structure GatewayConn.NoReaderLeft (s : GatewayConn) : Prop where
  exits : ∀ k reader, s.readers[k]? = some reader → reader ≠ .closed →
    s.halted = true ∨ k + 1 = s.readers.length ∧ s.phase.inLoop = true
  bounded : s.halted = false → s.readers.countP (fun reader => reader ≠ .closed) ≤ if s.phase.inLoop then 1 else 0

def GatewayConn.OneReader (s : GatewayConn) : Prop :=
  ∀ k reader, s.readers[k]? = some reader → reader ≠ .closed → k + 1 = s.readers.length ∧ s.phase.inLoop = true

theorem write_failed_inside (phase : GatewayPhase) (outside : phase.inLoop = false) : phase.writeFailed = false := by
  cases phase with
  | sendDone => cases outside
  | consensusDone => cases outside
  | _ => rfl

theorem one_reader_outside (one : s.OneReader) (outside : s.phase.inLoop = false) (k : Nat) (reader : ConnReader)
    (found : s.readers[k]? = some reader) : reader = .closed := by
  by_contra running
  have inside := (one k reader found running).2
  rw [outside] at inside
  cases inside

theorem one_reader_set_last (one : s.OneReader) (reader : ConnReader) (readers : next.readers = s.readers.set (s.readers.length - 1) reader)
    (inside : reader ≠ .closed → next.phase.inLoop = true) : next.OneReader := by
  intro k other found running
  rw [readers, List.length_set]
  rw [readers, List.getElem?_set] at found
  split at found
  · split at found
    · cases found
      exact ⟨by omega, inside running⟩
    · cases found
  · have last := (one k other found running).1
    omega

theorem one_reader_step (event : GatewayEvent) (running : s.halted = false) (one : s.OneReader) (clean : s.phase.writeFailed = false)
    (orderly : s.orderly cfg event = true) (moves : ConnMove cfg s next event) :
    next.OneReader ∧ next.phase.writeFailed = false := by
  cases moves with
  | aside phase readers =>
      rw [GatewayConn.OneReader, phase, readers]
      exact ⟨one, clean⟩
  | connects dialing phase readers =>
      rw [GatewayConn.OneReader, phase, readers]
      refine ⟨fun k reader found open' => ?_, rfl⟩
      rcases appended_lookup k reader found with old | ⟨last, -⟩
      · exact absurd (one_reader_outside one (by rw [dialing]; rfl) k reader old) open'
      · exact ⟨by rw [last, List.length_append, List.length_singleton], rfl⟩
  | reader k before after phase found open' readers halts =>
      obtain ⟨last, inside⟩ := one k before found open'
      have place : k = s.readers.length - 1 := by omega
      refine ⟨one_reader_set_last one after (place ▸ readers) fun _ => phase ▸ inside, phase ▸ clean⟩
  | loops before after clean' readers =>
      refine ⟨?_, clean' orderly clean⟩
      rcases readers with same | received
      · intro k reader found open'
        rw [same] at found ⊢
        exact ⟨(one k reader found open').1, after⟩
      · exact one_reader_set_last one .receiving received fun _ => after
  | readError before after readers =>
      exact ⟨one_reader_set_last one .closed readers fun open' => absurd rfl open', write_failed_inside _ after⟩
  | leaves before cause =>
      rcases cause with disorderly | halted | failed | ⟨last, readers, after⟩
      · rw [orderly] at disorderly
        cases disorderly
      · rw [running] at halted
        cases halted
      · rw [clean] at failed
        cases failed
      · refine ⟨fun k reader found open' => ?_, write_failed_inside _ after⟩
        rw [readers] at found
        have place := (one k reader found open').1
        rw [List.getLast?_eq_getElem?, show s.readers.length - 1 = k by omega, found] at last
        exact absurd (Option.some.inj last) open'
  | outside _ before after readers =>
      refine ⟨fun k reader found open' => ?_, write_failed_inside _ after⟩
      rw [readers] at found
      exact absurd (one_reader_outside one before k reader found) open'

theorem one_reader_count (one : s.OneReader) : s.readers.countP (fun reader => reader ≠ .closed) ≤ if s.phase.inLoop then 1 else 0 := by
  cases inside : s.phase.inLoop with
  | false =>
      rw [List.countP_eq_zero.mpr fun reader member => ?_]
      · exact Nat.zero_le _
      · obtain ⟨k, found⟩ := List.mem_iff_getElem?.mp member
        simpa using one_reader_outside one inside k reader found
  | true =>
      -- All but the last are closed.
      rcases List.eq_nil_or_concat s.readers with none | ⟨earlier, last, split⟩
      · rw [none]
        exact Nat.zero_le _
      · rw [List.concat_eq_append] at split
        have closed : earlier.countP (fun reader => decide (reader ≠ .closed)) = 0 := by
          refine List.countP_eq_zero.mpr fun reader member running => ?_
          obtain ⟨k, found⟩ := List.mem_iff_getElem?.mp member
          have place := one k reader (split ▸ lookup_append last k reader found) (of_decide_eq_true running)
          have before := (List.getElem?_eq_some_iff.mp found).1
          rw [split, List.length_append, List.length_singleton] at place
          omega
        rw [split, List.countP_append, closed, Nat.zero_add]
        exact List.countP_le_length

/-- If connections end only by an error of RecvCommand that the loop receives, each reader has
returned by the time its loop is left. -/
theorem readers_exit (cfg : ConnConfig) (events : List GatewayEvent)
    (met : Meets (GatewayConn.step cfg) (fun s event => s.orderly cfg event = true) newConnection events) :
    Always (GatewayConn.step cfg) GatewayConn.NoReaderLeft newConnection events := by
  refine always_of_invariant (GatewayConn.step cfg) GatewayConn.NoReaderLeft
    (fun s => s.halted = true ∨ s.OneReader ∧ s.phase.writeFailed = false) (fun s event => s.orderly cfg event = true) ?_ ?_
    events newConnection (.inr ⟨nofun, rfl⟩) met
  · intro s event next ok orderly taken
    cases running : s.halted with
    | true => exact .inl ((step_flags event taken).1 running)
    | false =>
        rw [running] at ok
        obtain ⟨one, clean⟩ := ok.resolve_left nofun
        exact .inr (one_reader_step event running one clean orderly (gateway_moves event taken))
  · intro s ok
    rcases ok with halted | ⟨one, -⟩
    · exact ⟨fun _ _ _ _ => .inl halted, fun running => absurd halted (by rw [running]; decide)⟩
    · exact ⟨fun k reader found open' => .inr (one k reader found open'), fun _ => one_reader_count one⟩

def reconnect (ends : List GatewayEvent) : List GatewayEvent :=
  .connect :: ends ++ [.drain none, .drain none, .drain none, .drain none, .connect]

theorem read_error_reader_exits :
    ((run (GatewayConn.step plainConn) newConnection (reconnect [.readerReceives 0 none, .receive .valid])).map fun s => s.readers) =
      some [.closed, .receiving] ∧
    Always (GatewayConn.step plainConn) GatewayConn.NoReaderLeft newConnection
      (reconnect [.readerReceives 0 none, .receive .valid]) :=
  ⟨by decide +kernel, readers_exit plainConn _ (by decide +kernel)⟩

/-- A callback fails while the reader has a command for the loop: the reader stays, and no step
but the one for Halt is left to it. -/
theorem callback_error_reader_left :
    ∃ s, run (GatewayConn.step plainConn) newConnection (reconnect [.readerReceives 0 (some .noOp), .callbackError]) = some s ∧
      s.readers = [.offering .noOp, .receiving] ∧ s.halted = false ∧ (∀ cmd, s.step plainConn (.readerReceives 0 cmd) = none) ∧
      s.step plainConn (.readerHalts 0) = none ∧ ¬s.NoReaderLeft := by
  have sample : (run (GatewayConn.step plainConn) newConnection (reconnect [.readerReceives 0 (some .noOp), .callbackError])).any
      (fun s => decide (s.readers = [.offering .noOp, .receiving] ∧ s.halted = false)) = true := by
    decide +kernel
  obtain ⟨s, reached, seen⟩ := (Option.any_eq_true _ _).mp sample
  obtain ⟨readers, running⟩ := of_decide_eq_true seen
  refine ⟨s, reached, readers, running, fun cmd => ?_, ?_, fun left => ?_⟩
  · rw [GatewayConn.step, GatewayConn.readerReceives, readers]
    rfl
  · rw [GatewayConn.step, GatewayConn.readerHalts, readers, running]
    rfl
  · have two := left.bounded running
    rw [readers] at two
    have one : (if s.phase.inLoop then 1 else 0) ≤ 1 := by split <;> decide
    exact absurd (two.trans one) (by decide)

end Readers

end Katzenpost
