import Katzenpost.Client.GatewayConn

set_option autoImplicit false

namespace Katzenpost

open Go

def GatewayPhase.hand : GatewayPhase → Option (Nat × ConnCaller)
  | .sendDone i _ _ => some (i, .sendWaiting)
  | .consensusDone i _ _ => some (i, .consensusWaiting)
  | .replying i _ => some (i, .consensusReply)
  | .deferredReply i => some (i, .consensusReply)
  | .drainSendDone i _ => some (i, .sendWaiting)
  | .drainConsensusDone i _ => some (i, .consensusWaiting)
  | _ => none

def GatewayPhase.pending : GatewayPhase → Option Nat
  | .loop l => l.consensusCtx
  | .sendDone _ l _ => l.consensusCtx
  | .consensusDone _ l .outstanding => l.consensusCtx
  | _ => none

def GatewayConn.Served (s : GatewayConn) : Prop :=
  ∀ i w, s.phase.hand = some (i, w) → s.callers[i]? = some w ∨ s.halted = true ∧ s.phase = .deferredReply i

def GatewayEvent.own : GatewayEvent → Bool
  | .stopDialing => true
  | .seeHalt => true
  | .handOver => true
  | .deferredHalt => true
  | .drain _ => true
  | .readerReceives _ none => true
  | .readerHalts _ => true
  | _ => false

def GatewayConn.CanExit (cfg : ConnConfig) (s : GatewayConn) : Prop :=
  ∃ events final, (∀ event ∈ events, GatewayEvent.own event = true) ∧ run (GatewayConn.step cfg) s events = some final ∧
    final.phase = .exited ∧ ∀ reader ∈ final.readers, reader = .closed

def GatewayConn.holds (s : GatewayConn) (i : Nat) : Bool :=
  s.getConsensusCh = some i || s.phase.pending = some i || s.phase.hand.any fun hand => hand.1 = i

def GatewayConn.patient (s : GatewayConn) : GatewayEvent → Bool
  | .leave i => !s.holds i
  | .takeConsensus sent =>
      match s.phase with
      | .loop l => l.consensusCtx.isSome || sent || s.halted
      | _ => true
  | _ => true

def GatewayPhase.Sane (halted : Bool) : GatewayPhase → Prop
  | .consensusDone i l .sent => l.consensusCtx = some i
  | .consensusDone i l .failed => l.consensusCtx = some i ∧ halted = true
  | .replying _ l => l.consensusCtx = none
  | _ => True

structure CallersOk (s : GatewayConn) : Prop where
  queued : ∀ i, s.getConsensusCh = some i → s.callers[i]? = some .consensusWaiting
  apart : ∀ i, s.getConsensusCh = some i → s.phase.hand ≠ some (i, .consensusWaiting)
  served : s.Served
  pending : ∀ i, s.phase.pending = some i → s.callers[i]? = some .consensusReply
  sane : s.phase.Sane s.halted

theorem set_other (callers : List ConnCaller) (i j : Nat) (w v x : ConnCaller) (here : callers[i]? = some w)
    (there : callers[j]? = some v) (differ : w ≠ v) : (callers.set i x)[j]? = some v := by
  have apart : i ≠ j := by
    intro same
    rw [same, there] at here
    exact differ (Option.some.inj here).symm
  rw [List.getElem?_set_ne apart, there]

theorem set_here (callers : List ConnCaller) (i : Nat) (w x : ConnCaller) (here : callers[i]? = some w) :
    (callers.set i x)[i]? = some x :=
  List.getElem?_set_self (List.getElem?_eq_some_iff.mp here).1

structure Quiet (phase : GatewayPhase) : Prop where
  hand : phase.hand = none
  pending : phase.pending = none
  sane : ∀ halted, phase.Sane halted

theorem quiet_ok (s : GatewayConn) (quiet : Quiet s.phase)
    (queued : ∀ i, s.getConsensusCh = some i → s.callers[i]? = some .consensusWaiting) : CallersOk s where
  queued := queued
  apart i _ same := by rw [quiet.hand] at same; cases same
  served i w same := by rw [quiet.hand] at same; cases same
  pending i same := by rw [quiet.pending] at same; cases same
  sane := quiet.sane s.halted

theorem dialing_quiet : Quiet .dialing := ⟨rfl, rfl, fun _ => trivial⟩

theorem drain_send_quiet (round : StatusRound) : Quiet (.drainSend round) := ⟨rfl, rfl, fun _ => trivial⟩

theorem drain_consensus_quiet (round : StatusRound) : Quiet (.drainConsensus round) := ⟨rfl, rfl, fun _ => trivial⟩

section Kept

variable (s : GatewayConn)

theorem lost_ok (round : StatusRound) (queued : ∀ i, s.getConsensusCh = some i → s.callers[i]? = some .consensusWaiting) :
    CallersOk (s.lost round) := by
  cases round with
  | emitted =>
      rw [GatewayConn.lost]
      split
      · exact quiet_ok _ dialing_quiet queued
      · exact quiet_ok _ (drain_send_quiet _) queued
  | deferred =>
      rw [GatewayConn.lost]
      split
      · exact quiet_ok _ dialing_quiet queued
      · exact quiet_ok _ (drain_send_quiet _) queued

theorem drained_ok (round : StatusRound) (queued : ∀ i, s.getConsensusCh = some i → s.callers[i]? = some .consensusWaiting) :
    CallersOk (s.drained round) := by
  cases round with
  | deferred => exact lost_ok { s with fetchCh := false } .emitted queued
  | emitted => exact quiet_ok _ dialing_quiet queued

theorem leave_loop_ok (l : WireLoop) (queued : ∀ i, s.getConsensusCh = some i → s.callers[i]? = some .consensusWaiting)
    (pending : ∀ i, l.consensusCtx = some i → s.callers[i]? = some .consensusReply ∨ s.halted = true) :
    CallersOk (s.leaveLoop l) := by
  rw [GatewayConn.leaveLoop]
  cases ctx : l.consensusCtx with
  | none => exact lost_ok s .deferred queued
  | some caller =>
      refine ⟨queued, fun i _ same => ?_, fun i w same => ?_, fun i same => ?_, trivial⟩
      · cases same
      · cases same
        exact (pending caller ctx).imp id fun halted => ⟨halted, rfl⟩
      · cases same

theorem loop_ok (l : WireLoop) (queued : ∀ i, s.getConsensusCh = some i → s.callers[i]? = some .consensusWaiting)
    (pending : ∀ i, l.consensusCtx = some i → s.callers[i]? = some .consensusReply) : CallersOk { s with phase := .loop l } where
  queued := queued
  apart _ _ same := by cases same
  served _ _ same := by cases same
  pending := pending
  sane := trivial

variable {s}

theorem queue_apart (ok : CallersOk s) (i : Nat) (w : ConnCaller) (here : s.callers[i]? = some w)
    (unlike : w ≠ .consensusWaiting) (j : Nat) (waits : s.getConsensusCh = some j) : i ≠ j := by
  intro same
  rw [same, ok.queued j waits] at here
  exact unlike (Option.some.inj here).symm

theorem queue_set (ok : CallersOk s) (i : Nat) (x : ConnCaller) (apart : ∀ j, s.getConsensusCh = some j → i ≠ j) (j : Nat)
    (waits : s.getConsensusCh = some j) : (s.setCaller i x).callers[j]? = some .consensusWaiting := by
  show (s.callers.set i x)[j]? = _
  rw [List.getElem?_set_ne (apart j waits)]
  exact ok.queued j waits

theorem same_ok (next : GatewayConn) (ok : CallersOk s) (callers : next.callers = s.callers)
    (queue : next.getConsensusCh = s.getConsensusCh) (phase : next.phase = s.phase) (halted : s.halted = true → next.halted = true) :
    CallersOk next where
  queued i waits := by rw [callers]; exact ok.queued i (queue ▸ waits)
  apart i waits := by rw [phase]; exact ok.apart i (queue ▸ waits)
  served i w hand := by
    rw [phase] at hand ⊢
    rw [callers]
    exact (ok.served i w hand).imp id fun there => ⟨halted there.1, there.2⟩
  pending i ctx := by rw [callers]; exact ok.pending i (phase ▸ ctx)
  sane := by
    have sane := ok.sane
    rw [phase]
    cases here : s.phase with
    | consensusDone i l result =>
        rw [here] at sane
        cases result with
        | outstanding => trivial
        | sent => exact sane
        | failed => exact ⟨sane.1, halted sane.2⟩
    | replying i l =>
        rw [here] at sane
        exact sane
    | _ => trivial

theorem append_ok (caller : ConnCaller) (ok : CallersOk s) : CallersOk { s with callers := s.callers ++ [caller] } := by
  have still : ∀ (i : Nat) w, s.callers[i]? = some w → (s.callers ++ [caller])[i]? = some w := by
    intro i w there
    rw [List.getElem?_append_left (List.getElem?_eq_some_iff.mp there).1, there]
  exact ⟨fun i waits => still i _ (ok.queued i waits), ok.apart, fun i w hand => (ok.served i w hand).imp (still i w) id,
    fun i ctx => still i _ (ok.pending i ctx), ok.sane⟩

theorem put_kept (next : GatewayConn) (i : Nat) (ok : CallersOk s) (taken : s.put i = some next) : CallersOk next := by
  rw [GatewayConn.put] at taken
  split at taken
  · rename_i here empty
    cases taken
    refine ⟨fun j waits => ?_, fun j waits hand => ?_, fun j w hand => ?_, fun j ctx => ?_, ok.sane⟩
    · cases waits
      exact set_here s.callers i _ _ here
    · cases waits
      cases ok.served i _ hand with
      | inl there => cases there.symm.trans here
      | inr there =>
          have phase : s.phase.hand = some (i, .consensusWaiting) := hand
          rw [there.2] at phase
          cases phase
    · refine (ok.served j w hand).imp (fun there => set_other s.callers i j _ w _ here there ?_) id
      rintro rfl
      have phase : s.phase.hand = some (j, .consensusOffering) := hand
      revert phase
      cases s.phase <;> simp [GatewayPhase.hand]
    · exact set_other s.callers i j _ _ _ here (ok.pending j ctx) (by decide)
  · cases taken

theorem leave_kept (next : GatewayConn) (i : Nat) (ok : CallersOk s) (patient : s.patient (.leave i) = true)
    (taken : s.leave i = some next) : CallersOk next := by
  have left : next = s.setCaller i .returned := by
    rw [GatewayConn.leave] at taken
    split at taken
    · split at taken
      · exact (Option.some.inj taken).symm
      · cases taken
    · split at taken
      · exact (Option.some.inj taken).symm
      · cases taken
    · exact (Option.some.inj taken).symm
    · exact (Option.some.inj taken).symm
    · exact (Option.some.inj taken).symm
    · cases taken
  subst left
  simp only [GatewayConn.patient, GatewayConn.holds, Bool.not_eq_true', Bool.or_eq_false_iff, decide_eq_false_iff_not] at patient
  obtain ⟨⟨queue, pending⟩, hand⟩ := patient
  have other : ∀ (j : Nat) w, j ≠ i → s.callers[j]? = some w → (s.callers.set i .returned)[j]? = some w := by
    intro j w apart there
    rw [List.getElem?_set_ne apart.symm, there]
  refine ⟨fun j waits => other j _ ?_ (ok.queued j waits), ok.apart, fun j w here => ?_, fun j ctx => other j _ ?_ (ok.pending j ctx),
    ok.sane⟩
  · rintro rfl
    exact queue waits
  · refine (ok.served j w here).imp (other j w ?_) id
    rintro rfl
    have held : s.phase.hand = some (j, w) := here
    rw [held] at hand
    simp at hand
  · rintro rfl
    exact pending ctx

theorem in_loop (ok : CallersOk s) (l : WireLoop) (here : s.phase = .loop l) (i : Nat) (ctx : l.consensusCtx = some i) :
    s.callers[i]? = some .consensusReply :=
  ok.pending i (by rw [here]; exact ctx)

theorem fetch_kept (next : GatewayConn) (sent : Bool) (ok : CallersOk s) (taken : s.fetch sent = some next) : CallersOk next := by
  rw [GatewayConn.fetch] at taken
  split at taken
  · rename_i l here
    split at taken
    · cases taken
      exact same_ok _ ok rfl rfl rfl id
    · split at taken
      · cases taken
        exact loop_ok { s with fetchCh := false } _ ok.queued (in_loop ok l here)
      · cases taken
        exact leave_loop_ok { s with fetchCh := false } l ok.queued fun i ctx => .inl (in_loop ok l here i ctx)
  · cases taken

theorem take_send_kept (next : GatewayConn) (i : Nat) (sent : Bool) (ok : CallersOk s) (taken : s.takeSend i sent = some next) :
    CallersOk next := by
  rw [GatewayConn.takeSend] at taken
  split at taken
  · rename_i l here offers
    cases taken
    refine ⟨queue_set ok i _ (queue_apart ok i _ offers (by decide)), fun j _ hand => ?_, fun j w hand => ?_, fun j ctx => ?_, trivial⟩
    · cases hand
    · cases hand
      exact .inl (set_here s.callers i _ _ offers)
    · exact set_other s.callers i j _ _ _ offers (in_loop ok l here j ctx) (by decide)
  · cases taken

theorem take_consensus_kept (next : GatewayConn) (sent : Bool) (ok : CallersOk s)
    (patient : s.patient (.takeConsensus sent) = true) (taken : s.takeConsensus sent = some next) : CallersOk next := by
  rw [GatewayConn.takeConsensus] at taken
  split at taken
  · rename_i l i here waits
    have there := ok.queued i waits
    split at taken
    · rename_i other ctx
      cases taken
      refine ⟨fun j queued => (by cases queued), fun j queued => (by cases queued), fun j w hand => ?_, in_loop ok l here, trivial⟩
      cases hand
      exact .inl there
    · rename_i ctx
      cases taken
      refine ⟨fun j queued => (by cases queued), fun j queued => (by cases queued), fun j w hand => ?_, fun j pending => ?_, ?_⟩
      · cases hand
        exact .inl there
      · cases sent with
        | true => cases pending
        | false => cases pending
      · cases sent with
        | true => exact rfl
        | false =>
            simp only [GatewayConn.patient, here, ctx] at patient
            exact ⟨rfl, by simpa using patient⟩
  · cases taken

def CommandHandled.Keeps (l : WireLoop) : CommandHandled → Prop
  | .goesOn next => next.consensusCtx = l.consensusCtx
  | .replies caller next => l.consensusCtx = some caller ∧ next.consensusCtx = none
  | .leaves => True
  | .panics => True

theorem consensus2_keeps (cfg : ConnConfig) (l : WireLoop) (errorCode : UInt8) (chunkNum chunkTotal : Nat) (payload : Bytes) :
    (l.consensus2 cfg errorCode chunkNum chunkTotal payload).Keeps l := by
  simp only [WireLoop.consensus2]
  split
  · trivial
  · rename_i caller ctx
    split
    · exact ⟨ctx, rfl⟩
    · split
      · trivial
      · split
        · split
          · trivial
          · exact ⟨ctx, rfl⟩
        · exact rfl

theorem handle_keeps (cfg : ConnConfig) (l : WireLoop) (cmd : GatewayCommand) : (l.handle cfg cmd).Keeps l := by
  cases cmd with
  | consensus2 errorCode chunkNum chunkTotal payload => exact consensus2_keeps cfg l errorCode chunkNum chunkTotal payload
  | noOp => exact rfl
  | disconnect => trivial
  | consensus => trivial
  | other => trivial
  | messageEmpty sequence =>
      simp only [WireLoop.handle]
      split
      · trivial
      · exact rfl
  | message sequence =>
      simp only [WireLoop.handle]
      split
      · trivial
      · exact rfl
  | messageACK sequence =>
      simp only [WireLoop.handle]
      split
      · trivial
      · split
        · trivial
        · exact rfl

theorem handled_kept (cfg : ConnConfig) (next : GatewayConn) (l : WireLoop) (cmd : GatewayCommand) (ok : CallersOk s)
    (here : s.phase = .loop l) (taken : s.handled l (l.handle cfg cmd) = some next) : CallersOk next := by
  have keeps := handle_keeps cfg l cmd
  cases outcome : l.handle cfg cmd with
  | goesOn l' =>
      rw [outcome] at taken keeps
      cases taken
      apply loop_ok s l' ok.queued
      intro i ctx
      exact in_loop ok l here i (keeps.symm.trans ctx)
  | replies caller l' =>
      rw [outcome] at taken keeps
      cases taken
      obtain ⟨ctx, answered⟩ := keeps
      refine ⟨ok.queued, fun j _ hand => ?_, fun j w hand => ?_, fun j pending => ?_, answered⟩
      · cases hand
      · cases hand
        exact .inl (in_loop ok l here caller ctx)
      · cases pending
  | leaves =>
      rw [outcome] at taken
      cases taken
      exact leave_loop_ok s l ok.queued fun i ctx => .inl (in_loop ok l here i ctx)
  | panics =>
      rw [outcome] at taken
      cases taken

theorem reader_ok (k : Nat) (reader : ConnReader) (ok : CallersOk s) : CallersOk (s.setReader k reader) :=
  same_ok _ ok rfl rfl rfl id

theorem receive_kept (cfg : ConnConfig) (next : GatewayConn) (check : GatewayCheck) (ok : CallersOk s)
    (taken : s.receive cfg check = some next) : CallersOk next := by
  have leaves : ∀ (s' : GatewayConn) (l : WireLoop), CallersOk s' → s'.phase = .loop l → CallersOk (s'.leaveLoop l) := by
    intro s' l ok' here
    exact leave_loop_ok s' l ok'.queued fun i ctx => .inl (in_loop ok' l here i ctx)
  rw [GatewayConn.receive] at taken
  split at taken
  · rename_i l cmd here last
    have read := reader_ok (s.readers.length - 1) .receiving ok
    split at taken
    · cases taken
      exact read
    · cases taken
      exact leaves _ l read here
    · exact handled_kept cfg next l cmd read here taken
  · rename_i l here last
    cases taken
    exact leaves _ l (reader_ok (s.readers.length - 1) .closed ok) here
  · rename_i l here last
    cases taken
    exact leaves s l ok here
  · cases taken

theorem quit_kept (next : GatewayConn) (ok : CallersOk s) (taken : s.quit = some next) : CallersOk next := by
  rw [GatewayConn.quit] at taken
  split at taken
  · rename_i l here
    cases taken
    exact leave_loop_ok s l ok.queued fun i ctx => .inl (in_loop ok l here i ctx)
  · cases taken

theorem hand_apart (ok : CallersOk s) (i : Nat) (hand : s.phase.hand = some (i, .consensusWaiting)) (j : Nat)
    (waits : s.getConsensusCh = some j) : i ≠ j := by
  intro same
  exact ok.apart j waits (same ▸ hand)

theorem hand_over_kept (next : GatewayConn) (ok : CallersOk s) (taken : s.handOver = some next) : CallersOk next := by
  have sane := ok.sane
  rw [GatewayConn.handOver] at taken
  split at taken
  · rename_i i l failed here
    split at taken
    · rename_i waits
      have queued := queue_set ok i .returned (queue_apart ok i _ waits (by decide))
      have pending : ∀ j, l.consensusCtx = some j → (s.setCaller i .returned).callers[j]? = some .consensusReply := by
        intro j ctx
        exact set_other s.callers i j _ _ _ waits (ok.pending j (by rw [here]; exact ctx)) (by decide)
      cases failed with
      | true =>
          cases taken
          exact leave_loop_ok _ l queued fun j ctx => .inl (pending j ctx)
      | false =>
          cases taken
          exact loop_ok _ l queued pending
    · cases taken
  · rename_i i l result here
    split at taken
    · rename_i waits
      have queued := fun x => queue_set ok i x (hand_apart ok i (by rw [here]; rfl))
      rw [here] at sane
      cases result with
      | outstanding =>
          cases taken
          apply loop_ok _ l (queued .returned)
          intro j ctx
          exact set_other s.callers i j _ _ _ waits (ok.pending j (by rw [here]; exact ctx)) (by decide)
      | sent =>
          cases taken
          apply loop_ok _ l (queued .consensusReply)
          intro j ctx
          cases sane.symm.trans ctx
          exact set_here s.callers i _ _ waits
      | failed =>
          cases taken
          exact leave_loop_ok _ l (queued .returned) fun _ _ => .inr sane.2
    · cases taken
  · rename_i i l here
    split at taken
    · rename_i waits
      cases taken
      rw [here] at sane
      apply loop_ok _ l (queue_set ok i .returned (queue_apart ok i _ waits (by decide)))
      intro j ctx
      cases sane.symm.trans ctx
    · cases taken
  · rename_i i here
    split at taken
    · rename_i waits
      cases taken
      exact lost_ok _ .deferred (queue_set ok i .returned (queue_apart ok i _ waits (by decide)))
    · cases taken
  · rename_i i round here
    split at taken
    · rename_i waits
      cases taken
      exact quiet_ok _ (drain_consensus_quiet round) (queue_set ok i .returned (queue_apart ok i _ waits (by decide)))
    · cases taken
  · rename_i i round here
    split at taken
    · rename_i waits
      cases taken
      exact drained_ok _ round (queue_set ok i .returned (hand_apart ok i (by rw [here]; rfl)))
    · cases taken
  · cases taken

theorem drain_kept (next : GatewayConn) (i : Option Nat) (ok : CallersOk s) (taken : s.drain i = some next) : CallersOk next := by
  unfold GatewayConn.drain at taken
  split at taken
  · rename_i round i here
    split at taken
    · rename_i offers
      cases taken
      refine ⟨queue_set ok i _ (queue_apart ok i _ offers (by decide)), fun j _ hand => ?_, fun j w hand => ?_, fun j ctx => ?_, trivial⟩
      · cases hand
      · cases hand
        exact .inl (set_here s.callers i _ _ offers)
      · cases ctx
    · cases taken
  · rename_i round here
    cases taken
    exact quiet_ok _ (drain_consensus_quiet round) ok.queued
  · rename_i round here
    split at taken
    · rename_i i waits
      cases taken
      refine ⟨fun j queued => (by cases queued), fun j queued => (by cases queued), fun j w hand => ?_, fun j ctx => ?_, trivial⟩
      · cases hand
        exact .inl (ok.queued i waits)
      · cases ctx
    · cases taken
      exact drained_ok s round ok.queued
  · cases taken

theorem callers_kept (cfg : ConnConfig) (next : GatewayConn) (event : GatewayEvent) (ok : CallersOk s)
    (patient : s.patient event = true) (taken : s.step cfg event = some next) : CallersOk next := by
  cases event with
  | sendPacket =>
      simp only [GatewayConn.step, GatewayConn.sendPacket] at taken
      split at taken
      · cases taken
        exact append_ok .sendOffering ok
      · cases taken
  | getConsensus =>
      simp only [GatewayConn.step, GatewayConn.getConsensus] at taken
      split at taken
      · cases taken
        exact append_ok .consensusOffering ok
      · cases taken
  | put i => exact put_kept next i ok taken
  | leave i => exact leave_kept next i ok patient taken
  | forceFetch =>
      cases taken
      exact same_ok _ ok rfl rfl rfl id
  | shutdown =>
      cases taken
      exact same_ok _ ok rfl rfl rfl id
  | halt =>
      cases taken
      exact same_ok _ ok rfl rfl rfl fun _ => rfl
  | connect =>
      simp only [GatewayConn.step, GatewayConn.connect] at taken
      split at taken
      · cases taken
        exact quiet_ok _ ⟨rfl, rfl, fun _ => trivial⟩ ok.queued
      · cases taken
  | stopDialing =>
      simp only [GatewayConn.step, GatewayConn.stopDialing] at taken
      split at taken
      · split at taken
        · cases taken
          exact quiet_ok _ ⟨rfl, rfl, fun _ => trivial⟩ ok.queued
        · cases taken
      · cases taken
  | fetch sent => exact fetch_kept next sent ok taken
  | takeSend i sent => exact take_send_kept next i sent ok taken
  | takeConsensus sent => exact take_consensus_kept next sent ok patient taken
  | receive check => exact receive_kept cfg next check ok taken
  | seeHalt =>
      simp only [GatewayConn.step] at taken
      split at taken
      · exact quit_kept next ok taken
      · cases taken
  | callbackError => exact quit_kept next ok taken
  | handOver => exact hand_over_kept next ok taken
  | deferredHalt =>
      simp only [GatewayConn.step, GatewayConn.deferredHalt] at taken
      split at taken
      · split at taken
        · cases taken
          exact lost_ok s .deferred ok.queued
        · cases taken
      · cases taken
  | drain i => exact drain_kept next i ok taken
  | readerReceives k cmd =>
      simp only [GatewayConn.step, GatewayConn.readerReceives] at taken
      split at taken
      · cases taken
        exact reader_ok k _ ok
      · cases taken
  | readerHalts k =>
      simp only [GatewayConn.step, GatewayConn.readerHalts] at taken
      split at taken
      · split at taken
        · cases taken
          exact reader_ok k _ ok
        · cases taken
      · split at taken
        · cases taken
          exact reader_ok k _ ok
        · cases taken
      · cases taken

end Kept

def StatusRound.rank : StatusRound → Nat
  | .emitted => 0
  | .deferred => 4

def GatewayPhase.rank : GatewayPhase → Nat
  | .exited => 0
  | .dialing => 1
  | .drainConsensusDone _ round => 2 + round.rank
  | .drainConsensus round => 3 + round.rank
  | .drainSendDone _ round => 4 + round.rank
  | .drainSend round => 5 + round.rank
  | .deferredReply _ => 10
  | .loop _ => 11
  | _ => 12

def ConnReader.rank : ConnReader → Nat
  | .closed => 0
  | .receiving => 2
  | _ => 1

def GatewayConn.rank (s : GatewayConn) : Nat := s.phase.rank + (s.readers.map ConnReader.rank).sum

structure Onward (s next : GatewayConn) (bound : Nat) : Prop where
  halted : next.halted = s.halted
  readers : next.readers = s.readers
  rank : next.phase.rank ≤ bound

section Exit

variable (cfg : ConnConfig) (s : GatewayConn)

theorem lost_onward (round : StatusRound) : Onward s (s.lost round) (5 + round.rank) := by
  cases round with
  | emitted =>
      rw [GatewayConn.lost]
      split
      · exact ⟨rfl, rfl, of_decide_eq_true rfl⟩
      · exact ⟨rfl, rfl, of_decide_eq_true rfl⟩
  | deferred =>
      rw [GatewayConn.lost]
      split
      · exact ⟨rfl, rfl, of_decide_eq_true rfl⟩
      · exact ⟨rfl, rfl, of_decide_eq_true rfl⟩

theorem drained_onward (round : StatusRound) : Onward s (s.drained round) (1 + round.rank) := by
  cases round with
  | emitted => exact ⟨rfl, rfl, of_decide_eq_true rfl⟩
  | deferred =>
      obtain ⟨halted, readers, rank⟩ := lost_onward { s with fetchCh := false } .emitted
      exact ⟨halted, readers, rank⟩

theorem leave_loop_onward (l : WireLoop) : Onward s (s.leaveLoop l) 10 := by
  rw [GatewayConn.leaveLoop]
  split
  · exact ⟨rfl, rfl, of_decide_eq_true rfl⟩
  · obtain ⟨halted, readers, rank⟩ := lost_onward s .deferred
    exact ⟨halted, readers, rank.trans (of_decide_eq_true rfl)⟩

variable {s}

theorem goroutine_steps (ok : CallersOk s) (halted : s.halted = true) (busy : s.phase ≠ .exited) :
    ∃ event next bound, GatewayEvent.own event = true ∧ s.step cfg event = some next ∧ Onward s next bound ∧ bound < s.phase.rank := by
  have served := ok.served
  cases here : s.phase with
  | exited => exact absurd here busy
  | dialing =>
      refine ⟨.stopDialing, { s with phase := .exited }, 0, rfl, ?_, ⟨rfl, rfl, Nat.le_refl _⟩, of_decide_eq_true rfl⟩
      simp only [GatewayConn.step, GatewayConn.stopDialing, here, halted, if_true]
  | loop l =>
      refine ⟨.seeHalt, s.leaveLoop l, 10, rfl, ?_, leave_loop_onward s l, of_decide_eq_true rfl⟩
      simp only [GatewayConn.step, GatewayConn.quit, here, halted, if_true]
  | sendDone i l failed =>
      have waits : s.callers[i]? = some .sendWaiting :=
        (served i .sendWaiting (by rw [here]; rfl)).resolve_right fun there => by cases here.symm.trans there.2
      cases failed with
      | true =>
          refine ⟨.handOver, (s.setCaller i .returned).leaveLoop l, 10, rfl, ?_, ?_, of_decide_eq_true rfl⟩
          · simp only [GatewayConn.step, GatewayConn.handOver, here, waits, if_true]
          · obtain ⟨halted, readers, rank⟩ := leave_loop_onward (s.setCaller i .returned) l
            exact ⟨halted, readers, rank⟩
      | false =>
          refine ⟨.handOver, { s.setCaller i .returned with phase := .loop l }, 11, rfl, ?_, ⟨rfl, rfl, Nat.le_refl _⟩, of_decide_eq_true rfl⟩
          simp only [GatewayConn.step, GatewayConn.handOver, here, waits, if_true, Bool.false_eq_true, if_false]
  | consensusDone i l result =>
      have waits : s.callers[i]? = some .consensusWaiting :=
        (served i .consensusWaiting (by rw [here]; rfl)).resolve_right fun there => by cases here.symm.trans there.2
      cases result with
      | outstanding =>
          refine ⟨.handOver, { s.setCaller i .returned with phase := .loop l }, 11, rfl, ?_, ⟨rfl, rfl, Nat.le_refl _⟩, of_decide_eq_true rfl⟩
          simp only [GatewayConn.step, GatewayConn.handOver, here, waits, if_true]
      | sent =>
          refine ⟨.handOver, { s.setCaller i .consensusReply with phase := .loop l }, 11, rfl, ?_, ⟨rfl, rfl, Nat.le_refl _⟩,
            of_decide_eq_true rfl⟩
          simp only [GatewayConn.step, GatewayConn.handOver, here, waits, if_true]
      | failed =>
          refine ⟨.handOver, (s.setCaller i .returned).leaveLoop l, 10, rfl, ?_, ?_, of_decide_eq_true rfl⟩
          · simp only [GatewayConn.step, GatewayConn.handOver, here, waits, if_true]
          · obtain ⟨halted, readers, rank⟩ := leave_loop_onward (s.setCaller i .returned) l
            exact ⟨halted, readers, rank⟩
  | replying i l =>
      have waits : s.callers[i]? = some .consensusReply :=
        (served i .consensusReply (by rw [here]; rfl)).resolve_right fun there => by cases here.symm.trans there.2
      refine ⟨.handOver, { s.setCaller i .returned with phase := .loop l }, 11, rfl, ?_, ⟨rfl, rfl, Nat.le_refl _⟩, of_decide_eq_true rfl⟩
      simp only [GatewayConn.step, GatewayConn.handOver, here, waits, if_true]
  | deferredReply i =>
      refine ⟨.deferredHalt, s.lost .deferred, 9, rfl, ?_, lost_onward s .deferred, of_decide_eq_true rfl⟩
      simp only [GatewayConn.step, GatewayConn.deferredHalt, here, halted, if_true]
  | drainSend round =>
      refine ⟨.drain none, { s with phase := .drainConsensus round }, 3 + round.rank, rfl, ?_, ⟨rfl, rfl, Nat.le_refl _⟩, ?_⟩
      · simp only [GatewayConn.step, GatewayConn.drain, here]
      · simp only [GatewayPhase.rank]
        omega
  | drainSendDone i round =>
      have waits : s.callers[i]? = some .sendWaiting :=
        (served i .sendWaiting (by rw [here]; rfl)).resolve_right fun there => by cases here.symm.trans there.2
      refine ⟨.handOver, { s.setCaller i .returned with phase := .drainConsensus round }, 3 + round.rank, rfl, ?_,
        ⟨rfl, rfl, Nat.le_refl _⟩, ?_⟩
      · simp only [GatewayConn.step, GatewayConn.handOver, here, waits, if_true]
      · simp only [GatewayPhase.rank]
        omega
  | drainConsensus round =>
      cases queue : s.getConsensusCh with
      | some i =>
          refine ⟨.drain none, { s with getConsensusCh := none, phase := .drainConsensusDone i round }, 2 + round.rank, rfl, ?_,
            ⟨rfl, rfl, Nat.le_refl _⟩, ?_⟩
          · simp only [GatewayConn.step, GatewayConn.drain, here, queue]
          · simp only [GatewayPhase.rank]
            omega
      | none =>
          refine ⟨.drain none, s.drained round, 1 + round.rank, rfl, ?_, drained_onward s round, ?_⟩
          · simp only [GatewayConn.step, GatewayConn.drain, here, queue]
          · simp only [GatewayPhase.rank]
            omega
  | drainConsensusDone i round =>
      have waits : s.callers[i]? = some .consensusWaiting :=
        (served i .consensusWaiting (by rw [here]; rfl)).resolve_right fun there => by cases here.symm.trans there.2
      refine ⟨.handOver, (s.setCaller i .returned).drained round, 1 + round.rank, rfl, ?_, ?_, ?_⟩
      · simp only [GatewayConn.step, GatewayConn.handOver, here, waits, if_true]
      · obtain ⟨halted, readers, rank⟩ := drained_onward (s.setCaller i .returned) round
        exact ⟨halted, readers, rank⟩
      · simp only [GatewayPhase.rank]
        omega

theorem rank_set (readers : List ConnReader) (k : Nat) (reader next : ConnReader) (here : readers[k]? = some reader)
    (nearer : next.rank < reader.rank) :
    ((readers.set k next).map ConnReader.rank).sum < (readers.map ConnReader.rank).sum := by
  induction readers generalizing k with
  | nil => cases here
  | cons head tail ih =>
      cases k with
      | zero =>
          cases here
          simp only [List.set_cons_zero, List.map_cons, List.sum_cons]
          omega
      | succ k =>
          have rest := ih k here
          simp only [List.set_cons_succ, List.map_cons, List.sum_cons]
          omega

theorem reader_steps (halted : s.halted = true) (reader : ConnReader) (member : reader ∈ s.readers) (busy : reader ≠ .closed) :
    ∃ event next, GatewayEvent.own event = true ∧ s.step cfg event = some next ∧ next.halted = true ∧ next.rank < s.rank := by
  obtain ⟨k, found⟩ := List.mem_iff_getElem?.mp member
  have nearer : ∀ after : ConnReader, after.rank < reader.rank → (s.setReader k after).rank < s.rank := fun after lower =>
    Nat.add_lt_add_left (rank_set s.readers k reader after found lower) _
  cases reader with
  | closed => exact absurd rfl busy
  | receiving =>
      refine ⟨.readerReceives k none, s.setReader k .failed, rfl, ?_, halted, nearer .failed (by decide)⟩
      simp only [GatewayConn.step, GatewayConn.readerReceives, found, Option.elim_none]
  | offering cmd =>
      refine ⟨.readerHalts k, s.setReader k .closed, rfl, ?_, halted, nearer .closed (of_decide_eq_true rfl)⟩
      simp only [GatewayConn.step, GatewayConn.readerHalts, found, halted, if_true]
  | failed =>
      refine ⟨.readerHalts k, s.setReader k .closed, rfl, ?_, halted, nearer .closed (by decide)⟩
      simp only [GatewayConn.step, GatewayConn.readerHalts, found, halted, if_true]

theorem own_patient (event : GatewayEvent) (own : event.own = true) : s.patient event = true := by
  cases event with
  | leave i => cases own
  | takeConsensus sent => cases own
  | _ => rfl

theorem halted_exits (ok : CallersOk s) (halted : s.halted = true) : s.CanExit cfg := by
  induction distance : s.rank using Nat.strong_induction_on generalizing s with
  | _ n ih =>
      have onwards : ∀ event next, GatewayEvent.own event = true → s.step cfg event = some next → next.halted = true →
          next.rank < s.rank → s.CanExit cfg := by
        intro event next own taken still nearer
        have kept := callers_kept cfg next event ok (own_patient event own) taken
        obtain ⟨events, final, all_own, reached, exited⟩ := ih next.rank (distance ▸ nearer) kept still rfl
        refine ⟨event :: events, final, ?_, by rw [run, taken]; exact reached, exited⟩
        exact List.forall_mem_cons.mpr ⟨own, all_own⟩
      by_cases done : s.phase = .exited
      · by_cases closed : ∀ reader ∈ s.readers, reader = .closed
        · exact ⟨[], s, fun event member => (by cases member), rfl, done, closed⟩
        · push Not at closed
          obtain ⟨reader, member, busy⟩ := closed
          obtain ⟨event, next, own, taken, still, nearer⟩ := reader_steps cfg halted reader member busy
          exact onwards event next own taken still nearer
      · obtain ⟨event, next, bound, own, taken, onward, below⟩ := goroutine_steps cfg ok halted done
        apply onwards event next own taken (onward.halted.trans halted)
        have lower := Nat.lt_of_le_of_lt onward.rank below
        rw [GatewayConn.rank, GatewayConn.rank, onward.readers]
        omega

/-- As long as callers stay until the connection is done with their requests and the requests for
a consensus can be written, no result waits for a caller that has returned, and after Halt all
goroutines can exit. -/
theorem callers_never_block (events : List GatewayEvent)
    (meets : Meets (GatewayConn.step cfg) (fun s event => s.patient event = true) newConnection events) :
    Always (GatewayConn.step cfg) (fun s => s.Served ∧ (s.halted = true → s.CanExit cfg)) newConnection events := by
  refine always_of_invariant _ _ CallersOk _ ?_ ?_ events _ ?_ meets
  · intro s event next ok patient taken
    exact callers_kept cfg next event ok patient taken
  · intro s ok
    exact ⟨ok.served, fun halted => halted_exits cfg ok halted⟩
  · exact quiet_ok _ dialing_quiet fun i waits => (by cases waits)

end Exit

section Stuck

variable (cfg : ConnConfig) {s : GatewayConn}

theorem stuck_step (next : GatewayConn) (event : GatewayEvent) (i : Nat) (l : WireLoop) (result : Dispatched)
    (here : s.phase = .consensusDone i l result) (gone : s.callers[i]? = some .returned) (taken : s.step cfg event = some next) :
    next.phase = .consensusDone i l result ∧ next.callers[i]? = some .returned := by
  have other : ∀ (j : Nat) w x, s.callers[j]? = some w → w ≠ .returned → (s.callers.set j x)[i]? = some .returned := by
    intro j w x there unlike
    exact set_other s.callers j i w _ x there gone unlike
  have appended : ∀ caller, (s.callers ++ [caller])[i]? = some .returned := by
    intro caller
    rw [List.getElem?_append_left (List.getElem?_eq_some_iff.mp gone).1, gone]
  cases event with
  | sendPacket =>
      simp only [GatewayConn.step, GatewayConn.sendPacket] at taken
      split at taken
      · cases taken
        exact ⟨here, appended _⟩
      · cases taken
  | getConsensus =>
      simp only [GatewayConn.step, GatewayConn.getConsensus] at taken
      split at taken
      · cases taken
        exact ⟨here, appended _⟩
      · cases taken
  | put j =>
      simp only [GatewayConn.step, GatewayConn.put] at taken
      split at taken
      · rename_i there _
        cases taken
        exact ⟨here, other j _ _ there (by decide)⟩
      · cases taken
  | leave j =>
      simp only [GatewayConn.step, GatewayConn.leave] at taken
      split at taken
      · rename_i there
        split at taken
        · cases taken
          exact ⟨here, other j _ _ there (by decide)⟩
        · cases taken
      · rename_i there
        split at taken
        · cases taken
          exact ⟨here, other j _ _ there (by decide)⟩
        · cases taken
      · rename_i there
        cases taken
        exact ⟨here, other j _ _ there (by decide)⟩
      · rename_i there
        cases taken
        exact ⟨here, other j _ _ there (by decide)⟩
      · rename_i there
        cases taken
        exact ⟨here, other j _ _ there (by decide)⟩
      · cases taken
  | forceFetch =>
      cases taken
      exact ⟨here, gone⟩
  | shutdown =>
      cases taken
      exact ⟨here, gone⟩
  | halt =>
      cases taken
      exact ⟨here, gone⟩
  | handOver => simp [GatewayConn.step, GatewayConn.handOver, here, gone] at taken
  | connect => simp [GatewayConn.step, GatewayConn.connect, here] at taken
  | stopDialing => simp [GatewayConn.step, GatewayConn.stopDialing, here] at taken
  | fetch sent => simp [GatewayConn.step, GatewayConn.fetch, here] at taken
  | takeSend j sent => simp [GatewayConn.step, GatewayConn.takeSend, here] at taken
  | takeConsensus sent => simp [GatewayConn.step, GatewayConn.takeConsensus, here] at taken
  | receive check => simp [GatewayConn.step, GatewayConn.receive, here] at taken
  | seeHalt => simp [GatewayConn.step, GatewayConn.quit, here] at taken
  | callbackError => simp [GatewayConn.step, GatewayConn.quit, here] at taken
  | deferredHalt => simp [GatewayConn.step, GatewayConn.deferredHalt, here] at taken
  | drain j => simp [GatewayConn.step, GatewayConn.drain, here] at taken
  | readerReceives k cmd =>
      simp only [GatewayConn.step, GatewayConn.readerReceives] at taken
      split at taken
      · cases taken
        exact ⟨here, gone⟩
      · cases taken
  | readerHalts k =>
      simp only [GatewayConn.step, GatewayConn.readerHalts] at taken
      split at taken
      · split at taken
        · cases taken
          exact ⟨here, gone⟩
        · cases taken
      · split at taken
        · cases taken
          exact ⟨here, gone⟩
        · cases taken
      · cases taken

theorem stuck_run (later : List GatewayEvent) (final : GatewayConn) (i : Nat) (l : WireLoop) (result : Dispatched)
    (here : s.phase = .consensusDone i l result) (gone : s.callers[i]? = some .returned)
    (reached : run (GatewayConn.step cfg) s later = some final) : final.phase = .consensusDone i l result :=
  (run_preserves _ (fun s => s.phase = .consensusDone i l result ∧ s.callers[i]? = some .returned) (fun _ _ => True)
    (fun _ event next inv _ taken => stuck_step cfg next event i l result inv.1 inv.2 taken) later s final ⟨here, gone⟩
    (meets_always _ _ (fun _ _ => trivial) later s) reached).1

end Stuck

def plainConn : ConnConfig := ⟨true, some⟩

def servedCalls : List GatewayEvent :=
  [.connect, .getConsensus, .put 0, .takeConsensus true, .handOver, .sendPacket, .takeSend 1 true, .handOver,
   .readerReceives 0 (some (.consensus2 0 0 1 [7])), .receive .valid, .handOver, .getConsensus, .put 2, .halt, .seeHalt]

theorem served_calls_never_block :
    ((run (GatewayConn.step plainConn) newConnection servedCalls).map fun s => (s.halted, s.callers)) =
      some (true, [.returned, .returned, .consensusWaiting]) ∧
    Always (GatewayConn.step plainConn) (fun s => s.Served ∧ (s.halted = true → s.CanExit plainConn)) newConnection
      servedCalls :=
  ⟨by decide +kernel, callers_never_block plainConn servedCalls (by decide +kernel)⟩

def cancelledConn : GatewayConn :=
  ⟨.consensusDone 0 { newWireLoop with consensusCtx := some 0 } .sent, [.returned], none, false, [.receiving], true, false, false⟩

/-- The goroutine never leaves doneFn then, not even after Halt. And if a GetConsensus request
cannot be written, its caller returns with the error of doneFn, and the deferred function goes on
to wait for it at replyCh. -/
theorem abandoned_callers_block :
    run (GatewayConn.step plainConn) newConnection [.connect, .getConsensus, .put 0, .leave 0, .takeConsensus true] =
      some cancelledConn ∧
    (∀ later final, run (GatewayConn.step plainConn) cancelledConn later = some final → final.phase = cancelledConn.phase) ∧
    ((run (GatewayConn.step plainConn) newConnection [.connect, .getConsensus, .put 0, .takeConsensus false, .handOver]).map
      fun s => (s.phase, s.callers, s.halted)) = some (.deferredReply 0, [.returned], false) :=
  ⟨by decide +kernel, fun later final reached => stuck_run plainConn later final 0 _ _ rfl rfl reached, by decide +kernel⟩

end Katzenpost
