import Katzenpost.Wire.Decoding
import Katzenpost.Wire.Session

set_option autoImplicit false

namespace Katzenpost

open Go

section Moves

variable {Key : Type} (noise : NoiseCipher Key) (cfg : EndConfig)

inductive EndMoves (e : SessionEnd Key) : SessionOp → SessionEnd Key → Prop where
  | refused (pt : Bytes) : EndMoves e (.send pt) e
  | checked (pt : Bytes) (idle : e.sending = .idle) (ready : e.established = true) :
      EndMoves e (.send pt) { e with sending := .checked pt, sendLate := e.failed }
  | headerExhausted (pt : Bytes) (at' : e.sending = .checked pt) (spent : noise.maxNonce ≤ e.tx.n) :
      EndMoves e .sealHeader { e with sending := .idle }
  | headerSealed (pt : Bytes) (at' : e.sending = .checked pt) (unspent : e.tx.n < noise.maxNonce) :
      EndMoves e .sealHeader
        { e with sending := .header pt ⟨e.tx.key, e.tx.n, noise.encrypt e.tx.key e.tx.n (ctHeader pt)⟩, tx := e.tx.next }
  | bodyExhausted (pt : Bytes) (header : SealedPart Key) (at' : e.sending = .header pt header) (spent : noise.maxNonce ≤ e.tx.n) :
      EndMoves e .sealBody { e with sending := .idle }
  | bodySealed (pt : Bytes) (header : SealedPart Key) (at' : e.sending = .header pt header) :
      EndMoves e .sealBody
        { e with sending := .body ⟨pt, header, ⟨e.tx.key, e.tx.n, noise.encrypt e.tx.key e.tx.n pt⟩⟩, tx := e.tx.next }
  | rekeyedTx (cmd : WrittenCommand Key) (at' : e.sending = .body cmd) :
      EndMoves e .rekeyTx { e with sending := .rekeyed cmd, tx := e.tx.rekeyed noise }
  | wrote (cmd : WrittenCommand Key) (at' : e.sending = .rekeyed cmd) :
      EndMoves e (.write true)
        { e with sending := .idle, written := e.written ++ [cmd], lateSuccess := e.lateSuccess || e.sendLate }
  | writeFailed (cmd : WrittenCommand Key) (at' : e.sending = .rekeyed cmd) :
      EndMoves e (.write false) { e with sending := .idle, written := e.written ++ [cmd], established := false, failed := true }
  | recvFailed (op : SessionOp) : EndMoves e op e.recvFails
  | recvStarted (idle : e.receiving = .idle) (ready : e.established = true) :
      EndMoves e .recv { e with receiving := .started, recvLate := e.failed }
  | headerRead (ct : Bytes) (ctLen : UInt32) (at' : e.receiving = .started) :
      EndMoves e (.readHeader (some ct)) { e with receiving := .header ctLen, rx := e.rx.next }
  | bodyRead (ct pt : Bytes) (ctLen : UInt32) (at' : e.receiving = .header ctLen) (opened : e.rx.open noise ct = some pt) :
      EndMoves e (.readBody (some ct)) { e with receiving := .body pt, rx := e.rx.next }
  | rekeyedRx (pt : Bytes) (at' : e.receiving = .body pt) :
      EndMoves e .rekeyRx { e with receiving := .rekeyed pt, rx := e.rx.rekeyed noise }
  | parsed (spare pt : Bytes) (cmd : WireCommand) (at' : e.receiving = .rekeyed pt)
      (decoded : (cfg.commands.fromBytes (spareSlice pt spare)).outcome = .returns cmd) :
      EndMoves e (.parse spare)
        { e with receiving := .idle, received := e.received ++ [cmd], lateSuccess := e.lateSuccess || e.recvLate }
  | closeTx : EndMoves e .closeTx { e with tx := e.tx.rekeyed noise }
  | closeRx : EndMoves e .closeRx { e with rx := e.rx.rekeyed noise }
  | closeState : EndMoves e .closeState { e with established := false }

theorem end_moves (e next : SessionEnd Key) (op : SessionOp) (taken : e.step noise cfg op = some next) :
    EndMoves noise cfg e op next := by
  cases op with
  | send pt =>
      simp only [SessionEnd.step, SessionEnd.send] at taken
      split at taken
      · rename_i idle
        split at taken
        · cases taken
          exact .refused pt
        · rename_i ready
          split at taken
          · cases taken
            exact .refused pt
          · cases taken
            exact .checked pt idle (by simpa using ready)
      · cases taken
  | sealHeader =>
      simp only [SessionEnd.step, SessionEnd.sealHeader] at taken
      split at taken
      · rename_i pt at'
        by_cases spent : noise.maxNonce ≤ e.tx.n
        · simp only [CipherState.seal, ge_iff_le, if_pos spent] at taken
          cases taken
          exact .headerExhausted pt at' spent
        · simp only [CipherState.seal, ge_iff_le, if_neg spent] at taken
          cases taken
          exact .headerSealed pt at' (Nat.lt_of_not_le spent)
      · cases taken
  | sealBody =>
      simp only [SessionEnd.step, SessionEnd.sealBody] at taken
      split at taken
      · rename_i pt header at'
        by_cases spent : noise.maxNonce ≤ e.tx.n
        · simp only [CipherState.seal, ge_iff_le, if_pos spent] at taken
          cases taken
          exact .bodyExhausted pt header at' spent
        · simp only [CipherState.seal, ge_iff_le, if_neg spent] at taken
          cases taken
          exact .bodySealed pt header at'
      · cases taken
  | rekeyTx =>
      simp only [SessionEnd.step, SessionEnd.rekeyTx] at taken
      split at taken
      · rename_i cmd at'
        cases taken
        exact .rekeyedTx cmd at'
      · cases taken
  | write ok =>
      simp only [SessionEnd.step, SessionEnd.write] at taken
      split at taken
      · rename_i cmd at'
        cases ok with
        | true =>
            cases taken
            exact .wrote cmd at'
        | false =>
            cases taken
            exact .writeFailed cmd at'
      · cases taken
  | recv =>
      simp only [SessionEnd.step, SessionEnd.recv] at taken
      split at taken
      · rename_i idle
        split at taken
        · cases taken
          exact .recvFailed _
        · rename_i ready
          cases taken
          exact .recvStarted idle (by simpa using ready)
      · cases taken
  | readHeader bytes =>
      simp only [SessionEnd.step, SessionEnd.readHeader] at taken
      split at taken
      · cases taken
        exact .recvFailed _
      · rename_i ct at'
        split at taken
        · cases taken
        · split at taken
          · cases taken
            exact .recvFailed _
          · split at taken
            · cases taken
              exact .recvFailed _
            · split at taken
              · cases taken
                exact .recvFailed _
              · cases taken
                exact .headerRead ct _ at'
      · cases taken
  | readBody bytes =>
      simp only [SessionEnd.step, SessionEnd.readBody] at taken
      split at taken
      · cases taken
        exact .recvFailed _
      · rename_i ctLen ct at'
        split at taken
        · cases taken
        · split at taken
          · cases taken
            exact .recvFailed _
          · rename_i pt opened
            cases taken
            exact .bodyRead ct pt ctLen at' opened
      · cases taken
  | rekeyRx =>
      simp only [SessionEnd.step, SessionEnd.rekeyRx] at taken
      split at taken
      · rename_i pt at'
        cases taken
        exact .rekeyedRx pt at'
      · cases taken
  | parse spare =>
      simp only [SessionEnd.step, SessionEnd.parse] at taken
      split at taken
      · rename_i pt at'
        split at taken
        · cases taken
        · cases taken
          exact .recvFailed _
        · rename_i cmd decoded
          cases taken
          exact .parsed spare pt cmd at' decoded
      · cases taken
  | closeTx =>
      cases taken
      exact .closeTx
  | closeRx =>
      cases taken
      exact .closeRx
  | closeState =>
      cases taken
      exact .closeState

end Moves

section Invariants

variable {Key : Type} (noise : NoiseCipher Key)

structure WroteAt (i : Nat) (cmd : WrittenCommand Key) : Prop where
  header : cmd.header.nonce = 2 * i
  body : cmd.body.nonce = 2 * i + 1
  encrypted : cmd.body.ct = noise.encrypt cmd.body.key cmd.body.nonce cmd.pt

def sendPosition (count n : Nat) : SendPhase Key → Prop
  | .idle => n = 2 * count ∨ noise.maxNonce ≤ n
  | .checked _ => n = 2 * count ∨ noise.maxNonce ≤ n
  | .header _ header => n = 2 * count + 1 ∧ header.nonce = 2 * count
  | .body cmd => n = 2 * (count + 1) ∧ WroteAt noise count cmd
  | .rekeyed cmd => n = 2 * (count + 1) ∧ WroteAt noise count cmd

structure SenderOk (written : List (WrittenCommand Key)) (n : Nat) (phase : SendPhase Key) : Prop where
  wrote : ∀ i cmd, written[i]? = some cmd → WroteAt noise i cmd
  position : sendPosition noise written.length n phase

def recvPosition (written : List (WrittenCommand Key)) (count n : Nat) (established : Bool) : RecvPhase → Prop
  | .idle => established = true → n = 2 * count
  | .started => n = 2 * count
  | .header _ => n = 2 * count + 1
  | .body pt => n = 2 * (count + 1) ∧ written[count]?.map WrittenCommand.pt = some pt
  | .rekeyed pt => n = 2 * (count + 1) ∧ written[count]?.map WrittenCommand.pt = some pt

structure ReceiverOk (c : Commands) (written : List (WrittenCommand Key)) (received : List WireCommand) (n : Nat)
    (established : Bool) (phase : RecvPhase) : Prop where
  delivered : List.Forall₂ (fun cmd (sent : WrittenCommand Key) => Decodes c sent.pt cmd) received (written.take received.length)
  position : recvPosition written received.length n established phase

structure Calm (e : SessionEnd Key) : Prop where
  fatal : e.failed = true → e.established = false
  sending : e.sending ≠ .idle → e.sendLate = false
  receiving : e.receiving ≠ .idle → e.recvLate = false
  none_late : e.lateSuccess = false

variable {noise}

theorem wrote_append (written : List (WrittenCommand Key)) (cmd : WrittenCommand Key)
    (wrote : ∀ i cmd, written[i]? = some cmd → WroteAt noise i cmd) (last : WroteAt noise written.length cmd) (i : Nat)
    (other : WrittenCommand Key) (found : (written ++ [cmd])[i]? = some other) : WroteAt noise i other := by
  rcases Nat.lt_trichotomy i written.length with before | here | after
  · rw [List.getElem?_append_left before] at found
    exact wrote i other found
  · subst here
    rw [List.getElem?_concat_length] at found
    cases found
    exact last
  · rw [List.getElem?_eq_none (by rw [List.length_append, List.length_singleton]; omega)] at found
    cases found

theorem sender_written (written : List (WrittenCommand Key)) (cmd : WrittenCommand Key) (n : Nat)
    (ok : SenderOk noise written n (.rekeyed cmd)) : SenderOk noise (written ++ [cmd]) n .idle := by
  constructor
  · exact wrote_append written cmd ok.wrote ok.position.2
  · rw [List.length_append, List.length_singleton]
    exact .inl ok.position.1

theorem sender_kept (cfg : EndConfig) (e next : SessionEnd Key) (op : SessionOp) (moves : EndMoves noise cfg e op next)
    (ok : SenderOk noise e.written e.tx.n e.sending) : SenderOk noise next.written next.tx.n next.sending := by
  cases moves with
  | refused pt => exact ok
  | checked pt idle ready =>
      rw [idle] at ok
      exact ⟨ok.wrote, ok.position⟩
  | headerExhausted pt at' spent => exact ⟨ok.wrote, .inr spent⟩
  | headerSealed pt at' unspent =>
      rw [at'] at ok
      have unused : e.tx.n = 2 * e.written.length := ok.position.resolve_right (Nat.not_le.mpr unspent)
      exact ⟨ok.wrote, congrArg (· + 1) unused, unused⟩
  | bodyExhausted pt header at' spent => exact ⟨ok.wrote, .inr spent⟩
  | bodySealed pt header at' =>
      rw [at'] at ok
      obtain ⟨here, sealed⟩ := ok.position
      exact ⟨ok.wrote, congrArg (· + 1) here, ⟨sealed, here, rfl⟩⟩
  | rekeyedTx cmd at' =>
      rw [at'] at ok
      exact ⟨ok.wrote, ok.position⟩
  | wrote cmd at' =>
      rw [at'] at ok
      exact sender_written e.written cmd e.tx.n ok
  | writeFailed cmd at' =>
      rw [at'] at ok
      exact sender_written e.written cmd e.tx.n ok
  | recvFailed op => exact ok
  | recvStarted idle ready => exact ok
  | headerRead ct ctLen at' => exact ok
  | bodyRead ct pt ctLen at' opened => exact ok
  | rekeyedRx pt at' => exact ok
  | parsed spare pt cmd at' decoded => exact ok
  | closeTx => exact ok
  | closeRx => exact ok
  | closeState => exact ok

theorem written_grows (cfg : EndConfig) (e next : SessionEnd Key) (op : SessionOp) (moves : EndMoves noise cfg e op next) :
    ∃ more, next.written = e.written ++ more := by
  cases moves with
  | wrote cmd at' => exact ⟨[cmd], rfl⟩
  | writeFailed cmd at' => exact ⟨[cmd], rfl⟩
  | _ => exact ⟨[], (List.append_nil _).symm⟩

theorem opened_body [DecidableEq Key] (laws : NoiseLaws noise) (e : SessionEnd Key) (written : List (WrittenCommand Key))
    (wrote : ∀ i cmd, written[i]? = some cmd → WroteAt noise i cmd) (count : Nat) (here : e.rx.n = 2 * count + 1)
    (ct pt : Bytes) (opened : e.rx.open noise ct = some pt) (authentic : e.authentic noise written ct = true) :
    written[count]?.map WrittenCommand.pt = some pt := by
  rw [SessionEnd.authentic, opened, Option.isNone_some, Bool.false_or, List.any_eq_true] at authentic
  obtain ⟨cmd, sent, which⟩ := authentic
  obtain ⟨i, found⟩ := List.mem_iff_getElem?.mp sent
  have parts := wrote i cmd found
  rw [Bool.or_eq_true, decide_eq_true_eq, decide_eq_true_eq] at which
  cases which with
  | inl header =>
      have nonce := parts.header
      rw [header] at nonce
      simp only at nonce
      omega
  | inr body =>
      have nonce := parts.body
      have encrypted := parts.encrypted
      rw [body] at nonce encrypted
      simp only at nonce encrypted
      have same : i = count := by omega
      subst same
      rw [CipherState.open] at opened
      split at opened
      · cases opened
      · rw [encrypted, laws.decrypt_encrypt] at opened
        rw [found, Option.map_some, opened]

theorem delivered_append (c : Commands) (written : List (WrittenCommand Key)) (received : List WireCommand) (pt : Bytes)
    (cmd : WireCommand) (found : written[received.length]?.map WrittenCommand.pt = some pt) (decodes : Decodes c pt cmd)
    (delivered : List.Forall₂ (fun cmd (sent : WrittenCommand Key) => Decodes c sent.pt cmd) received
      (written.take received.length)) :
    List.Forall₂ (fun cmd (sent : WrittenCommand Key) => Decodes c sent.pt cmd) (received ++ [cmd])
      (written.take (received ++ [cmd]).length) := by
  obtain ⟨sent, at', rfl⟩ := Option.map_eq_some_iff.mp found
  rw [List.length_append, List.length_singleton, List.take_add_one, at']
  exact List.rel_append delivered (.cons decodes .nil)

theorem receiver_ended (c : Commands) (written : List (WrittenCommand Key)) (received : List WireCommand) (n : Nat)
    (established : Bool) (phase : RecvPhase) (ok : ReceiverOk c written received n established phase) :
    ReceiverOk c written received n false phase := by
  refine ⟨ok.delivered, ?_⟩
  cases phase with
  | idle => exact fun established => Bool.noConfusion established
  | _ => exact ok.position

theorem receiver_kept [DecidableEq Key] (laws : NoiseLaws noise) (cfg : EndConfig) (e next : SessionEnd Key) (op : SessionOp)
    (written : List (WrittenCommand Key)) (wrote : ∀ i cmd, written[i]? = some cmd → WroteAt noise i cmd)
    (moves : EndMoves noise cfg e op next) (unforged : e.unforged noise written op = true)
    (ok : ReceiverOk cfg.commands written e.received e.rx.n e.established e.receiving) :
    ReceiverOk cfg.commands written next.received next.rx.n next.established next.receiving := by
  cases moves with
  | refused pt => exact ok
  | checked pt idle ready => exact ok
  | headerExhausted pt at' spent => exact ok
  | headerSealed pt at' unspent => exact ok
  | bodyExhausted pt header at' spent => exact ok
  | bodySealed pt header at' => exact ok
  | rekeyedTx cmd at' => exact ok
  | wrote cmd at' => exact ok
  | writeFailed cmd at' => exact receiver_ended cfg.commands written e.received e.rx.n e.established e.receiving ok
  | recvFailed op => exact ⟨ok.delivered, fun established => Bool.noConfusion established⟩
  | recvStarted idle ready =>
      rw [idle] at ok
      exact ⟨ok.delivered, ok.position ready⟩
  | headerRead ct ctLen at' =>
      rw [at'] at ok
      exact ⟨ok.delivered, congrArg (· + 1) ok.position⟩
  | bodyRead ct pt ctLen at' opened =>
      rw [at'] at ok
      exact ⟨ok.delivered, congrArg (· + 1) ok.position,
        opened_body laws e written wrote e.received.length ok.position ct pt opened unforged⟩
  | rekeyedRx pt at' =>
      rw [at'] at ok
      exact ⟨ok.delivered, ok.position⟩
  | parsed spare pt cmd at' decoded =>
      rw [at'] at ok
      obtain ⟨counted, found⟩ := ok.position
      have decodes : Decodes cfg.commands pt cmd := ⟨spareSlice pt spare, List.take_left, decoded⟩
      refine ⟨delivered_append cfg.commands written e.received pt cmd found decodes ok.delivered, fun _ => ?_⟩
      rw [List.length_append, List.length_singleton]
      exact counted
  | closeTx => exact ok
  | closeRx => exact ok
  | closeState => exact receiver_ended cfg.commands written e.received e.rx.n e.established e.receiving ok

theorem receiver_grows (c : Commands) (written more : List (WrittenCommand Key)) (received : List WireCommand) (n : Nat)
    (established : Bool) (phase : RecvPhase) (ok : ReceiverOk c written received n established phase) :
    ReceiverOk c (written ++ more) received n established phase := by
  have within : received.length ≤ written.length := by
    have same := ok.delivered.length_eq
    rw [List.length_take] at same
    omega
  have grown : ∀ pt, written[received.length]?.map WrittenCommand.pt = some pt →
      (written ++ more)[received.length]?.map WrittenCommand.pt = some pt := by
    intro pt found
    obtain ⟨sent, at', same⟩ := Option.map_eq_some_iff.mp found
    rw [List.getElem?_append_left (List.getElem?_eq_some_iff.mp at').1, found]
  constructor
  · rw [List.take_append_of_le_length within]
    exact ok.delivered
  · cases phase with
    | body pt => exact ⟨ok.position.1, grown pt ok.position.2⟩
    | rekeyed pt => exact ⟨ok.position.1, grown pt ok.position.2⟩
    | _ => exact ok.position

theorem calm_kept (cfg : EndConfig) (e next : SessionEnd Key) (op : SessionOp) (moves : EndMoves noise cfg e op next)
    (calm : Calm e) : Calm next := by
  have sound : e.established = true → e.failed = false := by
    intro established
    cases failed : e.failed with
    | false => rfl
    | true => rw [calm.fatal failed] at established; cases established
  cases moves with
  | refused pt => exact calm
  | checked pt idle ready => exact ⟨calm.fatal, fun _ => sound ready, calm.receiving, calm.none_late⟩
  | headerExhausted pt at' spent => exact ⟨calm.fatal, fun busy => absurd rfl busy, calm.receiving, calm.none_late⟩
  | headerSealed pt at' unspent => exact ⟨calm.fatal, fun _ => calm.sending (by simp [at']), calm.receiving, calm.none_late⟩
  | bodyExhausted pt header at' spent => exact ⟨calm.fatal, fun busy => absurd rfl busy, calm.receiving, calm.none_late⟩
  | bodySealed pt header at' => exact ⟨calm.fatal, fun _ => calm.sending (by simp [at']), calm.receiving, calm.none_late⟩
  | rekeyedTx cmd at' => exact ⟨calm.fatal, fun _ => calm.sending (by simp [at']), calm.receiving, calm.none_late⟩
  | wrote cmd at' =>
      refine ⟨calm.fatal, fun busy => absurd rfl busy, calm.receiving, ?_⟩
      rw [calm.none_late, calm.sending (by simp [at'])]
      rfl
  | writeFailed cmd at' => exact ⟨fun _ => rfl, fun busy => absurd rfl busy, calm.receiving, calm.none_late⟩
  | recvFailed op => exact ⟨fun _ => rfl, calm.sending, fun busy => absurd rfl busy, calm.none_late⟩
  | recvStarted idle ready => exact ⟨calm.fatal, calm.sending, fun _ => sound ready, calm.none_late⟩
  | headerRead ct ctLen at' => exact ⟨calm.fatal, calm.sending, fun _ => calm.receiving (by simp [at']), calm.none_late⟩
  | bodyRead ct pt ctLen at' opened =>
      exact ⟨calm.fatal, calm.sending, fun _ => calm.receiving (by simp [at']), calm.none_late⟩
  | rekeyedRx pt at' => exact ⟨calm.fatal, calm.sending, fun _ => calm.receiving (by simp [at']), calm.none_late⟩
  | parsed spare pt cmd at' decoded =>
      refine ⟨calm.fatal, calm.sending, fun busy => absurd rfl busy, ?_⟩
      rw [calm.none_late, calm.receiving (by simp [at'])]
      rfl
  | closeTx => exact ⟨calm.fatal, calm.sending, calm.receiving, calm.none_late⟩
  | closeRx => exact ⟨calm.fatal, calm.sending, calm.receiving, calm.none_late⟩
  | closeState => exact ⟨fun _ => rfl, calm.sending, calm.receiving, calm.none_late⟩

end Invariants

section Pair

variable {Key : Type} (noise : NoiseCipher Key) (cfg : WireSide → EndConfig)

structure LinkOk (c : Commands) (sender receiver : SessionEnd Key) : Prop where
  sends : SenderOk noise sender.written sender.tx.n sender.sending
  receives : ReceiverOk c sender.written receiver.received receiver.rx.n receiver.established receiver.receiving

structure SessionPairOk (p : SessionPair Key) : Prop where
  outward : LinkOk noise (cfg .responder).commands p.initiator p.responder
  inward : LinkOk noise (cfg .initiator).commands p.responder p.initiator
  initiator : Calm p.initiator
  responder : Calm p.responder

variable {noise cfg}

theorem link_sends (own : EndConfig) (c : Commands) (e next peer : SessionEnd Key) (op : SessionOp)
    (moves : EndMoves noise own e op next) (ok : LinkOk noise c e peer) : LinkOk noise c next peer := by
  refine ⟨sender_kept own e next op moves ok.sends, ?_⟩
  obtain ⟨more, grown⟩ := written_grows own e next op moves
  rw [grown]
  exact receiver_grows c e.written more _ _ _ _ ok.receives

theorem link_receives [DecidableEq Key] (laws : NoiseLaws noise) (own : EndConfig) (e next peer : SessionEnd Key)
    (op : SessionOp) (moves : EndMoves noise own e op next) (unforged : e.unforged noise peer.written op = true)
    (ok : LinkOk noise own.commands peer e) : LinkOk noise own.commands peer next :=
  ⟨ok.sends, receiver_kept laws own e next op peer.written ok.sends.wrote moves unforged ok.receives⟩

theorem session_pair_kept [DecidableEq Key] (laws : NoiseLaws noise) (p next : SessionPair Key) (event : SessionEvent)
    (ok : SessionPairOk noise cfg p) (unforged : p.unforged noise event = true) (taken : p.step noise cfg event = some next) :
    SessionPairOk noise cfg next := by
  obtain ⟨side, op⟩ := event
  cases side with
  | initiator =>
      obtain ⟨e, stepped, rfl⟩ := Option.map_eq_some_iff.mp taken
      have moves := end_moves noise (cfg .initiator) p.initiator e op stepped
      exact ⟨link_sends _ _ _ e _ op moves ok.outward, link_receives laws _ _ e _ op moves unforged ok.inward,
        calm_kept _ _ e op moves ok.initiator, ok.responder⟩
  | responder =>
      obtain ⟨e, stepped, rfl⟩ := Option.map_eq_some_iff.mp taken
      have moves := end_moves noise (cfg .responder) p.responder e op stepped
      exact ⟨link_receives laws _ _ e _ op moves unforged ok.outward, link_sends _ _ _ e _ op moves ok.inward,
        ok.initiator, calm_kept _ _ e op moves ok.responder⟩

theorem established_pair_ok (first second : Key) : SessionPairOk noise cfg (establishedPair first second) := by
  have fresh : ∀ tx rx : Key, Calm (establishedEnd tx rx) := fun tx rx =>
    ⟨fun failed => Bool.noConfusion failed, fun _ => rfl, fun _ => rfl, rfl⟩
  have link : ∀ (c : Commands) (tx rx : Key), LinkOk noise c (establishedEnd tx rx) (establishedEnd rx tx) := fun c tx rx =>
    ⟨⟨fun i cmd found => (by cases found), .inl rfl⟩, ⟨.nil, fun _ => rfl⟩⟩
  exact ⟨link _ first second, link _ second first, fresh _ _, fresh _ _⟩

/-- Whatever the network does with the bytes and whenever either end is closed, each end receives
the decodings of the first commands that the other wrote, in order, and no call that began after a
receive error or a failed write succeeds. -/
theorem session_delivers_in_order [DecidableEq Key] (laws : NoiseLaws noise) (first second : Key) (events : List SessionEvent)
    (meets : Meets (SessionPair.step noise cfg) (fun p event => p.unforged noise event = true)
      (establishedPair first second) events) :
    Always (SessionPair.step noise cfg)
      (fun p => DeliversInOrder (cfg .responder).commands p.initiator p.responder ∧
        DeliversInOrder (cfg .initiator).commands p.responder p.initiator ∧
        p.initiator.lateSuccess = false ∧ p.responder.lateSuccess = false)
      (establishedPair first second) events := by
  refine always_of_invariant _ _ (SessionPairOk noise cfg) _ ?_ ?_ events _ (established_pair_ok first second) meets
  · intro p event next ok unforged taken
    exact session_pair_kept laws p next event ok unforged taken
  · intro p ok
    exact ⟨ok.outward.receives.delivered, ok.inward.receives.delivered, ok.initiator.none_late, ok.responder.none_late⟩

end Pair

def byteTag (key nonce : Nat) : Bytes := List.replicate macLen (UInt8.ofNat (key + nonce))

def byteNoise : NoiseCipher Nat where
  encrypt key nonce pt := byteTag key nonce ++ pt
  decrypt key nonce ct := if ct.take macLen = byteTag key nonce then some (ct.drop macLen) else none
  rekey key := key + 100
  maxNonce := 2 ^ 64 - 1

theorem byte_noise_laws : NoiseLaws byteNoise := by
  constructor
  intro key nonce pt
  have size : (byteTag key nonce).length = macLen := List.length_replicate
  simp only [byteNoise]
  rw [List.take_left' size, List.drop_left' size, if_pos rfl]

def byteSession (_ : WireSide) : EndConfig := ⟨mixnetInstance, 1024⟩

def injectedHeader : List SessionEvent :=
  [⟨.responder, .send (zeros 6)⟩, ⟨.responder, .sealHeader⟩, ⟨.responder, .sealBody⟩, ⟨.responder, .rekeyTx⟩,
   ⟨.responder, .write true⟩, ⟨.initiator, .recv⟩, ⟨.initiator, .readHeader (some (byteTag 7 0 ++ [0, 0, 0, 22]))⟩,
   ⟨.initiator, .readBody (some (byteTag 7 1 ++ zeros 6))⟩, ⟨.initiator, .rekeyRx⟩, ⟨.initiator, .parse []⟩,
   ⟨.initiator, .recv⟩, ⟨.initiator, .readHeader (some (zeros 20))⟩, ⟨.initiator, .recv⟩]

theorem injected_header_in_order :
    ((run (SessionPair.step byteNoise byteSession) (establishedPair 3 7) injectedHeader).map
      fun p => p.initiator.received) = some [.noOp] ∧
    Always (SessionPair.step byteNoise byteSession)
      (fun p => DeliversInOrder mixnetInstance p.initiator p.responder ∧
        DeliversInOrder mixnetInstance p.responder p.initiator ∧
        p.initiator.lateSuccess = false ∧ p.responder.lateSuccess = false)
      (establishedPair 3 7) injectedHeader :=
  ⟨by decide +kernel, session_delivers_in_order byte_noise_laws 3 7 injectedHeader (by decide +kernel)⟩

end Katzenpost
