import Katzenpost.Core.Types
import Katzenpost.Go.Map
import Katzenpost.Go.Run
import Katzenpost.Go.Slots

set_option autoImplicit false

namespace Katzenpost

open Go

inductive WtKind where
  | sendWithReply
  | receiver
deriving DecidableEq

def WtKind.capacity : WtKind → Nat
  | .sendWithReply => 1
  | .receiver => 16

-- Registered and about to inject the packet or to acknowledge; in the select; at
-- the write of a reply; about to run the deferred call; and behind it.
inductive WtPhase where
  | opening
  | serving
  | writing (reply : Nat)
  | returned
  | gone
deriving DecidableEq

structure WtSession where
  recipient : Digest
  kind : WtKind
  phase : WtPhase
  buffer : List Nat
  written : List Nat
deriving DecidableEq

structure HandledReply where
  reply : Nat
  recipient : Digest
  target : Option Nat
deriving DecidableEq

-- The recipients of the replies so far are no part of the program: they number
-- the replies.
structure WtGateway where
  wtReplySessions : GoMap Digest Nat
  sessions : List WtSession
  handling : List HandledReply
  spool : List (Digest × Nat)
  replies : List Digest
deriving DecidableEq

def newWtGateway : WtGateway := ⟨∅, [], [], [], []⟩

-- Replies are of the right size, and the spool stores what it is given.
inductive WtEvent where
  | register (recipient : Digest) (kind : WtKind)
  | opens (i : Nat)
  | openFails (i : Nat)
  | takes (i : Nat)
  | writes (i : Nat)
  | writeFails (i : Nat)
  | leaves (i : Nat)
  | unregister (i : Nat)
  | onSURBReply (recipient : Digest)
  | hands (h : HandledReply)
deriving DecidableEq

section Step

def WtGateway.setSession (s : WtGateway) (i : Nat) (f : WtSession → WtSession) : WtGateway :=
  { s with sessions := s.sessions.modify i f }

def WtGateway.hand (s : WtGateway) (h : HandledReply) : WtGateway :=
  let stored := { s with handling := s.handling.erase h, spool := s.spool ++ [(h.recipient, h.reply)] }
  match h.target with
  | none => stored
  | some i =>
      match s.sessions[i]? with
      | none => stored
      | some session =>
          if session.buffer.length < session.kind.capacity then
            ({ s with handling := s.handling.erase h }).setSession i fun session => { session with buffer := session.buffer ++ [h.reply] }
          else stored

def sessionStep (s : WtGateway) (i : Nat) (session : WtSession) : WtEvent → Option WtGateway
  | .opens _ => if session.phase = .opening then some (s.setSession i fun x => { x with phase := .serving }) else none
  | .openFails _ => if session.phase = .opening then some (s.setSession i fun x => { x with phase := .returned }) else none
  | .takes _ =>
      match session.phase, session.buffer with
      | .serving, reply :: rest => some (s.setSession i fun x => { x with phase := .writing reply, buffer := rest })
      | _, _ => none
  | .writes _ =>
      match session.phase with
      | .writing reply =>
          let phase := if session.kind = .sendWithReply then .returned else .serving
          some (s.setSession i fun x => { x with phase := phase, written := x.written ++ [reply] })
      | _ => none
  | .writeFails _ =>
      match session.phase with
      | .writing _ => some (s.setSession i fun x => { x with phase := .returned })
      | _ => none
  | .leaves _ => if session.phase = .serving then some (s.setSession i fun x => { x with phase := .returned }) else none
  | .unregister _ =>
      if session.phase = .returned then
        let sessions := if s.wtReplySessions[session.recipient]? = some i then s.wtReplySessions.erase session.recipient else s.wtReplySessions
        some ({ s with wtReplySessions := sessions }.setSession i fun x => { x with phase := .gone })
      else none
  | _ => none

def WtEvent.session : WtEvent → Option Nat
  | .opens i | .openFails i | .takes i | .writes i | .writeFails i | .leaves i | .unregister i => some i
  | .register _ _ | .onSURBReply _ | .hands _ => none

def wtStep (s : WtGateway) (event : WtEvent) : Option WtGateway :=
  match event with
  | .register recipient kind => some { s with
      wtReplySessions := s.wtReplySessions.insert recipient s.sessions.length
      sessions := s.sessions ++ [⟨recipient, kind, .opening, [], []⟩] }
  | .onSURBReply recipient => some { s with
      handling := s.handling ++ [⟨s.replies.length, recipient, s.wtReplySessions[recipient]?⟩]
      replies := s.replies ++ [recipient] }
  | .hands h => if h ∈ s.handling then some (s.hand h) else none
  | event =>
      match event.session with
      | none => none
      | some i =>
          match s.sessions[i]? with
          | none => none
          | some session => sessionStep s i session event

end Step

def WtPhase.live : WtPhase → Bool
  | .opening | .serving | .writing _ => true
  | .returned | .gone => false

def WtSession.ends (session : WtSession) : WtEvent → Bool
  | .openFails _ | .writeFails _ | .leaves _ => true
  | .writes _ => session.kind = .sendWithReply
  | _ => false

def WtGateway.Quiet (s : WtGateway) (i : Nat) : Prop :=
  (∀ x ∈ s.sessions[i]?, x.buffer = []) ∧ ∀ h ∈ s.handling, h.target ≠ some i

instance (s : WtGateway) (i : Nat) : Decidable (s.Quiet i) := inferInstanceAs (Decidable (_ ∧ _))

def Attended (s : WtGateway) : WtEvent → Prop
  | .writeFails _ => False
  | .openFails i | .leaves i => s.Quiet i
  | .writes i => (∃ x ∈ s.sessions[i]?, x.kind = .sendWithReply) → s.Quiet i
  | .onSURBReply recipient => ∀ i ∈ s.wtReplySessions[recipient]?, ∀ x ∈ s.sessions[i]?, x.phase.live = true
  | _ => True

instance (s : WtGateway) (event : WtEvent) : Decidable (Attended s event) :=
  match event with
  | .writeFails _ => isFalse nofun
  | .openFails i | .leaves i => inferInstanceAs (Decidable (s.Quiet i))
  | .writes i => inferInstanceAs (Decidable ((∃ x ∈ s.sessions[i]?, x.kind = .sendWithReply) → s.Quiet i))
  | .onSURBReply recipient =>
      inferInstanceAs (Decidable (∀ i ∈ s.wtReplySessions[recipient]?, ∀ x ∈ s.sessions[i]?, x.phase.live = true))
  | .register _ _ | .opens _ | .takes _ | .unregister _ | .hands _ => isTrue trivial

theorem attended_ends (s : WtGateway) (event : WtEvent) (attended : Attended s event) (i : Nat) (session : WtSession)
    (its : event.session = some i) (found : s.sessions[i]? = some session) (ends : session.ends event = true) :
    session.buffer = [] ∧ ∀ h ∈ s.handling, h.target ≠ some i := by
  have quiet : s.Quiet i := by
    cases event with
    | openFails j | leaves j =>
        cases its
        exact attended
    | writes j =>
        cases its
        exact attended ⟨session, found, of_decide_eq_true ends⟩
    | writeFails j => exact attended.elim
    | register _ _ | opens _ | takes _ | unregister _ | onSURBReply _ | hands _ => cases ends
  exact ⟨quiet.1 session found, quiet.2⟩

theorem attended_writes (s : WtGateway) (event : WtEvent) (attended : Attended s event) (i : Nat) : event ≠ .writeFails i := by
  rintro rfl
  exact attended

section Moves

def WtSession.carries (x : WtSession) (n : Nat) : Prop := n ∈ x.buffer ∨ x.phase = .writing n

def WtSession.has (x : WtSession) (n : Nat) : Prop := x.carries n ∨ n ∈ x.written

structure SessionMove (s : WtGateway) (i : Nat) (session : WtSession) (event : WtEvent) (next : WtGateway) (f : WtSession → WtSession) :
    Prop where
  sessions : next.sessions = s.sessions.modify i f
  handling : next.handling = s.handling
  spool : next.spool = s.spool
  replies : next.replies = s.replies
  unregistered : ∀ (recipient : Digest) j, next.wtReplySessions[recipient]? = some j → s.wtReplySessions[recipient]? = some j
  recipient : (f session).recipient = session.recipient
  had : ∀ n, (f session).has n → session.has n
  written : ∀ n ∈ session.written, n ∈ (f session).written
  keeps : (∀ i, event ≠ .writeFails i) → ∀ n, session.has n → (f session).has n
  ended : (f session).phase.live = false →
    (f session).buffer = session.buffer ∧ (session.phase.live = true → session.ends event = true)

variable {s next : WtGateway} {i : Nat} {session : WtSession} {event : WtEvent}

theorem session_move (step : sessionStep s i session event = some next) : ∃ f, SessionMove s i session event next f := by
  cases event with
  | register _ _ | onSURBReply _ | hands _ => cases step
  | opens _ =>
      simp only [sessionStep] at step
      split at step
      · rename_i opening
        cases step
        refine ⟨_, rfl, rfl, rfl, rfl, fun _ _ found => found, rfl, ?_, fun _ member => member, fun _ => ?_, nofun⟩
        all_goals simp [WtSession.has, WtSession.carries, opening]
      · cases step
  | openFails _ =>
      simp only [sessionStep] at step
      split at step
      · rename_i opening
        cases step
        refine ⟨_, rfl, rfl, rfl, rfl, fun _ _ found => found, rfl, ?_, fun _ member => member, fun _ => ?_, fun _ => ⟨rfl, fun _ => rfl⟩⟩
        all_goals simp [WtSession.has, WtSession.carries, opening]
      · cases step
  | takes _ =>
      simp only [sessionStep] at step
      split at step
      · rename_i reply rest phase buffer
        cases step
        refine ⟨_, rfl, rfl, rfl, rfl, fun _ _ found => found, rfl, ?_, fun _ member => member, fun _ => ?_, nofun⟩
        all_goals
          intro n
          simp only [WtSession.has, WtSession.carries, phase, buffer, List.mem_cons, WtPhase.writing.injEq, reduceCtorEq, or_false]
          tauto
      · cases step
  | writes _ =>
      simp only [sessionStep] at step
      split at step
      · rename_i reply phase
        cases step
        refine ⟨_, rfl, rfl, rfl, rfl, fun _ _ found => found, rfl, ?_, fun _ member => List.mem_append_left _ member, fun _ => ?_, ?_⟩
        · intro n
          simp only [WtSession.has, WtSession.carries, phase, List.mem_append, List.mem_singleton, WtPhase.writing.injEq]
          split <;> simp <;> tauto
        · intro n
          simp only [WtSession.has, WtSession.carries, phase, List.mem_append, List.mem_singleton, WtPhase.writing.injEq]
          split <;> simp <;> tauto
        · intro dead
          refine ⟨rfl, fun _ => ?_⟩
          by_cases once : session.kind = .sendWithReply
          · exact decide_eq_true once
          · simp [once, WtPhase.live] at dead
      · cases step
  | writeFails i =>
      simp only [sessionStep] at step
      split at step
      · rename_i reply phase
        cases step
        refine ⟨_, rfl, rfl, rfl, rfl, fun _ _ found => found, rfl, ?_, fun _ member => member, fun ok => absurd rfl (ok i), fun _ => ⟨rfl, fun _ => rfl⟩⟩
        intro n
        simp only [WtSession.has, WtSession.carries, reduceCtorEq, or_false]
        tauto
      · cases step
  | leaves _ =>
      simp only [sessionStep] at step
      split at step
      · rename_i serving
        cases step
        refine ⟨_, rfl, rfl, rfl, rfl, fun _ _ found => found, rfl, ?_, fun _ member => member, fun _ => ?_, fun _ => ⟨rfl, fun _ => rfl⟩⟩
        all_goals simp [WtSession.has, WtSession.carries, serving]
      · cases step
  | unregister _ =>
      simp only [sessionStep] at step
      split at step
      · rename_i returned
        cases step
        refine ⟨_, rfl, rfl, rfl, rfl, fun recipient j found => ?_, rfl, ?_, fun _ member => member, fun _ => ?_, fun _ => ⟨rfl, fun live => ?_⟩⟩
        · dsimp only [WtGateway.setSession] at found
          split at found
          · exact (of_lookup_erase _ _ _ _ found).2
          · exact found
        · simp [WtSession.has, WtSession.carries, returned]
        · simp [WtSession.has, WtSession.carries, returned]
        · rw [returned] at live
          cases live
      · cases step

end Moves

section Invariant

def SessionOf (s : WtGateway) (i : Nat) (recipient : Digest) : Prop := ∃ x, s.sessions[i]? = some x ∧ x.recipient = recipient

structure RoutedReplies (s : WtGateway) : Prop where
  registered : ∀ (recipient : Digest) i, s.wtReplySessions[recipient]? = some i → SessionOf s i recipient
  handled : ∀ h ∈ s.handling, s.replies[h.reply]? = some h.recipient ∧ ∀ i, h.target = some i → SessionOf s i h.recipient
  had : ∀ (i : Nat) x, s.sessions[i]? = some x → ∀ n, x.has n → s.replies[n]? = some x.recipient
  spooled : ∀ e ∈ s.spool, s.replies[e.2]? = some e.1

def WtSession.holds (x : WtSession) (n : Nat) : Prop := n ∈ x.written ∨ x.phase.live = true ∧ x.carries n

def Placed (s : WtGateway) (n : Nat) (recipient : Digest) : Prop :=
  (∃ h ∈ s.handling, h.reply = n) ∨ (recipient, n) ∈ s.spool ∨
    ∃ (i : Nat) (x : WtSession), s.sessions[i]? = some x ∧ x.recipient = recipient ∧ x.holds n

structure Kept (s : WtGateway) : Prop where
  routed : RoutedReplies s
  placed : ∀ (n : Nat) recipient, s.replies[n]? = some recipient → Placed s n recipient
  idle : ∀ (i : Nat) x, s.sessions[i]? = some x → x.phase.live = false → x.buffer = [] ∧ ∀ h ∈ s.handling, h.target ≠ some i

variable {s next : WtGateway} {i : Nat} {session : WtSession} {event : WtEvent} {f : WtSession → WtSession}

theorem session_of_modify (same : ∀ x, s.sessions[i]? = some x → (f x).recipient = x.recipient) (j : Nat) (recipient : Digest)
    (sessions : next.sessions = s.sessions.modify i f) (found : SessionOf s j recipient) : SessionOf next j recipient := by
  obtain ⟨x, there, its⟩ := found
  refine ⟨_, sessions ▸ lookup_after i j f x there, ?_⟩
  by_cases here : i = j
  · subst here
    rw [if_pos rfl, same x there, its]
  · rw [if_neg here, its]

theorem session_move_routed (routed : RoutedReplies s) (there : s.sessions[i]? = some session) (move : SessionMove s i session event next f) :
    RoutedReplies next := by
  have same : ∀ x, s.sessions[i]? = some x → (f x).recipient = x.recipient := by
    intro x found
    rw [there] at found
    cases found
    exact move.recipient
  have kept : ∀ j recipient, SessionOf s j recipient → SessionOf next j recipient :=
    fun j recipient => session_of_modify same j recipient move.sessions
  refine ⟨fun recipient j found => kept j recipient (routed.registered recipient j (move.unregistered recipient j found)), ?_, ?_, ?_⟩
  · intro h member
    rw [move.handling] at member
    obtain ⟨known, target⟩ := routed.handled h member
    exact ⟨move.replies ▸ known, fun j aimed => kept j h.recipient (target j aimed)⟩
  · intro j x found n has
    rw [move.sessions] at found
    obtain ⟨before, was, rfl⟩ := modified_lookup i j f x found
    rw [move.replies]
    by_cases here : i = j
    · subst here
      rw [there] at was
      cases was
      rw [if_pos rfl] at has ⊢
      rw [move.recipient]
      exact routed.had i session there n (move.had n has)
    · rw [if_neg here] at has ⊢
      exact routed.had j before was n has
  · intro e member
    rw [move.spool] at member
    rw [move.replies]
    exact routed.spooled e member

theorem session_move_holds (there : s.sessions[i]? = some session) (its : event.session = some i)
    (attended : Attended s event) (move : SessionMove s i session event next f) (n : Nat) (holds : session.holds n) :
    (f session).holds n := by
  cases holds with
  | inl written => exact .inl (move.written n written)
  | inr carried =>
      cases move.keeps (attended_writes s event attended) n (.inl carried.2) with
      | inr written => exact .inl written
      | inl carries =>
          cases live : (f session).phase.live with
          | true => exact .inr ⟨live, carries⟩
          | false =>
              obtain ⟨buffer, ends⟩ := move.ended live
              have empty := (attended_ends s event attended i session its there (ends carried.1)).1
              cases carries with
              | inl buffered =>
                  rw [buffer, empty] at buffered
                  cases buffered
              | inr writing =>
                  rw [writing] at live
                  cases live

theorem session_move_kept (kept : Kept s) (there : s.sessions[i]? = some session) (its : event.session = some i)
    (attended : Attended s event) (move : SessionMove s i session event next f) : Kept next := by
  refine ⟨session_move_routed kept.routed there move, ?_, ?_⟩
  · intro n recipient known
    rw [move.replies] at known
    rcases kept.placed n recipient known with handling | spooled | ⟨j, x, found, same, holds⟩
    · exact .inl (move.handling ▸ handling)
    · exact .inr (.inl (move.spool ▸ spooled))
    · refine .inr (.inr ⟨j, _, move.sessions ▸ lookup_after i j f x found, ?_⟩)
      by_cases here : i = j
      · subst here
        rw [there] at found
        cases found
        rw [if_pos rfl]
        exact ⟨move.recipient.trans same, session_move_holds there its attended move n holds⟩
      · rw [if_neg here]
        exact ⟨same, holds⟩
  · intro j x found dead
    rw [move.sessions] at found
    rw [move.handling]
    obtain ⟨before, was, rfl⟩ := modified_lookup i j f x found
    by_cases here : i = j
    · subst here
      rw [there] at was
      cases was
      rw [if_pos rfl] at dead ⊢
      obtain ⟨buffer, ends⟩ := move.ended dead
      rw [buffer]
      cases live : session.phase.live with
      | true => exact attended_ends s event attended i session its there (ends live)
      | false => exact kept.idle i session there live
    · rw [if_neg here] at dead ⊢
      exact kept.idle j before was dead

theorem register_routed (routed : RoutedReplies s) (recipient : Digest) (kind : WtKind) (step : wtStep s (.register recipient kind) = some next) :
    RoutedReplies next := by
  cases step
  have more : ∀ i r, SessionOf s i r → ∃ x, (s.sessions ++ [⟨recipient, kind, .opening, [], []⟩])[i]? = some x ∧ x.recipient = r :=
    fun i r ⟨x, found, same⟩ => ⟨x, lookup_append _ i x found, same⟩
  refine ⟨?_, ?_, ?_, routed.spooled⟩
  · refine forall_insert _ _ _ (fun r i found _ => more i r (routed.registered r i found)) ?_
    exact ⟨_, List.getElem?_concat_length, rfl⟩
  · intro h member
    obtain ⟨known, target⟩ := routed.handled h member
    exact ⟨known, fun i aimed => more i h.recipient (target i aimed)⟩
  · intro i x found n has
    cases appended_lookup i x found with
    | inl old => exact routed.had i x old n has
    | inr new =>
        obtain ⟨-, rfl⟩ := new
        simp [WtSession.has, WtSession.carries] at has

theorem register_kept (kept : Kept s) (recipient : Digest) (kind : WtKind) (step : wtStep s (.register recipient kind) = some next) :
    Kept next := by
  have routed := register_routed kept.routed recipient kind step
  cases step
  refine ⟨routed, ?_, ?_⟩
  · intro n r known
    rcases kept.placed n r known with handling | spooled | ⟨i, x, found, same, holds⟩
    · exact .inl handling
    · exact .inr (.inl spooled)
    · exact .inr (.inr ⟨i, x, lookup_append _ i x found, same, holds⟩)
  · intro i x found dead
    cases appended_lookup i x found with
    | inl old => exact kept.idle i x old dead
    | inr new =>
        obtain ⟨-, rfl⟩ := new
        cases dead

theorem on_surb_reply_routed (routed : RoutedReplies s) (recipient : Digest) (step : wtStep s (.onSURBReply recipient) = some next) :
    RoutedReplies next := by
  cases step
  have older : ∀ (n : Nat) r, s.replies[n]? = some r → (s.replies ++ [recipient])[n]? = some r := fun n r => lookup_append recipient n r
  refine ⟨routed.registered, ?_, fun i x found n has => older _ _ (routed.had i x found n has),
    fun e member => older _ _ (routed.spooled e member)⟩
  intro h member
  cases List.mem_append.mp member with
  | inl old =>
      obtain ⟨known, target⟩ := routed.handled h old
      exact ⟨older _ _ known, target⟩
  | inr new =>
      cases List.mem_singleton.mp new
      exact ⟨List.getElem?_concat_length, fun i aimed => routed.registered recipient i aimed⟩

theorem on_surb_reply_kept (kept : Kept s) (recipient : Digest) (attended : Attended s (.onSURBReply recipient))
    (step : wtStep s (.onSURBReply recipient) = some next) : Kept next := by
  have routed := on_surb_reply_routed kept.routed recipient step
  cases step
  refine ⟨routed, ?_, ?_⟩
  · intro n r known
    cases appended_lookup n r known with
    | inl old =>
        rcases kept.placed n r old with ⟨h, member, same⟩ | spooled | held
        · exact .inl ⟨h, List.mem_append_left _ member, same⟩
        · exact .inr (.inl spooled)
        · exact .inr (.inr held)
    | inr new =>
        obtain ⟨rfl, rfl⟩ := new
        exact .inl ⟨_, List.mem_append_right _ List.mem_cons_self, rfl⟩
  · intro i x found dead
    obtain ⟨empty, unaimed⟩ := kept.idle i x found dead
    refine ⟨empty, fun h member => ?_⟩
    cases List.mem_append.mp member with
    | inl old => exact unaimed h old
    | inr new =>
        cases List.mem_singleton.mp new
        intro aimed
        have live := attended i aimed x found
        rw [dead] at live
        cases live

theorem hand_cases (s : WtGateway) (h : HandledReply) :
    s.hand h = { s with handling := s.handling.erase h, spool := s.spool ++ [(h.recipient, h.reply)] } ∨
    ∃ i x, h.target = some i ∧ s.sessions[i]? = some x ∧
      s.hand h = { s with
        handling := s.handling.erase h
        sessions := s.sessions.modify i fun x => { x with buffer := x.buffer ++ [h.reply] } } := by
  rw [WtGateway.hand]
  cases target : h.target with
  | none => exact .inl rfl
  | some i =>
      cases found : s.sessions[i]? with
      | none => exact .inl (by simp only [found])
      | some x =>
          by_cases room : x.buffer.length < x.kind.capacity
          · exact .inr ⟨i, x, rfl, found, by simp only [found, if_pos room, WtGateway.setSession]⟩
          · exact .inl (by simp only [found, if_neg room])

theorem hand_routed (routed : RoutedReplies s) (h : HandledReply) (member : h ∈ s.handling) : RoutedReplies (s.hand h) := by
  obtain ⟨known, target⟩ := routed.handled h member
  have others : ∀ h' ∈ s.handling.erase h, h' ∈ s.handling := fun h' => List.mem_of_mem_erase
  rcases hand_cases s h with stored | ⟨i, x, aimed, found, sent⟩
  · rw [stored]
    refine ⟨routed.registered, fun h' left => routed.handled h' (others h' left), routed.had, fun e spooled => ?_⟩
    cases List.mem_append.mp spooled with
    | inl old => exact routed.spooled e old
    | inr new =>
        cases List.mem_singleton.mp new
        exact known
  · rw [sent]
    have kept : ∀ j recipient, SessionOf s j recipient → SessionOf { s with
        handling := s.handling.erase h
        sessions := s.sessions.modify i fun x => { x with buffer := x.buffer ++ [h.reply] } } j recipient :=
      fun j recipient => session_of_modify (i := i) (f := fun x => { x with buffer := x.buffer ++ [h.reply] }) (fun _ _ => rfl) j
        recipient rfl
    refine ⟨fun recipient j found => kept j recipient (routed.registered recipient j found), ?_, ?_, routed.spooled⟩
    · intro h' left
      obtain ⟨known', target'⟩ := routed.handled h' (others h' left)
      exact ⟨known', fun j aimed => kept j h'.recipient (target' j aimed)⟩
    · intro j x' there n has
      obtain ⟨before, was, rfl⟩ := modified_lookup i j _ x' there
      by_cases here : i = j
      · subst here
        rw [if_pos rfl] at has ⊢
        simp only [WtSession.has, WtSession.carries, List.mem_append, List.mem_singleton] at has
        by_cases same : n = h.reply
        · obtain ⟨x, there, its⟩ := target i aimed
          rw [was] at there
          cases there
          rw [same, known, its]
        · refine routed.had i before was n ?_
          simp only [WtSession.has, WtSession.carries]
          tauto
      · rw [if_neg here] at has ⊢
        exact routed.had j before was n has

theorem hand_kept (kept : Kept s) (h : HandledReply) (member : h ∈ s.handling) : Kept (s.hand h) := by
  have routed := hand_routed kept.routed h member
  obtain ⟨known, target⟩ := kept.routed.handled h member
  have others : ∀ h' ∈ s.handling.erase h, h' ∈ s.handling := fun h' => List.mem_of_mem_erase
  -- A reply in hand is in the hands of another call, or the one of this call.
  have inHand : ∀ n r, s.replies[n]? = some r → (∃ h' ∈ s.handling, h'.reply = n) →
      (∃ h' ∈ s.handling.erase h, h'.reply = n) ∨ n = h.reply ∧ r = h.recipient := by
    rintro n r there ⟨h', listed, rfl⟩
    by_cases same : h' = h
    · subst same
      rw [known] at there
      cases there
      exact .inr ⟨rfl, rfl⟩
    · exact .inl ⟨h', (List.mem_erase_of_ne same).mpr listed, rfl⟩
  rcases hand_cases s h with stored | ⟨i, x, aimed, found, sent⟩
  · rw [stored] at routed ⊢
    refine ⟨routed, ?_, fun j x' there dead => ?_⟩
    · intro n r there
      rcases kept.placed n r there with handling | spooled | held
      · rcases inHand n r there handling with left | ⟨rfl, rfl⟩
        · exact .inl left
        · exact .inr (.inl (List.mem_append_right _ List.mem_cons_self))
      · exact .inr (.inl (List.mem_append_left _ spooled))
      · exact .inr (.inr held)
    · obtain ⟨empty, unaimed⟩ := kept.idle j x' there dead
      exact ⟨empty, fun h' left => unaimed h' (others h' left)⟩
  · rw [sent] at routed ⊢
    have live : x.phase.live = true := by
      cases alive : x.phase.live with
      | true => rfl
      | false => exact absurd aimed ((kept.idle i x found alive).2 h member)
    refine ⟨routed, ?_, fun j x' there dead => ?_⟩
    · intro n r there
      rcases kept.placed n r there with handling | spooled | ⟨j, x', held, same, holds⟩
      · rcases inHand n r there handling with left | ⟨rfl, rfl⟩
        · exact .inl left
        · obtain ⟨x', there, its⟩ := target i aimed
          rw [found] at there
          cases there
          refine .inr (.inr ⟨i, _, lookup_after i i _ x found, ?_⟩)
          rw [if_pos rfl]
          exact ⟨its, .inr ⟨live, .inl (List.mem_append_right _ List.mem_cons_self)⟩⟩
      · exact .inr (.inl spooled)
      · refine .inr (.inr ⟨j, _, lookup_after i j _ x' held, ?_⟩)
        by_cases here : i = j
        · rw [if_pos here]
          refine ⟨same, holds.imp_right (And.imp_right fun carries => ?_)⟩
          exact carries.imp_left fun buffered => List.mem_append_left _ buffered
        · rw [if_neg here]
          exact ⟨same, holds⟩
    · obtain ⟨before, was, rfl⟩ := modified_lookup i j _ x' there
      by_cases here : i = j
      · subst here
        rw [found] at was
        cases was
        rw [if_pos rfl] at dead
        rw [live] at dead
        cases dead
      · rw [if_neg here] at dead ⊢
        obtain ⟨empty, unaimed⟩ := kept.idle j before was dead
        exact ⟨empty, fun h' left => unaimed h' (others h' left)⟩

theorem session_event (step : wtStep s event = some next) (its : event.session = some i) :
    ∃ x f, s.sessions[i]? = some x ∧ SessionMove s i x event next f := by
  have unfolded : wtStep s event = (s.sessions[i]?).bind fun x => sessionStep s i x event := by
    cases event <;> simp only [WtEvent.session, reduceCtorEq, Option.some.injEq] at its
    all_goals
      simp only [wtStep, WtEvent.session, its]
      cases s.sessions[i]? <;> rfl
  rw [unfolded] at step
  obtain ⟨x, found, moved⟩ := Option.bind_eq_some_iff.mp step
  obtain ⟨f, move⟩ := session_move moved
  exact ⟨x, f, found, move⟩

theorem step_routed (routed : RoutedReplies s) (event : WtEvent) (step : wtStep s event = some next) : RoutedReplies next := by
  cases its : event.session with
  | some i =>
      obtain ⟨x, f, found, move⟩ := session_event step its
      exact session_move_routed routed found move
  | none =>
      cases event with
      | register recipient kind => exact register_routed routed recipient kind step
      | onSURBReply recipient => exact on_surb_reply_routed routed recipient step
      | hands h =>
          simp only [wtStep] at step
          split at step
          · cases step
            exact hand_routed routed h ‹_›
          · cases step
      | opens _ | openFails _ | takes _ | writes _ | writeFails _ | leaves _ | unregister _ => cases its

theorem step_kept (kept : Kept s) (event : WtEvent) (attended : Attended s event) (step : wtStep s event = some next) : Kept next := by
  cases its : event.session with
  | some i =>
      obtain ⟨x, f, found, move⟩ := session_event step its
      exact session_move_kept kept found its attended move
  | none =>
      cases event with
      | register recipient kind => exact register_kept kept recipient kind step
      | onSURBReply recipient => exact on_surb_reply_kept kept recipient attended step
      | hands h =>
          simp only [wtStep] at step
          split at step
          · cases step
            exact hand_kept kept h ‹_›
          · cases step
      | opens _ | openFails _ | takes _ | writes _ | writeFails _ | leaves _ | unregister _ => cases its

theorem new_gateway_kept : Kept newWtGateway := by
  refine ⟨⟨fun recipient i found => ?_, List.forall_mem_nil _, nofun, List.forall_mem_nil _⟩, nofun, nofun⟩
  simp [newWtGateway] at found

end Invariant

/-- No session ever writes a reply to another recipient. And a reply is at a call of onSURBReply,
in the spool under its recipient, or with a session of its recipient: written to its stream, or in
the hands of one that still serves. -/
theorem surb_replies_kept (events : List WtEvent) (s : WtGateway) (reached : run wtStep newWtGateway events = some s) :
    (∀ (i : Nat) x, s.sessions[i]? = some x → ∀ n ∈ x.written, s.replies[n]? = some x.recipient) ∧
    (Meets wtStep Attended newWtGateway events → ∀ (n : Nat) recipient, s.replies[n]? = some recipient →
      (∃ h ∈ s.handling, h.reply = n) ∨ (recipient, n) ∈ s.spool ∨
      ∃ (i : Nat) (x : WtSession), s.sessions[i]? = some x ∧ x.recipient = recipient ∧
        (n ∈ x.written ∨ x.phase.live = true ∧ x.carries n)) := by
  constructor
  · have routed : RoutedReplies s := run_preserves wtStep RoutedReplies (fun _ _ => True)
      (fun _ event _ routed _ step => step_routed routed event step) events newWtGateway s new_gateway_kept.routed
      (meets_always _ _ (fun _ _ => trivial) events newWtGateway) reached
    exact fun i x found n written => routed.had i x found n (.inr written)
  · intro attended
    have kept : Kept s := run_preserves wtStep Kept Attended (fun _ event _ kept attended step => step_kept kept event attended step)
      events newWtGateway s new_gateway_kept attended reached
    exact kept.placed

def browserID : Digest := ⟨List.replicate 32 5, rfl⟩

def receivedReply : List WtEvent :=
  [.register browserID .receiver, .opens 0, .onSURBReply browserID, .hands ⟨0, browserID, some 0⟩, .takes 0, .writes 0]

def timedOutReply : List WtEvent :=
  [.register browserID .sendWithReply, .opens 0, .onSURBReply browserID, .leaves 0, .hands ⟨0, browserID, some 0⟩, .unregister 0]

theorem received_reply_kept : ∃ s, run wtStep newWtGateway receivedReply = some s ∧ s.replies = [browserID] ∧
    ((∃ h ∈ s.handling, h.reply = 0) ∨ (browserID, 0) ∈ s.spool ∨
      ∃ (i : Nat) (x : WtSession), s.sessions[i]? = some x ∧ x.recipient = browserID ∧
        (0 ∈ x.written ∨ x.phase.live = true ∧ x.carries 0)) := by
  have sample : (run wtStep newWtGateway receivedReply).any (fun s => s.replies = [browserID]) = true := by decide +kernel
  obtain ⟨s, reached, replies⟩ := (Option.any_eq_true _ _).mp sample
  have replies := of_decide_eq_true replies
  refine ⟨s, reached, replies, (surb_replies_kept receivedReply s reached).2 (by decide +kernel) 0 browserID ?_⟩
  rw [replies]
  rfl

/-- A session times out while its reply is on its way. -/
theorem timed_out_reply_lost : ∃ s, run wtStep newWtGateway timedOutReply = some s ∧ s.replies = [browserID] ∧ s.handling = [] ∧
    s.spool = [] ∧ ∀ x ∈ s.sessions, x.phase = .gone ∧ x.written = [] := by
  have sample : (run wtStep newWtGateway timedOutReply).any (fun s => s.replies = [browserID] ∧ s.handling = [] ∧ s.spool = [] ∧
      ∀ x ∈ s.sessions, x.phase = .gone ∧ x.written = []) = true := by
    decide +kernel
  obtain ⟨s, reached, lost⟩ := (Option.any_eq_true _ _).mp sample
  exact ⟨s, reached, of_decide_eq_true lost⟩

end Katzenpost
