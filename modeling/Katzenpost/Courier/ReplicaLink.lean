import Katzenpost.Courier.Dispatch

set_option autoImplicit false

namespace Katzenpost

open Go

inductive PeerCommand where
  | reply (cmd : CourierReplyCommand)
  | disconnect
  | unexpected
  | recvError
deriving DecidableEq

inductive EventLoop where
  | selecting
  | handing (request : SenderRequest)
  | returned (wasHalted : Bool)
deriving DecidableEq

def EventLoop.isReturned : EventLoop → Bool
  | .returned _ => true
  | _ => false

-- A session of an outgoing connection by its three goroutines: the event loop, the
-- command sender with the command it writes, and the peer reader with the command it
-- has for receiveCmdCh. The sender exits when a write fails.
structure ReplicaLink where
  loop : EventLoop
  waitingForReply : Bool
  writing : Option SenderRequest
  senderExited : Bool
  pending : Option PeerCommand
  readerExited : Bool
deriving DecidableEq

def newReplicaLink : ReplicaLink := ⟨.selecting, false, none, false, none, false⟩

inductive ReplicaLinkEvent where
  | received (cmd : PeerCommand)
  | takeOut (request : SenderRequest)
  | hand
  | sent (ok : Bool)
  | senderClosed
  | handle
  | reauth (valid : Bool)
  | halt
  | close

section Step

variable (s : ReplicaLink)

def ReplicaLink.select (next : ReplicaLink) : Option ReplicaLink := if s.loop = .selecting then some next else none

def PeerCommand.accepted : PeerCommand → Bool
  | .reply _ => true
  | _ => false

def linkStep : ReplicaLinkEvent → Option ReplicaLink
  | .received cmd => if s.pending = none ∧ s.readerExited = false then some { s with pending := some cmd } else none
  | .takeOut request => if s.waitingForReply then none else s.select { s with loop := .handing request }
  | .hand =>
      match s.loop with
      | .handing request =>
          if s.writing = none ∧ s.senderExited = false then
            some { s with loop := .selecting, writing := some request, waitingForReply := true }
          else none
      | _ => none
  | .sent ok => if s.writing = none then none else some { s with writing := none, senderExited := !ok }
  | .senderClosed => if s.senderExited then s.select { s with loop := .returned false } else none
  | .handle =>
      match s.pending with
      | none => none
      | some cmd =>
          s.select { s with
            pending := none
            readerExited := s.readerExited || cmd = .recvError
            waitingForReply := false
            loop := if cmd.accepted then .selecting else .returned false }
  | .reauth valid => s.select (if valid then s else { s with loop := .returned false })
  | .halt =>
      match s.loop with
      | .selecting => some { s with loop := .returned false }
      | .handing _ => some { s with loop := .returned true }
      | .returned _ => none
  | .close => if s.loop.isReturned then none else some { s with loop := .returned true }

def ReplicaLink.Wedged : Prop := (∃ request, s.loop = .handing request) ∧ s.senderExited = true

def ReplicaLink.NeverWedged : Prop := ¬s.Wedged ∧ ∀ request next, linkStep s (.takeOut request) = some next → ¬next.Wedged

def ReplicaLink.Prompted : ReplicaLinkEvent → Prop
  | .sent false => s.writing = none ∨ s.loop.isReturned = true ∨ s.loop = .selecting ∧ s.waitingForReply = true
  | .handle => s.senderExited = false ∨ s.loop ≠ .selecting ∨ ∀ cmd, s.pending = some cmd → cmd.accepted = false
  | _ => True

end Step

section Wedge

variable {s next : ReplicaLink}

theorem never_wedged_iff :
    s.NeverWedged ↔ (s.senderExited = true → s.loop.isReturned = true ∨ s.loop = .selecting ∧ s.waitingForReply = true) := by
  constructor
  · rintro ⟨free, still⟩ exited
    cases place : s.loop with
    | handing request => exact absurd ⟨⟨request, place⟩, exited⟩ free
    | returned halted => exact .inl rfl
    | selecting =>
        refine .inr ⟨rfl, ?_⟩
        by_contra idle
        have taken : linkStep s (.takeOut .decoy) = some { s with loop := .handing .decoy } := by
          rw [linkStep, if_neg idle, ReplicaLink.select, if_pos place]
        exact still .decoy _ taken ⟨⟨.decoy, rfl⟩, exited⟩
  · intro free
    constructor
    · rintro ⟨⟨request, place⟩, exited⟩
      have gone := free exited
      rw [place] at gone
      rcases gone with gone | ⟨gone, -⟩ <;> cases gone
    · intro request next taken wedged
      rw [linkStep] at taken
      split at taken
      · cases taken
      · rename_i idle
        rw [ReplicaLink.select] at taken
        split at taken
        · rename_i place
          cases taken
          rcases free wedged.2 with gone | ⟨-, waiting⟩
          · rw [place] at gone
            cases gone
          · exact idle waiting
        · cases taken

theorem select_step (after : ReplicaLink) (taken : s.select after = some next) : s.loop = .selecting ∧ next = after := by
  rw [ReplicaLink.select] at taken
  split at taken
  · exact ⟨‹_›, (Option.some.inj taken).symm⟩
  · cases taken

theorem returned_free (gone : s.loop.isReturned = true) : s.NeverWedged := never_wedged_iff.mpr fun _ => .inl gone

theorem running_free (running : s.senderExited = false) : s.NeverWedged :=
  never_wedged_iff.mpr fun exited => absurd exited (by rw [running]; decide)

theorem sent_free (ok : Bool) (taken : linkStep s (.sent ok) = some next) : next.NeverWedged ↔ s.Prompted (.sent ok) := by
  rw [linkStep] at taken
  split at taken
  · cases taken
  · rename_i writing
    cases taken
    cases ok with
    | true => exact ⟨fun _ => trivial, fun _ => running_free rfl⟩
    | false =>
        rw [never_wedged_iff]
        constructor
        · exact fun free => .inr (free rfl)
        · rintro (idle | place) -
          · exact absurd idle writing
          · exact place

theorem handle_free (taken : linkStep s .handle = some next) : next.NeverWedged ↔ s.Prompted .handle := by
  rw [linkStep] at taken
  split at taken
  · cases taken
  · rename_i cmd there
    obtain ⟨place, rfl⟩ := select_step _ taken
    cases accepted : cmd.accepted with
    | true =>
        rw [never_wedged_iff]
        constructor
        · intro free
          refine .inl ?_
          by_contra exited
          rcases free (Bool.eq_true_of_not_eq_false exited) with gone | ⟨-, waiting⟩
          · cases gone
          · cases waiting
        · rintro (running | other | refused) exited
          · exact absurd exited (by simp only [running]; decide)
          · exact absurd place other
          · exact absurd (refused cmd there) (by rw [accepted]; decide)
    | false =>
        refine ⟨fun _ => .inr (.inr fun other same => ?_), fun _ => returned_free rfl⟩
        rw [there] at same
        cases same
        exact accepted

theorem link_step_free (free : s.NeverWedged) (event : ReplicaLinkEvent) (taken : linkStep s event = some next) :
    next.NeverWedged ↔ s.Prompted event := by
  have place := never_wedged_iff.mp free
  cases event with
  | received cmd =>
      refine iff_of_true ?_ trivial
      rw [linkStep] at taken
      split at taken
      · cases taken
        exact never_wedged_iff.mpr place
      · cases taken
  | takeOut request =>
      refine iff_of_true ?_ trivial
      have wait := free.2 request next taken
      rw [linkStep] at taken
      split at taken
      · cases taken
      · obtain ⟨-, rfl⟩ := select_step _ taken
        refine running_free ?_
        by_contra exited
        exact wait ⟨⟨request, rfl⟩, Bool.eq_true_of_not_eq_false exited⟩
  | hand =>
      refine iff_of_true ?_ trivial
      rw [linkStep] at taken
      split at taken
      · split at taken
        · rename_i ready
          cases taken
          exact running_free ready.2
        · cases taken
      · cases taken
  | sent ok => exact sent_free ok taken
  | senderClosed =>
      refine iff_of_true ?_ trivial
      rw [linkStep] at taken
      split at taken
      · obtain ⟨-, rfl⟩ := select_step _ taken
        exact returned_free rfl
      · cases taken
  | handle => exact handle_free taken
  | reauth valid =>
      refine iff_of_true ?_ trivial
      rw [linkStep] at taken
      obtain ⟨-, rfl⟩ := select_step _ taken
      split
      · exact free
      · exact returned_free rfl
  | halt =>
      refine iff_of_true ?_ trivial
      rw [linkStep] at taken
      split at taken
      all_goals cases taken
      all_goals exact returned_free rfl
  | close =>
      refine iff_of_true ?_ trivial
      rw [linkStep] at taken
      split at taken
      · cases taken
      · cases taken
        exact returned_free rfl

theorem prompted_of_failed (event : ReplicaLinkEvent) (failed : linkStep s event = none) : s.Prompted event := by
  cases event with
  | sent ok =>
      cases ok with
      | true => trivial
      | false =>
          rw [linkStep] at failed
          split at failed
          · exact .inl ‹_›
          · cases failed
  | handle =>
      rw [linkStep] at failed
      split at failed
      · rename_i nothing
        exact .inr (.inr fun cmd there => absurd there (by rw [nothing]; exact nofun))
      · rw [ReplicaLink.select] at failed
        split at failed
        · cases failed
        · exact .inr (.inl ‹_›)
  | _ => trivial

/-- The event loop is never blocked handing a command to a sender that has exited, in just the
runs in which a write that fails finds the loop still waiting, and the close of the sender is seen
before another command of the replica. -/
theorem link_free_iff (events : List ReplicaLinkEvent) :
    Always linkStep ReplicaLink.NeverWedged newReplicaLink events ↔ Meets linkStep ReplicaLink.Prompted newReplicaLink events :=
  always_iff_meets linkStep ReplicaLink.NeverWedged ReplicaLink.Prompted (fun _ event _ free taken => link_step_free free event taken)
    (fun _ event failed => prompted_of_failed event failed) events newReplicaLink (running_free rfl)

/-- As long as it is not wedged, the loop can return once the sender has exited. -/
theorem exited_sender_seen (free : s.NeverWedged) (exited : s.senderExited = true) (running : s.loop.isReturned = false) :
    linkStep s .senderClosed = some { s with loop := .returned false } := by
  rcases never_wedged_iff.mp free exited with gone | ⟨place, -⟩
  · rw [running] at gone
    cases gone
  · rw [linkStep, if_pos exited, ReplicaLink.select, if_pos place]

/-- A NoOp that nobody has asked for lets the loop take a second request; the write of the first
one fails, and the loop waits for a sender that is gone. -/
theorem unasked_command_wedges :
    ∃ s, run linkStep newReplicaLink [.takeOut .decoy, .hand, .received (.reply .noOp), .handle, .takeOut .decoy, .sent false] = some s ∧
      s.Wedged ∧ linkStep s .hand = none ∧ linkStep s .senderClosed = none ∧ linkStep s .handle = none ∧
      ∀ valid, linkStep s (.reauth valid) = none :=
  ⟨⟨.handing .decoy, false, none, true, none, false⟩, rfl, ⟨⟨.decoy, rfl⟩, rfl⟩, rfl, rfl, rfl, fun _ => rfl⟩

end Wedge

end Katzenpost
