import Katzenpost.Courier.Dispatch
import Katzenpost.Go.Run
import Katzenpost.Go.Slots

set_option autoImplicit false

namespace Katzenpost.Replica

open Go

-- A response channel, and what the call of sendProxyRequestSync that waits on it has got:
-- nothing yet, a reply, or none after a timeout, a shutdown or a nil reply.
structure ProxyChannel where
  envelopeHash : Digest
  buffer : List ReplicaMessageReply
  closed : Bool
  result : Option (Option ReplicaMessageReply)
deriving DecidableEq

structure ProxyRequestManager where
  pendingRequests : GoMap Digest (Nat × Int)
  channels : List ProxyChannel
  canceled : Bool
  panicked : Bool

def newProxyRequestManager : ProxyRequestManager := ⟨∅, [], false, false⟩

inductive ProxyEvent where
  | registerProxyRequest (envelopeHash : Digest) (now : Int)
  | handleReply (reply : ReplicaMessageReply) (halts : Bool)
  | cleanupExpiredRequests (order : Range Digest (Nat × Int)) (now timeout : Int)
  | cancel
  | shutdown (order : Range Digest (Nat × Int))
  | receive (channel : Nat)
  | leave (channel : Nat)

section Steps

variable (p : ProxyRequestManager)

def ProxyRequestManager.close (channel : Nat) : ProxyRequestManager :=
  match p.channels[channel]? with
  | none => p
  | some ch =>
      if ch.closed then { p with panicked := true } else { p with channels := p.channels.set channel { ch with closed := true } }

def ProxyRequestManager.drop (entry : Digest × (Nat × Int)) : ProxyRequestManager :=
  { p.close entry.2.1 with pendingRequests := (p.close entry.2.1).pendingRequests.erase entry.1 }

def ProxyRequestManager.registerProxyRequest (envelopeHash : Digest) (now : Int) : ProxyRequestManager :=
  { p with
    pendingRequests := p.pendingRequests.insert envelopeHash (p.channels.length, now)
    channels := p.channels ++ [⟨envelopeHash, [], false, none⟩] }

-- The channel holds one reply. With a full one the call waits, with the lock.
def ProxyRequestManager.handleReply (reply : ReplicaMessageReply) (halts : Bool) : Option ProxyRequestManager :=
  match p.pendingRequests[reply.envelopeHash]? with
  | none => some p
  | some (channel, _) =>
      if halts then if p.canceled then some p else none
      else
        match p.channels[channel]? with
        | none => none
        | some ch =>
            if ch.closed then some { p with panicked := true }
            else if ch.buffer ≠ [] then none
            else some { p with
              pendingRequests := p.pendingRequests.erase reply.envelopeHash
              channels := p.channels.set channel { ch with buffer := [reply], closed := true } }

def ProxyRequestManager.receive (channel : Nat) : Option ProxyRequestManager :=
  match p.channels[channel]? with
  | none => none
  | some ch =>
      if ch.result ≠ none then none
      else
        match ch.buffer with
        | reply :: rest => some { p with channels := p.channels.set channel { ch with buffer := rest, result := some (some reply) } }
        | [] => if ch.closed then some { p with channels := p.channels.set channel { ch with result := some none } } else none

def ProxyRequestManager.leave (channel : Nat) : Option ProxyRequestManager :=
  match p.channels[channel]? with
  | none => none
  | some ch => if ch.result ≠ none then none else some { p with channels := p.channels.set channel { ch with result := some none } }

-- A panic ends the process. Shutdown goes on once the cleanup worker has returned.
def proxyStep (event : ProxyEvent) : Option ProxyRequestManager :=
  if p.panicked then none
  else
    match event with
    | .registerProxyRequest envelopeHash now => some (p.registerProxyRequest envelopeHash now)
    | .handleReply reply halts => p.handleReply reply halts
    | .cleanupExpiredRequests order now timeout =>
        some (((order.order p.pendingRequests).filter fun entry => now - entry.2.2 > timeout).foldl ProxyRequestManager.drop p)
    | .cancel => some { p with canceled := true }
    | .shutdown order => if p.canceled then some ((order.order p.pendingRequests).foldl ProxyRequestManager.drop p) else none
    | .receive channel => p.receive channel
    | .leave channel => p.leave channel

end Steps

structure ProxyChannel.Addressed (ch : ProxyChannel) : Prop where
  single : ch.buffer.length ≤ 1
  buffered : ∀ reply ∈ ch.buffer, reply.envelopeHash = ch.envelopeHash
  taken : ∀ reply, ch.result = some (some reply) → reply.envelopeHash = ch.envelopeHash ∧ ch.buffer = []
  unsent : ch.closed = false → ch.buffer = [] ∧ ∀ reply, ch.result ≠ some (some reply)

def ProxyRequestManager.Known (p : ProxyRequestManager) (channel : Nat) (envelopeHash : Digest) : Prop :=
  (∃ timestamp, p.pendingRequests[envelopeHash]? = some (channel, timestamp)) ∨
    ∃ (later : Nat) (ch : ProxyChannel), channel < later ∧ p.channels[later]? = some ch ∧ ch.envelopeHash = envelopeHash

structure Routed (p : ProxyRequestManager) : Prop where
  alive : p.panicked = false
  pending : ∀ hash channel timestamp, p.pendingRequests[hash]? = some (channel, timestamp) →
    ∃ ch : ProxyChannel, p.channels[channel]? = some ch ∧ ch.envelopeHash = hash ∧ ch.closed = false
  addressed : ∀ (channel : Nat) (ch : ProxyChannel), p.channels[channel]? = some ch → ch.Addressed
  known : ∀ (channel : Nat) (ch : ProxyChannel), p.channels[channel]? = some ch → ch.closed = false → p.Known channel ch.envelopeHash

section Preserved

variable {p : ProxyRequestManager} {channel : Nat} {ch ch' : ProxyChannel}

theorem lookup_set_channel (channels : List ProxyChannel) (found : channels[channel]? = some ch) (other : Nat) :
    (channels.set channel ch')[other]? = if channel = other then some ch' else channels[other]? := by
  rw [List.getElem?_set]
  have inside := (List.getElem?_eq_some_iff.mp found).1
  split
  · rfl
  · rfl

theorem later_known (found : p.channels[channel]? = some ch) (same : ch'.envelopeHash = ch.envelopeHash) (i : Nat) (hash : Digest)
    (later : ∃ (j : Nat) (other : ProxyChannel), i < j ∧ p.channels[j]? = some other ∧ other.envelopeHash = hash) :
    ∃ (j : Nat) (other : ProxyChannel), i < j ∧ (p.channels.set channel ch')[j]? = some other ∧ other.envelopeHash = hash := by
  obtain ⟨j, other, behind, present, named⟩ := later
  rw [← named]
  by_cases here : channel = j
  · subst here
    cases found.symm.trans present
    exact ⟨channel, ch', behind, by rw [lookup_set_channel _ found, if_pos rfl], same⟩
  · exact ⟨j, other, behind, by rw [lookup_set_channel _ found, if_neg here, present], rfl⟩

theorem changed_routed (routed : Routed p) (found : p.channels[channel]? = some ch) (same : ch'.envelopeHash = ch.envelopeHash)
    (closed : ch'.closed = ch.closed) (addressed : ch'.Addressed) : Routed { p with channels := p.channels.set channel ch' } := by
  refine ⟨routed.alive, fun hash i timestamp present => ?_, fun i other present => ?_, fun i other present isOpen => ?_⟩
  · obtain ⟨other, lookup, named, isOpen⟩ := routed.pending hash i timestamp present
    by_cases here : channel = i
    · subst here
      cases found.symm.trans lookup
      exact ⟨ch', by rw [lookup_set_channel _ found, if_pos rfl], same.trans named, closed.trans isOpen⟩
    · exact ⟨other, by rw [lookup_set_channel _ found, if_neg here, lookup], named, isOpen⟩
  · rw [lookup_set_channel _ found] at present
    split at present
    · cases present
      exact addressed
    · exact routed.addressed i other present
  · rw [lookup_set_channel _ found] at present
    split at present
    · rename_i here
      subst here
      cases present
      rw [same]
      exact (routed.known channel ch found (closed.symm.trans isOpen)).imp_right (later_known found same _ _)
    · exact (routed.known i other present isOpen).imp_right (later_known found same _ _)

theorem released_routed (routed : Routed p) (timestamp : Int) (pending : p.pendingRequests[ch.envelopeHash]? = some (channel, timestamp))
    (found : p.channels[channel]? = some ch) (same : ch'.envelopeHash = ch.envelopeHash) (closed : ch'.closed = true)
    (addressed : ch'.Addressed) :
    Routed { p with pendingRequests := p.pendingRequests.erase ch.envelopeHash, channels := p.channels.set channel ch' } := by
  refine ⟨routed.alive, fun hash i timestamp present => ?_, fun i other present => ?_, fun i other present isOpen => ?_⟩
  · obtain ⟨foreign, present⟩ := of_lookup_erase _ _ _ _ present
    obtain ⟨other, lookup, named, isOpen⟩ := routed.pending hash i timestamp present
    have elsewhere : channel ≠ i := by
      rintro rfl
      cases found.symm.trans lookup
      exact foreign named
    exact ⟨other, by rw [lookup_set_channel _ found, if_neg elsewhere, lookup], named, isOpen⟩
  · rw [lookup_set_channel _ found] at present
    split at present
    · cases present
      exact addressed
    · exact routed.addressed i other present
  · rw [lookup_set_channel _ found] at present
    split at present
    · cases present
      rw [closed] at isOpen
      cases isOpen
    · rename_i elsewhere
      rcases routed.known i other present isOpen with ⟨ts, entry⟩ | later
      · refine .inl ⟨ts, ?_⟩
        rw [lookup_erase, if_neg, entry]
        intro hash
        rw [← hash, pending] at entry
        cases entry
        exact elsewhere rfl
      · exact .inr (later_known found same _ _ later)

theorem register_routed (routed : Routed p) (hash : Digest) (now : Int) : Routed (p.registerProxyRequest hash now) := by
  refine ⟨routed.alive, fun query i timestamp present => ?_, fun i other present => ?_, fun i other present isOpen => ?_⟩
  · rw [ProxyRequestManager.registerProxyRequest, lookup_insert] at present
    split at present
    · rename_i same
      cases present
      exact ⟨⟨hash, [], false, none⟩, List.getElem?_concat_length, same, rfl⟩
    · obtain ⟨other, lookup, named, isOpen⟩ := routed.pending query i timestamp present
      exact ⟨other, lookup_append _ _ _ lookup, named, isOpen⟩
  · rcases appended_lookup _ _ present with old | ⟨_, rfl⟩
    · exact routed.addressed i other old
    · exact ⟨Nat.zero_le 1, fun _ member => absurd member List.not_mem_nil, nofun, fun _ => ⟨rfl, nofun⟩⟩
  · rcases appended_lookup _ _ present with old | ⟨rfl, rfl⟩
    · by_cases same : hash = other.envelopeHash
      · have inside := (List.getElem?_eq_some_iff.mp old).1
        exact .inr ⟨p.channels.length, ⟨hash, [], false, none⟩, inside, List.getElem?_concat_length, same⟩
      · rcases routed.known i other old isOpen with ⟨timestamp, pending⟩ | ⟨j, later, behind, lookup, named⟩
        · refine .inl ⟨timestamp, ?_⟩
          rw [ProxyRequestManager.registerProxyRequest, lookup_insert, if_neg same, pending]
        · exact .inr ⟨j, later, behind, lookup_append _ _ _ lookup, named⟩
    · refine .inl ⟨now, ?_⟩
      rw [ProxyRequestManager.registerProxyRequest, lookup_insert, if_pos rfl]

theorem drop_routed (routed : Routed p) (hash : Digest) (i : Nat) (timestamp : Int)
    (pending : p.pendingRequests[hash]? = some (i, timestamp)) :
    Routed (p.drop (hash, i, timestamp)) ∧ (p.drop (hash, i, timestamp)).pendingRequests = p.pendingRequests.erase hash := by
  obtain ⟨ch, found, rfl, isOpen⟩ := routed.pending hash i timestamp pending
  have addressed := routed.addressed i ch found
  have dropped : p.drop (ch.envelopeHash, i, timestamp) =
      { p with
        pendingRequests := p.pendingRequests.erase ch.envelopeHash
        channels := p.channels.set i { ch with closed := true } } := by
    simp only [ProxyRequestManager.drop, ProxyRequestManager.close, found, isOpen, Bool.false_eq_true, if_false]
  rw [dropped]
  exact ⟨released_routed routed timestamp pending found rfl rfl ⟨addressed.single, addressed.buffered, addressed.taken, nofun⟩, rfl⟩

theorem drops_routed (entries : List (Digest × (Nat × Int))) (routed : Routed p) (distinct : (entries.map Prod.fst).Nodup)
    (pending : ∀ entry ∈ entries, p.pendingRequests[entry.1]? = some entry.2) :
    Routed (entries.foldl ProxyRequestManager.drop p) ∧
      ∀ hash, (entries.foldl ProxyRequestManager.drop p).pendingRequests[hash]? =
        if hash ∈ entries.map Prod.fst then none else p.pendingRequests[hash]? := by
  induction entries generalizing p with
  | nil => exact ⟨routed, fun hash => (if_neg List.not_mem_nil).symm⟩
  | cons entry rest ih =>
      obtain ⟨hash, i, timestamp⟩ := entry
      rw [List.map_cons, List.nodup_cons] at distinct
      obtain ⟨next, erased⟩ := drop_routed routed hash i timestamp (pending _ List.mem_cons_self)
      have others : ∀ entry ∈ rest, (p.drop (hash, i, timestamp)).pendingRequests[entry.1]? = some entry.2 := by
        intro entry member
        rw [erased, lookup_erase, if_neg, pending entry (List.mem_cons_of_mem _ member)]
        intro same
        have absent : hash ∉ rest.map Prod.fst := distinct.1
        rw [same] at absent
        exact absent (List.mem_map_of_mem member)
      obtain ⟨final, left⟩ := ih next distinct.2 others
      refine ⟨final, fun query => ?_⟩
      rw [List.foldl_cons, left, erased, lookup_erase, List.map_cons]
      by_cases member : query ∈ rest.map Prod.fst
      · rw [if_pos member, if_pos (List.mem_cons_of_mem _ member)]
      · rw [if_neg member]
        by_cases same : hash = query
        · rw [if_pos same, if_pos (same ▸ List.mem_cons_self)]
        · rw [if_neg same, if_neg (List.not_mem_cons_of_ne_of_not_mem (Ne.symm same) member)]

theorem handle_reply_sends (routed : Routed p) (reply : ReplicaMessageReply) :
    p.handleReply reply false = some p ∧ p.pendingRequests[reply.envelopeHash]? = none ∨
    ∃ (i : Nat) (timestamp : Int) (ch : ProxyChannel), p.pendingRequests[reply.envelopeHash]? = some (i, timestamp) ∧
      p.channels[i]? = some ch ∧ ch.envelopeHash = reply.envelopeHash ∧
      p.handleReply reply false = some { p with
        pendingRequests := p.pendingRequests.erase reply.envelopeHash
        channels := p.channels.set i { ch with buffer := [reply], closed := true } } := by
  cases pending : p.pendingRequests[reply.envelopeHash]? with
  | none => exact .inl ⟨by rw [ProxyRequestManager.handleReply, pending], rfl⟩
  | some entry =>
      obtain ⟨i, timestamp⟩ := entry
      obtain ⟨ch, found, named, isOpen⟩ := routed.pending _ i timestamp pending
      have empty := ((routed.addressed i ch found).unsent isOpen).1
      refine .inr ⟨i, timestamp, ch, rfl, found, named, ?_⟩
      simp only [ProxyRequestManager.handleReply, pending, found, isOpen, empty, Bool.false_eq_true, if_false, ne_eq, not_true_eq_false]

theorem handle_reply_routed (routed : Routed p) (reply : ReplicaMessageReply) (halts : Bool) (next : ProxyRequestManager)
    (taken : p.handleReply reply halts = some next) : Routed next := by
  cases halts with
  | true =>
      rw [ProxyRequestManager.handleReply] at taken
      split at taken
      · cases taken
        exact routed
      · rw [if_pos rfl] at taken
        split at taken
        · cases taken
          exact routed
        · cases taken
  | false =>
      obtain ⟨sent, _⟩ | ⟨i, timestamp, ch, pending, found, named, sent⟩ := handle_reply_sends routed reply
      · cases sent.symm.trans taken
        exact routed
      · cases sent.symm.trans taken
        rw [← named] at pending ⊢
        have before := (routed.addressed i ch found)
        have isOpen : ch.closed = false := by
          obtain ⟨other, lookup, _, isOpen⟩ := routed.pending _ i timestamp pending
          cases found.symm.trans lookup
          exact isOpen
        refine released_routed routed timestamp pending found rfl rfl ⟨Nat.le_refl 1, fun other member => ?_, fun other result => ?_, nofun⟩
        · cases List.mem_singleton.mp member
          exact named.symm
        · exact absurd result ((before.unsent isOpen).2 other)

theorem receive_routed (routed : Routed p) (i : Nat) (next : ProxyRequestManager) (taken : p.receive i = some next) : Routed next := by
  rw [ProxyRequestManager.receive] at taken
  cases found : p.channels[i]? with
  | none =>
      rw [found] at taken
      cases taken
  | some ch =>
      have addressed := routed.addressed i ch found
      rw [found] at taken
      dsimp only at taken
      split at taken
      · cases taken
      · split at taken
        · rename_i reply rest held
          cases taken
          have last : rest = [] := by
            have single := addressed.single
            rw [held, List.length_cons] at single
            exact List.length_eq_zero_iff.mp (by omega)
          have sent : ch.closed ≠ false := by
            intro isOpen
            rw [(addressed.unsent isOpen).1] at held
            cases held
          subst last
          refine changed_routed routed found rfl rfl
            ⟨Nat.zero_le 1, fun _ member => absurd member List.not_mem_nil, fun other result => ?_, fun isOpen => absurd isOpen sent⟩
          cases result
          exact ⟨addressed.buffered reply (held ▸ List.mem_cons_self), rfl⟩
        · split at taken
          · cases taken
            exact changed_routed routed found rfl rfl
              ⟨addressed.single, addressed.buffered, nofun, fun isOpen => ⟨(addressed.unsent isOpen).1, nofun⟩⟩
          · cases taken

theorem leave_routed (routed : Routed p) (i : Nat) (next : ProxyRequestManager) (taken : p.leave i = some next) : Routed next := by
  rw [ProxyRequestManager.leave] at taken
  cases found : p.channels[i]? with
  | none =>
      rw [found] at taken
      cases taken
  | some ch =>
      have addressed := routed.addressed i ch found
      rw [found] at taken
      dsimp only at taken
      split at taken
      · cases taken
      · cases taken
        exact changed_routed routed found rfl rfl
          ⟨addressed.single, addressed.buffered, nofun, fun isOpen => ⟨(addressed.unsent isOpen).1, nofun⟩⟩

theorem proxy_step_routed (routed : Routed p) (event : ProxyEvent) (next : ProxyRequestManager) (taken : proxyStep p event = some next) :
    Routed next := by
  unfold proxyStep at taken
  rw [routed.alive, if_neg Bool.false_ne_true] at taken
  cases event with
  | registerProxyRequest hash now =>
      cases taken
      exact register_routed routed hash now
  | handleReply reply halts => exact handle_reply_routed routed reply halts next taken
  | cleanupExpiredRequests order now timeout =>
      cases taken
      refine (drops_routed _ routed ?_ fun entry member => ?_).1
      · exact (List.filter_sublist.map Prod.fst).nodup (order_keys_nodup order p.pendingRequests)
      · exact (order_mem order p.pendingRequests entry.1 entry.2).mp (List.mem_filter.mp member).1
  | cancel =>
      cases taken
      exact ⟨rfl, routed.pending, routed.addressed, routed.known⟩
  | shutdown order =>
      dsimp only at taken
      split at taken
      · cases taken
        exact (drops_routed _ routed (order_keys_nodup order p.pendingRequests)
          fun entry member => (order_mem order p.pendingRequests entry.1 entry.2).mp member).1
      · cases taken
  | receive i => exact receive_routed routed i next taken
  | leave i => exact leave_routed routed i next taken

theorem shutdown_empties (routed : Routed p) (order : Range Digest (Nat × Int)) (next : ProxyRequestManager)
    (taken : proxyStep p (.shutdown order) = some next) (hash : Digest) : next.pendingRequests[hash]? = none := by
  rw [proxyStep, routed.alive, if_neg Bool.false_ne_true] at taken
  split at taken
  · cases taken
    rw [(drops_routed _ routed (order_keys_nodup order p.pendingRequests)
      fun entry member => (order_mem order p.pendingRequests entry.1 entry.2).mp member).2, ite_eq_left_iff]
    intro absent
    cases present : p.pendingRequests[hash]? with
    | none => rfl
    | some entry => exact absurd (List.mem_map_of_mem ((order_mem order p.pendingRequests hash entry).mpr present)) absent
  · cases taken

end Preserved

theorem new_manager_routed : Routed newProxyRequestManager := by
  refine ⟨rfl, fun hash i timestamp present => ?_, nofun, nofun⟩
  rw [newProxyRequestManager, Std.ExtTreeMap.getElem?_empty] at present
  cases present

/-- However registrations, replies, cleanups, a shutdown and the waiting calls interleave: no
channel is closed twice or sent to when closed, a call gets a reply to its own request only, a
reply never waits for room, and a call that waits on an open channel has its request pending, or
displaced by a later one of the same hash. A shutdown leaves none pending. -/
theorem proxy_replies_routed (events : List ProxyEvent) (p : ProxyRequestManager)
    (reached : run proxyStep newProxyRequestManager events = some p) :
    p.panicked = false ∧
      (∀ (channel : Nat) (ch : ProxyChannel) (reply : ReplicaMessageReply), p.channels[channel]? = some ch →
        (reply ∈ ch.buffer ∨ ch.result = some (some reply)) → reply.envelopeHash = ch.envelopeHash) ∧
      (∀ reply, (proxyStep p (.handleReply reply false)).isSome = true) ∧
      (∀ (channel : Nat) (ch : ProxyChannel), p.channels[channel]? = some ch → ch.closed = false → p.Known channel ch.envelopeHash) ∧
      ∀ order next, proxyStep p (.shutdown order) = some next → ∀ hash : Digest, next.pendingRequests[hash]? = none := by
  have routed : Routed p :=
    run_preserves proxyStep Routed (fun _ _ => True) (fun state event next routed _ taken => proxy_step_routed routed event next taken)
      events _ p new_manager_routed (meets_always _ _ (fun _ _ => trivial) _ _) reached
  refine ⟨routed.alive, fun i ch reply found holds => ?_, fun reply => ?_, routed.known, fun order next taken => ?_⟩
  · rcases holds with buffered | taken
    · exact (routed.addressed i ch found).buffered reply buffered
    · exact ((routed.addressed i ch found).taken reply taken).1
  · rw [proxyStep, routed.alive, if_neg Bool.false_ne_true]
    obtain ⟨sent, _⟩ | ⟨_, _, _, _, _, _, sent⟩ := handle_reply_sends routed reply
    · exact Option.isSome_iff_exists.mpr ⟨_, sent⟩
    · exact Option.isSome_iff_exists.mpr ⟨_, sent⟩
  · exact shutdown_empties routed order next taken

def firstHash : Digest := ⟨List.replicate 32 4, rfl⟩

def replyTwice : List ProxyEvent :=
  [.registerProxyRequest firstHash 0, .handleReply ⟨firstHash, 2, 0, [7]⟩ false, .registerProxyRequest firstHash 1,
    .cleanupExpiredRequests ascending 60 30, .handleReply ⟨firstHash, 2, 0, [7]⟩ false, .receive 0, .receive 1, .cancel,
    .shutdown ascending]

theorem reply_taken_once :
    ∃ p, run proxyStep newProxyRequestManager replyTwice = some p ∧ p.panicked = false ∧
      p.channels.map ProxyChannel.result = [some (some ⟨firstHash, 2, 0, [7]⟩), some none] := by
  have results : (run proxyStep newProxyRequestManager replyTwice).map (fun p => p.channels.map ProxyChannel.result) =
      some [some (some ⟨firstHash, 2, 0, [7]⟩), some none] := by decide +kernel
  obtain ⟨p, reached, same⟩ := Option.map_eq_some_iff.mp results
  exact ⟨p, reached, (proxy_replies_routed replyTwice p reached).1, same⟩

end Katzenpost.Replica
