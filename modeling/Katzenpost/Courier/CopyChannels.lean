import Katzenpost.Courier.Dispatch

set_option autoImplicit false

namespace Katzenpost

open Go

def maxCopyWriteAttempts : Nat := 8

inductive CopyDispatch where
  | envelope
  | tombstone (replicas : Nat)
deriving DecidableEq

def CopyDispatch.targets : CopyDispatch → Nat
  | .envelope => 2
  | .tombstone replicas => replicas

inductive AttemptStage where
  | sending
  | collecting
  | leaving
  | over
  | ended
deriving DecidableEq

structure CopyAttempt where
  envHash : Digest
  kind : CopyDispatch
  number : Nat
  tried : Nat
  sendErr : Bool
  buffer : List ReplicaMessageReply
  replies : List ReplicaMessageReply
  stage : AttemptStage
deriving DecidableEq

-- The channels are numbered like their attempts. looked are the HandleReply
-- calls between the look-up and the send, cached the replies that went to
-- CacheReply. requests is not in the source: the envelope hashes of the
-- requests that no replica has answered yet.
structure CopyChannels where
  attempts : List CopyAttempt
  copyCache : GoMap Digest Nat
  looked : List (Nat × ReplicaMessageReply)
  cached : List ReplicaMessageReply
  requests : List Digest

def newCopyChannels : CopyChannels := ⟨[], ∅, [], [], []⟩

inductive CopyChannelEvent where
  | start (envHash : Digest) (kind : CopyDispatch)
  | retry (k : Nat)
  | send (k : Nat) (ok : Bool)
  | collect (k : Nat)
  | deadline (k : Nat)
  | unregister (k : Nat)
  | reply (reply : ReplicaMessageReply)
  | deliver (i : Nat)
deriving DecidableEq

section Attempts

variable (a : CopyAttempt)

def CopyAttempt.retries : Bool :=
  match a.kind with
  | .envelope => a.sendErr || a.replies.isEmpty
  | .tombstone _ => !(a.replies.any fun r => r.errorCode = replicaSuccess) &&
      !(a.replies.any fun r => r.errorCode = replicaErrorBoxAlreadyExists)

-- SendMessage to the next replica. A failure ends the attempt of an envelope.
def CopyAttempt.send (ok : Bool) : CopyAttempt :=
  if a.kind = .envelope ∧ ok = false then { a with sendErr := true, stage := .leaving }
  else { a with tried := a.tried + 1, stage := if a.tried + 1 = a.kind.targets then .collecting else .sending }

def CopyAttempt.collect (r : ReplicaMessageReply) (rest : List ReplicaMessageReply) : CopyAttempt :=
  { a with
    buffer := rest
    replies := a.replies ++ [r]
    stage := if a.replies.length + 1 = a.kind.targets then .leaving else .collecting }

end Attempts

section Steps

variable (c : CopyChannels)

def CopyChannels.setAttempt (k : Nat) (a : CopyAttempt) : CopyChannels := { c with attempts := c.attempts.set k a }

def CopyChannels.register (envHash : Digest) (kind : CopyDispatch) (number : Nat) : CopyChannels :=
  { c with
    attempts := c.attempts ++ [⟨envHash, kind, number, 0, false, [], [], if kind.targets = 0 then .leaving else .sending⟩]
    copyCache := c.copyCache.insert envHash c.attempts.length }

def CopyChannels.handleReply (reply : ReplicaMessageReply) : CopyChannels :=
  match c.copyCache[reply.envelopeHash]? with
  | some k => { c with looked := c.looked ++ [(k, reply)] }
  | none => { c with cached := c.cached ++ [reply] }

def CopyChannels.attemptStep (k : Nat) (stage : AttemptStage) (next : CopyAttempt → Option CopyChannels) : Option CopyChannels :=
  (c.attempts[k]?).bind fun a => if a.stage = stage then next a else none

def CopyChannels.step : CopyChannelEvent → Option CopyChannels
  | .start envHash kind => some (c.register envHash kind 0)
  | .retry k => c.attemptStep k .over fun a =>
      if a.retries && a.number + 1 < maxCopyWriteAttempts then
        some ((c.setAttempt k { a with stage := .ended }).register a.envHash a.kind (a.number + 1))
      else none
  | .send k ok => c.attemptStep k .sending fun a =>
      some { c.setAttempt k (a.send ok) with requests := c.requests ++ if ok then [a.envHash] else [] }
  | .collect k => c.attemptStep k .collecting fun a =>
      match a.buffer with
      | r :: rest => some (c.setAttempt k (a.collect r rest))
      | [] => none
  | .deadline k => c.attemptStep k .collecting fun a => some (c.setAttempt k { a with stage := .leaving })
  | .unregister k => c.attemptStep k .leaving fun a =>
      some { c.setAttempt k { a with stage := .over } with copyCache := c.copyCache.erase a.envHash }
  | .reply reply =>
      if reply.envelopeHash ∈ c.requests then
        some { c.handleReply reply with requests := c.requests.erase reply.envelopeHash }
      else none
  | .deliver i =>
      (c.looked[i]?).bind fun (k, reply) => (c.attempts[k]?).bind fun a =>
        if a.buffer.length < a.kind.targets then
          some { c.setAttempt k { a with buffer := a.buffer ++ [reply] } with looked := c.looked.eraseIdx i }
        else none

end Steps

def CopyAttempt.live (a : CopyAttempt) : Prop := a.stage = .sending ∨ a.stage = .collecting ∨ a.stage = .leaving

instance (a : CopyAttempt) : Decidable a.live := inferInstanceAs (Decidable (_ ∨ _))

def NeverBlocks (c : CopyChannels) : Prop :=
  ∀ entry ∈ c.looked, ∃ a, c.attempts[entry.1]? = some a ∧ (a.buffer.length < a.kind.targets ∨ a.stage = .collecting)

def HashSettled (c : CopyChannels) (envHash : Digest) : Prop :=
  envHash ∉ c.requests ∧ ∀ a ∈ c.attempts, a.envHash = envHash → ¬ a.live

def OrderlyAttempt (c : CopyChannels) : CopyChannelEvent → Prop
  | .start envHash _ => HashSettled c envHash
  | .retry k => ∀ a, c.attempts[k]? = some a → HashSettled c a.envHash
  | _ => True

section Bounds

variable (c : CopyChannels)

def lookedAt (k : Nat) : Nat := c.looked.countP fun entry => entry.1 = k

def expected (k : Nat) (envHash : Digest) : Nat := if c.copyCache[envHash]? = some k then c.requests.count envHash else 0

structure Bounded : Prop where
  current : ∀ (envHash : Digest) k, c.copyCache[envHash]? = some k →
    ∃ a, c.attempts[k]? = some a ∧ a.envHash = envHash ∧ a.live
  single : ∀ (k k' : Nat) a a', c.attempts[k]? = some a → c.attempts[k']? = some a' → a.live → a'.live →
    a.envHash = a'.envHash → k = k'
  tried : ∀ (k : Nat) a, c.attempts[k]? = some a → a.tried ≤ a.kind.targets ∧ (a.stage = .sending → a.tried < a.kind.targets)
  room : ∀ (k : Nat) a, c.attempts[k]? = some a →
    a.buffer.length + a.replies.length + lookedAt c k + expected c k a.envHash ≤ a.tried
  known : ∀ entry ∈ c.looked, entry.1 < c.attempts.length

theorem bounded_never_blocks (bounded : Bounded c) : NeverBlocks c := by
  intro entry member
  have inside := bounded.known entry member
  have found := List.getElem?_eq_getElem inside
  refine ⟨_, found, .inl ?_⟩
  have here : 0 < lookedAt c entry.1 := List.countP_pos_iff.mpr ⟨entry, member, by simp⟩
  have room := bounded.room _ _ found
  have tried := (bounded.tried _ _ found).1
  omega

theorem new_copy_channels_bounded : Bounded newCopyChannels :=
  ⟨by simp [newCopyChannels], by simp [newCopyChannels], by simp [newCopyChannels], by simp [newCopyChannels], by simp [newCopyChannels]⟩

theorem set_lookup (k j : Nat) (a a' b : CopyAttempt) (found : c.attempts[k]? = some a)
    (lookup : (c.attempts.set k a')[j]? = some b) : (k = j ∧ b = a') ∨ (k ≠ j ∧ c.attempts[j]? = some b) := by
  have inside := (List.getElem?_eq_some_iff.mp found).1
  rw [List.getElem?_set] at lookup
  by_cases same : k = j
  · rw [if_pos same, if_pos inside] at lookup
    exact .inl ⟨same, (Option.some.inj lookup).symm⟩
  · rw [if_neg same] at lookup
    exact .inr ⟨same, lookup⟩

theorem bounded_attempt (k : Nat) (a a' : CopyAttempt) (requests : List Digest) (copyCache : GoMap Digest Nat)
    (bounded : Bounded c) (found : c.attempts[k]? = some a) (hash : a'.envHash = a.envHash) (alive : a.live)
    (cache : (copyCache = c.copyCache ∧ a'.live) ∨ copyCache = c.copyCache.erase a.envHash)
    (tried : a'.tried ≤ a'.kind.targets ∧ (a'.stage = .sending → a'.tried < a'.kind.targets))
    (others : ∀ h, h ≠ a.envHash → requests.count h = c.requests.count h)
    (room : a'.buffer.length + a'.replies.length + requests.count a.envHash + a.tried ≤
      a'.tried + a.buffer.length + a.replies.length + c.requests.count a.envHash)
    (more : c.requests.count a.envHash ≤ requests.count a.envHash) :
    Bounded { c.setAttempt k a' with requests := requests, copyCache := copyCache } := by
  have registered : ∀ (h : Digest) j, copyCache[h]? = some j → c.copyCache[h]? = some j ∧ (h = a.envHash → a'.live) := by
    intro h j lookup
    rcases cache with ⟨rfl, live⟩ | rfl
    · exact ⟨lookup, fun _ => live⟩
    · obtain ⟨other, lookup⟩ := of_lookup_erase c.copyCache a.envHash h j lookup
      exact ⟨lookup, fun same => absurd same.symm other⟩
  refine ⟨fun h j lookup => ?_, fun j j' b b' first second => ?_, fun j b lookup => ?_, fun j b lookup => ?_, fun entry member => ?_⟩
  · obtain ⟨before, live⟩ := registered h j lookup
    obtain ⟨b, here, named, alive'⟩ := bounded.current h j before
    by_cases same : k = j
    · subst same
      obtain rfl := Option.some.inj (found.symm.trans here)
      refine ⟨a', ?_, hash.trans named, live named.symm⟩
      exact List.getElem?_set_self (List.getElem?_eq_some_iff.mp found).1
    · exact ⟨b, (List.getElem?_set_ne same).trans here, named, alive'⟩
  · intro live live' named
    rcases set_lookup c k j a a' b found first with ⟨rfl, rfl⟩ | ⟨-, here⟩
    · rcases set_lookup c k j' a b b' found second with ⟨rfl, rfl⟩ | ⟨-, there⟩
      · rfl
      · exact bounded.single k j' a b' found there alive live' (hash.symm.trans named)
    · rcases set_lookup c k j' a a' b' found second with ⟨rfl, rfl⟩ | ⟨-, there⟩
      · exact bounded.single j k b a here found live alive (named.trans hash)
      · exact bounded.single j j' b b' here there live live' named
  · rcases set_lookup c k j a a' b found lookup with ⟨rfl, rfl⟩ | ⟨-, lookup⟩
    · exact tried
    · exact bounded.tried j b lookup
  · change b.buffer.length + b.replies.length + lookedAt c j + (if copyCache[b.envHash]? = some j then _ else 0) ≤ b.tried
    rcases set_lookup c k j a a' b found lookup with ⟨rfl, rfl⟩ | ⟨other, lookup⟩
    · have before := bounded.room k a found
      rw [hash]
      split
      · rename_i current
        rw [expected, if_pos (registered _ k current).1] at before
        change _ + requests.count a.envHash ≤ _
        omega
      · omega
    · have before := bounded.room j b lookup
      split
      · rename_i current
        obtain ⟨current, -⟩ := registered _ j current
        have apart : b.envHash ≠ a.envHash := by
          intro same
          obtain ⟨b', here, -, alive'⟩ := bounded.current _ j current
          obtain rfl := Option.some.inj (lookup.symm.trans here)
          exact other (bounded.single k j a b found lookup alive alive' same.symm)
        rw [expected, if_pos current] at before
        change _ + requests.count b.envHash ≤ _
        rw [others _ apart]
        exact before
      · omega
  · change entry.1 < (c.attempts.set k a').length
    rw [List.length_set]
    exact bounded.known entry member

theorem bounded_register (envHash : Digest) (kind : CopyDispatch) (number : Nat) (bounded : Bounded c)
    (settled : HashSettled c envHash) : Bounded (c.register envHash kind number) := by
  have lookups : ∀ j b, (c.register envHash kind number).attempts[j]? = some b → c.attempts[j]? = some b ∨
      j = c.attempts.length ∧
        b = ⟨envHash, kind, number, 0, false, [], [], if kind.targets = 0 then .leaving else .sending⟩ := by
    intro j b lookup
    change (c.attempts ++ [_])[j]? = some b at lookup
    rw [List.getElem?_append] at lookup
    split at lookup
    · exact .inl lookup
    · obtain ⟨inside, here⟩ := List.getElem?_eq_some_iff.mp lookup
      have last : j - c.attempts.length = 0 := Nat.lt_one_iff.mp inside
      simp only [last, List.getElem_cons_zero] at here
      exact .inr ⟨by omega, here.symm⟩
  have unseen : lookedAt c c.attempts.length = 0 := by
    rw [lookedAt, List.countP_eq_zero]
    intro entry member
    have inside := bounded.known entry member
    simp only [decide_eq_true_eq]
    omega
  refine ⟨fun h j lookup => ?_, fun j j' b b' first second => ?_, fun j b lookup => ?_, fun j b lookup => ?_, fun entry member => ?_⟩
  · change (c.copyCache.insert envHash c.attempts.length)[h]? = some j at lookup
    rw [lookup_insert] at lookup
    split at lookup
    · rename_i same
      obtain rfl := Option.some.inj lookup
      refine ⟨_, List.getElem?_concat_length, same, ?_⟩
      by_cases none : kind.targets = 0
      · exact .inr (.inr (if_pos none))
      · exact .inl (if_neg none)
    · obtain ⟨b, here, rest⟩ := bounded.current h j lookup
      exact ⟨b, List.getElem?_append_left (List.getElem?_eq_some_iff.mp here).1 |>.trans here, rest⟩
  · intro live live' named
    rcases lookups j b first with first | ⟨rfl, rfl⟩
    · rcases lookups j' b' second with second | ⟨rfl, rfl⟩
      · exact bounded.single j j' b b' first second live live' named
      · exact absurd live (settled.2 b (List.mem_of_getElem? first) named)
    · rcases lookups j' b' second with second | ⟨rfl, -⟩
      · exact absurd live' (settled.2 b' (List.mem_of_getElem? second) named.symm)
      · rfl
  · rcases lookups j b lookup with lookup | ⟨-, rfl⟩
    · exact bounded.tried j b lookup
    · refine ⟨Nat.zero_le _, fun sending => ?_⟩
      by_cases none : kind.targets = 0
      · simp [none] at sending
      · exact Nat.pos_of_ne_zero none
  · change b.buffer.length + b.replies.length + lookedAt c j +
      (if (c.copyCache.insert envHash c.attempts.length)[b.envHash]? = some j then c.requests.count b.envHash else 0) ≤ b.tried
    rcases lookups j b lookup with lookup | ⟨rfl, rfl⟩
    · have before := bounded.room j b lookup
      have inside := (List.getElem?_eq_some_iff.mp lookup).1
      have same : (c.copyCache.insert envHash c.attempts.length)[b.envHash]? = some j → c.copyCache[b.envHash]? = some j := by
        rw [lookup_insert]
        split
        · intro last
          exact absurd (Option.some.inj last) (by omega)
        · exact id
      split
      · rename_i current
        rw [expected, if_pos (same current)] at before
        exact before
      · omega
    · have none : c.requests.count envHash = 0 := List.count_eq_zero.mpr settled.1
      simp [unseen, none]
  · change entry.1 < (c.attempts ++ [_]).length
    have inside := bounded.known entry member
    rw [List.length_append]
    omega

theorem bounded_end (k : Nat) (a : CopyAttempt) (bounded : Bounded c) (found : c.attempts[k]? = some a) (done : a.stage = .over) :
    Bounded (c.setAttempt k { a with stage := .ended }) := by
  have dead : ¬ a.live := by simp [CopyAttempt.live, done]
  have lookups : ∀ (j : Nat) (b : CopyAttempt), (c.setAttempt k { a with stage := .ended }).attempts[j]? = some b →
      ∃ b' : CopyAttempt, c.attempts[j]? = some b' ∧ b = { b' with stage := b.stage } ∧ (b.live → b = b') ∧ (b.stage = .sending → b = b') := by
    intro j b lookup
    rcases set_lookup c k j a _ b found lookup with ⟨rfl, rfl⟩ | ⟨-, lookup⟩
    · exact ⟨a, found, rfl, fun live => absurd live (by simp [CopyAttempt.live]), nofun⟩
    · exact ⟨b, lookup, rfl, fun _ => rfl, fun _ => rfl⟩
  refine ⟨fun h j lookup => ?_, fun j j' b b' first second => ?_, fun j b lookup => ?_, fun j b lookup => ?_, fun entry member => ?_⟩
  · obtain ⟨b, here, named, live⟩ := bounded.current h j lookup
    have other : k ≠ j := by
      rintro rfl
      exact dead (Option.some.inj (found.symm.trans here) ▸ live)
    exact ⟨b, (List.getElem?_set_ne other).trans here, named, live⟩
  · intro live live' named
    obtain ⟨_, here, -, same, -⟩ := lookups j b first
    obtain ⟨_, there, -, same', -⟩ := lookups j' b' second
    obtain rfl := same live
    obtain rfl := same' live'
    exact bounded.single j j' b b' here there live live' named
  · obtain ⟨b', here, same, -, sending⟩ := lookups j b lookup
    have before := bounded.tried j b' here
    refine ⟨by rw [same]; exact before.1, fun stage => ?_⟩
    obtain rfl := sending stage
    exact before.2 stage
  · obtain ⟨b', here, same, -⟩ := lookups j b lookup
    rw [same]
    exact bounded.room j b' here
  · change entry.1 < (c.attempts.set k _).length
    rw [List.length_set]
    exact bounded.known entry member

theorem bounded_reply (reply : ReplicaMessageReply) (bounded : Bounded c) (asked : reply.envelopeHash ∈ c.requests) :
    Bounded { c.handleReply reply with requests := c.requests.erase reply.envelopeHash } := by
  have fewer : ∀ h, (c.requests.erase reply.envelopeHash).count h =
      c.requests.count h - if reply.envelopeHash = h then 1 else 0 := by
    intro h
    rw [List.count_erase]
    simp only [beq_iff_eq]
  have positive := List.count_pos_iff.mpr asked
  unfold CopyChannels.handleReply
  cases lookup : c.copyCache[reply.envelopeHash]? with
  | none =>
      refine ⟨bounded.current, bounded.single, bounded.tried, fun j b here => ?_, bounded.known⟩
      have before := bounded.room j b here
      change _ + lookedAt c j + (if c.copyCache[b.envHash]? = some j then (c.requests.erase _).count b.envHash else 0) ≤ _
      rw [expected] at before
      rw [fewer]
      split
      · rename_i current
        rw [if_pos current] at before
        omega
      · rename_i stale
        rw [if_neg stale] at before
        exact before
  | some k =>
      obtain ⟨a, found, named, -⟩ := bounded.current _ k lookup
      refine ⟨bounded.current, bounded.single, bounded.tried, fun j b here => ?_, fun entry member => ?_⟩
      · have before := bounded.room j b here
        have counted : (c.looked ++ [(k, reply)]).countP (fun entry => entry.1 = j) = lookedAt c j + if k = j then 1 else 0 := by
          rw [List.countP_append, List.countP_singleton, lookedAt]
          simp only [decide_eq_true_eq]
        change _ + (c.looked ++ [(k, reply)]).countP (fun entry => entry.1 = j) +
          (if c.copyCache[b.envHash]? = some j then (c.requests.erase _).count b.envHash else 0) ≤ _
        rw [counted, fewer]
        -- The reply goes to the channel that its request is expected for.
        by_cases same : k = j
        · subst same
          obtain rfl := Option.some.inj (found.symm.trans here)
          rw [expected, named, if_pos lookup] at before
          rw [named, if_pos rfl, if_pos lookup, if_pos rfl]
          omega
        · have apart : c.copyCache[b.envHash]? = some j → reply.envelopeHash ≠ b.envHash := by
            intro current hash
            rw [← hash, lookup] at current
            exact same (Option.some.inj current)
          rw [expected] at before
          rw [if_neg same]
          split
          · rename_i current
            rw [if_pos current] at before
            rw [if_neg (apart current)]
            exact before
          · rename_i stale
            rw [if_neg stale] at before
            exact before
      · rcases List.mem_append.mp member with old | new
        · exact bounded.known entry old
        · rw [List.mem_singleton.mp new]
          exact (List.getElem?_eq_some_iff.mp found).1

theorem bounded_deliver (i k : Nat) (reply : ReplicaMessageReply) (a : CopyAttempt) (bounded : Bounded c)
    (looked : c.looked[i]? = some (k, reply)) (found : c.attempts[k]? = some a) :
    Bounded { c.setAttempt k { a with buffer := a.buffer ++ [reply] } with looked := c.looked.eraseIdx i } := by
  obtain ⟨inside, here⟩ := List.getElem?_eq_some_iff.mp looked
  have counted : ∀ j, lookedAt c j = (if k = j then 1 else 0) + (c.looked.eraseIdx i).countP fun entry => entry.1 = j := by
    intro j
    rw [lookedAt, ← (List.getElem_cons_eraseIdx_perm inside).countP_eq, here, List.countP_cons, Nat.add_comm]
    simp only [decide_eq_true_eq]
  have lookups : ∀ j b, (c.setAttempt k { a with buffer := a.buffer ++ [reply] }).attempts[j]? = some b →
      ∃ b', c.attempts[j]? = some b' ∧ b.envHash = b'.envHash ∧ b.stage = b'.stage ∧ b.tried = b'.tried ∧ b.kind = b'.kind ∧
        b.replies = b'.replies ∧ b.buffer.length = b'.buffer.length + if k = j then 1 else 0 := by
    intro j b lookup
    rcases set_lookup c k j a _ b found lookup with ⟨rfl, rfl⟩ | ⟨other, lookup⟩
    · exact ⟨a, found, rfl, rfl, rfl, rfl, rfl, by simp⟩
    · exact ⟨b, lookup, rfl, rfl, rfl, rfl, rfl, by simp [other]⟩
  refine ⟨fun h j lookup => ?_, fun j j' b b' first second => ?_, fun j b lookup => ?_, fun j b lookup => ?_, fun entry member => ?_⟩
  · obtain ⟨b, there, named, live⟩ := bounded.current h j lookup
    by_cases same : k = j
    · subst same
      obtain rfl := Option.some.inj (found.symm.trans there)
      exact ⟨_, List.getElem?_set_self (List.getElem?_eq_some_iff.mp found).1, named, live⟩
    · exact ⟨b, (List.getElem?_set_ne same).trans there, named, live⟩
  · intro live live' named
    obtain ⟨b₀, before, hash, stage, -⟩ := lookups j b first
    obtain ⟨b₁, before', hash', stage', -⟩ := lookups j' b' second
    rw [CopyAttempt.live, stage] at live
    rw [CopyAttempt.live, stage'] at live'
    exact bounded.single j j' b₀ b₁ before before' live live' (hash.symm.trans (named.trans hash'))
  · obtain ⟨b', before, -, stage, tries, kind, -⟩ := lookups j b lookup
    rw [stage, tries, kind]
    exact bounded.tried j b' before
  · obtain ⟨b', before, hash, -, tries, -, replies, buffer⟩ := lookups j b lookup
    have room := bounded.room j b' before
    rw [counted] at room
    change b.buffer.length + b.replies.length + (c.looked.eraseIdx i).countP (fun entry => entry.1 = j) + expected c j b.envHash ≤ _
    rw [hash, tries, replies, buffer]
    omega
  · change entry.1 < (c.attempts.set k _).length
    rw [List.length_set]
    exact bounded.known entry (List.mem_of_mem_eraseIdx member)

theorem attempt_step (k : Nat) (stage : AttemptStage) (next : CopyAttempt → Option CopyChannels) (c' : CopyChannels)
    (taken : c.attemptStep k stage next = some c') : ∃ a, c.attempts[k]? = some a ∧ a.stage = stage ∧ next a = some c' := by
  obtain ⟨a, found, chosen⟩ := Option.bind_eq_some_iff.mp taken
  obtain ⟨here, chosen⟩ := Option.ite_none_right_eq_some.mp chosen
  exact ⟨a, found, here, chosen⟩

theorem step_bounded (event : CopyChannelEvent) (c' : CopyChannels) (bounded : Bounded c) (orderly : OrderlyAttempt c event)
    (taken : c.step event = some c') : Bounded c' := by
  cases event with
  | start envHash kind =>
      obtain rfl := Option.some.inj taken
      exact bounded_register c envHash kind 0 bounded orderly
  | retry k =>
      obtain ⟨a, found, done, chosen⟩ := attempt_step c k .over _ c' taken
      obtain ⟨-, rfl⟩ := Option.ite_none_right_eq_some.mp chosen |>.imp_right Option.some.inj
      refine bounded_register _ a.envHash a.kind _ (bounded_end c k a bounded found done) ?_
      obtain ⟨unasked, ended⟩ := orderly a found
      refine ⟨unasked, fun b member named => ?_⟩
      obtain ⟨j, lookup⟩ := List.mem_iff_getElem?.mp member
      rcases set_lookup c k j a _ b found lookup with ⟨-, rfl⟩ | ⟨-, lookup⟩
      · simp [CopyAttempt.live]
      · exact ended b (List.mem_of_getElem? lookup) named
  | send k ok =>
      obtain ⟨a, found, stage, chosen⟩ := attempt_step c k .sending _ c' taken
      obtain rfl := Option.some.inj chosen
      have before := bounded.tried k a found
      have open_ := before.2 stage
      have others : ∀ h, h ≠ a.envHash → (c.requests ++ if ok then [a.envHash] else []).count h = c.requests.count h := by
        intro h different
        cases ok <;> simp [different.symm]
      refine bounded_attempt c k a (a.send ok) _ _ bounded found ?_ (.inl stage) (.inl ⟨rfl, ?_⟩) ?_ others ?_ (by simp)
      all_goals unfold CopyAttempt.send
      · split <;> rfl
      · split
        · exact .inr (.inr rfl)
        · by_cases last : a.tried + 1 = a.kind.targets
          · exact .inr (.inl (if_pos last))
          · exact .inl (if_neg last)
      · split
        · exact ⟨before.1, nofun⟩
        · refine ⟨open_, fun sending => ?_⟩
          by_cases last : a.tried + 1 = a.kind.targets
          · simp [last] at sending
          · change a.tried + 1 < a.kind.targets
            omega
      · split
        · rename_i failed
          simp only [failed.2, Bool.false_eq_true, if_false, List.append_nil]
          omega
        · cases ok <;> simp <;> omega
  | collect k =>
      obtain ⟨a, found, stage, chosen⟩ := attempt_step c k .collecting _ c' taken
      cases buffered : a.buffer with
      | nil => simp [buffered] at chosen
      | cons r rest =>
          simp only [buffered, Option.some_inj] at chosen
          subst chosen
          have before := bounded.tried k a found
          refine bounded_attempt c k a (a.collect r rest) c.requests c.copyCache bounded found rfl (.inr (.inl stage))
            (.inl ⟨rfl, ?_⟩) ⟨before.1, ?_⟩ (fun _ _ => rfl) ?_ (Nat.le_refl _)
          · by_cases last : a.replies.length + 1 = a.kind.targets
            · exact .inr (.inr (if_pos last))
            · exact .inr (.inl (if_neg last))
          · unfold CopyAttempt.collect
            dsimp only
            split <;> exact nofun
          · simp only [CopyAttempt.collect, buffered, List.length_append, List.length_cons, List.length_nil]
            omega
  | deadline k =>
      obtain ⟨a, found, stage, chosen⟩ := attempt_step c k .collecting _ c' taken
      obtain rfl := Option.some.inj chosen
      exact bounded_attempt c k a { a with stage := .leaving } c.requests c.copyCache bounded found rfl (.inr (.inl stage))
        (.inl ⟨rfl, .inr (.inr rfl)⟩) ⟨(bounded.tried k a found).1, nofun⟩ (fun _ _ => rfl) (by dsimp only; omega) (Nat.le_refl _)
  | unregister k =>
      obtain ⟨a, found, stage, chosen⟩ := attempt_step c k .leaving _ c' taken
      obtain rfl := Option.some.inj chosen
      exact bounded_attempt c k a { a with stage := .over } c.requests _ bounded found rfl (.inr (.inr stage))
        (.inr rfl) ⟨(bounded.tried k a found).1, nofun⟩ (fun _ _ => rfl) (by dsimp only; omega) (Nat.le_refl _)
  | reply reply =>
      obtain ⟨asked, rfl⟩ := Option.ite_none_right_eq_some.mp taken |>.imp_right Option.some.inj
      exact bounded_reply c reply bounded asked
  | deliver i =>
      obtain ⟨⟨k, reply⟩, looked, chosen⟩ := Option.bind_eq_some_iff.mp taken
      obtain ⟨a, found, chosen⟩ := Option.bind_eq_some_iff.mp chosen
      obtain ⟨-, rfl⟩ := Option.ite_none_right_eq_some.mp chosen |>.imp_right Option.some.inj
      exact bounded_deliver c i k reply a bounded looked found

end Bounds

/-- In a run whose attempts start on settled hashes no reply waits for room. -/
theorem copy_replies_never_block (events : List CopyChannelEvent)
    (orderly : Meets CopyChannels.step OrderlyAttempt newCopyChannels events) :
    Always CopyChannels.step NeverBlocks newCopyChannels events :=
  always_of_invariant CopyChannels.step NeverBlocks Bounded OrderlyAttempt
    (fun c event c' bounded condition taken => step_bounded c event c' bounded condition taken)
    bounded_never_blocks events newCopyChannels new_copy_channels_bounded orderly

instance (c : CopyChannels) (envHash : Digest) : Decidable (HashSettled c envHash) := inferInstanceAs (Decidable (_ ∧ _))

instance (c : CopyChannels) (event : CopyChannelEvent) : Decidable (OrderlyAttempt c event) :=
  match event with
  | .start envHash _ => inferInstanceAs (Decidable (HashSettled c envHash))
  | .retry k =>
      match found : c.attempts[k]? with
      | none => isTrue fun _ here => nomatch found.symm.trans here
      | some a => decidable_of_iff (HashSettled c a.envHash) (by simp [OrderlyAttempt, found])
  | .send _ _ | .collect _ | .deadline _ | .unregister _ | .reply _ | .deliver _ => isTrue trivial

def sampleEnvHash : Digest := ⟨List.replicate 32 7, by decide⟩

def sampleWriteReply (replicaID : UInt8) : ReplicaMessageReply := ⟨sampleEnvHash, replicaID, replicaSuccess, []⟩

def orderlyAttempts : List CopyChannelEvent :=
  [.start sampleEnvHash .envelope, .send 0 true, .send 0 true, .reply (sampleWriteReply 1), .deliver 0, .reply (sampleWriteReply 2),
    .collect 0]

theorem orderly_attempts_never_block : ∃ c, run CopyChannels.step newCopyChannels orderlyAttempts = some c ∧
    c.looked.length = 1 ∧ NeverBlocks c := by
  have checked : (run CopyChannels.step newCopyChannels orderlyAttempts).any (fun c => c.looked.length = 1) = true := by decide +kernel
  obtain ⟨c, reached, waiting⟩ := (Option.any_eq_true _ _).mp checked
  have always := copy_replies_never_block orderlyAttempts (by decide +kernel)
  exact ⟨c, reached, of_decide_eq_true waiting, always_final CopyChannels.step NeverBlocks _ _ c always reached⟩

def lateReplies : List CopyChannelEvent :=
  [.start sampleEnvHash .envelope, .send 0 true, .send 0 true, .deadline 0, .unregister 0, .retry 0, .send 1 true, .send 1 true,
    .reply (sampleWriteReply 1), .deliver 0, .reply (sampleWriteReply 2), .deliver 0, .reply (sampleWriteReply 1), .deadline 1,
    .unregister 1]

/-- The first attempt gets no reply in time. Its two replies fill the channel of the second
attempt, which gives up as well, while a third reply has looked the channel up: nobody will read
from it. -/
theorem late_replies_block : ∃ c a, run CopyChannels.step newCopyChannels lateReplies = some c ∧
    (1, sampleWriteReply 1) ∈ c.looked ∧ c.attempts[1]? = some a ∧ a.buffer.length = a.kind.targets ∧ a.stage = .over ∧
    ¬ NeverBlocks c := by
  have checked : (run CopyChannels.step newCopyChannels lateReplies).any (fun c => (1, sampleWriteReply 1) ∈ c.looked ∧
      c.attempts[1]?.any (fun a => a.buffer.length = a.kind.targets ∧ a.stage = .over)) = true := by decide +kernel
  obtain ⟨c, reached, state⟩ := (Option.any_eq_true _ _).mp checked
  obtain ⟨looked, attempt⟩ := of_decide_eq_true state
  obtain ⟨a, found, full⟩ := (Option.any_eq_true _ _).mp attempt
  obtain ⟨full, stage⟩ := of_decide_eq_true full
  refine ⟨c, a, reached, looked, found, full, stage, fun never => ?_⟩
  obtain ⟨a', found', room | reading⟩ := never _ looked
  · rw [Option.some.inj (found.symm.trans found')] at full
    omega
  · rw [← Option.some.inj (found.symm.trans found'), stage] at reading
    cases reading

end Katzenpost
