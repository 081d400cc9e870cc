import Katzenpost.Courier.Dispatch

set_option autoImplicit false

namespace Katzenpost

open Go

section Slots

theorem store_replica (slot : ReplicaSlot) (reply : ReplicaMessageReply) :
    (slot.store reply).replica = slot.replica ∧ (slot.store reply).reply.isSome = true := by
  rw [ReplicaSlot.store]
  split
  · exact ⟨rfl, rfl⟩
  · rename_i existing held
    split
    · exact ⟨rfl, rfl⟩
    · exact ⟨rfl, by rw [held]; rfl⟩

theorem handle_reply_cases (e : CourierBookKeeping) (reply : ReplicaMessageReply) :
    (e.first.replica = reply.replicaID ∧ e.handleReply reply = { e with first := e.first.store reply }) ∨
    (e.second.replica = reply.replicaID ∧ e.handleReply reply = { e with second := e.second.store reply }) ∨
    (e.first.replica = 255 ∧ e.first.reply = none ∧ e.handleReply reply = { e with first := ⟨reply.replicaID, some reply⟩ }) ∨
    (e.second.replica = 255 ∧ e.second.reply = none ∧ e.handleReply reply = { e with second := ⟨reply.replicaID, some reply⟩ }) ∨
    (e.first.replica ≠ reply.replicaID ∧ e.second.replica ≠ reply.replicaID ∧ e.handleReply reply = e) := by
  rw [CourierBookKeeping.handleReply]
  split
  · rename_i here
    exact .inl ⟨here, rfl⟩
  · rename_i notFirst
    split
    · rename_i here
      exact .inr (.inl ⟨here, rfl⟩)
    · rename_i notSecond
      split
      · rename_i unused
        rw [ReplicaSlot.unused, Bool.and_eq_true, decide_eq_true_eq, Option.isNone_iff_eq_none] at unused
        exact .inr (.inr (.inl ⟨unused.1, unused.2, rfl⟩))
      · split
        · rename_i unused
          rw [ReplicaSlot.unused, Bool.and_eq_true, decide_eq_true_eq, Option.isNone_iff_eq_none] at unused
          exact .inr (.inr (.inr (.inl ⟨unused.1, unused.2, rfl⟩)))
        · exact .inr (.inr (.inr (.inr ⟨notFirst, notSecond, rfl⟩)))

end Slots

-- The calls that work on the cache; a new envelope prunes it too. The goroutine that
-- dispatches an envelope takes it out of inFlight when it returns.
inductive CacheEvent where
  | envelope (env : CourierEnvelope) (currentReplicaEpoch : UInt64) (now : Int)
  | dispatched (envelopeHash : Digest)
  | reply (reply : ReplicaMessageReply)
  | prune (now : Int)

def CourierState.cacheStep (s : CourierState) : CacheEvent → Option CourierState
  | .envelope env currentReplicaEpoch now => some (s.cacheHandleCourierEnvelope env currentReplicaEpoch now).1
  | .dispatched envelopeHash => some { s with inFlight := s.inFlight.erase envelopeHash }
  | .reply reply => some (s.cacheReply reply)
  | .prune now => some (s.pruneDedupCache now)

def ReplicaSlot.payload (slot : ReplicaSlot) : Bytes := slot.reply.elim [] ReplicaMessageReply.envelopeReply

section Properties

variable (s : CourierState)

def CourierState.SlotsNamed : Prop :=
  ∀ (h : Digest) e, s.dedupCache[h]? = some e → ∀ slot ∈ e.slots, ∀ reply, slot.reply = some reply → reply.replicaID = slot.replica

def CourierState.SuccessStays : Prop :=
  ∀ (later : List CacheEvent) final (h : Digest) e index reply, run CourierState.cacheStep s later = some final →
    Always CourierState.cacheStep (fun t => t.dedupCache[h]?.isSome = true) s later → s.dedupCache[h]? = some e →
    (e.slot index).reply = some reply → reply.errorCode = 0 →
    ∃ e', final.dedupCache[h]? = some e' ∧ e'.slot index = e.slot index

def CourierState.StraysIgnored : Prop :=
  ∀ (reply : ReplicaMessageReply) e, s.dedupCache[reply.envelopeHash]? = some e →
    (∀ slot ∈ e.slots, slot.replica ≠ reply.replicaID ∧ slot.replica ≠ 255) → s.cacheReply reply = s

def CourierState.AnswersFromSlot : Prop :=
  ∀ (env : CourierEnvelope) epoch now e, s.dedupCache[env.envelopeHash]? = some e → env.replyIndex ≤ 1 →
    isEnvelopeEpochAcceptable env.epoch epoch = true →
    let answer := (s.cacheHandleCourierEnvelope env epoch now).2
    answer.replyIndex ≤ 1 ∧ answer.payload = (e.slot answer.replyIndex).payload ∧
      (answer.replyType = replyTypeACK → (e.slot env.replyIndex).payload = [] ∧ (e.slot (env.replyIndex ^^^ 1)).payload = [])

structure RepliesSound : Prop where
  named : s.SlotsNamed
  stays : s.SuccessStays
  strays : s.StraysIgnored
  answers : s.AnswersFromSlot

end Properties

section Steps

variable {s : CourierState}

theorem prune_lookup (now : Int) (h : Digest) (e : CourierBookKeeping) (found : (s.pruneDedupCache now).dedupCache[h]? = some e) :
    s.dedupCache[h]? = some e := by
  simp only [CourierState.pruneDedupCache, Std.ExtTreeMap.getElem?_filter, Option.pfilter_eq_some_iff] at found
  exact found.1

theorem schedule_cache (env : CourierEnvelope) : (s.scheduleReplicaDispatch env).dedupCache = s.dedupCache := by
  rw [CourierState.scheduleReplicaDispatch]
  split <;> rfl

theorem cache_step_entry (event : CacheEvent) (next : CourierState) (h : Digest) (e : CourierBookKeeping)
    (taken : s.cacheStep event = some next) (found : next.dedupCache[h]? = some e) :
    s.dedupCache[h]? = some e ∨ (s.dedupCache[h]? = none ∧ ∀ slot ∈ e.slots, slot.reply = none) ∨
    ∃ old reply, s.dedupCache[h]? = some old ∧ e = old.handleReply reply := by
  cases event with
  | dispatched envelopeHash =>
      obtain rfl := Option.some.inj taken
      exact .inl found
  | prune now =>
      obtain rfl := Option.some.inj taken
      exact .inl (prune_lookup now h e found)
  | reply reply =>
      obtain rfl := Option.some.inj taken
      rw [CourierState.cacheReply] at found
      split at found
      · exact .inl found
      · rename_i old entry
        rw [lookup_insert] at found
        split at found
        · rename_i same
          exact .inr (.inr ⟨old, reply, same ▸ entry, (Option.some.inj found).symm⟩)
        · exact .inl found
  | envelope env epoch now =>
      obtain rfl := Option.some.inj taken
      rw [CourierState.cacheHandleCourierEnvelope] at found
      split at found
      · exact .inl found
      · split at found
        · rename_i absent
          rw [schedule_cache, lookup_insert] at found
          split at found
          · rename_i same
            cases found
            exact .inr (.inl ⟨same ▸ absent, by simp [CourierBookKeeping.slots]⟩)
          · exact .inl (prune_lookup now h e found)
        · split at found
          · exact .inl (schedule_cache env ▸ found)
          · exact .inl found

theorem handle_reply_named (e : CourierBookKeeping) (reply : ReplicaMessageReply)
    (named : ∀ slot ∈ e.slots, ∀ held, slot.reply = some held → held.replicaID = slot.replica) :
    ∀ slot ∈ (e.handleReply reply).slots, ∀ held, slot.reply = some held → held.replicaID = slot.replica := by
  have stored : ∀ slot ∈ e.slots, slot.replica = reply.replicaID → ∀ held, (slot.store reply).reply = some held →
      held.replicaID = (slot.store reply).replica := by
    intro slot member same held holds
    rw [(store_replica slot reply).1]
    rw [ReplicaSlot.store] at holds
    split at holds
    · exact (Option.some.inj holds) ▸ same.symm
    · split at holds
      · exact (Option.some.inj holds) ▸ same.symm
      · exact named slot member held holds
  intro slot member held holds
  simp only [CourierBookKeeping.slots, List.mem_cons, List.not_mem_nil, or_false, forall_eq_or_imp, forall_eq] at *
  obtain ⟨same, eq⟩ | ⟨same, eq⟩ | ⟨_, _, eq⟩ | ⟨_, _, eq⟩ | ⟨_, _, eq⟩ := handle_reply_cases e reply <;>
    rw [eq] at member <;> grind

theorem store_success (slot : ReplicaSlot) (reply held : ReplicaMessageReply) (holds : slot.reply = some held)
    (success : held.errorCode = 0) : slot.store reply = slot := by
  simp [ReplicaSlot.store, holds, success]

theorem handle_reply_success (e : CourierBookKeeping) (reply held : ReplicaMessageReply) (index : UInt8)
    (holds : (e.slot index).reply = some held) (success : held.errorCode = 0) :
    (e.handleReply reply).slot index = e.slot index := by
  have first := fun here => store_success e.first reply held here success
  have second := fun here => store_success e.second reply held here success
  obtain ⟨_, eq⟩ | ⟨_, eq⟩ | ⟨_, empty, eq⟩ | ⟨_, empty, eq⟩ | ⟨_, _, eq⟩ := handle_reply_cases e reply <;>
    rw [eq] <;> simp only [CourierBookKeeping.slot] at holds ⊢ <;> split at holds <;> grind

theorem step_named (event : CacheEvent) (next : CourierState) (named : s.SlotsNamed) (taken : s.cacheStep event = some next) :
    next.SlotsNamed := by
  intro h e found
  obtain old | ⟨_, empty⟩ | ⟨old, reply, entry, rfl⟩ := cache_step_entry event next h e taken found
  · exact named h e old
  · intro slot member reply holds
    rw [empty slot member] at holds
    cases holds
  · exact handle_reply_named old reply (named h old entry)

theorem step_success (event : CacheEvent) (next : CourierState) (h : Digest) (e e' : CourierBookKeeping) (index : UInt8)
    (reply : ReplicaMessageReply) (taken : s.cacheStep event = some next) (before : s.dedupCache[h]? = some e)
    (after : next.dedupCache[h]? = some e') (holds : (e.slot index).reply = some reply) (success : reply.errorCode = 0) :
    e'.slot index = e.slot index := by
  obtain same | ⟨absent, _⟩ | ⟨old, stored, entry, rfl⟩ := cache_step_entry event next h e' taken after
  · rw [Option.some.inj (before.symm.trans same)]
  · exact nomatch absent.symm.trans before
  · obtain rfl := Option.some.inj (before.symm.trans entry)
    exact handle_reply_success e stored reply index holds success

theorem success_stays : s.SuccessStays := by
  intro later
  induction later generalizing s with
  | nil =>
      intro final h e index reply reached _ entry _ _
      obtain rfl := Option.some.inj reached
      exact ⟨e, entry, rfl⟩
  | cons event rest ih =>
      intro final h e index reply reached present entry holds success
      rw [run] at reached
      cases taken : s.cacheStep event with
      | none => simp [taken] at reached
      | some next =>
          rw [taken] at reached
          have stays := present.2 next taken
          have there : next.dedupCache[h]?.isSome = true := by
            cases rest with
            | nil => exact stays
            | cons _ _ => exact stays.1
          obtain ⟨mid, found⟩ := Option.isSome_iff_exists.mp there
          have same := step_success event next h e mid index reply taken entry found holds success
          obtain ⟨last, found', same'⟩ := ih final h mid index reply reached stays found (same ▸ holds) success
          exact ⟨last, found', same'.trans same⟩

theorem strays_ignored : s.StraysIgnored := by
  intro reply e entry stray
  simp only [CourierBookKeeping.slots, List.mem_cons, List.not_mem_nil, or_false, forall_eq_or_imp, forall_eq] at stray
  have same : e.handleReply reply = e := by
    obtain ⟨here, _⟩ | ⟨here, _⟩ | ⟨unused, _⟩ | ⟨unused, _⟩ | ⟨_, _, eq⟩ := handle_reply_cases e reply
    · exact absurd here stray.1.1
    · exact absurd here stray.2.1
    · exact absurd unused stray.1.2
    · exact absurd unused stray.2.2
    · exact eq
  have cache : s.dedupCache.insert reply.envelopeHash e = s.dedupCache := by
    apply Std.ExtTreeMap.ext_getElem?
    intro h
    rw [lookup_insert]
    split
    · rename_i here
      rw [← here, entry]
    · rfl
  simp only [CourierState.cacheReply, entry, same, cache]

theorem pick_from_slot (e : CourierBookKeeping) (index : UInt8) (bound : index ≤ 1) :
    (e.pick index).1 ≤ 1 ∧ (e.pick index).2 = (e.slot (e.pick index).1).payload ∧
      ((e.pick index).2 = [] → (e.slot index).payload = [] ∧ (e.slot (index ^^^ 1)).payload = []) := by
  have other : index ^^^ 1 ≤ 1 := by
    have cases : index = 0 ∨ index = 1 := by
      rw [UInt8.le_iff_toNat_le] at bound
      rw [← UInt8.toNat_inj, ← UInt8.toNat_inj]
      have one : (1 : UInt8).toNat = 1 := rfl
      have zero : (0 : UInt8).toNat = 0 := rfl
      omega
    cases cases with
    | inl zero => rw [zero]; decide
    | inr one => rw [one]; decide
  simp only [CourierBookKeeping.pick]
  cases mine : (e.slot index).reply with
  | none =>
      cases its : (e.slot (index ^^^ 1)).reply with
      | none => simp [ReplicaSlot.payload, mine, its, bound]
      | some oentry => simp [ReplicaSlot.payload, mine, its, other]
  | some entry =>
      cases its : (e.slot (index ^^^ 1)).reply with
      | none => simp [ReplicaSlot.payload, mine, its, bound]
      | some oentry =>
          simp only [ReplicaSlot.payload, mine, its, Option.elim_some]
          split
          · rename_i better
            exact ⟨other, by simp [its], fun empty => absurd empty better.2⟩
          · rename_i worse
            refine ⟨bound, by simp [mine], fun empty => ⟨empty, ?_⟩⟩
            by_contra full
            exact worse ⟨empty, full⟩

theorem answers_from_slot : s.AnswersFromSlot := by
  intro env epoch now e entry bound acceptable
  have small : ¬ env.replyIndex > 1 := UInt8.not_lt.mpr bound
  simp only [CourierState.cacheHandleCourierEnvelope, acceptable, Bool.not_true, Bool.false_eq_true, if_false, entry, handleOldMessage,
    small]
  obtain ⟨range, payload, empty⟩ := pick_from_slot e env.replyIndex bound
  refine ⟨range, payload, fun ack => empty ?_⟩
  by_contra full
  rw [if_neg full] at ack
  exact absurd ack (by decide)

end Steps

/-- Whatever calls are made, in any order, the cache is sound. -/
theorem courier_cache_sound (events : List CacheEvent) : Always CourierState.cacheStep RepliesSound newCourier events := by
  refine always_of_invariant _ RepliesSound CourierState.SlotsNamed (fun _ _ => True)
    (fun _ event next named _ taken => step_named event next named taken)
    (fun _ named => ⟨named, success_stays, strays_ignored, answers_from_slot⟩) events newCourier ?_
    (meets_always _ _ (fun _ _ => trivial) _ _)
  intro h e found
  exact nomatch (@Std.ExtTreeMap.getElem?_empty _ _ _ _ h).symm.trans found

def plainDigest (byte : UInt8) : Digest := ⟨byte :: List.replicate 31 0, rfl⟩

def plainEnvelope : CourierEnvelope := ⟨plainDigest 9, 3, 4, 0, 1⟩

/-- The reply of replica 3 is cached when the replica epoch has gone on by two: the epoch check
comes before the lookup, and its error is of the type of an ACK. -/
theorem stale_envelope_acked :
    ((run CourierState.cacheStep newCourier [.envelope plainEnvelope 1 0, .reply ⟨plainDigest 9, 3, 0, [1]⟩]).map fun s =>
      ((s.dedupCache[plainDigest 9]?).map fun e => (e.slot 0).payload, (s.cacheHandleCourierEnvelope plainEnvelope 3 1).2)) =
      some (some [1], ⟨plainDigest 9, 0, replyTypeACK, [], envelopeErrorInvalidEpoch⟩) := by
  decide +kernel

end Katzenpost
