import Katzenpost.Server.CryptoWorker
import Katzenpost.Go.Run

set_option autoImplicit false

namespace Katzenpost

open Go

structure Unwrapping where
  keys : List KeyRef
  pkt : Packet
deriving DecidableEq

structure CryptoWorker where
  mixKeys : KeyMap
  unwrapping : Option Unwrapping

structure PassedOn where
  pkt : Packet
  key : KeyRef
  tag : Bytes
deriving DecidableEq

-- A node's key objects, key store and crypto workers. The log of the packets
-- that passed is no part of the program.
structure MixNode (F : Type) where
  heap : KeyHeap F
  keys : KeyMap
  workers : GoMap Nat CryptoWorker
  passed : List PassedOn

def MixNode.initial (F : Type) : MixNode F := ⟨[], ∅, ∅, []⟩

-- What can happen next. The store's methods run under its lock. A worker takes
-- an update, a halt or a packet only between two packets; its turns of the
-- loop over the keys are events of their own.
inductive MixEvent (F : Type) where
  | generate (baseEpoch : UInt64) (new : UInt64 → Option F)
  | prune (epoch : UInt64)
  | haltKeys
  | newWorker (id : Nat)
  | update (id : Nat)
  | haltWorker (id : Nat)
  | receive (id : Nat) (pkt : Packet) (now : EpochNow)
  | tryNext (id : Nat)

section Node

variable {F : Type} (bloom : BloomFilter F) (unwrap : SphinxUnwrap)

def afterTurn (rest : List KeyRef) : Tried → Option Unwrapping
  | .failed pkt _ => if rest = [] then none else some ⟨rest, pkt⟩
  | .rejected _ => none
  | .passed _ _ => none

def passedBy (key : KeyRef) : Tried → List PassedOn
  | .passed pkt tag => [⟨pkt, key, tag⟩]
  | _ => []

def mixStep (node : MixNode F) : MixEvent F → Option (MixNode F)
  | .generate baseEpoch new =>
      (generate new baseEpoch node.heap node.keys).map fun (heap, keys) => { node with heap := heap, keys := keys }
  | .prune epoch =>
      (prune epoch node.heap node.keys).map fun (heap, keys) => { node with heap := heap, keys := keys }
  | .haltKeys =>
      (releaseAll node.heap node.keys).map fun (heap, keys) => { node with heap := heap, keys := keys }
  | .newWorker id =>
      if id ∈ node.workers then none
      else
        (shadow node.heap node.keys ∅).map fun (heap, mixKeys) =>
          { node with heap := heap, workers := node.workers.insert id ⟨mixKeys, none⟩ }
  | .update id =>
      match node.workers[id]? with
      | some ⟨mixKeys, none⟩ =>
          (shadow node.heap node.keys mixKeys).map fun (heap, mixKeys) =>
            { node with heap := heap, workers := node.workers.insert id ⟨mixKeys, none⟩ }
      | _ => none
  | .haltWorker id =>
      match node.workers[id]? with
      | some ⟨mixKeys, none⟩ =>
          (releaseAll node.heap mixKeys).map fun (heap, _) =>
            { node with heap := heap, workers := node.workers.erase id }
      | _ => none
  | .receive id pkt now =>
      match node.workers[id]? with
      | some ⟨mixKeys, none⟩ =>
          match candidateKeys mixKeys now with
          | .error _ => some node
          | .ok keys => some { node with workers := node.workers.insert id ⟨mixKeys, some ⟨keys, pkt⟩⟩ }
      | _ => none
  | .tryNext id =>
      match node.workers[id]? with
      | some ⟨mixKeys, some ⟨key :: rest, pkt⟩⟩ =>
          (tryKey bloom unwrap node.heap key pkt).map fun (heap, tried) =>
            { node with
              heap := heap
              workers := node.workers.insert id ⟨mixKeys, afterTurn rest tried⟩
              passed := node.passed ++ passedBy key tried }
      | _ => none

theorem mix_step_spec (laws : BloomLaws bloom) (node next : MixNode F) (event : MixEvent F)
    (step : mixStep bloom unwrap node event = some next) :
    Remembers bloom node.heap next.heap ∧
      (next.passed = node.passed ∨ ∃ key pkt pkt' tag, next.passed = node.passed ++ [⟨pkt', key, tag⟩] ∧
        tryKey bloom unwrap node.heap key pkt = some (next.heap, .passed pkt' tag)) := by
  cases event with
  | generate baseEpoch new =>
      obtain ⟨⟨heap, keys⟩, generated, rfl⟩ := Option.map_eq_some_iff.mp step
      exact ⟨generate_from_remembers bloom new baseEpoch _ _ _ _ _ generated, Or.inl rfl⟩
  | prune epoch =>
      obtain ⟨⟨heap, keys⟩, released, rfl⟩ := Option.map_eq_some_iff.mp step
      exact ⟨release_remembers bloom _ _ _ _ _ released, Or.inl rfl⟩
  | haltKeys =>
      obtain ⟨⟨heap, keys⟩, released, rfl⟩ := Option.map_eq_some_iff.mp step
      exact ⟨release_remembers bloom _ _ _ _ _ released, Or.inl rfl⟩
  | newWorker id =>
      simp only [mixStep] at step
      split at step
      · cases step
      · obtain ⟨⟨heap, mixKeys⟩, shadowed, rfl⟩ := Option.map_eq_some_iff.mp step
        exact ⟨shadow_remembers bloom _ _ _ _ _ shadowed, Or.inl rfl⟩
  | update id =>
      simp only [mixStep] at step
      split at step
      · obtain ⟨⟨heap, mixKeys⟩, shadowed, rfl⟩ := Option.map_eq_some_iff.mp step
        exact ⟨shadow_remembers bloom _ _ _ _ _ shadowed, Or.inl rfl⟩
      · cases step
  | haltWorker id =>
      simp only [mixStep] at step
      split at step
      · obtain ⟨⟨heap, _⟩, released, rfl⟩ := Option.map_eq_some_iff.mp step
        exact ⟨release_remembers bloom _ _ _ _ _ released, Or.inl rfl⟩
      · cases step
  | receive id pkt now =>
      simp only [mixStep] at step
      split at step
      · split at step
        · cases step
          exact ⟨remembers_refl bloom _, Or.inl rfl⟩
        · cases step
          exact ⟨remembers_refl bloom _, Or.inl rfl⟩
      · cases step
  | tryNext id =>
      simp only [mixStep] at step
      split at step
      · rename_i mixKeys key rest pkt _
        obtain ⟨⟨heap, tried⟩, turn, rfl⟩ := Option.map_eq_some_iff.mp step
        refine ⟨try_key_remembers bloom unwrap laws _ _ key pkt tried turn, ?_⟩
        cases tried with
        | failed pkt' e => exact Or.inl (List.append_nil _)
        | rejected e => exact Or.inl (List.append_nil _)
        | passed pkt' tag => exact Or.inr ⟨key, pkt, pkt', tag, rfl, turn⟩
      · cases step

structure SoundReplay (node : MixNode F) : Prop where
  seen : ∀ entry ∈ node.passed, ∃ k : MixKey F, node.heap[entry.key]? = some k ∧ bloom.test k.filter entry.tag = true
  once : node.passed.Pairwise fun a b => ¬ (a.key = b.key ∧ a.tag = b.tag)

theorem remembers_seen (before after : KeyHeap F) (remembers : Remembers bloom before after) (key : KeyRef) (tag : Bytes)
    (seen : ∃ k : MixKey F, before[key]? = some k ∧ bloom.test k.filter tag = true) :
    ∃ k : MixKey F, after[key]? = some k ∧ bloom.test k.filter tag = true := by
  obtain ⟨k, found, tested⟩ := seen
  obtain ⟨k', found', kept⟩ := remembers key k found
  exact ⟨k', found', kept tag tested⟩

theorem mix_step_sound (laws : BloomLaws bloom) (node next : MixNode F) (event : MixEvent F)
    (sound : SoundReplay bloom node) (step : mixStep bloom unwrap node event = some next) : SoundReplay bloom next := by
  obtain ⟨remembers, logged⟩ := mix_step_spec bloom unwrap laws node next event step
  have before : ∀ entry ∈ node.passed, ∃ k : MixKey F, next.heap[entry.key]? = some k ∧
      bloom.test k.filter entry.tag = true :=
    fun entry member => remembers_seen bloom _ _ remembers _ _ (sound.seen entry member)
  cases logged with
  | inl same => exact ⟨same ▸ before, same ▸ sound.once⟩
  | inr grown =>
      obtain ⟨key, pkt, pkt', tag, log, turn⟩ := grown
      obtain ⟨unseen, marked⟩ := try_key_passed bloom unwrap laws _ _ key pkt pkt' tag turn
      constructor
      · rw [log]
        intro entry member
        cases List.mem_append.mp member with
        | inl old => exact before entry old
        | inr new =>
            cases List.mem_singleton.mp new
            exact marked
      · rw [log, List.pairwise_append]
        refine ⟨sound.once, List.pairwise_singleton _ _, fun entry member new isNew => ?_⟩
        cases List.mem_singleton.mp isNew
        intro ⟨sameKey, sameTag⟩
        -- An equal entry of the log would have had its tag seen by now.
        obtain ⟨k, found, tested⟩ := sound.seen entry member
        rw [sameKey] at found
        rw [sameTag, unseen k found] at tested
        cases tested

/-- No tag passes twice under one key, however the workers take turns. -/
theorem packet_passed_once (laws : BloomLaws bloom) (events : List (MixEvent F)) (final : MixNode F)
    (reached : run (mixStep bloom unwrap) (MixNode.initial F) events = some final) :
    final.passed.Pairwise fun a b => ¬ (a.key = b.key ∧ a.tag = b.tag) := by
  have initially : SoundReplay bloom (MixNode.initial F) := ⟨(fun _ member => nomatch member), List.Pairwise.nil⟩
  have sound := run_preserves (mixStep bloom unwrap) (SoundReplay bloom) (fun _ _ => True)
    (fun node event next sound _ step => mix_step_sound bloom unwrap laws node next event sound step)
    events _ final initially (meets_always _ _ (fun _ _ => trivial) events _) reached
  exact sound.once

end Node

def exactFilter : BloomFilter (List Bytes) := ⟨List.length, fun _ => 100, List.contains, fun f tag => tag :: f⟩

theorem exact_filter_laws : BloomLaws exactFilter := by
  constructor
  · intro f tag
    simp [exactFilter]
  · intro f tag other seen
    simp only [exactFilter, List.contains_iff_mem, List.mem_cons] at seen ⊢
    exact Or.inr seen

def plainUnwrap : SphinxUnwrap := fun ref _ raw =>
  (raw, if ref = 0 then .ok ⟨none, raw, [.nodeDelay 0]⟩ else .error (ascii "MAC mismatch"))

def replayedPacket : List (MixEvent (List Bytes)) :=
  [.generate 7 fun _ => some [], .newWorker 0, .newWorker 1,
    .receive 0 (blankPacket 1 (List.replicate 32 5)) ⟨7, gracePeriod, gracePeriod⟩,
    .receive 1 (blankPacket 2 (List.replicate 32 5)) ⟨8, 0, gracePeriod⟩, .tryNext 1, .tryNext 1, .tryNext 0]

theorem replayed_packet_dropped :
    ∃ final, run (mixStep exactFilter plainUnwrap) (MixNode.initial _) replayedPacket = some final ∧
      final.passed.map (fun entry => entry.pkt.id) = [2] ∧
      final.passed.Pairwise fun a b => ¬ (a.key = b.key ∧ a.tag = b.tag) := by
  have projected : (run (mixStep exactFilter plainUnwrap) (MixNode.initial _) replayedPacket).map
      (fun final => final.passed.map fun entry => entry.pkt.id) = some [2] := by decide +kernel
  obtain ⟨final, reached, logged⟩ := Option.map_eq_some_iff.mp projected
  exact ⟨final, reached, logged, packet_passed_once exactFilter plainUnwrap exact_filter_laws replayedPacket final reached⟩

end Katzenpost
