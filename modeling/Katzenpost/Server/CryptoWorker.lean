import Katzenpost.Server.MixKeys
import Katzenpost.Server.Packet

set_option autoImplicit false

namespace Katzenpost

open Go

structure Unwrapped where
  payload : Option Bytes
  tag : Bytes
  cmds : List RoutingCommand
deriving DecidableEq

-- sphinx.Unwrap with the private key of a key object, which may have been
-- reset. It works on the bytes of the packet in place, so that they are
-- returned as well.
abbrev SphinxUnwrap := KeyRef → Bool → Bytes → Bytes × Except Bytes Unwrapped

inductive UnwrapError where
  | noKey (epoch : UInt64)
  | sphinx (message : Bytes)
  | packet (error : PacketError)
  | replay
  | outOfKeys
deriving DecidableEq

structure EpochNow where
  epoch : UInt64
  elapsed : Int
  till : Int
deriving DecidableEq

def gracePeriod : Int := 120000 * millisecond

def candidateKeys (mixKeys : KeyMap) (now : EpochNow) : Except UnwrapError (List KeyRef) :=
  match mixKeys[now.epoch]? with
  | none => .error (.noKey now.epoch)
  | some k =>
      let other :=
        if now.elapsed < gracePeriod then mixKeys[now.epoch - 1]?
        else if now.till < gracePeriod then mixKeys[now.epoch + 1]?
        else none
      .ok (k :: other.toList)

inductive Tried where
  | failed (pkt : Packet) (error : UnwrapError)
  | rejected (error : UnwrapError)
  | passed (pkt : Packet) (tag : Bytes)
deriving DecidableEq

section Worker

variable {F : Type} (bloom : BloomFilter F) (unwrap : SphinxUnwrap)

def tryKey (heap : KeyHeap F) (ref : KeyRef) (pkt : Packet) : Option (KeyHeap F × Tried) :=
  match heap[ref]? with
  | none => none
  | some k =>
      match unwrap ref k.closed pkt.raw with
      | (raw, .error e) => some (heap, .failed { pkt with raw := raw } (.sphinx e))
      | (raw, .ok u) =>
          match ({ pkt with raw := raw } : Packet).set u.payload u.cmds with
          | .error e => some (heap, .rejected (.packet e))
          | .ok pkt =>
              match k.isReplay bloom u.tag with
              | none => none
              | some (true, k) => some (heap.set ref k, .rejected .replay)
              | some (false, k) => some (heap.set ref k, .passed pkt u.tag)

def tryKeys (lastErr : UnwrapError) (heap : KeyHeap F) (pkt : Packet) :
    List KeyRef → Option (KeyHeap F × Except UnwrapError Packet)
  | [] => some (heap, .error lastErr)
  | ref :: rest =>
      match tryKey bloom unwrap heap ref pkt with
      | none => none
      | some (heap, .failed pkt e) => tryKeys e heap pkt rest
      | some (heap, .rejected e) => some (heap, .error e)
      | some (heap, .passed pkt _) => some (heap, .ok pkt)

def doUnwrap (mixKeys : KeyMap) (now : EpochNow) (heap : KeyHeap F) (pkt : Packet) :
    Option (KeyHeap F × Except UnwrapError Packet) :=
  match candidateKeys mixKeys now with
  | .error e => some (heap, .error e)
  | .ok keys => tryKeys bloom unwrap .outOfKeys heap pkt keys

end Worker

structure ServerConfig where
  geo : Geometry
  period : Int
  isGatewayNode : Bool
  isServiceNode : Bool
  unwrapDelay : Int
  gatewayDelay : Int
  serviceDelay : Int
  kaetzchenDelay : Int

def absoluteMinimumDelay : Int := millisecond

def adjustedDelay (cfg : ServerConfig) (delay : UInt32) (dwellTime : Int) : Option Int :=
  let requested := (delay.toNat : Int) * millisecond
  if requested > numMixKeys.toNat * cfg.period then none
  else if requested > dwellTime then some (requested - dwellTime)
  else if delay = 0 then
    if dwellTime < absoluteMinimumDelay then some (absoluteMinimumDelay - dwellTime) else none
  else some absoluteMinimumDelay

inductive Handoff where
  | disposed
  | scheduler (pkt : Packet)
  | decoy (pkt : Packet)
  | gateway (pkt : Packet)
  | serviceNode (pkt : Packet)
deriving DecidableEq

def expectReply (decoyRecipient : Bytes) (pkt : Packet) : Option Bool :=
  pkt.recipient.map fun id => id.bytes = decoyRecipient

def isDecoyReply (decoyRecipient : Bytes) (pkt : Packet) : Option Bool :=
  if pkt.isSURBReply then expectReply decoyRecipient pkt else some false

-- A missing command that is dereferenced gives none.
def routePacket (cfg : ServerConfig) (decoyRecipient : Bytes) (startAt : Int) (pkt : Packet) : Option Handoff :=
  let dwellTime := timeSub startAt pkt.recvAt
  if pkt.isForward then
    if pkt.payload.isSome then some .disposed
    else if pkt.mustTerminate then some .disposed
    else
      match pkt.nodeDelay with
      | none => none
      | some nodeDelay =>
          match adjustedDelay cfg nodeDelay dwellTime with
          | none => some .disposed
          | some delay => some (.scheduler { pkt with delay := delay })
  else if !cfg.isGatewayNode && !cfg.isServiceNode then
    match isDecoyReply decoyRecipient pkt with
    | none => none
    | some true => some (.decoy pkt)
    | some false => some .disposed
  else if pkt.mustForward then some .disposed
  else
    match isDecoyReply decoyRecipient pkt with
    | none => none
    | some true => some (.decoy pkt)
    | some false =>
        if cfg.isGatewayNode then some (.gateway { pkt with dispatchAt := startAt })
        else if cfg.isServiceNode then some (.serviceNode { pkt with dispatchAt := startAt })
        else some .disposed

section Worker

variable {F : Type} (bloom : BloomFilter F) (unwrap : SphinxUnwrap)

def processPacket (cfg : ServerConfig) (decoyRecipient : Bytes) (mixKeys : KeyMap) (startAt : Int) (now : EpochNow)
    (heap : KeyHeap F) (pkt : Packet) : Option (KeyHeap F × Handoff) :=
  if timeSub startAt pkt.recvAt > cfg.unwrapDelay * millisecond then some (heap, .disposed)
  else
    match doUnwrap bloom unwrap mixKeys now heap pkt with
    | none => none
    | some (heap, .error _) => some (heap, .disposed)
    | some (heap, .ok pkt) => (routePacket cfg decoyRecipient startAt pkt).map fun handoff => (heap, handoff)

theorem try_key_spec (heap after : KeyHeap F) (ref : KeyRef) (pkt : Packet) (tried : Tried)
    (turn : tryKey bloom unwrap heap ref pkt = some (after, tried)) :
    (after = heap ∧ ∀ pkt' tag, tried ≠ .passed pkt' tag) ∨
      ∃ k k' tag replay, heap[ref]? = some k ∧ k.isReplay bloom tag = some (replay, k') ∧ after = heap.set ref k' ∧
        ∀ pkt' tag', tried = .passed pkt' tag' → tag' = tag ∧ replay = false := by
  unfold tryKey at turn
  split at turn
  · cases turn
  · rename_i k here
    split at turn
    · cases turn
      exact Or.inl ⟨rfl, fun _ _ same => nomatch same⟩
    · split at turn
      · cases turn
        exact Or.inl ⟨rfl, fun _ _ same => nomatch same⟩
      · split at turn
        · cases turn
        · rename_i k' checked
          cases turn
          exact Or.inr ⟨k, k', _, true, here, checked, rfl, fun _ _ same => nomatch same⟩
        · rename_i k' checked
          cases turn
          refine Or.inr ⟨k, k', _, false, here, checked, rfl, fun _ _ same => ?_⟩
          cases same
          exact ⟨rfl, rfl⟩

theorem try_key_remembers (laws : BloomLaws bloom) (heap after : KeyHeap F) (ref : KeyRef) (pkt : Packet) (tried : Tried)
    (turn : tryKey bloom unwrap heap ref pkt = some (after, tried)) : Remembers bloom heap after := by
  cases try_key_spec bloom unwrap heap after ref pkt tried turn with
  | inl same => exact same.1 ▸ remembers_refl bloom heap
  | inr marked =>
      obtain ⟨k, k', tag, replay, here, checked, rfl, _⟩ := marked
      exact set_remembers bloom heap ref k k' here (is_replay_sets bloom laws k k' tag replay checked).1

theorem try_key_passed (laws : BloomLaws bloom) (heap after : KeyHeap F) (ref : KeyRef) (pkt pkt' : Packet) (tag : Bytes)
    (turn : tryKey bloom unwrap heap ref pkt = some (after, .passed pkt' tag)) :
    (∀ k : MixKey F, heap[ref]? = some k → bloom.test k.filter tag = false) ∧
      ∃ k : MixKey F, after[ref]? = some k ∧ bloom.test k.filter tag = true := by
  cases try_key_spec bloom unwrap heap after ref pkt _ turn with
  | inl same => exact absurd rfl (same.2 pkt' tag)
  | inr marked =>
      obtain ⟨k, k', tag', replay, here, checked, rfl, passed⟩ := marked
      obtain ⟨rfl, fresh⟩ := passed pkt' tag rfl
      obtain ⟨unseen, seen⟩ := (is_replay_sets bloom laws k k' tag replay checked).2 fresh
      refine ⟨fun other found => ?_, k', List.getElem?_set_self (List.getElem?_eq_some_iff.mp here).1, seen⟩
      cases here.symm.trans found
      exact unseen

end Worker

end Katzenpost
