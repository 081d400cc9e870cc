import Katzenpost.Core.Types
import Katzenpost.Go.Run

set_option autoImplicit false

namespace Katzenpost

open Go

-- The fields of a CourierEnvelope that the courier reads. The hash covers the
-- sender's key and the ciphertext.
structure CourierEnvelope where
  envelopeHash : Digest
  firstReplica : UInt8
  secondReplica : UInt8
  replyIndex : UInt8
  epoch : UInt64
deriving DecidableEq

structure ReplicaMessageReply where
  envelopeHash : Digest
  replicaID : UInt8
  errorCode : UInt8
  envelopeReply : Bytes
deriving DecidableEq

structure ReplicaSlot where
  replica : UInt8
  reply : Option ReplicaMessageReply
deriving DecidableEq

structure CourierBookKeeping where
  createdAt : Int
  first : ReplicaSlot
  second : ReplicaSlot
deriving DecidableEq

structure EnvelopeAnswer where
  envelopeHash : Digest
  replyIndex : UInt8
  replyType : UInt8
  payload : Bytes
  errorCode : UInt8
deriving DecidableEq

def replyTypeACK : UInt8 := 0

def replyTypePayload : UInt8 := 1

def envelopeErrorSuccess : UInt8 := 0

def envelopeErrorInvalidEnvelope : UInt8 := 1

def envelopeErrorInvalidEpoch : UInt8 := 4

inductive SenderRequest where
  | decoy
  | message (envelopeHash : Digest) (replica : UInt8)
deriving DecidableEq

def dedupCacheTTL : Int := 300000000000

def validCourierEnvelopeEpochWindow : UInt64 := 1

structure CourierState where
  dedupCache : GoMap Digest CourierBookKeeping
  inFlight : List Digest

inductive CourierReplyCommand where
  | noOp
  | decoy
  | message (reply : ReplicaMessageReply)
deriving DecidableEq

def isEnvelopeEpochAcceptable (envelopeEpoch currentEpoch : UInt64) : Bool :=
  if envelopeEpoch > currentEpoch then envelopeEpoch - currentEpoch ≤ validCourierEnvelopeEpochWindow
  else currentEpoch - envelopeEpoch ≤ validCourierEnvelopeEpochWindow

section Replies

-- storeOrReplaceReply
def ReplicaSlot.store (slot : ReplicaSlot) (reply : ReplicaMessageReply) : ReplicaSlot :=
  match slot.reply with
  | none => { slot with reply := some reply }
  | some existing => if existing.errorCode ≠ 0 then { slot with reply := some reply } else slot

def ReplicaSlot.unused (slot : ReplicaSlot) : Bool := slot.replica = 255 && slot.reply.isNone

-- handleExistingEntry
def CourierBookKeeping.handleReply (e : CourierBookKeeping) (reply : ReplicaMessageReply) : CourierBookKeeping :=
  if e.first.replica = reply.replicaID then { e with first := e.first.store reply }
  else if e.second.replica = reply.replicaID then { e with second := e.second.store reply }
  else if e.first.unused then { e with first := ⟨reply.replicaID, some reply⟩ }
  else if e.second.unused then { e with second := ⟨reply.replicaID, some reply⟩ }
  else e

def CourierBookKeeping.slots (e : CourierBookKeeping) : List ReplicaSlot := [e.first, e.second]

def cacheEntryHasOnlyErrors (e : CourierBookKeeping) : Bool :=
  let replies := e.slots.filterMap ReplicaSlot.reply
  replies.all (·.errorCode ≠ 0) && !replies.isEmpty

def CourierBookKeeping.slot (e : CourierBookKeeping) (index : UInt8) : ReplicaSlot := if index = 0 then e.first else e.second

def CourierBookKeeping.pick (e : CourierBookKeeping) (index : UInt8) : UInt8 × Bytes :=
  let other := index ^^^ 1
  match (e.slot index).reply, (e.slot other).reply with
  | some entry, some oentry =>
      if entry.envelopeReply = [] ∧ oentry.envelopeReply ≠ [] then (other, oentry.envelopeReply)
      else (index, entry.envelopeReply)
  | some entry, none => (index, entry.envelopeReply)
  | none, some oentry => (other, oentry.envelopeReply)
  | none, none => (index, [])

def handleOldMessage (e : CourierBookKeeping) (env : CourierEnvelope) : EnvelopeAnswer :=
  if env.replyIndex > 1 then ⟨env.envelopeHash, 0, replyTypeACK, [], envelopeErrorInvalidEnvelope⟩
  else
    let (index, payload) := e.pick env.replyIndex
    ⟨env.envelopeHash, index, if payload = [] then replyTypeACK else replyTypePayload, payload, envelopeErrorSuccess⟩

def ackReply (env : CourierEnvelope) : EnvelopeAnswer :=
  ⟨env.envelopeHash, env.replyIndex, replyTypeACK, [], envelopeErrorSuccess⟩

end Replies

section Step

variable (s : CourierState)

def CourierState.scheduleReplicaDispatch (env : CourierEnvelope) : CourierState :=
  if s.inFlight.contains env.envelopeHash then s else { s with inFlight := s.inFlight ++ [env.envelopeHash] }

def CourierState.pruneDedupCache (now : Int) : CourierState :=
  { s with dedupCache := s.dedupCache.filter fun _ e => !(now - e.createdAt > dedupCacheTTL) }

def CourierState.cacheHandleCourierEnvelope (env : CourierEnvelope) (currentReplicaEpoch : UInt64) (now : Int) :
    CourierState × EnvelopeAnswer :=
  if !isEnvelopeEpochAcceptable env.epoch currentReplicaEpoch then
    (s, ⟨env.envelopeHash, env.replyIndex, replyTypeACK, [], envelopeErrorInvalidEpoch⟩)
  else match s.dedupCache[env.envelopeHash]? with
    | none =>
        let pruned := s.pruneDedupCache now
        let entry : CourierBookKeeping := ⟨now, ⟨env.firstReplica, none⟩, ⟨env.secondReplica, none⟩⟩
        ({ pruned with dedupCache := pruned.dedupCache.insert env.envelopeHash entry }.scheduleReplicaDispatch env, ackReply env)
    | some e => (if cacheEntryHasOnlyErrors e then s.scheduleReplicaDispatch env else s, handleOldMessage e env)

def CourierState.cacheReply (reply : ReplicaMessageReply) : CourierState :=
  match s.dedupCache[reply.envelopeHash]? with
  | none => s
  | some e => { s with dedupCache := s.dedupCache.insert reply.envelopeHash (e.handleReply reply) }

end Step

def newCourier : CourierState := ⟨∅, []⟩

end Katzenpost
