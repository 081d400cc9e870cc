import Katzenpost.Core.Types

set_option autoImplicit false

namespace Katzenpost

open Go

inductive ReplicaCommand where
  | replicaWrite (boxID : Digest) (signature payload : Bytes)
  | replicaMessage (envelopeHash : Digest)
  | replicaDecoy
  | other
deriving DecidableEq

def cmdIdentity (command : ReplicaCommand) : Option Digest :=
  match command with
  | .replicaWrite boxID _ _ => some boxID
  | .replicaMessage envelopeHash => some envelopeHash
  | .replicaDecoy => none
  | .other => none

structure RetryCommand where
  cmd : ReplicaCommand
  idHash : Digest
  firstSeen : Nat
deriving DecidableEq

structure RetryLimits where
  maxRetryQueuePerPeer : Nat
  retryTTL : Nat

def RetryCommand.collapses (cmd : ReplicaCommand) (idHash : Digest) (rc : RetryCommand) : Bool :=
  rc.idHash = idHash && (cmdIdentity cmd).isSome && cmdIdentity rc.cmd = cmdIdentity cmd

def RetryCommand.update (cmd : ReplicaCommand) (rc : RetryCommand) : RetryCommand := { rc with cmd := cmd }

section Queue

variable (limits : RetryLimits) (now : Nat)

def RetryCommand.expired (rc : RetryCommand) : Bool := now - rc.firstSeen > limits.retryTTL

def pruneRetryQueue (queue : List RetryCommand) : List RetryCommand := queue.filter fun rc => !rc.expired limits now

def queueForRetry (queue : List RetryCommand) (cmd : ReplicaCommand) (idHash : Digest) : List RetryCommand :=
  let kept := pruneRetryQueue limits now queue
  match kept.findIdx? (RetryCommand.collapses cmd idHash) with
  | some i => kept.modify i (RetryCommand.update cmd)
  | none =>
      -- At the capacity of the peer its oldest entry makes room.
      if kept.countP (fun rc => rc.idHash = idHash) ≥ limits.maxRetryQueuePerPeer then
        kept.eraseP (fun rc => rc.idHash = idHash) ++ [⟨cmd, idHash, now⟩]
      else kept ++ [⟨cmd, idHash, now⟩]

end Queue

end Katzenpost
