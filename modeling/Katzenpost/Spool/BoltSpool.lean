import Katzenpost.Client.Send

set_option autoImplicit false

namespace Katzenpost

open Go

structure StoredMessage where
  surbID : Option SurbId
  msg : Bytes
deriving DecidableEq

-- A user's bucket: the sequence bolt keeps for it, and the message buckets in
-- the order of the cursor. Keys are eight bytes, most significant first, so
-- that this is the order of the numbers.
structure Bucket where
  sequence : UInt64
  messages : List (UInt64 × StoredMessage)
deriving DecidableEq

inductive SpoolError where
  | invalidUsername (u : Bytes)
  | bucketExists
deriving DecidableEq

def insertKey (key : UInt64) (m : StoredMessage) : List (UInt64 × StoredMessage) → List (UInt64 × StoredMessage)
  | [] => [(key, m)]
  | (other, stored) :: rest => if key < other then (key, m) :: (other, stored) :: rest else (other, stored) :: insertKey key m rest

def doStore (u : Bytes) (bucket : Option Bucket) (m : StoredMessage) : Except SpoolError Bucket :=
  if u.length = 0 ∨ u.length > recipientIDLength then .error (.invalidUsername u)
  else
    let sBkt := bucket.getD ⟨0, []⟩
    let seq := sBkt.sequence + 1
    if seq ∈ sBkt.messages.map Prod.fst then .error .bucketExists
    else .ok ⟨seq, insertKey seq m sBkt.messages⟩

-- Get: the bucket after the transaction, the head and the hint. Deleting the
-- last message resets the sequence.
def Bucket.get (bucket : Option Bucket) (advance : Bool) : Option Bucket × Option StoredMessage × Nat :=
  match bucket with
  | none => (none, none, 0)
  | some sBkt =>
      match sBkt.messages with
      | [] => (some sBkt, none, 0)
      | (_, m) :: rest =>
          if advance then
            match rest with
            | [] => (some ⟨0, []⟩, none, 0)
            | (_, next) :: more => (some ⟨sBkt.sequence, rest⟩, some next, if more = [] then 0 else 1)
          else (some sBkt, some m, if rest = [] then 0 else 1)

end Katzenpost
