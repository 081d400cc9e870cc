import Katzenpost.Go.Heap
import Katzenpost.Go.Run

set_option autoImplicit false

namespace Katzenpost

open Go

structure Entry (α : Type) where
  value : α
  priority : UInt64
  serial : Nat
deriving DecidableEq, Repr

section PriorityQueue

variable {α : Type}

def rank (e : Entry α) : Nat := e.priority.toNat

def enqueue (q : List (Entry α)) (e : Entry α) : List (Entry α) := heapPush rank q e

def dequeue (q : List (Entry α)) : List (Entry α) := if q.length = 0 then q else (heapPop rank q).2

def dequeueIndex (q : List (Entry α)) (index : Nat) : List (Entry α) :=
  if q.length = 0 then q else (heapRemove rank q index).2

end PriorityQueue

inductive Worker where
  | waiting (armed : Nat)
  | scanning
deriving DecidableEq, Repr

-- now is the clock in nanoseconds. The last four fields are not in the source:
-- the goroutines that are to run the action, when it ran for which entry, the
-- entries for which Cancel returned true, and the number of pushes.
structure TimerQueue (α : Type) where
  now : Nat
  queue : List (Entry α)
  pushCh : List (Entry α)
  worker : Worker
  spawned : List (Entry α)
  ran : List (Entry α × Nat)
  cancelled : List (Entry α)
  pushes : Nat

def maxInt64 : Nat := 2 ^ 63 - 1

def newTimerQueue (α : Type) (now : Nat) : TimerQueue α :=
  ⟨now, [], [], .waiting (now + maxInt64), [], [], [], 0⟩

-- int64(priority) - now, with the wrap-around of both operations.
def timeLeft (priority : UInt64) (now : Nat) : Int := Int.bmod (Int.bmod priority.toNat (2 ^ 64) - now) (2 ^ 64)

inductive QueueEvent (α : Type) where
  | advance (duration : Nat)
  | push (priority : UInt64) (value : α)
  | cancel (value : α)
  | pop
  | fire
  | receive
  | scan
  | act (index : Nat)
deriving DecidableEq

section Step

variable {α : Type} [DecidableEq α]

def pushChSize : Nat := 100

def TimerQueue.cancel (t : TimerQueue α) (value : α) : TimerQueue α × Bool :=
  match t.queue.findIdx? (fun e => e.value = value) with
  | none => (t, false)
  | some i => ({ t with queue := dequeueIndex t.queue i, cancelled := t.cancelled ++ t.queue[i]?.toList }, true)

def TimerQueue.fire (t : TimerQueue α) : TimerQueue α :=
  { t with queue := dequeue t.queue, spawned := t.spawned ++ t.queue.head?.toList, worker := .scanning }

def TimerQueue.scan (t : TimerQueue α) : TimerQueue α :=
  match t.queue.head? with
  | none => { t with worker := .waiting (t.now + maxInt64) }
  | some m =>
      if timeLeft m.priority t.now < 0 ∨ m.priority.toNat < t.now then
        { t with queue := dequeue t.queue, spawned := t.spawned ++ [m] }
      else { t with worker := .waiting (t.now + (timeLeft m.priority t.now).toNat) }

-- none where the event cannot happen: the clock cannot leave the range of
-- UnixNano, a push blocks on a full channel, a timer does not fire early.
def TimerQueue.step (t : TimerQueue α) : QueueEvent α → Option (TimerQueue α)
  | .advance duration => if t.now + duration < 2 ^ 63 then some { t with now := t.now + duration } else none
  | .push priority value =>
      if t.pushCh.length < pushChSize then
        some { t with pushCh := t.pushCh ++ [⟨value, priority, t.pushes⟩], pushes := t.pushes + 1 }
      else none
  | .cancel value => some (t.cancel value).1
  | .pop => some { t with queue := dequeue t.queue }
  | .fire =>
      match t.worker with
      | .waiting armed => if armed ≤ t.now then some t.fire else none
      | .scanning => none
  | .receive =>
      match t.worker, t.pushCh with
      | .waiting _, item :: rest => some { t with queue := enqueue t.queue item, pushCh := rest, worker := .scanning }
      | _, _ => none
  | .scan =>
      match t.worker with
      | .waiting _ => none
      | .scanning => some t.scan
  | .act index =>
      match t.spawned[index]? with
      | none => none
      | some e => some { t with spawned := t.spawned.eraseIdx index, ran := t.ran ++ [(e, t.now)] }

end Step

end Katzenpost
