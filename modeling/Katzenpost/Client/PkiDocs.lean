import Katzenpost.Core.Document
import Katzenpost.Go.Call
import Katzenpost.Go.Run

set_option autoImplicit false

namespace Katzenpost

open Go

structure CachedDoc where
  doc : Document
  blob : Bytes
  rawSignedBlob : Bytes
deriving DecidableEq

-- What the sync.Map holds: newPKI stores a *Document, updateDocument a
-- *CachedDoc.
inductive DocValue where
  | document (d : Document)
  | cachedDoc (c : CachedDoc)
deriving DecidableEq

-- The configuration of the client, of its authority client and of epochtime,
-- with durations in nanoseconds and the Epoch in seconds.
structure PkiConfig where
  env : Env
  verifiers : List PublicKey
  pkiClient : Bool
  cachedDocument : Option Document
  sphinxGeometryHash : Bytes
  enableTimeSync : Bool
  onDocumentFn : Bool
  period : Nat
  positive : 0 < period
  epoch : Int
  nextFetchTill : Int

structure ConsensusReply where
  errorCode : UInt8
  payload : Bytes
deriving DecidableEq

def consensusOk : UInt8 := 0

def consensusNotFound : UInt8 := 1

def consensusGone : UInt8 := 2

inductive FetchError where
  | noDocument
  | getConsensusCanceled
  | consensusNotFound
  | getConsensusFailed (errorCode : UInt8)
  | pkiClientNotInitialized
  | incorrectEpoch (epoch : UInt64)
  | other
deriving DecidableEq

structure Fetched where
  result : Except FetchError ConsensusReply
  verify : PublicKey → Range Digest Signature
  parse : Range Digest Signature

inductive PkiWorker where
  | waiting
  | fetching (now : UInt64) (epochs : List UInt64) (didUpdate : Bool)
  | asking (now epoch : UInt64) (epochs : List UInt64) (didUpdate : Bool)
  | pruning (now : UInt64) (epochs : List UInt64)
  | calling (now : UInt64)
  | returned
deriving DecidableEq

inductive DocWaiter where
  | asking (epoch : UInt64) (attempt : Nat)
  | sleeping (attempt : Nat)
deriving DecidableEq

structure ClientPki where
  docs : GoMap UInt64 DocValue
  failedFetches : GoMap UInt64 FetchError
  clockSkew : Int
  unixTime : Int
  worker : PkiWorker
  lastCallbackEpoch : UInt64
  waiters : List DocWaiter
  panicked : Bool

inductive ClientPkiEvent where
  | setTime (unixTime : Int)
  | setClockSkew (skew : Int)
  | wake
  | nextEpoch
  | workerFetched (fetched : Fetched)
  | startPrune (r : Range UInt64 DocValue)
  | pruneNext
  | callback
  | currentDocument
  | waiterFetched (i : Nat) (fetched : Fetched)
  | waiterRetry (i : Nat)

def waitForCurrentDocumentAttempts : Nat := 5

section Time

variable (cfg : PkiConfig)

-- epochtime.FromUnix without the elapsed time. Sub gives at most the largest
-- Duration; a time before the Epoch panics.
def PkiConfig.fromUnix (t : Int) : Option (UInt64 × Int) :=
  let sinceEpoch := (t - cfg.epoch) * 1000000000
  if sinceEpoch < 0 then none
  else
    let current := min sinceEpoch.toNat (2 ^ 63 - 1) / cfg.period
    some (UInt64.ofNat current, (current * cfg.period + cfg.period : Nat) - sinceEpoch)

variable (p : ClientPki)

def ClientPki.skewedUnixTime : Int := if !cfg.enableTimeSync then p.unixTime else p.unixTime + p.clockSkew

def ClientPki.systemEpoch : Option UInt64 := (cfg.fromUnix p.unixTime).map Prod.fst

def ClientPki.skewedEpoch : Option UInt64 := (cfg.fromUnix (p.skewedUnixTime cfg)).map Prod.fst

end Time

section Lookups

variable (cfg : PkiConfig) (p : ClientPki)

def ClientPki.load (epoch : UInt64) : Call Empty (Option CachedDoc) :=
  match p.docs[epoch]? with
  | none => .returns none
  | some (.cachedDoc c) => .returns (some c)
  | some (.document _) => .panics

def ClientPki.getDocumentByEpoch (epoch : UInt64) : Call Empty (Option Document) := do
  return (← p.load epoch).map CachedDoc.doc

def ClientPki.rawSignedDocumentByEpoch (epoch : UInt64) : Call Empty (Option Bytes) := do
  return (← p.load epoch).map CachedDoc.rawSignedBlob

def ClientPki.now : Call Empty UInt64 :=
  match p.skewedEpoch cfg with
  | none => .panics
  | some now => .returns now

def ClientPki.orPrevious (now : UInt64) : Option CachedDoc → Call Empty (Option CachedDoc)
  | some c => .returns (some c)
  | none => p.load (now - 1)

def ClientPki.currentDoc : Call Empty (Option CachedDoc) := do
  let now ← p.now cfg
  p.orPrevious now (← p.load now)

def ClientPki.currentDocument : Call Empty (Option (Bytes × Document)) := do
  return (← p.currentDoc cfg).map fun c => (c.blob, c.doc)

def ClientPki.currentRawSignedDocument : Call Empty (Option Bytes × UInt64) := do
  let now ← p.now cfg
  match ← p.load now with
  | some c => return (some c.rawSignedBlob, c.doc.epoch)
  | none => return (none, now)

end Lookups

section Fetch

variable (cfg : PkiConfig)

def PkiConfig.deserialize (now : UInt64) (fetched : Fetched) (raw : Bytes) : Option Document :=
  match (verifyThreshold cfg.env fetched.verify now cfg.verifiers ((cfg.verifiers.length / 2 + 1 : Nat)) raw).err with
  | some _ => none
  | none => (parseDocument cfg.env fetched.parse now raw).toOption

def PkiConfig.getDocument (now : UInt64) (fetched : Fetched) (epoch : UInt64) : Except FetchError CachedDoc :=
  match fetched.result with
  | .error e => .error e
  | .ok resp =>
      if resp.errorCode = consensusGone then .error .noDocument
      else if resp.errorCode = consensusNotFound then .error .consensusNotFound
      else if resp.errorCode ≠ consensusOk then .error (.getConsensusFailed resp.errorCode)
      else if !cfg.pkiClient then .error .pkiClientNotInitialized
      else match cfg.deserialize now fetched resp.payload with
        | none => .error .noDocument
        | some d =>
            if d.epoch ≠ epoch then .error (.incorrectEpoch d.epoch)
            else
              let d := { d with signatures := ∅ }
              .ok ⟨d, cfg.env.encodeDocument d, resp.payload⟩

def ClientPki.updateDocument (p : ClientPki) (fetched : Fetched) (epoch : UInt64) : Call FetchError ClientPki :=
  match p.systemEpoch cfg with
  | none => .panics
  | some now =>
      match cfg.getDocument now fetched epoch with
      | .error e => .fails e
      | .ok c =>
          if c.doc.sphinxGeometryHash ≠ cfg.sphinxGeometryHash then .panics
          else .returns { p with docs := p.docs.insert epoch (.cachedDoc c) }

end Fetch

section Step

variable (cfg : PkiConfig) (p : ClientPki)

def ClientPki.panics : ClientPki := { p with panicked := true }

def ClientPki.wake : Option ClientPki :=
  match p.worker with
  | .waiting =>
      match cfg.fromUnix (p.skewedUnixTime cfg) with
      | none => some p.panics
      | some (now, till) =>
          some { p with worker := .fetching now (now :: if till < cfg.nextFetchTill then [now + 1] else []) false }
  | _ => none

def ClientPki.pruneFailures (now : UInt64) : ClientPki :=
  { p with failedFetches := p.failedFetches.filter fun epoch _ => !(epoch < now || epoch > now + 1) }

def ClientPki.nextEpoch : Option ClientPki :=
  match p.worker with
  | .fetching now [] false => some { p.pruneFailures now with worker := .calling now }
  | .fetching now (epoch :: rest) didUpdate =>
      if p.docs[epoch]?.isSome then some { p with worker := .fetching now rest didUpdate }
      else if p.failedFetches[epoch]?.isSome then some { p with worker := .fetching now rest didUpdate }
      else some { p with worker := .asking now epoch rest didUpdate }
  | _ => none

def ClientPki.workerFetched (fetched : Fetched) : Option ClientPki :=
  match p.worker with
  | .asking now epoch rest didUpdate =>
      match p.updateDocument cfg fetched epoch with
      | none => some p.panics
      | some (.ok next) => some { next with worker := .fetching now rest true }
      | some (.error .noDocument) =>
          some { p with worker := .fetching now rest didUpdate, failedFetches := p.failedFetches.insert epoch .noDocument }
      | some (.error .getConsensusCanceled) => some { p with worker := .returned }
      | some (.error _) => some { p with worker := .fetching now rest didUpdate }
  | _ => none

-- Range goes through the keys in any order; what is stored meanwhile need not be
-- visited.
def ClientPki.startPrune (r : Range UInt64 DocValue) : Option ClientPki :=
  match p.worker with
  | .fetching now [] true => some { p.pruneFailures now with worker := .pruning now ((r.order p.docs).map Prod.fst) }
  | _ => none

def ClientPki.pruneNext : Option ClientPki :=
  match p.worker with
  | .pruning now [] => some { p with worker := .calling now }
  | .pruning now (epoch :: rest) =>
      some { p with
        worker := .pruning now rest
        docs := if epoch + 1 < now then p.docs.erase epoch else p.docs }
  | _ => none

def ClientPki.callback : Option ClientPki :=
  match p.worker with
  | .calling now =>
      if now ≠ p.lastCallbackEpoch ∧ cfg.onDocumentFn = true then
        match p.docs[now]? with
        | none => some { p with worker := .waiting }
        | some (.cachedDoc _) => some { p with worker := .waiting, lastCallbackEpoch := now }
        | some (.document _) => some p.panics
      else some { p with worker := .waiting }
  | _ => none

def ClientPki.waitForCurrentDocument : Option ClientPki :=
  match p.currentDocument cfg with
  | none => some p.panics
  | some (.ok (some _)) => some p
  | some (.ok none) =>
      match p.systemEpoch cfg with
      | none => some p.panics
      | some epoch => some { p with waiters := p.waiters ++ [.asking epoch 1] }
  | some (.error e) => nomatch e

def ClientPki.waiterFetched (i : Nat) (fetched : Fetched) : Option ClientPki :=
  match p.waiters[i]? with
  | some (.asking epoch attempt) =>
      match p.updateDocument cfg fetched epoch with
      | none => some p.panics
      | some (.ok next) => some { next with waiters := p.waiters.eraseIdx i }
      | some (.error _) =>
          if attempt = waitForCurrentDocumentAttempts then some { p with waiters := p.waiters.eraseIdx i }
          else some { p with waiters := p.waiters.set i (.sleeping attempt) }
  | _ => none

def ClientPki.waiterRetry (i : Nat) : Option ClientPki :=
  match p.waiters[i]? with
  | some (.sleeping attempt) =>
      match p.systemEpoch cfg with
      | none => some p.panics
      | some epoch => some { p with waiters := p.waiters.set i (.asking epoch (attempt + 1)) }
  | _ => none

def ClientPki.step (event : ClientPkiEvent) : Option ClientPki :=
  if p.panicked then none
  else match event with
    | .setTime unixTime => some { p with unixTime := unixTime }
    | .setClockSkew skew => some { p with clockSkew := skew }
    | .wake => p.wake cfg
    | .nextEpoch => p.nextEpoch
    | .workerFetched fetched => p.workerFetched cfg fetched
    | .startPrune r => p.startPrune r
    | .pruneNext => p.pruneNext
    | .callback => p.callback cfg
    | .currentDocument => p.waitForCurrentDocument cfg
    | .waiterFetched i fetched => p.waiterFetched cfg i fetched
    | .waiterRetry i => p.waiterRetry cfg i

end Step

def newPKI (cfg : PkiConfig) (unixTime : Int) : ClientPki where
  docs := cfg.cachedDocument.elim ∅ fun d => (∅ : GoMap UInt64 DocValue).insert d.epoch (.document d)
  failedFetches := ∅
  clockSkew := 0
  unixTime := unixTime
  worker := .waiting
  lastCallbackEpoch := 0
  waiters := []
  panicked := false

def ClientPki.asked (p : ClientPki) : ClientPkiEvent → Option (UInt64 × Fetched)
  | .workerFetched fetched =>
      match p.worker with
      | .asking _ epoch _ _ => some (epoch, fetched)
      | _ => none
  | .waiterFetched i fetched =>
      match p.waiters[i]? with
      | some (.asking epoch _) => some (epoch, fetched)
      | _ => none
  | _ => none

def PkiWorker.began : PkiWorker → Option UInt64
  | .fetching now _ _ => some now
  | .asking now _ _ _ => some now
  | .pruning now _ => some now
  | .calling now => some now
  | .waiting => none
  | .returned => none

section Moves

variable (cfg : PkiConfig) (p : ClientPki)

inductive ClientPkiMoves : ClientPkiEvent → ClientPki → Prop where
  | setTime (unixTime : Int) : ClientPkiMoves (.setTime unixTime) { p with unixTime := unixTime }
  | setClockSkew (skew : Int) : ClientPkiMoves (.setClockSkew skew) { p with clockSkew := skew }
  | unreadable (event : ClientPkiEvent) (why : p.systemEpoch cfg = none ∨ p.skewedEpoch cfg = none) :
      ClientPkiMoves event p.panics
  | asserted (event : ClientPkiEvent) (epoch : UInt64) (d : Document) (bare : p.docs[epoch]? = some (.document d)) :
      ClientPkiMoves event p.panics
  | mismatched (event : ClientPkiEvent) (epoch : UInt64) (fetched : Fetched) (system : UInt64) (c : CachedDoc)
      (asked : p.asked event = some (epoch, fetched)) (read : p.systemEpoch cfg = some system)
      (got : cfg.getDocument system fetched epoch = .ok c) (other : c.doc.sphinxGeometryHash ≠ cfg.sphinxGeometryHash) :
      ClientPkiMoves event p.panics
  | began (now : UInt64) (till : Int) (at' : p.worker = .waiting)
      (read : cfg.fromUnix (p.skewedUnixTime cfg) = some (now, till)) :
      ClientPkiMoves .wake
        { p with worker := .fetching now (now :: if till < cfg.nextFetchTill then [now + 1] else []) false }
  | skipped (now epoch : UInt64) (rest : List UInt64) (didUpdate : Bool) (at' : p.worker = .fetching now (epoch :: rest) didUpdate) :
      ClientPkiMoves .nextEpoch { p with worker := .fetching now rest didUpdate }
  | workerAsks (now epoch : UInt64) (rest : List UInt64) (didUpdate : Bool)
      (at' : p.worker = .fetching now (epoch :: rest) didUpdate) :
      ClientPkiMoves .nextEpoch { p with worker := .asking now epoch rest didUpdate }
  | noneFetched (now : UInt64) (at' : p.worker = .fetching now [] false) :
      ClientPkiMoves .nextEpoch { p.pruneFailures now with worker := .calling now }
  | workerStored (fetched : Fetched) (now epoch system : UInt64) (rest : List UInt64) (didUpdate : Bool) (c : CachedDoc)
      (at' : p.worker = .asking now epoch rest didUpdate) (got : cfg.getDocument system fetched epoch = .ok c) :
      ClientPkiMoves (.workerFetched fetched)
        { p with docs := p.docs.insert epoch (.cachedDoc c), worker := .fetching now rest true }
  | workerRefused (fetched : Fetched) (now epoch : UInt64) (rest : List UInt64) (didUpdate : Bool)
      (failed : GoMap UInt64 FetchError) (at' : p.worker = .asking now epoch rest didUpdate) :
      ClientPkiMoves (.workerFetched fetched) { p with worker := .fetching now rest didUpdate, failedFetches := failed }
  | workerReturned (fetched : Fetched) : ClientPkiMoves (.workerFetched fetched) { p with worker := .returned }
  | pruneStarted (r : Range UInt64 DocValue) (now : UInt64) (at' : p.worker = .fetching now [] true) :
      ClientPkiMoves (.startPrune r) { p.pruneFailures now with worker := .pruning now ((r.order p.docs).map Prod.fst) }
  | pruned (now epoch : UInt64) (rest : List UInt64) (at' : p.worker = .pruning now (epoch :: rest)) (old : epoch + 1 < now) :
      ClientPkiMoves .pruneNext { p with worker := .pruning now rest, docs := p.docs.erase epoch }
  | spared (now epoch : UInt64) (rest : List UInt64) (at' : p.worker = .pruning now (epoch :: rest)) :
      ClientPkiMoves .pruneNext { p with worker := .pruning now rest }
  | pruneEnded (now : UInt64) (at' : p.worker = .pruning now []) : ClientPkiMoves .pruneNext { p with worker := .calling now }
  | called (now last : UInt64) (at' : p.worker = .calling now) :
      ClientPkiMoves .callback { p with worker := .waiting, lastCallbackEpoch := last }
  | found : ClientPkiMoves .currentDocument p
  | waiterAsks (epoch : UInt64) (read : p.systemEpoch cfg = some epoch) :
      ClientPkiMoves .currentDocument { p with waiters := p.waiters ++ [.asking epoch 1] }
  | waiterStored (i : Nat) (fetched : Fetched) (epoch system : UInt64) (attempt : Nat) (c : CachedDoc)
      (at' : p.waiters[i]? = some (.asking epoch attempt)) (got : cfg.getDocument system fetched epoch = .ok c) :
      ClientPkiMoves (.waiterFetched i fetched)
        { p with docs := p.docs.insert epoch (.cachedDoc c), waiters := p.waiters.eraseIdx i }
  | waiterGaveUp (i : Nat) (fetched : Fetched) : ClientPkiMoves (.waiterFetched i fetched) { p with waiters := p.waiters.eraseIdx i }
  | waiterSleeps (i : Nat) (fetched : Fetched) (attempt : Nat) :
      ClientPkiMoves (.waiterFetched i fetched) { p with waiters := p.waiters.set i (.sleeping attempt) }
  | waiterRetries (i attempt : Nat) (epoch : UInt64) (read : p.systemEpoch cfg = some epoch) :
      ClientPkiMoves (.waiterRetry i) { p with waiters := p.waiters.set i (.asking epoch attempt) }

variable {cfg p}

theorem load_panics (epoch : UInt64) (panicked : p.load epoch = none) : ∃ d, p.docs[epoch]? = some (.document d) := by
  rw [ClientPki.load] at panicked
  split at panicked
  · cases panicked
  · cases panicked
  · rename_i d bare
    exact ⟨d, bare⟩

theorem current_document_panics (panicked : p.currentDocument cfg = none) :
    p.skewedEpoch cfg = none ∨ ∃ (epoch : UInt64) (d : Document), p.docs[epoch]? = some (.document d) := by
  rw [ClientPki.currentDocument, ClientPki.currentDoc, ClientPki.now] at panicked
  cases read : p.skewedEpoch cfg with
  | none => exact .inl rfl
  | some now =>
      rw [read] at panicked
      right
      cases loaded : p.load now with
      | none =>
          obtain ⟨d, bare⟩ := load_panics now loaded
          exact ⟨now, d, bare⟩
      | some result =>
          cases result with
          | error e => exact nomatch e
          | ok present =>
              cases present with
              | some c =>
                  simp only [returns_bind, loaded] at panicked
                  cases panicked
              | none =>
                  cases previous : p.load (now - 1) with
                  | none =>
                      obtain ⟨d, bare⟩ := load_panics (now - 1) previous
                      exact ⟨now - 1, d, bare⟩
                  | some result =>
                      cases result with
                      | error e => exact nomatch e
                      | ok older =>
                          have ran : (Call.returns (older.map fun c => (c.blob, c.doc)) : Call Empty _) = none := by
                            rw [← panicked]
                            simp only [returns_bind]
                            rw [loaded]
                            show _ = (p.load (now - 1) >>= _)
                            rw [previous]
                            rfl
                          cases ran

theorem update_document_panics (fetched : Fetched) (epoch : UInt64) (panicked : p.updateDocument cfg fetched epoch = none) :
    p.systemEpoch cfg = none ∨ ∃ system c, p.systemEpoch cfg = some system ∧ cfg.getDocument system fetched epoch = .ok c ∧
      c.doc.sphinxGeometryHash ≠ cfg.sphinxGeometryHash := by
  rw [ClientPki.updateDocument] at panicked
  split at panicked
  · rename_i read
    exact .inl read
  · rename_i system read
    split at panicked
    · cases panicked
    · rename_i c got
      split at panicked
      · rename_i other
        exact .inr ⟨system, c, read, got, other⟩
      · cases panicked

theorem update_document_returns (fetched : Fetched) (epoch : UInt64) (next : ClientPki)
    (returned : p.updateDocument cfg fetched epoch = some (.ok next)) :
    ∃ system c, cfg.getDocument system fetched epoch = .ok c ∧
      next = { p with docs := p.docs.insert epoch (.cachedDoc c) } := by
  rw [ClientPki.updateDocument] at returned
  split at returned
  · cases returned
  · rename_i system read
    split at returned
    · cases returned
    · rename_i c got
      split at returned
      · cases returned
      · cases returned
        exact ⟨system, c, got, rfl⟩

theorem fetch_panics (event : ClientPkiEvent) (fetched : Fetched) (epoch : UInt64) (asked : p.asked event = some (epoch, fetched))
    (panicked : p.updateDocument cfg fetched epoch = none) : ClientPkiMoves cfg p event p.panics := by
  cases update_document_panics fetched epoch panicked with
  | inl unread => exact .unreadable event (.inl unread)
  | inr mismatch =>
      obtain ⟨system, c, read, got, other⟩ := mismatch
      exact .mismatched event epoch fetched system c asked read got other

theorem worker_fetched_moves (next : ClientPki) (fetched : Fetched) (taken : p.workerFetched cfg fetched = some next) :
    ClientPkiMoves cfg p (.workerFetched fetched) next := by
  rw [ClientPki.workerFetched] at taken
  split at taken
  · rename_i now epoch rest didUpdate at'
    split at taken
    · rename_i panicked
      cases taken
      exact fetch_panics _ fetched epoch (by simp only [ClientPki.asked, at']) panicked
    · rename_i stored returned
      obtain ⟨system, c, got, rfl⟩ := update_document_returns fetched epoch stored returned
      cases taken
      exact .workerStored fetched now epoch system rest didUpdate c at' got
    · cases taken
      exact .workerRefused fetched now epoch rest didUpdate _ at'
    · cases taken
      exact .workerReturned fetched
    · cases taken
      exact .workerRefused fetched now epoch rest didUpdate p.failedFetches at'
  · cases taken

theorem waiter_fetched_moves (next : ClientPki) (i : Nat) (fetched : Fetched) (taken : p.waiterFetched cfg i fetched = some next) :
    ClientPkiMoves cfg p (.waiterFetched i fetched) next := by
  rw [ClientPki.waiterFetched] at taken
  split at taken
  · rename_i epoch attempt at'
    split at taken
    · rename_i panicked
      cases taken
      exact fetch_panics _ fetched epoch (by simp only [ClientPki.asked, at']) panicked
    · rename_i stored returned
      obtain ⟨system, c, got, rfl⟩ := update_document_returns fetched epoch stored returned
      cases taken
      exact .waiterStored i fetched epoch system attempt c at' got
    · split at taken
      · cases taken
        exact .waiterGaveUp i fetched
      · cases taken
        exact .waiterSleeps i fetched attempt
  · cases taken

theorem next_epoch_moves (next : ClientPki) (taken : p.nextEpoch = some next) : ClientPkiMoves cfg p .nextEpoch next := by
  rw [ClientPki.nextEpoch] at taken
  split at taken
  · rename_i now at'
    cases taken
    exact .noneFetched now at'
  · rename_i now epoch rest didUpdate at'
    split at taken
    · cases taken
      exact .skipped now epoch rest didUpdate at'
    · split at taken
      · cases taken
        exact .skipped now epoch rest didUpdate at'
      · cases taken
        exact .workerAsks now epoch rest didUpdate at'
  · cases taken

theorem prune_next_moves (next : ClientPki) (taken : p.pruneNext = some next) : ClientPkiMoves cfg p .pruneNext next := by
  rw [ClientPki.pruneNext] at taken
  split at taken
  · rename_i now at'
    cases taken
    exact .pruneEnded now at'
  · rename_i now epoch rest at'
    by_cases old : epoch + 1 < now
    · rw [if_pos old] at taken
      cases taken
      exact .pruned now epoch rest at' old
    · rw [if_neg old] at taken
      cases taken
      exact .spared now epoch rest at'
  · cases taken

theorem callback_moves (next : ClientPki) (taken : p.callback cfg = some next) : ClientPkiMoves cfg p .callback next := by
  rw [ClientPki.callback] at taken
  split at taken
  · rename_i now at'
    split at taken
    · split at taken
      · cases taken
        exact .called now p.lastCallbackEpoch at'
      · cases taken
        exact .called now now at'
      · rename_i d bare
        cases taken
        exact .asserted _ now d bare
    · cases taken
      exact .called now p.lastCallbackEpoch at'
  · cases taken

theorem wait_moves (next : ClientPki) (taken : p.waitForCurrentDocument cfg = some next) :
    ClientPkiMoves cfg p .currentDocument next := by
  rw [ClientPki.waitForCurrentDocument] at taken
  split at taken
  · rename_i panicked
    cases taken
    cases current_document_panics panicked with
    | inl unread => exact .unreadable _ (.inr unread)
    | inr bare =>
        obtain ⟨epoch, d, stored⟩ := bare
        exact .asserted _ epoch d stored
  · cases taken
    exact .found
  · split at taken
    · rename_i unread
      cases taken
      exact .unreadable _ (.inl unread)
    · rename_i epoch read
      cases taken
      exact .waiterAsks epoch read
  · rename_i e _
    exact nomatch e

theorem client_pki_moves (next : ClientPki) (event : ClientPkiEvent) (taken : p.step cfg event = some next) :
    ClientPkiMoves cfg p event next := by
  unfold ClientPki.step at taken
  split at taken
  · cases taken
  · cases event with
    | setTime unixTime =>
        cases taken
        exact .setTime unixTime
    | setClockSkew skew =>
        cases taken
        exact .setClockSkew skew
    | wake =>
        simp only [ClientPki.wake] at taken
        split at taken
        · rename_i at'
          split at taken
          · rename_i unread
            cases taken
            exact .unreadable _ (.inr (by rw [ClientPki.skewedEpoch, unread]; rfl))
          · rename_i now till read
            cases taken
            exact .began now till at' read
        · cases taken
    | nextEpoch => exact next_epoch_moves next taken
    | workerFetched fetched => exact worker_fetched_moves next fetched taken
    | startPrune r =>
        simp only [ClientPki.startPrune] at taken
        split at taken
        · rename_i now at'
          cases taken
          exact .pruneStarted r now at'
        · cases taken
    | pruneNext => exact prune_next_moves next taken
    | callback => exact callback_moves next taken
    | currentDocument => exact wait_moves next taken
    | waiterFetched i fetched => exact waiter_fetched_moves next i fetched taken
    | waiterRetry i =>
        simp only [ClientPki.waiterRetry] at taken
        split at taken
        · rename_i attempt at'
          split at taken
          · rename_i unread
            cases taken
            exact .unreadable _ (.inl unread)
          · rename_i epoch read
            cases taken
            exact .waiterRetries i (attempt + 1) epoch read
        · cases taken

end Moves

end Katzenpost
