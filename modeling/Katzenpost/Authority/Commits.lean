import Katzenpost.Go.Sort
import Katzenpost.Authority.Config

set_option autoImplicit false

namespace Katzenpost

open Go Std

-- What verifyCommits makes of one commit in a certificate: nothing wrong, the
-- author of the certificate is at fault, the author and the node are, or the
-- process panics on a commit of fewer than eight bytes.
inductive EntryCheck where
  | ok
  | forwarder
  | both
  | panic
deriving DecidableEq, Repr

def checkEntry (env : Env) (s : Server) (r : PairRanges) (now epoch : UInt64) (certificate : Document) (pk2 : Digest)
    (signedCommit : Bytes) : EntryCheck :=
  -- verify that pk2 is authorized
  match (reverseHash env s)[pk2]? with
  | none => .forwarder
  | some v =>
      -- verify that the alleged commit is signed by pk2
      match verify env (r.commit pk2) now v signedCommit with
      | .error _ => .forwarder
      | .ok commit =>
          -- verify that the commit is accompanied by a reveal, signed by pk2
          match certificate.sharedRandomReveal[pk2]? with
          | none => .forwarder
          | some signedReveal =>
              match verify env (r.reveal pk2) now v signedReveal with
              | .error _ => .forwarder
              | .ok reveal =>
                  match setCommit commit with
                  | none => .panic
                  | some srv =>
                      -- verify the epoch, and that the commit is validated by the revealed value
                      if srv.epoch ≠ epoch then .both
                      else if !srv.verify env reveal then .both
                      else .ok

structure CommitState where
  badnodes : List Digest
  comitted : GoMap Digest Bytes
  revealed : GoMap Digest Bytes

def recordValue (seen : GoMap Digest Bytes) (badnodes : List Digest) (pk2 : Digest) (value : Bytes) :
    GoMap Digest Bytes × List Digest :=
  match seen[pk2]? with
  | some earlier => (seen, if value = earlier then badnodes else pk2 :: badnodes)
  | none => (seen.insert pk2 value, badnodes)

def recordEntry (st : CommitState) (pk2 : Digest) (signedCommit signedReveal : Bytes) : CommitState :=
  let (comitted, badnodes) := recordValue st.comitted st.badnodes pk2 signedCommit
  let (revealed, badnodes) := recordValue st.revealed badnodes pk2 signedReveal
  ⟨badnodes, comitted, revealed⟩

def verifyEntries (env : Env) (s : Server) (r : PairRanges) (now epoch : UInt64) (pk : Digest) (certificate : Document) :
    CommitState → List (Digest × Bytes) → Option CommitState
  | st, [] => some st
  | st, (pk2, signedCommit) :: rest =>
      if pk2 ∈ st.badnodes then verifyEntries env s r now epoch pk certificate st rest
      else match checkEntry env s r now epoch certificate pk2 signedCommit with
        | .panic => none
        | .forwarder => some { st with badnodes := pk :: st.badnodes }
        | .both => some { st with badnodes := pk2 :: pk :: st.badnodes }
        | .ok => verifyEntries env s r now epoch pk certificate
            (recordEntry st pk2 signedCommit ((certificate.sharedRandomReveal[pk2]?).getD [])) rest

structure CommitRanges where
  certificates : Range Digest Document
  commits : Digest → Range Digest Bytes
  verify : Digest → PairRanges

def verifyCertificates (env : Env) (s : Server) (r : CommitRanges) (now epoch : UInt64) :
    CommitState → List (Digest × Document) → Option CommitState
  | st, [] => some st
  | st, (pk, certificate) :: rest =>
      if pk ∈ st.badnodes then verifyCertificates env s r now epoch st rest
      else match verifyEntries env s (r.verify pk) now epoch pk certificate st
          ((r.commits pk).order certificate.sharedRandomCommit) with
        | none => none
        | some st => verifyCertificates env s r now epoch st rest

def examineCertificates (env : Env) (s : Server) (r : CommitRanges) (now epoch : UInt64)
    (certificates : GoMap Digest Document) : Option CommitState :=
  verifyCertificates env s r now epoch ⟨[], ∅, ∅⟩ (r.certificates.order certificates)

def eraseAll (m : GoMap Digest Bytes) (keys : List Digest) : GoMap Digest Bytes := keys.foldl (fun m key => m.erase key) m

def verifyCommits (env : Env) (s : Server) (r : CommitRanges) (now epoch : UInt64)
    (certificates : GoMap Digest Document) : Option (GoMap Digest Bytes × GoMap Digest Bytes) :=
  (examineCertificates env s r now epoch certificates).map fun st =>
    (eraseAll st.comitted st.badnodes, eraseAll st.revealed st.badnodes)

def sharedRandomInput (epoch : UInt64) (reveals : List (Digest × Bytes)) (prior : Bytes) : Bytes :=
  ascii "shared-random" ++ putUint64BE epoch ++
    (sortSlice (keyGE Prod.snd) reveals).flatMap (fun reveal => reveal.1.bytes ++ reveal.2) ++ prior

def priorZeros : Bytes := List.replicate 32 0

def openReveals (env : Env) (now : UInt64) : List (Digest × Bytes) → Except CertError (List (Digest × Bytes))
  | [] => .ok []
  | (pk, srr) :: rest =>
      match getCertified env now srr with
      | .error e => .error e
      | .ok digest => (openReveals env now rest).map fun opened => (pk, digest) :: opened

inductive SharedRandomError where
  | insufficientCommits
  | certificate (cause : CertError)
deriving DecidableEq, Repr

def computeSharedRandom (env : Env) (s : Server) (r : Range Digest Bytes) (now epoch : UInt64)
    (commits reveals : GoMap Digest Bytes) (previous : Option Document) : Except SharedRandomError Bytes :=
  if commits.size < threshold env s then .error .insufficientCommits
  else match openReveals env now (r.order reveals) with
    | .error e => .error (.certificate e)
    | .ok opened =>
        .ok (env.blake2b (sharedRandomInput epoch opened ((previous.map Document.sharedRandomValue).getD priorZeros))).bytes

end Katzenpost
