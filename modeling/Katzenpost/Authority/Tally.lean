import Katzenpost.Go.Sort
import Katzenpost.Go.Tally
import Katzenpost.Authority.Config

set_option autoImplicit false

namespace Katzenpost

open Go Std

def computeLambdaG (env : Env) (cfg : Config) : Option Float64 :=
  match cfg.topology with
  | some (layer :: _) =>
      if layer.length = 1 then
        some (env.addFloat (env.addFloat cfg.parameters.lambdaP cfg.parameters.lambdaL) cfg.parameters.lambdaD)
      else some (env.nLogN layer.length)
  | _ => none

def isReplicaDescriptorAuthorized (env : Env) (s : Server) (desc : ReplicaDescriptor) : Bool :=
  match (authorizedReplicaNodes env s)[env.sum256 desc.identity]? with
  | none => false
  | some info => info.identifier = desc.name && info.replicaID = desc.replicaID

def listedAs (table : GoMap Digest Bytes) (pk : Digest) (name : Bytes) : Bool := table[pk]? = some name

def isDescriptorAuthorized (env : Env) (s : Server) (desc : MixDescriptor) : Bool :=
  let pk := env.sum256 desc.identity
  if !desc.isGatewayNode && !desc.isServiceNode then listedAs (authorizedMixes env s) pk desc.name
  else if desc.isGatewayNode then listedAs (authorizedGatewayNodes env s) pk desc.name
  else listedAs (authorizedServiceNodes env s) pk desc.name

def sortReplicaNodesByPublicKey (env : Env) (nodes : List ReplicaDescriptor) : List ReplicaDescriptor :=
  sortSlice (keyLE fun d => (env.sum256 d.identity).bytes) nodes

def sortNodesByPublicKey (env : Env) (nodes : List MixDescriptor) : List MixDescriptor :=
  sortSlice (keyLE fun d => (env.sum256 d.identity).bytes) nodes

def voteParameters (lambdaG : Float64) (vote : Document) : Parameters where
  sendRatePerMinute := vote.sendRatePerMinute
  mu := vote.mu
  muMaxDelay := vote.muMaxDelay
  lambdaP := vote.lambdaP
  lambdaPMaxDelay := vote.lambdaPMaxDelay
  lambdaL := vote.lambdaL
  lambdaLMaxDelay := vote.lambdaLMaxDelay
  lambdaD := vote.lambdaD
  lambdaDMaxDelay := vote.lambdaDMaxDelay
  lambdaM := vote.lambdaM
  lambdaMMaxDelay := vote.lambdaMMaxDelay
  lambdaG := lambdaG
  lambdaGMaxDelay := vote.lambdaGMaxDelay
  lambdaR := vote.lambdaR
  lambdaRMaxDelay := vote.lambdaRMaxDelay

-- A gob stream leaves out a field that equals zero, and minus zero does.
def gobFloat (x : Float64) : Float64 := if x = 0x8000000000000000 then 0 else x

def gobEncode (p : Parameters) : List UInt64 :=
  [p.sendRatePerMinute, gobFloat p.mu, p.muMaxDelay, gobFloat p.lambdaP, p.lambdaPMaxDelay, gobFloat p.lambdaL,
    p.lambdaLMaxDelay, gobFloat p.lambdaD, p.lambdaDMaxDelay, gobFloat p.lambdaM, gobFloat p.lambdaG,
    p.lambdaMMaxDelay, p.lambdaGMaxDelay, gobFloat p.lambdaR, p.lambdaRMaxDelay]

def gobDecode (fields : List UInt64) : Parameters :=
  let field := fun i => fields.getD i 0
  ⟨field 0, field 1, field 2, field 3, field 4, field 5, field 6, field 7, field 8, field 9, field 10, field 11,
    field 12, field 13, field 14⟩

def listedMixes (vote : Document) : List MixDescriptor :=
  vote.gatewayNodes ++ vote.serviceNodes ++ vote.topology.flatten

-- One loop over the votes fills three maps; each is written out on its own.
def tallyListed {δ : Type} (encode : δ → Bytes) (listed : Document → List δ) (votes : List Document) :
    GoMap Bytes (List Document) :=
  votes.foldl (fun m vote => (listed vote).foldl (fun m desc => tallyAdd m (encode desc) vote) m) ∅

def tallyMixes (env : Env) (votes : List Document) : GoMap Bytes (List Document) :=
  tallyListed env.encodeMix listedMixes votes

def tallyReplicas (env : Env) (votes : List Document) : GoMap Bytes (List Document) :=
  tallyListed env.encodeReplica Document.storageReplicas votes

def tallyParameters (lambdaG : Float64) (votes : List Document) : GoMap (List UInt64) (List Document) :=
  votes.foldl (fun m vote => tallyAdd m (gobEncode (voteParameters lambdaG vote)) vote) ∅

inductive TallyError where
  | noVotes
  | notEnoughVotes
  | undecodableMix
  | undecodableReplica
  | mixParamsEmpty
deriving DecidableEq, Repr

def includeNodes {δ : Type} (threshold : Nat) (decode : Bytes → Option δ) (authorized : δ → Bool) :
    List (Bytes × List Document) → Option (List δ)
  | [] => some []
  | (rawDesc, votes) :: rest =>
      if votes.length ≥ threshold then
        match decode rawDesc with
        | none => none
        | some desc =>
            (includeNodes threshold decode authorized rest).map fun nodes =>
              if authorized desc then desc :: nodes else nodes
      else includeNodes threshold decode authorized rest

def chooseParameters (threshold : Nat) : List (List UInt64 × List Document) → Option Parameters
  | [] => none
  | (fields, votes) :: rest =>
      if votes.length ≥ threshold then some (gobDecode fields) else chooseParameters threshold rest

structure TallyRanges where
  votes : Range Digest Document
  mixes : Range Bytes (List Document)
  replicas : Range Bytes (List Document)
  parameters : Range (List UInt64) (List Document)

structure Tally where
  nodes : List MixDescriptor
  replicaNodes : List ReplicaDescriptor
  parameters : Parameters
deriving DecidableEq

def tallyVotes (env : Env) (s : Server) (r : TallyRanges) (votes : Option (GoMap Digest Document)) :
    Option (Except TallyError Tally) :=
  match votes with
  | none => some (.error .noVotes)
  | some votes =>
      if votes.size < threshold env s then some (.error .notEnoughVotes)
      else match computeLambdaG env s.cfg with
        | none => none
        | some lambdaG =>
            let counted := (r.votes.order votes).map Prod.snd
            let mixTally := tallyMixes env counted
            let replicaTally := tallyReplicas env counted
            let mixParams := tallyParameters lambdaG counted
            match includeNodes (threshold env s) env.decodeMix (isDescriptorAuthorized env s)
                (r.mixes.order mixTally) with
            | none => some (.error .undecodableMix)
            | some nodes =>
                match includeNodes (threshold env s) env.decodeReplica (isReplicaDescriptorAuthorized env s)
                    (r.replicas.order replicaTally) with
                | none => some (.error .undecodableReplica)
                | some replicaNodes =>
                    match chooseParameters (threshold env s) (r.parameters.order mixParams) with
                    | none => some (.error .mixParamsEmpty)
                    | some parameters =>
                        some (.ok ⟨sortNodesByPublicKey env nodes, sortReplicaNodesByPublicKey env replicaNodes, parameters⟩)

end Katzenpost
