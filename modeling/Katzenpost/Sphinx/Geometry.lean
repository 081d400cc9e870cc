import Katzenpost.Go.Call
import Katzenpost.Core.Types

set_option autoImplicit false

namespace Katzenpost

open Go

def surbIDLength : Nat := 16
def commandTagLength : Nat := 1
def macLength : Nat := 32
def sprpKeyLength : Nat := 48
def sprpIVLength : Nat := 16
def surbReplyLength : Nat := commandTagLength + surbIDLength
def sphinxPlaintextHeaderLength : Nat := 1 + 1
def adLength : Nat := 2
def payloadTagLength : Nat := 32

inductive SphinxScheme where
  | nike (publicKeySize : Nat)
  | kem (ciphertextSize : Nat)
deriving DecidableEq

structure Geometry where
  packetLength : Nat
  nrHops : Nat
  headerLength : Nat
  routingInfoLength : Nat
  perHopRoutingInfoLength : Nat
  surbLength : Nat
  sphinxPlaintextHeaderLength : Nat
  payloadTagLength : Nat
  forwardPayloadLength : Nat
  userForwardPayloadLength : Nat
  nextNodeHopLength : Nat
  sprpKeyMaterialLength : Nat
deriving DecidableEq

structure GeometryFactory where
  scheme : SphinxScheme
  nrHops : Nat
  sprpKeyMaterialLength : Nat
  nextNodeHopLength : Nat

def GeometryFactory.perHopRoutingInfoLength (f : GeometryFactory) : Nat :=
  match f.scheme with
  | .kem ciphertextSize => f.nextNodeHopLength + surbReplyLength + ciphertextSize
  | .nike _ => f.nextNodeHopLength + surbReplyLength

def GeometryFactory.routingInfoLength (f : GeometryFactory) : Nat := f.perHopRoutingInfoLength * f.nrHops

def GeometryFactory.headerLength (f : GeometryFactory) : Nat :=
  match f.scheme with
  | .nike publicKeySize => adLength + publicKeySize + f.routingInfoLength + macLength
  | .kem ciphertextSize => adLength + ciphertextSize + f.routingInfoLength + macLength

def GeometryFactory.packetLength (f : GeometryFactory) (forwardPayloadLength : Nat) : Nat :=
  f.headerLength + Katzenpost.payloadTagLength + forwardPayloadLength

def GeometryFactory.surbLength (f : GeometryFactory) : Nat := f.headerLength + nodeIDLength + f.sprpKeyMaterialLength

def GeometryFactory.deriveForwardPayloadLength (f : GeometryFactory) (userForwardPayloadLength : Nat) : Nat :=
  userForwardPayloadLength + (Katzenpost.sphinxPlaintextHeaderLength + f.surbLength)

-- GeometryFromUserForwardPayloadLength and its KEM variant, which differ only
-- in the scheme they put into the factory.
def geometryFromUserForwardPayloadLength (scheme : SphinxScheme) (userForwardPayloadLength : Nat) (withSURB : Bool)
    (nrHops : Nat) : Geometry :=
  let f : GeometryFactory :=
    ⟨scheme, nrHops, sprpKeyLength + sprpIVLength, commandTagLength + nodeIDLength + macLength⟩
  let forwardPayloadLength :=
    if withSURB then f.deriveForwardPayloadLength userForwardPayloadLength else userForwardPayloadLength
  { packetLength := f.packetLength forwardPayloadLength
    nrHops := nrHops
    headerLength := f.headerLength
    routingInfoLength := f.routingInfoLength
    perHopRoutingInfoLength := f.perHopRoutingInfoLength
    surbLength := f.surbLength
    sphinxPlaintextHeaderLength := Katzenpost.sphinxPlaintextHeaderLength
    payloadTagLength := Katzenpost.payloadTagLength
    forwardPayloadLength := forwardPayloadLength
    userForwardPayloadLength := userForwardPayloadLength
    nextNodeHopLength := f.nextNodeHopLength
    sprpKeyMaterialLength := f.sprpKeyMaterialLength }

structure Laid (g : Geometry) (withSURB : Bool) : Prop where
  header : g.sphinxPlaintextHeaderLength = 2
  payload : g.forwardPayloadLength = g.userForwardPayloadLength + if withSURB then 2 + g.surbLength else 0

theorem geometry_laid (scheme : SphinxScheme) (user : Nat) (withSURB : Bool) (nrHops : Nat) :
    Laid (geometryFromUserForwardPayloadLength scheme user withSURB nrHops) withSURB := by
  cases withSURB with
  | false => exact ⟨rfl, rfl⟩
  | true => exact ⟨rfl, rfl⟩

inductive ParseError where
  | invalidPayloadLength (length : Nat)
  | truncatedMessageBlock
  | invalidReserved (byte : UInt8)
  | invalidFlags (byte : UInt8)
  | missizedUserPayload (length : Nat)
deriving DecidableEq

def flagsPadding : UInt8 := 0
def flagsSURB : UInt8 := 1
def reserved : UInt8 := 0

def announcedSURB (flags : UInt8) (area : Bytes) : Call ParseError (Option Bytes) :=
  if flags = flagsPadding then .returns none
  else if flags = flagsSURB then .returns (some area)
  else .fails (.invalidFlags flags)

def parseForwardPacket (g : Geometry) (b : Bytes) : Call ParseError (Bytes × Option Bytes) :=
  let hdrLength := g.sphinxPlaintextHeaderLength + g.surbLength
  if b.length ≠ g.forwardPayloadLength then .fails (.invalidPayloadLength b.length)
  else if b.length < hdrLength then .fails .truncatedMessageBlock
  else
    match b with
    | flags :: second :: _ =>
        if second ≠ reserved then .fails (.invalidReserved second)
        else do
          let surb ← announcedSURB flags ((b.take hdrLength).drop g.sphinxPlaintextHeaderLength)
          if (b.drop hdrLength).length ≠ g.userForwardPayloadLength then
            .fails (.missizedUserPayload (b.drop hdrLength).length)
          else .returns (b.drop hdrLength, surb)
    | _ => .panics

theorem parse_forward_packet_returns (g : Geometry) (b ct : Bytes) (surb : Option Bytes)
    (parsed : parseForwardPacket g b = .returns (ct, surb)) :
    b.length = g.forwardPayloadLength ∧ g.sphinxPlaintextHeaderLength + g.surbLength ≤ b.length ∧
      ct = b.drop (g.sphinxPlaintextHeaderLength + g.surbLength) ∧ ct.length = g.userForwardPayloadLength := by
  unfold parseForwardPacket at parsed
  by_cases wrong : b.length ≠ g.forwardPayloadLength
  · rw [if_pos wrong] at parsed
    exact absurd parsed (fails_ne_returns _ _)
  · rw [if_neg wrong] at parsed
    by_cases truncated : b.length < g.sphinxPlaintextHeaderLength + g.surbLength
    · rw [if_pos truncated] at parsed
      exact absurd parsed (fails_ne_returns _ _)
    · rw [if_neg truncated] at parsed
      refine ⟨not_not.mp wrong, Nat.le_of_not_lt truncated, ?_⟩
      split at parsed
      · split at parsed
        · exact absurd parsed (fails_ne_returns _ _)
        · obtain ⟨announced, _, sized⟩ := bind_returns _ _ _ parsed
          split at sized
          · exact absurd sized (fails_ne_returns _ _)
          · rename_i fits
            obtain ⟨rfl, _⟩ := Prod.mk.inj (returns_inj _ _ sized)
            exact ⟨rfl, not_not.mp fits⟩
      · exact absurd parsed (panics_ne_returns _)

theorem parse_without_room (g : Geometry) (laid : Laid g false) (b ct : Bytes) (surb : Option Bytes) :
    parseForwardPacket g b ≠ .returns (ct, surb) := by
  intro parsed
  obtain ⟨sized, _, rfl, user⟩ := parse_forward_packet_returns g b ct surb parsed
  have payload : g.forwardPayloadLength = g.userForwardPayloadLength := laid.payload
  have header := laid.header
  rw [List.length_drop] at user
  omega

theorem parse_surb_block (g : Geometry) (laid : Laid g true) (surb ct : Bytes) (surbSized : surb.length = g.surbLength)
    (sized : ct.length = g.userForwardPayloadLength) :
    parseForwardPacket g ([flagsSURB, reserved] ++ surb ++ ct) = .returns (ct, some surb) := by
  have front : ([flagsSURB, reserved] ++ surb).length = 2 + g.surbLength := by
    rw [List.length_append, surbSized]
    rfl
  have whole : ([flagsSURB, reserved] ++ surb ++ ct).length = g.forwardPayloadLength := by
    rw [List.length_append, front, sized, laid.payload, if_pos rfl, Nat.add_comm]
  have dropped : ([flagsSURB, reserved] ++ surb ++ ct).drop (2 + g.surbLength) = ct := by
    rw [← front, List.drop_left]
  have taken : ([flagsSURB, reserved] ++ surb ++ ct).take (2 + g.surbLength) = [flagsSURB, reserved] ++ surb := by
    rw [← front, List.take_left]
  unfold parseForwardPacket
  rw [laid.header, if_neg (not_not.mpr whole), if_neg (by rw [List.length_append, front]; omega)]
  simp only [List.cons_append, List.nil_append] at dropped taken ⊢
  simp only [dropped, taken, sized, ne_eq, not_true, if_false]
  rfl

theorem parse_bare_block (g : Geometry) (laid : Laid g true) (ct : Bytes) (sized : ct.length = g.userForwardPayloadLength) :
    parseForwardPacket g (ct ++ List.replicate (2 + g.surbLength) 0) = .returns (ct, none) ↔
      ct = List.replicate g.userForwardPayloadLength 0 := by
  apply Iff.intro
  · intro parsed
    obtain ⟨_, _, same, _⟩ := parse_forward_packet_returns g _ _ _ parsed
    rw [laid.header] at same
    have zero := shifted_zero ct (2 + g.surbLength) (by omega) same.symm
    rwa [sized] at zero
  · intro zero
    have swap : ct ++ List.replicate (2 + g.surbLength) 0 = List.replicate (2 + g.surbLength) 0 ++ ct := by
      rw [zero, List.replicate_append_replicate, List.replicate_append_replicate, Nat.add_comm]
    have whole : (List.replicate (2 + g.surbLength) 0 ++ ct).length = g.forwardPayloadLength := by
      rw [List.length_append, List.length_replicate, sized, laid.payload, if_pos rfl, Nat.add_comm]
    have dropped : (List.replicate (2 + g.surbLength) 0 ++ ct).drop (2 + g.surbLength) = ct := by
      rw [List.drop_left' List.length_replicate]
    unfold parseForwardPacket
    rw [swap, laid.header, if_neg (not_not.mpr whole),
      if_neg (by rw [List.length_append, List.length_replicate]; omega)]
    have start : List.replicate (2 + g.surbLength) (0 : UInt8) = 0 :: 0 :: List.replicate g.surbLength 0 := by
      rw [Nat.add_comm, List.replicate_succ, List.replicate_succ]
    rw [start] at dropped ⊢
    simp only [List.cons_append] at dropped ⊢
    simp only [dropped, sized, ne_eq, not_true, if_false]
    rfl

end Katzenpost
