import Katzenpost.Client.TimeSync
import Katzenpost.Wire.RoundTrip
import Katzenpost.Wire.Session

set_option autoImplicit false

namespace Katzenpost

open Go

section Maximum

theorem max_loop_least (lengths : List Nat) (m bound : Nat) :
    lengths.foldl (fun m length => if length > m then length else m) m ≤ bound ↔ m ≤ bound ∧ ∀ length ∈ lengths, length ≤ bound := by
  induction lengths generalizing m with
  | nil => simp
  | cons length lengths ih =>
      rw [List.foldl_cons, ih, List.forall_mem_cons, ← and_assoc]
      refine and_congr_left fun _ => ?_
      split <;> omega

theorem calc_max_least (lengths : List Nat) (bound : Nat) :
    calcMaxMessageLen lengths ≤ bound ↔ ∀ length ∈ lengths, length ≤ bound := by
  rw [calcMaxMessageLen, max_loop_least]
  exact and_iff_right (Nat.zero_le bound)

theorem le_calc_max (lengths : List Nat) (length : Nat) (member : length ∈ lengths) : length ≤ calcMaxMessageLen lengths :=
  (calc_max_least lengths _).mp (le_refl _) length member

end Maximum

def MessageLengths.maxCommandSize (lengths : MessageLengths) : Nat :=
  if lengths.serverToClient > lengths.clientToServer then lengths.serverToClient else lengths.clientToServer

def MessageLengths.target (lengths : MessageLengths) : TrafficPadding → Nat
  | .unpadded => 0
  | .upstream => lengths.clientToServer
  | .downstream => lengths.serverToClient

theorem pad_to_max_length (maxMessageLen : Nat) (data : Bytes) :
    (padToMaxCommandSize maxMessageLen data).length = max maxMessageLen data.length := by
  rw [pad_to_max_eq, List.length_append, zeros_length]
  omega

theorem pad_length (lengths : MessageLengths) (padding : TrafficPadding) (data : Bytes) :
    (lengths.pad padding data).length = max (lengths.target padding) data.length := by
  cases padding with
  | unpadded => exact (Nat.zero_max _).symm
  | upstream => exact pad_to_max_length _ _
  | downstream => exact pad_to_max_length _ _

section Serialised

variable (c : Commands) (lengths : MessageLengths) (optional : Bool) (cmd : WireCommand)

theorem to_bytes_length (body : Bytes) (serialised : c.body cmd = some body) (asserted : c.asserted cmd = true) :
    ∃ bytes, c.toBytes lengths optional cmd = some bytes ∧
      bytes.length = max (lengths.target (cmd.padding optional)) (cmdOverhead + body.length) := by
  refine ⟨lengths.pad (cmd.padding optional) (commandHeader cmd.commandID (UInt32.ofNat body.length) ++ body), ?_, ?_⟩
  · rw [Commands.toBytes, if_pos asserted, Commands.unpadded, serialised]
    rfl
  · rw [pad_length, List.length_append, header_length]

theorem to_bytes_fits (body : Bytes) (serialised : c.body cmd = some body) (asserted : c.asserted cmd = true)
    (fits : cmdOverhead + body.length ≤ lengths.target (cmd.padding optional)) :
    ∃ bytes, c.toBytes lengths optional cmd = some bytes ∧ bytes.length = lengths.target (cmd.padding optional) := by
  obtain ⟨bytes, made, length⟩ := to_bytes_length c lengths optional cmd body serialised asserted
  exact ⟨bytes, made, length.trans (Nat.max_eq_left fits)⟩

end Serialised

def ClientTraffic (g : Geometry) : WireCommand → Prop
  | .noOp => True
  | .sendPacket sphinxPacket => sphinxPacket.length = g.packetLength
  | .disconnect => True
  | .retrieveMessage _ => True
  | .getConsensus _ => True
  | .getConsensus2 _ => True
  | .sendRetrievePacket _ => True
  | _ => False

def ServerTraffic (g : Geometry) : WireCommand → Prop
  | .message _ _ _ => True
  | .messageACK _ _ _ _ => True
  | .messageEmpty _ => True
  | .sendRetrievePacketReply _ payload => payload.length ≤ g.payloadTagLength + g.forwardPayloadLength
  | _ => False

section Mixnet

variable (g : Geometry)

theorem packet_fits : cmdOverhead + g.packetLength ≤ (mixnetLengths g).clientToServer :=
  le_calc_max _ _ (by simp)

theorem ack_fits : cmdOverhead + 1 + 4 + surbIDLength + g.packetLength ≤ (mixnetLengths g).serverToClient :=
  le_calc_max _ _ (by simp)

theorem small_fits (n : Nat) (small : n = cmdOverhead ∨ n = cmdOverhead + 4 ∨ n = cmdOverhead + getConsensusLength) :
    n ≤ (mixnetLengths g).clientToServer :=
  le_calc_max _ _ (by rcases small with rfl | rfl | rfl <;> simp)

theorem client_traffic_body (cmd : WireCommand) (traffic : ClientTraffic g cmd)
    (asserted : (newMixnetCommands g).asserted cmd = true) :
    cmd.padding true = .upstream ∧
      ∃ body, (newMixnetCommands g).body cmd = some body ∧ cmdOverhead + body.length ≤ (mixnetLengths g).clientToServer := by
  have empty := small_fits g cmdOverhead (.inl rfl)
  have epoch (time : UInt64) : cmdOverhead + (putUint64BE time).length ≤ (mixnetLengths g).clientToServer :=
    small_fits g _ (.inr (.inr (congrArg (cmdOverhead + ·) (ByteField.word64.put_length time))))
  cases cmd with
  | noOp => exact ⟨rfl, [], rfl, empty⟩
  | disconnect => exact ⟨rfl, [], rfl, empty⟩
  | sendPacket sphinxPacket =>
      refine ⟨rfl, sphinxPacket, rfl, ?_⟩
      rw [show sphinxPacket.length = g.packetLength from traffic]
      exact packet_fits g
  | sendRetrievePacket sphinxPacket =>
      refine ⟨rfl, sphinxPacket, rfl, ?_⟩
      rw [show sphinxPacket.length = g.packetLength from of_decide_eq_true asserted]
      exact packet_fits g
  | retrieveMessage sequence =>
      refine ⟨rfl, putUint32BE sequence, rfl, ?_⟩
      rw [put_uint32BE_length]
      exact small_fits g _ (.inr (.inl rfl))
  | getConsensus time => exact ⟨rfl, putUint64BE time, rfl, epoch time⟩
  | getConsensus2 time => exact ⟨rfl, putUint64BE time, rfl, epoch time⟩
  | _ => exact traffic.elim

end Mixnet

section WithSURB

variable (scheme : SphinxScheme) (user nrHops : Nat)

def surbGeometry : Geometry := geometryFromUserForwardPayloadLength scheme user true nrHops

theorem surb_geometry_lengths :
    (surbGeometry scheme user nrHops).forwardPayloadLength =
      (surbGeometry scheme user nrHops).userForwardPayloadLength +
        ((surbGeometry scheme user nrHops).sphinxPlaintextHeaderLength + (surbGeometry scheme user nrHops).surbLength) ∧
    (surbGeometry scheme user nrHops).packetLength =
      (surbGeometry scheme user nrHops).headerLength + (surbGeometry scheme user nrHops).payloadTagLength +
        (surbGeometry scheme user nrHops).forwardPayloadLength ∧
    adLength + macLength ≤ (surbGeometry scheme user nrHops).headerLength := by
  refine ⟨rfl, rfl, ?_⟩
  cases scheme with
  | nike publicKeySize =>
      change adLength + macLength ≤ adLength + publicKeySize + _ + macLength
      omega
  | kem ciphertextSize =>
      change adLength + macLength ≤ adLength + ciphertextSize + _ + macLength
      omega

theorem server_traffic_body (cmd : WireCommand) (traffic : ServerTraffic (surbGeometry scheme user nrHops) cmd)
    (asserted : (newMixnetCommands (surbGeometry scheme user nrHops)).asserted cmd = true) :
    cmd.padding true = .downstream ∧
      ∃ body, (newMixnetCommands (surbGeometry scheme user nrHops)).body cmd = some body ∧
        cmdOverhead + body.length ≤ (mixnetLengths (surbGeometry scheme user nrHops)).serverToClient := by
  obtain ⟨payloadLength, packet, header⟩ := surb_geometry_lengths scheme user nrHops
  have room := ack_fits (surbGeometry scheme user nrHops)
  rw [adLength, macLength] at header
  generalize surbGeometry scheme user nrHops = g at *
  rw [surbIDLength] at room
  cases cmd with
  | message hint seq payload =>
      have sized : payload.length = g.userForwardPayloadLength := of_decide_eq_true asserted
      refine ⟨rfl, messageHeader.put (0, hint, seq) ++ (payload ++ zeros (messageMsgPaddingLength g)), rfl, ?_⟩
      rw [List.length_append, messageHeader.put_length, List.length_append, zeros_length, messageMsgPaddingLength, surbIDLength,
        sized, show messageHeader.size = 6 from rfl]
      omega
  | messageACK hint seq id payload =>
      have sized : payload.length = g.payloadTagLength + g.forwardPayloadLength := of_decide_eq_true asserted
      refine ⟨rfl, messageHeader.put (1, hint, seq) ++ (id.bytes ++ payload), rfl, ?_⟩
      rw [List.length_append, messageHeader.put_length, List.length_append, id.size, surbIDLength, sized,
        show messageHeader.size = 6 from rfl]
      omega
  | messageEmpty seq =>
      refine ⟨rfl, messageHeader.put (2, 0, seq) ++ zeros (messageEmptyPaddingLength g), rfl, ?_⟩
      rw [List.length_append, messageHeader.put_length, zeros_length, messageEmptyPaddingLength, surbIDLength,
        show messageHeader.size = 6 from rfl]
      omega
  | sendRetrievePacketReply surbID payload =>
      have sized : payload.length ≤ g.payloadTagLength + g.forwardPayloadLength := traffic
      refine ⟨rfl, surbID.bytes ++ payload, rfl, ?_⟩
      rw [List.length_append, surbID.size, surbIDLength]
      omega
  | _ => exact traffic.elim

end WithSURB

def mixnetBytes (g : Geometry) (cmd : WireCommand) : Option Bytes := (newMixnetCommands g).toBytes (mixnetLengths g) true cmd

def SerialisesTo (g : Geometry) (cmd : WireCommand) (n : Nat) : Prop :=
  match mixnetBytes g cmd with
  | some bytes => bytes.length = n
  | none => (newMixnetCommands g).asserted cmd = false

theorem serialises_to (g : Geometry) (cmd : WireCommand) (padding : TrafficPadding)
    (fits : (newMixnetCommands g).asserted cmd = true → cmd.padding true = padding ∧
      ∃ body, (newMixnetCommands g).body cmd = some body ∧ cmdOverhead + body.length ≤ (mixnetLengths g).target padding) :
    SerialisesTo g cmd ((mixnetLengths g).target padding) := by
  by_cases asserted : (newMixnetCommands g).asserted cmd = true
  · obtain ⟨rfl, body, serialised, room⟩ := fits asserted
    obtain ⟨bytes, made, length⟩ := to_bytes_fits _ (mixnetLengths g) true cmd body serialised asserted room
    rw [SerialisesTo, mixnetBytes, made]
    exact length
  · have panics : mixnetBytes g cmd = none := if_neg asserted
    rw [SerialisesTo, panics]
    exact Bool.eq_false_iff.mpr asserted

/-- Each direction has one size, and no command is longer than it before the padding. -/
theorem mixnet_traffic_uniform (scheme : SphinxScheme) (user nrHops : Nat) (g : Geometry)
    (built : g = surbGeometry scheme user nrHops) :
    (∀ cmd, ClientTraffic g cmd → SerialisesTo g cmd (mixnetLengths g).clientToServer) ∧
    (∀ cmd, ServerTraffic g cmd → SerialisesTo g cmd (mixnetLengths g).serverToClient) ∧
    (∀ cmd data, ClientTraffic g cmd ∨ ServerTraffic g cmd → (newMixnetCommands g).asserted cmd = true →
      (newMixnetCommands g).unpadded cmd = some data → data.length ≤ (mixnetLengths g).target (cmd.padding true)) := by
  subst built
  refine ⟨fun cmd traffic => serialises_to _ cmd .upstream (client_traffic_body _ cmd traffic),
    fun cmd traffic => serialises_to _ cmd .downstream (server_traffic_body scheme user nrHops cmd traffic),
    fun cmd data traffic asserted unpadded => ?_⟩
  have fits : ∃ body, (newMixnetCommands (surbGeometry scheme user nrHops)).body cmd = some body ∧
      cmdOverhead + body.length ≤ (mixnetLengths (surbGeometry scheme user nrHops)).target (cmd.padding true) := by
    obtain client | server := traffic
    · obtain ⟨upstream, fits⟩ := client_traffic_body _ cmd client asserted
      rwa [upstream]
    · obtain ⟨downstream, fits⟩ := server_traffic_body scheme user nrHops cmd server asserted
      rwa [downstream]
  obtain ⟨body, serialised, room⟩ := fits
  rw [Commands.unpadded, serialised] at unpadded
  rw [← Option.some.inj unpadded, List.length_append, header_length]
  exact room

theorem decoy_and_empty_uniform :
    SerialisesTo (surbGeometry (.nike 32) 100 5) .noOp (mixnetLengths (surbGeometry (.nike 32) 100 5)).clientToServer ∧
    SerialisesTo (surbGeometry (.kem 1088) 100 5) (.messageEmpty 7) (mixnetLengths (surbGeometry (.kem 1088) 100 5)).serverToClient :=
  ⟨(mixnet_traffic_uniform (.nike 32) 100 5 _ rfl).1 .noOp trivial,
    (mixnet_traffic_uniform (.kem 1088) 100 5 _ rfl).2.1 (.messageEmpty 7) trivial⟩

section MesgSize

def wireMaxMessageSize : Nat := 500000000
def prologueLen : Nat := 1

structure SessionSizes where
  publicKeySize : Nat
  ciphertextSize : Nat
  keyLen : Nat
  lengths : MessageLengths

variable (s : SessionSizes)

def SessionSizes.msg1Len : Nat := prologueLen + s.publicKeySize

def SessionSizes.msg2Len : Nat := s.publicKeySize + s.ciphertextSize + s.keyLen + authLen

def SessionSizes.msg3Len : Nat := s.publicKeySize + s.ciphertextSize + s.keyLen + macLen + authLen

def SessionSizes.msg4Len : Nat := s.ciphertextSize + s.keyLen

-- MaxMesgSize by the field maxMesgSize, which is set to the result. NewSession and
-- NewPKISession start with -1.
def SessionSizes.maxMesgSize (field : Int) : Int :=
  if field < 0 then wireMaxMessageSize
  else if field ≠ 0 then field
  else calcMaxMessageLen [s.lengths.maxCommandSize + macLen, s.msg1Len, s.msg2Len, s.msg3Len, s.msg4Len]

def computedMesgSize : Int := 0

/-- A later call gives what the first one gave. -/
theorem max_mesg_size_again (field : Int) : s.maxMesgSize (s.maxMesgSize field) = s.maxMesgSize field := by
  have positive : 0 < s.maxMesgSize field := by
    unfold SessionSizes.maxMesgSize
    by_cases negative : field < 0
    · rw [if_pos negative]
      decide
    · rw [if_neg negative]
      by_cases set : field ≠ 0
      · rw [if_pos set]
        omega
      · rw [if_neg set]
        have first := le_calc_max [s.lengths.maxCommandSize + macLen, s.msg1Len, s.msg2Len, s.msg3Len, s.msg4Len] s.msg1Len (by simp)
        have prologue : 1 ≤ s.msg1Len := Nat.le_add_right _ _
        omega
  generalize s.maxMesgSize field = result at positive
  rw [SessionSizes.maxMesgSize, if_neg (by omega), if_pos (by omega)]

theorem padded_command_fits (n : Nat) (padded : n ≤ s.lengths.maxCommandSize) :
    (macLen + n : Int) ≤ s.maxMesgSize computedMesgSize := by
  have first := le_calc_max [s.lengths.maxCommandSize + macLen, s.msg1Len, s.msg2Len, s.msg3Len, s.msg4Len] _ List.mem_cons_self
  rw [SessionSizes.maxMesgSize, if_neg (by decide), if_neg (by decide)]
  omega

end MesgSize

end Katzenpost
