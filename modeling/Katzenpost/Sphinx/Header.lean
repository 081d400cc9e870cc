import Katzenpost.Sphinx.Commands

set_option autoImplicit false

namespace Katzenpost

open Go

-- crypto.PacketKeys. In place of the blinding factor stands the seed that the
-- NIKE scheme generates it from; KEM Sphinx does not use it.
structure PacketKeys where
  headerMAC : Fixed 32
  headerEncryption : Fixed 32
  headerEncryptionIV : Fixed sprpIVLength
  payloadEncryption : Fixed sprpKeyLength
  blindingSeed : Fixed 32
deriving DecidableEq

structure SphinxCrypto where
  hash : Bytes → Fixed 32
  mac : Fixed 32 → Bytes → Fixed macLength
  keyStream : Fixed 32 → Fixed sprpIVLength → Nat → Bytes
  sprpEncrypt : Fixed sprpKeyLength → Fixed sprpIVLength → Bytes → Bytes
  sprpDecrypt : Fixed sprpKeyLength → Fixed sprpIVLength → Bytes → Bytes
  expand : Bytes → Fixed 160

structure SphinxCryptoLaws (c : SphinxCrypto) : Prop where
  keyStream_length : ∀ key iv n, (c.keyStream key iv n).length = n
  decrypt_encrypt : ∀ key iv msg, c.sprpDecrypt key iv (c.sprpEncrypt key iv msg) = msg
  encrypt_length : ∀ key iv msg, (c.sprpEncrypt key iv msg).length = msg.length
  decrypt_length : ∀ key iv msg, (c.sprpDecrypt key iv msg).length = msg.length

def byteCrypto : SphinxCrypto where
  hash := Fixed.copy 32
  mac := fun key message => Fixed.copy macLength (key.bytes ++ message)
  keyStream := fun key _ n => List.replicate n (key.bytes.headD 0)
  sprpEncrypt := fun key _ message => message.map (· ^^^ key.bytes.headD 0)
  sprpDecrypt := fun key _ message => message.map (· ^^^ key.bytes.headD 0)
  expand := fun ikm => ⟨List.replicate 160 (ikm.headD 0), List.length_replicate⟩

theorem byte_cipher_involutive (byte : UInt8) (message : Bytes) :
    (message.map (· ^^^ byte)).map (· ^^^ byte) = message := by
  rw [List.map_map]
  conv => rhs; rw [← List.map_id message]
  apply List.map_congr_left
  intro b _
  change b ^^^ byte ^^^ byte = b
  rw [UInt8.xor_assoc, UInt8.xor_self, UInt8.xor_zero]

theorem byte_crypto_laws : SphinxCryptoLaws byteCrypto where
  keyStream_length _ _ _ := List.length_replicate
  decrypt_encrypt _ _ message := byte_cipher_involutive _ message
  encrypt_length _ _ _ := List.length_map _
  decrypt_length _ _ _ := List.length_map _

def SphinxCrypto.kdf (c : SphinxCrypto) (ikm : Bytes) : PacketKeys :=
  let okm := (c.expand ikm).bytes
  { headerMAC := Fixed.copy 32 (part okm 0 32)
    headerEncryption := Fixed.copy 32 (part okm 32 32)
    headerEncryptionIV := Fixed.copy sprpIVLength (part okm 64 16)
    payloadEncryption := Fixed.copy sprpKeyLength (part okm 80 48)
    blindingSeed := Fixed.copy 32 (part okm 128 32) }

def v0AD : Bytes := [0x00, 0x00]

structure PathStop where
  id : Digest
  commands : List PerHopCommand
deriving DecidableEq

structure HeaderHop extends PathStop where
  element : Bytes
  keys : PacketKeys
deriving DecidableEq

section Sealing

variable (c : SphinxCrypto) (g : Geometry) (slot : Nat)

def riFragment (hop : HeaderHop) (next : Option HeaderHop) (mac : Bytes) : Except SphinxError Bytes :=
  match commandsToBytes g hop.commands next.isNone with
  | .error e => .error e
  | .ok b =>
      match next with
      | none => .ok (b ++ zeros (g.perHopRoutingInfoLength - b.length))
      | some next =>
          let b := b ++ (PerHopCommand.nextNodeHop next.id (Fixed.copy macLength mac)).toBytes
          let b := b ++ zeros (g.perHopRoutingInfoLength - b.length)
          .ok (b.take (g.perHopRoutingInfoLength - slot) ++ copyInto (b.drop (g.perHopRoutingInfoLength - slot)) next.element)

def hopKeyStream (hop : HeaderHop) : Bytes :=
  c.keyStream hop.keys.headerEncryption hop.keys.headerEncryptionIV (g.routingInfoLength + g.perHopRoutingInfoLength)

def ksLen (i : Nat) : Nat := g.routingInfoLength + g.perHopRoutingInfoLength - (i + 1) * g.perHopRoutingInfoLength

-- The loops of createHeader and createKEMHeader from hop i on, given riPadding
-- of the hop before. The padding is computed on the way to the last hop, the
-- routing information and the MAC on the way back.
def sealHops (filler : Bytes) : Nat → Bytes → List HeaderHop → Call SphinxError (Bytes × Bytes)
  | _, _, [] => .returns (filler, [])
  | i, previous, hop :: rest => do
      let keyStream := hopKeyStream c g hop
      let padding := foldPadding previous (keyStream.drop (ksLen g i))
      let (routingInfo, mac) ← sealHops filler (i + 1) padding rest
      match riFragment g slot hop rest.head? mac with
      | .error e => .fails e
      | .ok fragment =>
          let block := fragment ++ routingInfo
          let riKeyStream := keyStream.take (ksLen g i)
          -- xorBytes panics on buffers of different lengths.
          if block.length ≠ riKeyStream.length then .panics
          else
            let routingInfo := xor block riKeyStream
            .returns (routingInfo, (c.mac hop.keys.headerMAC (v0AD ++ hop.element ++ routingInfo ++ previous)).bytes)

def wrapPayload : List PacketKeys → Bytes → Bytes
  | [], b => b
  | keys :: rest, b => c.sprpEncrypt keys.payloadEncryption keys.headerEncryptionIV (wrapPayload rest b)

end Sealing

structure HopResult where
  payload : Option Bytes
  replayTag : Fixed 32
  commands : List PerHopCommand
  pkt : Bytes
deriving DecidableEq

section Unwrapping

variable (c : SphinxCrypto) (g : Geometry) (elementSize slot : Nat)

def checkFront (pkt : Bytes) : Call SphinxError Unit :=
  if pkt.length < g.headerLength then .fails .truncated
  else if pkt.take 2 ≠ v0AD then .fails .unknownVersion
  else .returns ()

def openBlock (keys : PacketKeys) (pkt : Bytes) : Call SphinxError (List PerHopCommand × Bytes × Bytes) :=
  let riOff := 2 + elementSize
  let macOff := riOff + g.routingInfoLength
  if part pkt macOff macLength ≠ (c.mac keys.headerMAC (pkt.take macOff)).bytes then .fails .macMismatch
  else do
    let b := xor (part pkt riOff g.routingInfoLength ++ zeros g.perHopRoutingInfoLength)
      (c.keyStream keys.headerEncryption keys.headerEncryptionIV (g.routingInfoLength + g.perHopRoutingInfoLength))
    let cmds ← parseCommands g (b.take (g.perHopRoutingInfoLength - slot))
    .returns (cmds, part b (g.perHopRoutingInfoLength - slot) slot, b.drop g.perHopRoutingInfoLength)

def finalPayload (cmds : List PerHopCommand) (payload : Bytes) : Call SphinxError Bytes :=
  if payload.length < g.payloadTagLength then .fails .truncatedPayload
  else if cmds.any PerHopCommand.isSURBReply then .returns payload
  else if (payload.take g.payloadTagLength).all (· = 0) then .returns (payload.drop g.payloadTagLength)
  else .fails .invalidTag

def finishUnwrap (keys : PacketKeys) (pkt : Bytes) (replayTag : Fixed 32) (cmds : List PerHopCommand)
    (nextElement : Call SphinxError Bytes) (newRoutingInfo : Bytes) : Call SphinxError HopResult :=
  let riOff := 2 + elementSize
  let macOff := riOff + g.routingInfoLength
  let payloadOff := macOff + macLength
  let payload :=
    if (pkt.drop payloadOff).length > 0 then c.sprpDecrypt keys.payloadEncryption keys.headerEncryptionIV (pkt.drop payloadOff)
    else []
  match nextNode cmds with
  | some (_, mac) => do
      let element ← nextElement
      .returns ⟨none, replayTag, cmds,
        pkt.take 2 ++ (copyInto (part pkt 2 elementSize) element ++ (copyInto (part pkt riOff g.routingInfoLength) newRoutingInfo ++
          (copyInto (part pkt macOff macLength) mac.bytes ++ copyInto (pkt.drop payloadOff) payload)))⟩
  | none => do
      let payload ← finalPayload g cmds payload
      .returns ⟨some payload, replayTag, cmds, pkt⟩

end Unwrapping

def unwrapAll {Key : Type} (unwrap : Key → Bytes → Call SphinxError HopResult) : List Key → Bytes → Call SphinxError (List HopResult)
  | [], _ => .returns []
  | key :: rest, pkt => do
      let result ← unwrap key pkt
      let later ← unwrapAll unwrap rest result.pkt
      .returns (result :: later)

def Delivered (payload : Bytes) (length : Nat) : List PathStop → List HopResult → Prop
  | [stop], [result] => result.commands = stop.commands ∧ result.payload = some payload ∧ result.pkt.length = length
  | stop :: next :: rest, result :: results =>
      (∃ mac, result.commands = stop.commands ++ [.nextNodeHop next.id mac]) ∧ result.payload = none ∧
        result.pkt.length = length ∧ Delivered payload length (next :: rest) results
  | _, _ => False

end Katzenpost
