import Katzenpost.Sphinx.Kem

set_option autoImplicit false

namespace Katzenpost

open Go

def sprpKeyMaterialLength : Nat := sprpKeyLength + sprpIVLength

def keyMaterial (keys : PacketKeys) : Bytes := keys.payloadEncryption.bytes ++ keys.headerEncryptionIV.bytes

theorem key_material_length (keys : PacketKeys) : (keyMaterial keys).length = sprpKeyMaterialLength := by
  rw [keyMaterial, List.length_append, keys.payloadEncryption.size, keys.headerEncryptionIV.size]
  rfl

theorem key_blob_length (keys : List PacketKeys) :
    (keys.flatMap keyMaterial).length = keys.length * sprpKeyMaterialLength := by
  induction keys with
  | nil => rw [List.flatMap_nil, List.length_nil, List.length_nil, Nat.zero_mul]
  | cons first rest ih =>
      rw [List.flatMap_cons, List.length_append, key_material_length, ih, List.length_cons, Nat.succ_mul, Nat.add_comm]

section Surb

variable (s : NikeSphinx)

def NikeSphinx.newNikeSURB (entropy : NikeEntropy s.nike) (keyPayload : Fixed sprpKeyMaterialLength)
    (path : List (PathHop s.nike.PublicKey)) : Call SphinxError (Bytes × Bytes) := do
  let (hdr, sprpKeys) ← s.createHeader entropy path
  match path with
  | [] => .panics
  | first :: _ =>
      .returns (hdr ++ (first.id.bytes ++ keyPayload.bytes), sprpKeys.reverse.flatMap keyMaterial ++ keyPayload.bytes)

def NikeSphinx.newPacketFromSURB (surb payload : Bytes) : Call SphinxError (Bytes × Digest) :=
  let idOff := s.geometry.headerLength
  let keyOff := idOff + nodeIDLength
  let ivOff := keyOff + sprpKeyLength
  if surb.length ≠ s.geometry.surbLength then .fails .truncatedSURB
  else
    let hdr := surb.take s.geometry.headerLength
    let sprpKey := Fixed.copy sprpKeyLength (part surb keyOff sprpKeyLength)
    let sprpIV := Fixed.copy sprpIVLength (surb.drop ivOff)
    let b := zeros s.geometry.payloadTagLength ++ payload
    .returns (hdr ++ copyInto b (s.crypto.sprpEncrypt sprpKey sprpIV b), Digest.copy (part surb idOff nodeIDLength))

-- The loop over the keys that are left: every one but the last undoes the
-- decryption of a mix, the last undoes the encryption of the replier.
def surbLoop (c : SphinxCrypto) : Nat → Bytes → Bytes → Bytes
  | 0, _, b => b
  | left + 1, k, b =>
      let sprpKey := Fixed.copy sprpKeyLength (k.take sprpKeyLength)
      let sprpIV := Fixed.copy sprpIVLength (k.drop sprpKeyLength)
      surbLoop c left (k.drop sprpKeyMaterialLength)
        (if left = 0 then c.sprpDecrypt sprpKey sprpIV b else c.sprpEncrypt sprpKey sprpIV b)

def NikeSphinx.decryptSURBPayload (payload keys : Bytes) : Call SphinxError Bytes :=
  let nrHops := keys.length / sprpKeyMaterialLength
  if keys.length % sprpKeyMaterialLength ≠ 0 ∨ nrHops < 1 then .fails .invalidSURBDecryptionKeys
  else if payload.length < s.geometry.payloadTagLength then .fails .truncatedPayload
  else do
    let b := surbLoop s.crypto nrHops keys payload
    let tag ← slice b 0 s.geometry.payloadTagLength
    if tag.all (· = 0) then .returns (b.drop s.geometry.payloadTagLength) else .fails .invalidTag

end Surb

section Keys

variable (c : SphinxCrypto)

def sprpEncryptWith (keys : PacketKeys) (b : Bytes) : Bytes := c.sprpEncrypt keys.payloadEncryption keys.headerEncryptionIV b

theorem surb_loop_keys (keys : List PacketKeys) (key : Fixed sprpKeyLength) (iv : Fixed sprpIVLength) (b : Bytes) :
    surbLoop c (keys.length + 1) (keys.flatMap keyMaterial ++ (key.bytes ++ iv.bytes)) b =
      c.sprpDecrypt key iv (keys.foldl (fun b keys => sprpEncryptWith c keys b) b) := by
  induction keys generalizing b with
  | nil =>
      change surbLoop c 1 (key.bytes ++ iv.bytes) b = c.sprpDecrypt key iv b
      rw [surbLoop, if_pos rfl, surbLoop, List.take_left' key.size, List.drop_left' key.size, fixed_copy_bytes, fixed_copy_bytes]
  | cons first rest ih =>
      have whole : (first :: rest).flatMap keyMaterial ++ (key.bytes ++ iv.bytes) =
          keyMaterial first ++ (rest.flatMap keyMaterial ++ (key.bytes ++ iv.bytes)) := by
        rw [List.flatMap_cons, List.append_assoc]
      have readKey : Fixed.copy sprpKeyLength ((keyMaterial first ++
          (rest.flatMap keyMaterial ++ (key.bytes ++ iv.bytes))).take sprpKeyLength) = first.payloadEncryption := by
        rw [keyMaterial, List.append_assoc, List.take_left' first.payloadEncryption.size, fixed_copy_bytes]
      have readIV : Fixed.copy sprpIVLength ((keyMaterial first ++
          (rest.flatMap keyMaterial ++ (key.bytes ++ iv.bytes))).drop sprpKeyLength) = first.headerEncryptionIV := by
        rw [keyMaterial, List.append_assoc, List.drop_left' first.payloadEncryption.size, fixed_copy_front]
      rw [List.length_cons, whole, surbLoop, readKey, readIV, if_neg (Nat.succ_ne_zero _),
        List.drop_left' (key_material_length first), ih]
      rfl

theorem encrypt_reverse (keys : List PacketKeys) (b : Bytes) :
    keys.reverse.foldl (fun b keys => sprpEncryptWith c keys b) b = wrapPayload c keys b := by
  rw [List.foldl_reverse]
  induction keys with
  | nil => rfl
  | cons first rest ih =>
      rw [List.foldr_cons, ih]
      rfl

theorem wrap_peeled (inverse : ∀ key iv msg, c.sprpEncrypt key iv (c.sprpDecrypt key iv msg) = msg) (keys : List PacketKeys)
    (b : Bytes) : wrapPayload c keys (peelPayload c keys b) = b := by
  induction keys generalizing b with
  | nil => rfl
  | cons first rest ih => rw [peelPayload, wrapPayload, ih, inverse]

theorem peel_length (laws : SphinxCryptoLaws c) (keys : List PacketKeys) (b : Bytes) :
    (peelPayload c keys b).length = b.length := by
  induction keys generalizing b with
  | nil => rfl
  | cons first rest ih => rw [peelPayload, ih, laws.decrypt_length]

end Keys

theorem surb_replies_serialized (cmds : List PerHopCommand) :
    17 * cmds.countP PerHopCommand.isSURBReply ≤ (serializeCommands cmds).length := by
  induction cmds with
  | nil => exact Nat.le_refl _
  | cons cmd rest ih =>
      have longer : (serializeCommands (cmd :: rest)).length = cmd.body.length + 1 + (serializeCommands rest).length := by
        change (cmd.toBytes ++ serializeCommands rest).length = _
        rw [List.length_append, PerHopCommand.toBytes, List.length_cons]
      have here : 17 * (if cmd.isSURBReply then 1 else 0) ≤ cmd.body.length + 1 := by
        rw [command_body_length]
        cases cmd <;> simp [PerHopCommand.isSURBReply]
      rw [longer, List.countP_cons, Nat.mul_add]
      omega

theorem fits_single (stops : List PathStop) (fits : fitsBlock stops = true)
    (last : ∀ stop ∈ stops.getLast?, stop.commands.countP PerHopCommand.isSURBReply ≤ 1) :
    ∀ stop ∈ stops, stop.commands.countP PerHopCommand.isSURBReply ≤ 1 := by
  induction stops with
  | nil => exact fun stop member => nomatch member
  | cons first rest ih =>
      cases rest with
      | nil =>
          intro stop member
          rw [List.mem_singleton] at member
          subst member
          exact last stop rfl
      | cons next rest =>
          rw [fitsBlock, Bool.and_eq_true, decide_eq_true_eq] at fits
          · rw [List.getLast?_cons_cons] at last
            intro stop member
            cases List.mem_cons.mp member with
            | inl same =>
                have replies := surb_replies_serialized first.commands
                rw [same]
                omega
            | inr later => exact ih fits.2 last stop later
          · intro empty
            cases empty

section RoundTrip

variable (s : NikeSphinx) (nike : NikeLaws s.nike) (crypto : SphinxCryptoLaws s.crypto) (entropy : NikeEntropy s.nike)
  (keyPayload : Fixed sprpKeyMaterialLength) (path : List (PathHop s.nike.PublicKey)) (privKeys : List s.nike.PrivateKey)

def payloadKey : Fixed sprpKeyLength :=
  ⟨keyPayload.bytes.take sprpKeyLength, by rw [List.length_take, keyPayload.size]; rfl⟩

def payloadIV : Fixed sprpIVLength :=
  ⟨keyPayload.bytes.drop sprpKeyLength, by rw [List.length_drop, keyPayload.size]; rfl⟩

theorem payload_key_material : (payloadKey keyPayload).bytes ++ (payloadIV keyPayload).bytes = keyPayload.bytes :=
  List.take_append_drop _ _

theorem new_packet_from_surb (hdr payload : Bytes) (id : Digest) (sized : hdr.length = s.geometry.headerLength) :
    s.newPacketFromSURB (hdr ++ (id.bytes ++ keyPayload.bytes)) payload =
      .returns (hdr ++ copyInto (zeros s.geometry.payloadTagLength ++ payload)
        (s.crypto.sprpEncrypt (payloadKey keyPayload) (payloadIV keyPayload) (zeros s.geometry.payloadTagLength ++ payload)), id) := by
  have whole : (hdr ++ (id.bytes ++ keyPayload.bytes)).length = s.geometry.surbLength := by
    rw [List.length_append, List.length_append, id.size, keyPayload.size, sized, ← Nat.add_assoc]
    rfl
  have front : (hdr ++ id.bytes).length = s.geometry.headerLength + nodeIDLength := by
    rw [List.length_append, sized, id.size]
    rfl
  have key : part (hdr ++ (id.bytes ++ keyPayload.bytes)) (s.geometry.headerLength + nodeIDLength) sprpKeyLength =
      (payloadKey keyPayload).bytes := by
    rw [← payload_key_material keyPayload, ← List.append_assoc]
    exact part_middle _ _ _ _ _ front (Fixed.size _)
  have iv : (hdr ++ (id.bytes ++ keyPayload.bytes)).drop (s.geometry.headerLength + nodeIDLength + sprpKeyLength) =
      (payloadIV keyPayload).bytes := by
    rw [← payload_key_material keyPayload, ← List.append_assoc, ← List.append_assoc]
    apply List.drop_left'
    rw [List.length_append, front, Fixed.size]
  have named : part (hdr ++ (id.bytes ++ keyPayload.bytes)) s.geometry.headerLength nodeIDLength = id.bytes :=
    part_middle _ _ _ _ _ sized id.size
  rw [NikeSphinx.newPacketFromSURB]
  dsimp only
  rw [if_neg (not_not.mpr whole), List.take_left' sized, key, iv, named, fixed_copy_bytes, fixed_copy_bytes, digest_copy_bytes]

theorem surb_keys_length (keys : List PacketKeys) :
    (keys.reverse.flatMap keyMaterial ++ keyPayload.bytes).length = (keys.length + 1) * sprpKeyMaterialLength := by
  rw [List.length_append, key_blob_length, List.length_reverse, keyPayload.size, Nat.succ_mul]

include crypto in
theorem decrypt_surb_payload (inverse : ∀ key iv msg, s.crypto.sprpEncrypt key iv (s.crypto.sprpDecrypt key iv msg) = msg)
    (keys : List PacketKeys) (payload : Bytes) :
    s.decryptSURBPayload
        (peelPayload s.crypto keys (s.crypto.sprpEncrypt (payloadKey keyPayload) (payloadIV keyPayload)
          (zeros s.geometry.payloadTagLength ++ payload)))
        (keys.reverse.flatMap keyMaterial ++ keyPayload.bytes) = .returns payload := by
  have blob := surb_keys_length keyPayload keys
  have count : (keys.length + 1) * sprpKeyMaterialLength / sprpKeyMaterialLength = keys.length + 1 :=
    Nat.mul_div_cancel _ (by decide)
  have whole : ¬ ((keys.length + 1) * sprpKeyMaterialLength % sprpKeyMaterialLength ≠ 0 ∨ keys.length + 1 < 1) := by
    rw [Nat.mul_mod_left]
    omega
  have long : ¬ (zeros s.geometry.payloadTagLength ++ payload).length < s.geometry.payloadTagLength := by
    rw [List.length_append, zeros_length]
    omega
  have undone := surb_loop_keys s.crypto keys.reverse (payloadKey keyPayload) (payloadIV keyPayload)
    (peelPayload s.crypto keys (s.crypto.sprpEncrypt (payloadKey keyPayload) (payloadIV keyPayload)
      (zeros s.geometry.payloadTagLength ++ payload)))
  rw [payload_key_material, List.length_reverse, encrypt_reverse, wrap_peeled s.crypto inverse, crypto.decrypt_encrypt] at undone
  have tagged : (slice (zeros s.geometry.payloadTagLength ++ payload) 0 s.geometry.payloadTagLength : Call SphinxError Bytes) =
      .returns (zeros s.geometry.payloadTagLength) := by
    rw [slice_returns _ _ _ ⟨Nat.zero_le _, Nat.le_of_not_lt long⟩, List.take_left' (zeros_length _), List.drop_zero]
  have blank : (zeros s.geometry.payloadTagLength).all (· = 0) = true := by
    simp [zeros]
  rw [NikeSphinx.decryptSURBPayload]
  dsimp only
  rw [blob, count, if_neg whole, peel_length s.crypto crypto, crypto.encrypt_length, if_neg long, undone, tagged, returns_bind,
    if_pos blank, List.drop_left' (zeros_length _)]

include nike crypto in
/-- A reply of any length finds its way back: the SURB and the keys have their lengths, the packet
starts at the first hop, and what the last hop hands out decrypts to the reply. -/
theorem surb_round_trip (inverse : ∀ key iv msg, s.crypto.sprpEncrypt key iv (s.crypto.sprpDecrypt key iv msg) = msg)
    (nonempty : path ≠ []) (short : path.length ≤ s.nrHops)
    (keyed : path.map PathHop.publicKey = privKeys.map s.nike.derivePublicKey)
    (accepted : accepts s.geometry (path.map PathHop.toPathStop) = true)
    (reply : ∀ last ∈ path.getLast?, last.commands.countP PerHopCommand.isSURBReply = 1) :
    ∃ surb keys, s.newNikeSURB entropy keyPayload path = .returns (surb, keys) ∧ surb.length = s.geometry.surbLength ∧
      keys.length = (path.length + 1) * s.geometry.sprpKeyMaterialLength ∧
      ∀ payload, ∃ pkt first, s.newPacketFromSURB surb payload = .returns (pkt, first.id) ∧ path.head? = some first ∧
        ∃ results terminal, unwrapAll s.unwrapNike privKeys pkt = .returns results ∧
          Delivered terminal pkt.length (path.map PathHop.toPathStop) results ∧
          s.decryptSURBPayload terminal keys = .returns payload := by
  have single : ∀ hop ∈ path, hop.commands.countP PerHopCommand.isSURBReply ≤ 1 := by
    intro hop member
    apply fits_single _ (accepted_fits s _ accepted) _ hop.toPathStop (List.mem_map_of_mem member)
    intro stop last
    rw [List.getLast?_map] at last
    obtain ⟨origin, among, as⟩ := Option.mem_map.mp last
    rw [← as]
    exact Nat.le_of_eq (reply origin among)
  obtain ⟨hdr, keys, created, hdrLength, counted, travels⟩ :=
    header_travels s nike crypto entropy path privKeys nonempty short keyed accepted single
  cases path with
  | nil => exact absurd rfl nonempty
  | cons first rest =>
      refine ⟨hdr ++ (first.id.bytes ++ keyPayload.bytes), keys.reverse.flatMap keyMaterial ++ keyPayload.bytes, ?_, ?_, ?_, ?_⟩
      · rw [NikeSphinx.newNikeSURB, created]
        rfl
      · rw [List.length_append, List.length_append, hdrLength, first.id.size, keyPayload.size, ← Nat.add_assoc]
        rfl
      · rw [surb_keys_length keyPayload keys, counted]
        rfl
      · intro payload
        have encrypted := crypto.encrypt_length (payloadKey keyPayload) (payloadIV keyPayload)
          (zeros s.geometry.payloadTagLength ++ payload)
        have tagged : s.geometry.payloadTagLength ≤ (zeros s.geometry.payloadTagLength ++ payload).length := by
          rw [List.length_append, zeros_length]
          omega
        have loaded : 0 < (s.crypto.sprpEncrypt (payloadKey keyPayload) (payloadIV keyPayload)
            (zeros s.geometry.payloadTagLength ++ payload)).length := by
          rw [(nike_sphinx_layout s).tag] at tagged
          rw [encrypted, (nike_sphinx_layout s).tag]
          omega
        have packet := new_packet_from_surb s keyPayload hdr payload first.id hdrLength
        rw [copy_into_whole _ _ encrypted] at packet
        refine ⟨_, first, packet, rfl, ?_⟩
        obtain ⟨results, passed, delivered⟩ := travels _
          (peelPayload s.crypto keys (s.crypto.sprpEncrypt (payloadKey keyPayload) (payloadIV keyPayload)
            (zeros s.geometry.payloadTagLength ++ payload))) loaded (by
              intro last member
              have replies : last.commands.any PerHopCommand.isSURBReply = true := by
                rw [List.any_eq_true]
                exact List.countP_pos_iff.mp (by rw [reply last member]; exact Nat.one_pos)
              rw [finalPayload, if_neg (by rw [peel_length s.crypto crypto, encrypted]; omega), if_pos replies])
        refine ⟨results, _, passed, ?_, decrypt_surb_payload s crypto keyPayload inverse keys payload⟩
        rw [List.length_append, hdrLength]
        exact delivered

end RoundTrip

def byteReplyRoute : List (PathHop UInt8) :=
  [⟨⟨repeatedID 1, [.nodeDelay 250]⟩, 3⟩, ⟨⟨repeatedID 2, [.recipient (repeatedID 9), .surbReply (Fixed.copy 16 [5])]⟩, 5⟩]

theorem byte_reply_round_trip :
    ∃ surb keys, byteSphinx.newNikeSURB byteEntropy (Fixed.copy 64 [6]) byteReplyRoute = .returns (surb, keys) ∧
      surb.length = byteSphinx.geometry.surbLength ∧ keys.length = 3 * byteSphinx.geometry.sprpKeyMaterialLength ∧
      ∀ payload, ∃ pkt first, byteSphinx.newPacketFromSURB surb payload = .returns (pkt, first.id) ∧
        byteReplyRoute.head? = some first ∧
        ∃ results terminal, unwrapAll byteSphinx.unwrapNike ([3, 5] : List UInt8) pkt = .returns results ∧
          Delivered terminal pkt.length (byteReplyRoute.map PathHop.toPathStop) results ∧
          byteSphinx.decryptSURBPayload terminal keys = .returns payload :=
  surb_round_trip byteSphinx byte_nike_laws byte_crypto_laws byteEntropy (Fixed.copy 64 [6]) byteReplyRoute ([3, 5] : List UInt8)
    (fun _ _ message => byte_cipher_involutive _ message) (List.cons_ne_nil _ _) (by decide) rfl (by decide +kernel)
    (show ∀ last ∈ byteReplyRoute.getLast?, last.commands.countP PerHopCommand.isSURBReply = 1 by decide)

end Katzenpost
