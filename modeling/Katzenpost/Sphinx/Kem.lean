import Katzenpost.Sphinx.Nike

set_option autoImplicit false

namespace Katzenpost

open Go

structure KemScheme where
  PublicKey : Type
  PrivateKey : Type
  Coins : Type
  ciphertextSize : Nat
  derivePublicKey : PrivateKey → PublicKey
  encapsulate : PublicKey → Coins → Option (Bytes × Bytes)
  decapsulate : PrivateKey → Bytes → Option Bytes

structure KemLaws (k : KemScheme) : Prop where
  ciphertext_length : ∀ pub coins ct secret, k.encapsulate pub coins = some (ct, secret) → ct.length = k.ciphertextSize
  decapsulates : ∀ priv coins ct secret, k.encapsulate (k.derivePublicKey priv) coins = some (ct, secret) →
    k.decapsulate priv ct = some secret

structure KemSphinx where
  kem : KemScheme
  crypto : SphinxCrypto
  userForwardPayloadLength : Nat
  withSURB : Bool
  nrHops : Nat

def KemSphinx.geometry (s : KemSphinx) : Geometry :=
  geometryFromUserForwardPayloadLength (.kem s.kem.ciphertextSize) s.userForwardPayloadLength s.withSURB s.nrHops

structure KemEntropy (k : KemScheme) where
  coins : Nat → k.Coins
  filler : (length : Nat) → Fixed length

section Sending

variable (s : KemSphinx)

def KemSphinx.encapsulateHops (entropy : KemEntropy s.kem) : Nat → List (PathHop s.kem.PublicKey) → Call SphinxError (List HeaderHop)
  | _, [] => .returns []
  | i, hop :: rest => do
      let (kemElement, sharedSecret) ← orPanic (s.kem.encapsulate hop.publicKey (entropy.coins i))
      let later ← encapsulateHops entropy (i + 1) rest
      .returns (⟨hop.toPathStop, kemElement, s.crypto.kdf sharedSecret⟩ :: later)

def KemSphinx.createKEMHeader (entropy : KemEntropy s.kem) (path : List (PathHop s.kem.PublicKey)) :
    Call SphinxError (Bytes × List PacketKeys) :=
  let g := s.geometry
  if path.length > g.nrHops then .fails .invalidPath
  else do
    let hops ← s.encapsulateHops entropy 0 path
    match hops with
    | [] => .panics
    | first :: _ => do
        let filler := entropy.filler ((g.nrHops - path.length) * g.perHopRoutingInfoLength)
        let (routingInfo, mac) ← sealHops s.crypto g s.kem.ciphertextSize filler.bytes 0 [] hops
        .returns (v0AD ++ first.element ++ routingInfo ++ mac, hops.map HeaderHop.keys)

def KemSphinx.newKEMPacket (entropy : KemEntropy s.kem) (path : List (PathHop s.kem.PublicKey)) (payload : Bytes) :
    Call SphinxError Bytes :=
  if payload.length ≠ s.geometry.forwardPayloadLength then
    .fails (.invalidPayloadLength payload.length s.geometry.forwardPayloadLength)
  else do
    let (hdr, keys) ← s.createKEMHeader entropy path
    let b := zeros s.geometry.payloadTagLength ++ payload
    .returns (hdr ++ copyInto b (wrapPayload s.crypto keys b))

def KemSphinx.unwrapKem (privKey : s.kem.PrivateKey) (pkt : Bytes) : Call SphinxError HopResult := do
  let g := s.geometry
  checkFront g pkt
  let kemCiphertext := part pkt 2 s.kem.ciphertextSize
  match s.kem.decapsulate privKey kemCiphertext with
  | none => .fails .failedElement
  | some sharedSecret =>
      let keys := s.crypto.kdf sharedSecret
      openBlock s.crypto g s.kem.ciphertextSize s.kem.ciphertextSize keys pkt >>= fun (cmds, ciphertext, newRoutingInfo) =>
        finishUnwrap s.crypto g s.kem.ciphertextSize keys pkt (s.crypto.hash kemCiphertext) cmds (.returns ciphertext)
          newRoutingInfo

end Sending

section Agreement

variable (s : KemSphinx) (laws : KemLaws s.kem) (entropy : KemEntropy s.kem)

theorem kem_sphinx_layout : Layout s.geometry s.kem.ciphertextSize s.kem.ciphertextSize := kem_layout _ _ _ _

include laws in
theorem encapsulated_hops (i : Nat) (path : List (PathHop s.kem.PublicKey)) (privKeys : List s.kem.PrivateKey)
    (hops : List HeaderHop) (keyed : path.map PathHop.publicKey = privKeys.map s.kem.derivePublicKey)
    (made : s.encapsulateHops entropy i path = .returns hops) :
    hops.map HeaderHop.toPathStop = path.map PathHop.toPathStop ∧
      OpensAll s.crypto s.geometry s.kem.ciphertextSize s.kem.ciphertextSize s.unwrapKem hops privKeys := by
  induction path generalizing i privKeys hops with
  | nil =>
      obtain rfl := returns_inj _ _ made
      cases privKeys with
      | nil => exact ⟨rfl, trivial⟩
      | cons privKey privKeys => cases keyed
  | cons hop rest ih =>
      cases privKeys with
      | nil => cases keyed
      | cons privKey privKeys =>
          rw [List.map_cons, List.map_cons, List.cons.injEq] at keyed
          rw [KemSphinx.encapsulateHops] at made
          obtain ⟨⟨ct, secret⟩, drawn, made⟩ := bind_returns _ _ _ made
          obtain ⟨later, deeper, made⟩ := bind_returns _ _ _ made
          obtain rfl := returns_inj _ _ made
          obtain ⟨stops, opens⟩ := ih (i + 1) privKeys later keyed.2 deeper
          have encapsulated : s.kem.encapsulate hop.publicKey (entropy.coins i) = some (ct, secret) := by
            cases found : s.kem.encapsulate hop.publicKey (entropy.coins i) with
            | none => rw [found] at drawn; exact absurd drawn (panics_ne_returns _)
            | some pair => rw [found] at drawn; rw [returns_inj _ _ drawn]
          rw [keyed.1] at encapsulated
          refine ⟨by rw [List.map_cons, List.map_cons, stops], ⟨laws.ciphertext_length _ _ _ _ encapsulated, .returns, ?_, ?_⟩, opens⟩
          · intro pkt long version found
            refine ⟨s.crypto.hash ct, ?_⟩
            have front : checkFront s.geometry pkt = .returns () := by
              rw [checkFront, if_neg (Nat.not_lt.mpr long), if_neg (not_not.mpr version)]
            rw [KemSphinx.unwrapKem]
            dsimp only
            rw [front, returns_bind, found]
            dsimp only
            rw [laws.decapsulates _ _ _ _ encapsulated]
          · intro next member
            have sized : next.element.length = s.kem.ciphertextSize := by
              cases later with
              | nil => cases member
              | cons second later =>
                  cases member
                  cases privKeys with
                  | nil => exact opens.elim
                  | cons other privKeys => exact opens.1.sized
            rw [← sized, List.take_length]

theorem unwrap_kem_reads (privKey : s.kem.PrivateKey) (pkt : Bytes) (result : HopResult)
    (unwrapped : s.unwrapKem privKey pkt = .returns result) : (serializeCommands result.commands).length ≤ 82 := by
  have layout := kem_sphinx_layout s
  rw [KemSphinx.unwrapKem] at unwrapped
  obtain ⟨_, _, unwrapped⟩ := bind_returns _ _ _ unwrapped
  dsimp only at unwrapped
  split at unwrapped
  · exact absurd unwrapped (fails_ne_returns _ _)
  · obtain ⟨⟨cmds, ciphertext, newRoutingInfo⟩, opened, unwrapped⟩ := bind_returns _ _ _ unwrapped
    have kept : result.commands = cmds := by
      rw [finishUnwrap] at unwrapped
      dsimp only at unwrapped
      split at unwrapped
      · obtain ⟨_, _, unwrapped⟩ := bind_returns _ _ _ unwrapped
        rw [← returns_inj _ _ unwrapped]
      · obtain ⟨_, _, unwrapped⟩ := bind_returns _ _ _ unwrapped
        rw [← returns_inj _ _ unwrapped]
    rw [kept]
    rw [openBlock] at opened
    dsimp only at opened
    split at opened
    · exact absurd opened (fails_ne_returns _ _)
    · obtain ⟨parsed, read, opened⟩ := bind_returns _ _ _ opened
      obtain ⟨rfl, _⟩ := Prod.mk.inj (returns_inj _ _ opened)
      have within := parse_commands_length s.geometry layout.nextNode parsed _ read
      rw [List.length_take, layout.perHop] at within
      omega

theorem delivered_fits (payload : Bytes) (length : Nat) (stops : List PathStop) (privKeys : List s.kem.PrivateKey) (pkt : Bytes)
    (results : List HopResult) (passed : unwrapAll s.unwrapKem privKeys pkt = .returns results)
    (delivered : Delivered payload length stops results) : fitsBlock stops = true := by
  induction stops generalizing privKeys pkt results with
  | nil => rfl
  | cons stop rest ih =>
      cases results with
      | nil => cases rest <;> exact delivered.elim
      | cons result results =>
          cases privKeys with
          | nil => cases returns_inj _ _ passed
          | cons privKey privKeys =>
              rw [unwrapAll] at passed
              obtain ⟨first, unwrapped, passed⟩ := bind_returns _ _ _ passed
              obtain ⟨later, others, passed⟩ := bind_returns _ _ _ passed
              obtain ⟨rfl, rfl⟩ := List.cons.inj (returns_inj _ _ passed)
              have read := unwrap_kem_reads s privKey pkt first unwrapped
              cases rest with
              | nil =>
                  cases later with
                  | nil =>
                      rw [delivered.1] at read
                      exact decide_eq_true read
                  | cons other later => exact delivered.elim
              | cons next rest =>
                  obtain ⟨⟨mac, commands⟩, _, _, onward⟩ := delivered
                  rw [commands, serialize_append, serialize_single, List.length_append, PerHopCommand.toBytes, List.length_cons,
                    command_body_length] at read
                  dsimp only at read
                  rw [fitsBlock, Bool.and_eq_true]
                  · exact ⟨decide_eq_true (by omega), ih privKeys first.pkt later others onward⟩
                  · intro empty
                    cases empty

end Agreement

section RoundTrip

variable (s : KemSphinx) (kem : KemLaws s.kem) (crypto : SphinxCryptoLaws s.crypto) (entropy : KemEntropy s.kem)
  (path : List (PathHop s.kem.PublicKey)) (privKeys : List s.kem.PrivateKey)

theorem new_kem_packet_returns (payload pkt : Bytes) (made : s.newKEMPacket entropy path payload = .returns pkt) :
    ∃ hops first rest info mac, payload.length = s.geometry.forwardPayloadLength ∧ path.length ≤ s.geometry.nrHops ∧
      s.encapsulateHops entropy 0 path = .returns hops ∧ hops = first :: rest ∧
      sealHops s.crypto s.geometry s.kem.ciphertextSize
        (entropy.filler ((s.geometry.nrHops - path.length) * s.geometry.perHopRoutingInfoLength)).bytes 0 [] hops =
          .returns (info, mac) ∧
      pkt = v0AD ++ first.element ++ info ++ mac ++ copyInto (zeros s.geometry.payloadTagLength ++ payload)
        (wrapPayload s.crypto (hops.map HeaderHop.keys) (zeros s.geometry.payloadTagLength ++ payload)) := by
  rw [KemSphinx.newKEMPacket] at made
  split at made
  · exact absurd made (fails_ne_returns _ _)
  · rename_i sized
    obtain ⟨⟨hdr, keys⟩, created, made⟩ := bind_returns _ _ _ made
    rw [KemSphinx.createKEMHeader] at created
    dsimp only at created
    split at created
    · exact absurd created (fails_ne_returns _ _)
    · rename_i inside
      obtain ⟨hops, encapsulated, created⟩ := bind_returns _ _ _ created
      cases hops with
      | nil => exact absurd created (panics_ne_returns _)
      | cons first rest =>
          obtain ⟨⟨info, mac⟩, sealed, created⟩ := bind_returns _ _ _ created
          obtain ⟨rfl, rfl⟩ := Prod.mk.inj (returns_inj _ _ created)
          exact ⟨first :: rest, first, rest, info, mac, not_not.mp sized, Nat.le_of_not_lt inside, encapsulated, rfl, sealed,
            (returns_inj _ _ made).symm⟩

include kem crypto in
/-- A created packet passes all hops and delivers exactly if the commands of each end before the
ciphertext slot of its block. -/
theorem kem_forward_round_trip_iff (payload pkt : Bytes)
    (keyed : path.map PathHop.publicKey = privKeys.map s.kem.derivePublicKey)
    (single : ∀ hop ∈ path, hop.commands.countP PerHopCommand.isSURBReply ≤ 1)
    (forward : ∀ last ∈ path.getLast?, last.commands.any PerHopCommand.isSURBReply = false)
    (made : s.newKEMPacket entropy path payload = .returns pkt) :
    (∃ results, unwrapAll s.unwrapKem privKeys pkt = .returns results ∧
      Delivered payload s.geometry.packetLength (path.map PathHop.toPathStop) results) ↔
        fitsBlock (path.map PathHop.toPathStop) = true := by
  constructor
  · intro ⟨results, passed, delivered⟩
    exact delivered_fits s payload _ _ privKeys pkt results passed delivered
  · intro fits
    have layout := kem_sphinx_layout s
    obtain ⟨_, first, rest, info, mac, sized, inside, encapsulated, rfl, sealed, rfl⟩ :=
      new_kem_packet_returns s entropy path payload pkt made
    obtain ⟨stops, opens⟩ := encapsulated_hops s kem entropy 0 path privKeys _ keyed encapsulated
    have bodyLength := wrap_length s.crypto crypto ((first :: rest).map HeaderHop.keys) (zeros s.geometry.payloadTagLength ++ payload)
    have whole : s.geometry.packetLength = s.geometry.headerLength + (wrapPayload s.crypto ((first :: rest).map HeaderHop.keys)
        (zeros s.geometry.payloadTagLength ++ payload)).length := by
      rw [bodyLength, List.length_append, zeros_length, sized, ← Nat.add_assoc]
      rfl
    have onward : ∀ body, v0AD ++ first.element ++ info ++ mac ++ body = travelling first.element info [] mac body := by
      intro body
      simp only [travelling, List.append_assoc, List.nil_append]
    have counted := congrArg List.length stops
    rw [List.length_map, List.length_map, List.length_cons] at counted
    rw [whole, ← stops, copy_into_whole _ _ bodyLength, onward]
    refine journey s.crypto crypto s.geometry _ _ layout _ s.unwrapKem 0 [] info mac _ payload first rest privKeys ?_ ?_
      (Nat.le_refl _) (Nat.zero_mul _).symm opens ?_ ?_ sealed ?_ ?_
    · rw [Nat.zero_add, counted]
      exact inside
    · have add := ks_len_add _ _ _ layout path.length inside
      rw [layout.routingInfo] at add
      rw [Fixed.size, Nat.sub_mul, Nat.mul_comm s.geometry.nrHops, ← add, Nat.add_sub_cancel, counted, Nat.zero_add]
    · rw [stops]
      exact fits
    · intro hop member
      have listed : hop.toPathStop ∈ path.map PathHop.toPathStop := stops ▸ List.mem_map_of_mem member
      obtain ⟨origin, among, as⟩ := List.mem_map.mp listed
      rw [← as]
      exact single origin among
    · rw [bodyLength, List.length_append, zeros_length, layout.tag]
      omega
    · intro last member
      have listed : last.toPathStop ∈ (path.map PathHop.toPathStop).getLast? := by
        rw [← stops, List.getLast?_map]
        exact Option.mem_map_of_mem _ member
      rw [List.getLast?_map] at listed
      obtain ⟨origin, among, as⟩ := Option.mem_map.mp listed
      rw [← as, peel_wrapped s.crypto crypto]
      exact final_payload_tagged s.geometry origin.commands payload (forward origin among)

end RoundTrip

def byteKem : KemScheme where
  PublicKey := UInt8
  PrivateKey := UInt8
  Coins := UInt8
  ciphertextSize := 20
  derivePublicKey := id
  encapsulate := fun pub coins => some (List.replicate 20 (pub + coins), [coins])
  decapsulate := fun priv ct => some [ct.headD 0 - priv]

theorem byte_kem_laws : KemLaws byteKem where
  ciphertext_length _ _ ct secret made := by
    obtain ⟨rfl, _⟩ := Prod.mk.inj (Option.some.inj made)
    exact List.length_replicate
  decapsulates (priv coins : UInt8) ct secret made := by
    obtain ⟨rfl, rfl⟩ := Prod.mk.inj (Option.some.inj made)
    change some [priv + coins - priv] = some [coins]
    rw [UInt8.add_comm, UInt8.add_sub_cancel]

def byteKemSphinx : KemSphinx := ⟨byteKem, byteCrypto, 4, false, 2⟩

def byteKemEntropy : KemEntropy byteKem :=
  ⟨fun i => (UInt8.ofNat i : UInt8), byteEntropy.filler⟩

def kemPacket (path : List (PathHop UInt8)) : Bytes :=
  match byteKemSphinx.newKEMPacket byteKemEntropy path [1, 2, 3, 4] with
  | some (.ok pkt) => pkt
  | _ => []

theorem byte_kem_round_trip_iff :
    ∃ pkt, byteKemSphinx.newKEMPacket byteKemEntropy byteRoute [1, 2, 3, 4] = .returns pkt ∧
      ((∃ results, unwrapAll byteKemSphinx.unwrapKem ([3, 5] : List UInt8) pkt = .returns results ∧
        Delivered [1, 2, 3, 4] byteKemSphinx.geometry.packetLength (byteRoute.map PathHop.toPathStop) results) ↔
          fitsBlock (byteRoute.map PathHop.toPathStop) = true) :=
  have made : byteKemSphinx.newKEMPacket byteKemEntropy byteRoute [1, 2, 3, 4] = .returns (kemPacket byteRoute) := by
    decide +kernel
  ⟨_, made, kem_forward_round_trip_iff byteKemSphinx byte_kem_laws byte_crypto_laws byteKemEntropy byteRoute ([3, 5] : List UInt8)
    [1, 2, 3, 4] _ rfl (show ∀ hop ∈ byteRoute, hop.commands.countP PerHopCommand.isSURBReply ≤ 1 by decide)
    (show ∀ last ∈ byteRoute.getLast?, last.commands.any PerHopCommand.isSURBReply = false by decide) made⟩

def crowdedRoute : List (PathHop UInt8) :=
  [⟨⟨repeatedID 1, [.recipient (repeatedID 2), .recipient (repeatedID 3), .recipient (repeatedID 4)]⟩, 3⟩]

/-- Three recipients are accepted for the only hop, but their bytes reach into the slot. -/
theorem crowded_route_is_lost :
    ∃ pkt, byteKemSphinx.newKEMPacket byteKemEntropy crowdedRoute [1, 2, 3, 4] = .returns pkt ∧
      unwrapAll byteKemSphinx.unwrapKem ([3] : List UInt8) pkt = .fails .invalidCommand :=
  ⟨kemPacket crowdedRoute, by decide +kernel, by decide +kernel⟩

end Katzenpost
