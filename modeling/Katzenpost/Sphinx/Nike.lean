import Katzenpost.Sphinx.Journey

set_option autoImplicit false

namespace Katzenpost

open Go

structure NikeScheme where
  PublicKey : Type
  PrivateKey : Type
  publicKeySize : Nat
  derivePublicKey : PrivateKey → PublicKey
  bytes : PublicKey → Bytes
  unmarshalBinaryPublicKey : Bytes → Option PublicKey
  fromBytes : Bytes → Option PublicKey
  deriveSecret : PrivateKey → PublicKey → Bytes
  blind : PublicKey → PrivateKey → PublicKey
  publicKeyBlind : PublicKey → PrivateKey → Option PublicKey
  generatePrivateKey : Fixed 32 → PrivateKey

structure NikeLaws (n : NikeScheme) : Prop where
  bytes_length : ∀ pub, (n.bytes pub).length = n.publicKeySize
  unmarshal_bytes : ∀ pub, n.unmarshalBinaryPublicKey (n.bytes pub) = some pub
  method_blinds : ∀ pub factor, n.publicKeyBlind pub factor = some (n.blind pub factor)
  symmetric : ∀ a b, n.deriveSecret a (n.derivePublicKey b) = n.deriveSecret b (n.derivePublicKey a)
  secret_element : ∀ priv pub factor, ∃ element, n.fromBytes (n.deriveSecret priv pub) = some element ∧
    n.bytes (n.blind element factor) = n.deriveSecret priv (n.blind pub factor)

def byteNike : NikeScheme where
  PublicKey := UInt8
  PrivateKey := UInt8
  publicKeySize := 1
  derivePublicKey := id
  bytes := fun pub => [pub]
  unmarshalBinaryPublicKey := List.head?
  fromBytes := List.head?
  deriveSecret := fun priv pub => [priv + pub]
  blind := fun pub factor => pub + factor
  publicKeyBlind := fun pub factor => some (pub + factor)
  generatePrivateKey := fun seed => seed.bytes.headD 0

theorem byte_nike_laws : NikeLaws byteNike where
  bytes_length _ := rfl
  unmarshal_bytes _ := rfl
  method_blinds _ _ := rfl
  symmetric (a b : UInt8) := congrArg (fun byte : UInt8 => [byte]) (UInt8.add_comm a b)
  secret_element (priv pub factor : UInt8) := ⟨priv + pub, rfl, congrArg (fun byte : UInt8 => [byte]) (UInt8.add_assoc priv pub factor)⟩

structure PathHop (Key : Type) extends PathStop where
  publicKey : Key

structure NikeSphinx where
  nike : NikeScheme
  crypto : SphinxCrypto
  userForwardPayloadLength : Nat
  withSURB : Bool
  nrHops : Nat

def NikeSphinx.geometry (s : NikeSphinx) : Geometry :=
  geometryFromUserForwardPayloadLength (.nike s.nike.publicKeySize) s.userForwardPayloadLength s.withSURB s.nrHops

structure NikeEntropy (n : NikeScheme) where
  client : n.PrivateKey
  filler : (length : Nat) → Fixed length

def orPanic {α : Type} : Option α → Call SphinxError α
  | none => .panics
  | some a => .returns a

section Sending

variable (s : NikeSphinx)

def NikeSphinx.blindingFactor (keys : PacketKeys) : s.nike.PrivateKey := s.nike.generatePrivateKey keys.blindingSeed

def NikeSphinx.blindSecret : Bytes → List PacketKeys → Call SphinxError Bytes
  | sharedSecret, [] => .returns sharedSecret
  | sharedSecret, keys :: rest => do
      let pubkey ← orPanic (s.nike.fromBytes sharedSecret)
      blindSecret (s.nike.bytes (s.nike.blind pubkey (s.blindingFactor keys))) rest

def NikeSphinx.blindClient (clientPublicKey : s.nike.PublicKey) (earlier : List PacketKeys) :
    Call SphinxError s.nike.PublicKey :=
  match earlier.getLast? with
  | none => .returns clientPublicKey
  | some last => orPanic (s.nike.publicKeyBlind clientPublicKey (s.blindingFactor last))

def NikeSphinx.deriveHops (client : s.nike.PrivateKey) :
    s.nike.PublicKey → List PacketKeys → List (PathHop s.nike.PublicKey) → Call SphinxError (List HeaderHop)
  | _, _, [] => .returns []
  | clientPublicKey, earlier, hop :: rest => do
      let sharedSecret ← s.blindSecret (s.nike.deriveSecret client hop.publicKey) earlier
      let keys := s.crypto.kdf sharedSecret
      let clientPublicKey ← s.blindClient clientPublicKey earlier
      let groupElement ← orPanic (s.nike.unmarshalBinaryPublicKey (s.nike.bytes clientPublicKey))
      let later ← deriveHops client clientPublicKey (earlier ++ [keys]) rest
      .returns (⟨hop.toPathStop, s.nike.bytes groupElement, keys⟩ :: later)

-- createHeader, with the packet keys in place of the SPRP keys, which are two
-- fields of them.
def NikeSphinx.createHeader (entropy : NikeEntropy s.nike) (path : List (PathHop s.nike.PublicKey)) :
    Call SphinxError (Bytes × List PacketKeys) :=
  let g := s.geometry
  if path.length > g.nrHops then .fails .invalidPath
  else do
    let hops ← s.deriveHops entropy.client (s.nike.derivePublicKey entropy.client) [] path
    match hops with
    | [] => .panics
    | first :: _ => do
        let filler := entropy.filler ((g.nrHops - path.length) * g.perHopRoutingInfoLength)
        let (routingInfo, mac) ← sealHops s.crypto g 0 filler.bytes 0 [] hops
        .returns (v0AD ++ first.element ++ routingInfo ++ mac, hops.map HeaderHop.keys)

def NikeSphinx.newNikePacket (entropy : NikeEntropy s.nike) (path : List (PathHop s.nike.PublicKey)) (payload : Bytes) :
    Call SphinxError Bytes :=
  if payload.length ≠ s.geometry.forwardPayloadLength then
    .fails (.invalidPayloadLength payload.length s.geometry.forwardPayloadLength)
  else do
    let (hdr, keys) ← s.createHeader entropy path
    let b := zeros s.geometry.payloadTagLength ++ payload
    .returns (hdr ++ copyInto b (wrapPayload s.crypto keys b))

def NikeSphinx.unwrapNike (privKey : s.nike.PrivateKey) (pkt : Bytes) : Call SphinxError HopResult := do
  let g := s.geometry
  checkFront g pkt
  match s.nike.unmarshalBinaryPublicKey (part pkt 2 s.nike.publicKeySize) with
  | none => .fails .failedElement
  | some groupElement =>
      let keys := s.crypto.kdf (s.nike.deriveSecret privKey groupElement)
      openBlock s.crypto g s.nike.publicKeySize 0 keys pkt >>= fun (cmds, _, newRoutingInfo) =>
        finishUnwrap s.crypto g s.nike.publicKeySize keys pkt (s.crypto.hash (s.nike.bytes groupElement)) cmds
          (orPanic (s.nike.publicKeyBlind groupElement (s.blindingFactor keys)) >>= fun blinded => .returns (s.nike.bytes blinded))
          newRoutingInfo

end Sending

section Agreement

variable (s : NikeSphinx) (laws : NikeLaws s.nike)

def NikeSphinx.agreedHops : s.nike.PublicKey → List (PathHop s.nike.PublicKey) → List s.nike.PrivateKey → List HeaderHop
  | element, hop :: path, privKey :: privKeys =>
      let keys := s.crypto.kdf (s.nike.deriveSecret privKey element)
      ⟨hop.toPathStop, s.nike.bytes element, keys⟩ :: agreedHops (s.nike.blind element (s.blindingFactor keys)) path privKeys
  | _, _, _ => []

def NikeSphinx.blindAll (element : s.nike.PublicKey) (earlier : List PacketKeys) : s.nike.PublicKey :=
  earlier.foldl (fun element keys => s.nike.blind element (s.blindingFactor keys)) element

include laws in
theorem blind_secret_agrees (privKey : s.nike.PrivateKey) (element : s.nike.PublicKey) (earlier : List PacketKeys) :
    s.blindSecret (s.nike.deriveSecret privKey element) earlier =
      .returns (s.nike.deriveSecret privKey (s.blindAll element earlier)) := by
  induction earlier generalizing element with
  | nil => rfl
  | cons keys rest ih =>
      obtain ⟨parsed, read, blinded⟩ := laws.secret_element privKey element (s.blindingFactor keys)
      rw [NikeSphinx.blindSecret, read, orPanic, returns_bind, blinded, ih]
      rfl

include laws in
theorem derive_hops_agreed (client : s.nike.PrivateKey) (current : s.nike.PublicKey) (earlier : List PacketKeys)
    (path : List (PathHop s.nike.PublicKey)) (privKeys : List s.nike.PrivateKey)
    (keyed : path.map PathHop.publicKey = privKeys.map s.nike.derivePublicKey)
    (blinded : s.blindClient current earlier = .returns (s.blindAll (s.nike.derivePublicKey client) earlier)) :
    s.deriveHops client current earlier path =
      .returns (s.agreedHops (s.blindAll (s.nike.derivePublicKey client) earlier) path privKeys) := by
  induction path generalizing current earlier privKeys with
  | nil => rfl
  | cons hop rest ih =>
      cases privKeys with
      | nil => cases keyed
      | cons privKey privKeys =>
          rw [List.map_cons, List.map_cons, List.cons.injEq] at keyed
          have secret : s.blindSecret (s.nike.deriveSecret client hop.publicKey) earlier =
              .returns (s.nike.deriveSecret privKey (s.blindAll (s.nike.derivePublicKey client) earlier)) := by
            rw [keyed.1, laws.symmetric]
            exact blind_secret_agrees s laws privKey _ earlier
          rw [NikeSphinx.deriveHops, secret, returns_bind]
          dsimp only
          rw [blinded, returns_bind, laws.unmarshal_bytes, orPanic, returns_bind]
          have next := ih (s.blindAll (s.nike.derivePublicKey client) earlier)
            (earlier ++ [s.crypto.kdf (s.nike.deriveSecret privKey (s.blindAll (s.nike.derivePublicKey client) earlier))]) privKeys
            keyed.2 (by
              rw [NikeSphinx.blindClient, List.getLast?_concat]
              dsimp only
              rw [laws.method_blinds, NikeSphinx.blindAll, NikeSphinx.blindAll, List.foldl_append]
              rfl)
          rw [next, returns_bind, NikeSphinx.agreedHops, NikeSphinx.blindAll, NikeSphinx.blindAll, List.foldl_append]
          rfl

theorem agreed_stops (element : s.nike.PublicKey) (path : List (PathHop s.nike.PublicKey)) (privKeys : List s.nike.PrivateKey)
    (same : path.length = privKeys.length) :
    (s.agreedHops element path privKeys).map HeaderHop.toPathStop = path.map PathHop.toPathStop := by
  induction path generalizing element privKeys with
  | nil => rfl
  | cons hop rest ih =>
      cases privKeys with
      | nil => cases same
      | cons privKey privKeys =>
          rw [NikeSphinx.agreedHops, List.map_cons, List.map_cons, ih _ privKeys (Nat.succ.inj same)]

include laws in
theorem agreed_open (element : s.nike.PublicKey) (path : List (PathHop s.nike.PublicKey)) (privKeys : List s.nike.PrivateKey)
    (same : path.length = privKeys.length) :
    OpensAll s.crypto s.geometry s.nike.publicKeySize 0 s.unwrapNike (s.agreedHops element path privKeys) privKeys := by
  induction path generalizing element privKeys with
  | nil =>
      cases privKeys with
      | nil => exact trivial
      | cons privKey privKeys => cases same
  | cons hop rest ih =>
      cases privKeys with
      | nil => cases same
      | cons privKey privKeys =>
          refine ⟨⟨laws.bytes_length element, fun _ => .returns (s.nike.bytes (s.nike.blind element
            (s.blindingFactor (s.crypto.kdf (s.nike.deriveSecret privKey element))))), ?_, ?_⟩, ih _ privKeys (Nat.succ.inj same)⟩
          · intro pkt long version found
            refine ⟨s.crypto.hash (s.nike.bytes element), ?_⟩
            have front : checkFront s.geometry pkt = .returns () := by
              rw [checkFront, if_neg (Nat.not_lt.mpr long), if_neg (not_not.mpr version)]
            rw [NikeSphinx.unwrapNike]
            dsimp only
            rw [front, returns_bind, found, laws.unmarshal_bytes]
            dsimp only
            rw [laws.method_blinds]
            rfl
          · -- The next hop's element is this one, blinded.
            intro next member
            cases rest with
            | nil => cases member
            | cons second rest =>
                cases privKeys with
                | nil => cases same
                | cons other privKeys =>
                    cases member
                    rfl

end Agreement

section RoundTrip

variable (s : NikeSphinx) (nike : NikeLaws s.nike) (crypto : SphinxCryptoLaws s.crypto) (entropy : NikeEntropy s.nike)
  (path : List (PathHop s.nike.PublicKey)) (privKeys : List s.nike.PrivateKey)

theorem nike_sphinx_layout : Layout s.geometry s.nike.publicKeySize 0 := nike_layout _ _ _ _

theorem accepted_fits (stops : List PathStop) (accepted : accepts s.geometry stops = true) : fitsBlock stops = true := by
  have layout := nike_sphinx_layout s
  induction stops with
  | nil => rfl
  | cons stop rest ih =>
      rw [accepts, Bool.and_eq_true] at accepted
      cases serialized : commandsToBytes s.geometry stop.commands rest.isEmpty with
      | error e => simp [serialized, Except.isOk, Except.toBool] at accepted
      | ok b =>
          obtain ⟨_, rfl, short, room⟩ := commands_to_bytes_ok _ _ _ b serialized
          rw [layout.perHop] at short room
          rw [layout.nextNode] at room
          cases rest with
          | nil => exact decide_eq_true short
          | cons next rest =>
              have fits := room rfl
              rw [fitsBlock, Bool.and_eq_true]
              · exact ⟨decide_eq_true (by omega), ih accepted.2⟩
              · intro empty
                cases empty

include nike crypto in
theorem create_header_returns (nonempty : path ≠ []) (short : path.length ≤ s.nrHops)
    (keyed : path.map PathHop.publicKey = privKeys.map s.nike.derivePublicKey)
    (accepted : accepts s.geometry (path.map PathHop.toPathStop) = true) :
    ∃ filler first rest info mac, filler.length = ksLen s.geometry (rest.length + 1) ∧
      s.agreedHops (s.nike.derivePublicKey entropy.client) path privKeys = first :: rest ∧ rest.length + 1 = path.length ∧
      sealHops s.crypto s.geometry 0 filler 0 [] (first :: rest) = .returns (info, mac) ∧
      s.createHeader entropy path = .returns (v0AD ++ first.element ++ info ++ mac, (first :: rest).map HeaderHop.keys) := by
  have layout := nike_sphinx_layout s
  have same : path.length = privKeys.length := by
    have lengths := congrArg List.length keyed
    rwa [List.length_map, List.length_map] at lengths
  have derived : s.deriveHops entropy.client (s.nike.derivePublicKey entropy.client) [] path =
      .returns (s.agreedHops (s.nike.derivePublicKey entropy.client) path privKeys) :=
    derive_hops_agreed s nike entropy.client _ [] path privKeys keyed rfl
  have stops := agreed_stops s (s.nike.derivePublicKey entropy.client) path privKeys same
  have counted := congrArg List.length stops
  rw [List.length_map, List.length_map] at counted
  cases agreed : s.agreedHops (s.nike.derivePublicKey entropy.client) path privKeys with
  | nil =>
      rw [agreed] at counted
      exact absurd (List.length_eq_zero_iff.mp counted.symm) nonempty
  | cons first rest =>
      rw [agreed] at derived stops counted
      have inside : path.length ≤ s.geometry.nrHops := short
      have filled : (entropy.filler ((s.geometry.nrHops - path.length) * s.geometry.perHopRoutingInfoLength)).bytes.length =
          ksLen s.geometry (rest.length + 1) := by
        have add := ks_len_add _ _ _ layout path.length inside
        rw [layout.routingInfo] at add
        rw [Fixed.size, Nat.sub_mul, Nat.mul_comm s.geometry.nrHops, ← add, Nat.add_sub_cancel, ← counted]
        rfl
      obtain ⟨info, mac, made⟩ := seal_hops_returns s.crypto crypto s.geometry _ 0 layout _ 0 [] (first :: rest)
        (by rw [counted, Nat.zero_add]; exact inside) (by rw [filled, List.length_cons, Nat.zero_add]) (fun _ _ => Nat.zero_le _)
        (by rw [stops]; exact accepted)
      refine ⟨_, first, rest, info, mac, filled, rfl, counted, made, ?_⟩
      rw [NikeSphinx.createHeader]
      dsimp only
      rw [if_neg (Nat.not_lt.mpr inside), derived, returns_bind]
      dsimp only
      rw [made]
      rfl

include nike crypto in
theorem header_travels (nonempty : path ≠ []) (short : path.length ≤ s.nrHops)
    (keyed : path.map PathHop.publicKey = privKeys.map s.nike.derivePublicKey)
    (accepted : accepts s.geometry (path.map PathHop.toPathStop) = true)
    (single : ∀ hop ∈ path, hop.commands.countP PerHopCommand.isSURBReply ≤ 1) :
    ∃ hdr keys, s.createHeader entropy path = .returns (hdr, keys) ∧ hdr.length = s.geometry.headerLength ∧
      keys.length = path.length ∧ ∀ body payload, 0 < body.length →
        (∀ last ∈ path.getLast?, finalPayload s.geometry last.commands (peelPayload s.crypto keys body) = .returns payload) →
        ∃ results, unwrapAll s.unwrapNike privKeys (hdr ++ body) = .returns results ∧
          Delivered payload (s.geometry.headerLength + body.length) (path.map PathHop.toPathStop) results := by
  have layout := nike_sphinx_layout s
  obtain ⟨filler, first, rest, info, mac, filled, agreed, counted, made, created⟩ :=
    create_header_returns s nike crypto entropy path privKeys nonempty short keyed accepted
  have same : path.length = privKeys.length := by
    have lengths := congrArg List.length keyed
    rwa [List.length_map, List.length_map] at lengths
  have stops := agreed_stops s (s.nike.derivePublicKey entropy.client) path privKeys same
  have opens := agreed_open s nike (s.nike.derivePublicKey entropy.client) path privKeys same
  rw [agreed] at stops opens
  have inside : 0 + (rest.length + 1) ≤ s.geometry.nrHops := by
    rw [Nat.zero_add, counted]
    exact short
  have start : filler.length = ksLen s.geometry (0 + (rest.length + 1)) := by
    rw [Nat.zero_add]
    exact filled
  have onward : ∀ body, v0AD ++ first.element ++ info ++ mac ++ body = travelling first.element info [] mac body := by
    intro body
    simp only [travelling, List.append_assoc, List.nil_append]
  have sized : first.element.length = s.nike.publicKeySize := by
    cases privKeys with
    | nil => exact opens.elim
    | cons privKey privKeys => exact opens.1.sized
  obtain ⟨_, _, _, _, _, _, infoWhole, _⟩ := open_sealed s.crypto crypto s.geometry _ 0 layout filler 0 [] info mac [] first rest
    inside start sized (fun _ _ => Nat.zero_le _) (Nat.zero_mul _).symm made
  obtain ⟨_, _, _, _, _, _, _, maced⟩ := seal_hops_cons s.crypto s.geometry 0 filler 0 [] info mac first rest made
  refine ⟨_, _, created, ?_, ?_, ?_⟩
  · have whole := travelling_length first.element info [] mac [] _ _ sized infoWhole (by rw [maced]; exact Fixed.size _)
    rw [← onward, List.append_nil] at whole
    rw [whole, layout.header]
    rfl
  · rw [List.length_map, List.length_cons, counted]
  · intro body payload loaded final
    rw [onward body, ← stops]
    refine journey s.crypto crypto s.geometry _ 0 layout filler s.unwrapNike 0 [] info mac body payload first rest privKeys inside
      start (Nat.zero_le _) (Nat.zero_mul _).symm opens ?_ ?_ made loaded ?_
    · rw [stops]
      exact accepted_fits s _ accepted
    · intro hop member
      have listed : hop.toPathStop ∈ path.map PathHop.toPathStop := stops ▸ List.mem_map_of_mem member
      obtain ⟨origin, among, as⟩ := List.mem_map.mp listed
      rw [← as]
      exact single origin among
    · intro last member
      have listed : last.toPathStop ∈ (path.map PathHop.toPathStop).getLast? := by
        rw [← stops, List.getLast?_map]
        exact Option.mem_map_of_mem _ member
      rw [List.getLast?_map] at listed
      obtain ⟨origin, among, as⟩ := Option.mem_map.mp listed
      rw [← as]
      exact final origin among

theorem final_payload_tagged (g : Geometry) (cmds : List PerHopCommand) (payload : Bytes)
    (forward : cmds.any PerHopCommand.isSURBReply = false) :
    finalPayload g cmds (zeros g.payloadTagLength ++ payload) = .returns payload := by
  have long : ¬ (zeros g.payloadTagLength ++ payload).length < g.payloadTagLength := by
    rw [List.length_append, zeros_length]
    omega
  have blank : (zeros g.payloadTagLength).all (· = 0) = true := by
    simp [zeros]
  rw [finalPayload, if_neg long, forward, if_neg Bool.false_ne_true, List.take_left' (zeros_length _), if_pos blank,
    List.drop_left' (zeros_length _)]

include nike crypto in
/-- A forward packet has the length of the geometry and passes all hops: each gets its commands
and the next node, and the last the payload. -/
theorem nike_forward_round_trip (payload : Bytes) (nonempty : path ≠ []) (short : path.length ≤ s.nrHops)
    (keyed : path.map PathHop.publicKey = privKeys.map s.nike.derivePublicKey)
    (accepted : accepts s.geometry (path.map PathHop.toPathStop) = true)
    (single : ∀ hop ∈ path, hop.commands.countP PerHopCommand.isSURBReply ≤ 1)
    (forward : ∀ last ∈ path.getLast?, last.commands.any PerHopCommand.isSURBReply = false)
    (sized : payload.length = s.geometry.forwardPayloadLength) :
    ∃ pkt, s.newNikePacket entropy path payload = .returns pkt ∧ pkt.length = s.geometry.packetLength ∧
      ∃ results, unwrapAll s.unwrapNike privKeys pkt = .returns results ∧
        Delivered payload s.geometry.packetLength (path.map PathHop.toPathStop) results := by
  obtain ⟨hdr, keys, created, hdrLength, _, travels⟩ :=
    header_travels s nike crypto entropy path privKeys nonempty short keyed accepted single
  have bodyLength := wrap_length s.crypto crypto keys (zeros s.geometry.payloadTagLength ++ payload)
  have whole : s.geometry.packetLength =
      s.geometry.headerLength + (wrapPayload s.crypto keys (zeros s.geometry.payloadTagLength ++ payload)).length := by
    rw [bodyLength, List.length_append, zeros_length, sized, ← Nat.add_assoc]
    rfl
  have loaded : 0 < (wrapPayload s.crypto keys (zeros s.geometry.payloadTagLength ++ payload)).length := by
    rw [bodyLength, List.length_append, zeros_length, (nike_sphinx_layout s).tag]
    omega
  refine ⟨hdr ++ wrapPayload s.crypto keys (zeros s.geometry.payloadTagLength ++ payload), ?_, ?_, ?_⟩
  · rw [NikeSphinx.newNikePacket, if_neg (not_not.mpr sized), created, returns_bind]
    dsimp only
    rw [copy_into_whole _ _ bodyLength]
  · rw [List.length_append, hdrLength, whole]
  · rw [whole]
    apply travels _ payload loaded
    intro last member
    rw [peel_wrapped s.crypto crypto]
    exact final_payload_tagged s.geometry last.commands payload (forward last member)

end RoundTrip

def byteSphinx : NikeSphinx := ⟨byteNike, byteCrypto, 4, false, 3⟩

def byteEntropy : NikeEntropy byteNike := ⟨(7 : UInt8), fun length => ⟨List.replicate length 0xaa, List.length_replicate⟩⟩

def repeatedID (byte : UInt8) : Digest := ⟨List.replicate 32 byte, List.length_replicate⟩

def byteRoute : List (PathHop UInt8) :=
  [⟨⟨repeatedID 1, [.nodeDelay 250]⟩, 3⟩, ⟨⟨repeatedID 2, [.recipient (repeatedID 9)]⟩, 5⟩]

theorem byte_route_round_trip :
    ∃ pkt, byteSphinx.newNikePacket byteEntropy byteRoute [1, 2, 3, 4] = .returns pkt ∧
      pkt.length = byteSphinx.geometry.packetLength ∧
      ∃ results, unwrapAll byteSphinx.unwrapNike ([3, 5] : List UInt8) pkt = .returns results ∧
        Delivered [1, 2, 3, 4] byteSphinx.geometry.packetLength (byteRoute.map PathHop.toPathStop) results :=
  nike_forward_round_trip byteSphinx byte_nike_laws byte_crypto_laws byteEntropy byteRoute ([3, 5] : List UInt8) [1, 2, 3, 4]
    (List.cons_ne_nil _ _) (by decide) rfl (by decide +kernel)
    (show ∀ hop ∈ byteRoute, hop.commands.countP PerHopCommand.isSURBReply ≤ 1 by decide)
    (show ∀ last ∈ byteRoute.getLast?, last.commands.any PerHopCommand.isSURBReply = false by decide) rfl

end Katzenpost
