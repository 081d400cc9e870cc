import Katzenpost.Sphinx.Header

set_option autoImplicit false

namespace Katzenpost

open Go

structure Layout (g : Geometry) (elementSize slot : Nat) : Prop where
  perHop : g.perHopRoutingInfoLength = 82 + slot
  routingInfo : g.routingInfoLength = g.perHopRoutingInfoLength * g.nrHops
  header : g.headerLength = 2 + elementSize + g.routingInfoLength + macLength
  nextNode : g.nextNodeHopLength = 65
  tag : g.payloadTagLength = 32

theorem nike_layout (size user : Nat) (withSURB : Bool) (nrHops : Nat) :
    Layout (geometryFromUserForwardPayloadLength (.nike size) user withSURB nrHops) size 0 :=
  ⟨rfl, rfl, rfl, rfl, rfl⟩

theorem kem_layout (size user : Nat) (withSURB : Bool) (nrHops : Nat) :
    Layout (geometryFromUserForwardPayloadLength (.kem size) user withSURB nrHops) size size :=
  ⟨rfl, rfl, rfl, rfl, rfl⟩

def blockCommands (stop : PathStop) (next : Option PathStop) (mac : Bytes) : List PerHopCommand :=
  stop.commands ++ (next.map fun next => PerHopCommand.nextNodeHop next.id (Fixed.copy macLength mac)).toList

theorem serialize_single (cmd : PerHopCommand) : serializeCommands [cmd] = cmd.toBytes := List.append_nil _

section Fragment

variable (g : Geometry) (elementSize slot : Nat) (layout : Layout g elementSize slot)

include layout in
theorem fragment_spec (hop : HeaderHop) (next : Option HeaderHop) (mac fragment : Bytes)
    (covered : ∀ n ∈ next, slot ≤ n.element.length) (made : riFragment g slot hop next mac = .ok fragment) :
    let block := serializeCommands (blockCommands hop.toPathStop (next.map HeaderHop.toPathStop) mac)
    fragment.length = g.perHopRoutingInfoLength ∧ block.length ≤ g.perHopRoutingInfoLength ∧
      fragment.take 82 = (block ++ zeros (g.perHopRoutingInfoLength - block.length)).take 82 ∧
      ∀ n ∈ next, part fragment 82 slot = n.element.take slot := by
  have perHop := layout.perHop
  have reserve : g.perHopRoutingInfoLength - slot = 82 := by omega
  unfold riFragment at made
  cases serialized : commandsToBytes g hop.commands next.isNone with
  | error e =>
      rw [serialized] at made
      cases made
  | ok b =>
      rw [serialized] at made
      obtain ⟨_, rfl, short, room⟩ := commands_to_bytes_ok g _ _ b serialized
      cases next with
      | none =>
          cases made
          simp only [blockCommands, Option.map_none, Option.toList_none, List.append_nil]
          refine ⟨?_, short, trivial, fun n member => nomatch member⟩
          rw [List.length_append, zeros_length]
          omega
      | some next =>
          have wide : slot ≤ next.element.length := covered next rfl
          have fits := room rfl
          rw [layout.nextNode] at fits
          simp only [reserve] at made
          cases made
          have whole : serializeCommands (blockCommands hop.toPathStop ((some next).map HeaderHop.toPathStop) mac) =
              serializeCommands hop.commands ++ (PerHopCommand.nextNodeHop next.id (Fixed.copy macLength mac)).toBytes := by
            simp only [blockCommands, Option.map_some, Option.toList_some, serialize_append, serialize_single]
          simp only [whole]
          have sized : (serializeCommands hop.commands ++
              (PerHopCommand.nextNodeHop next.id (Fixed.copy macLength mac)).toBytes).length ≤ g.perHopRoutingInfoLength := by
            rw [List.length_append, PerHopCommand.toBytes, List.length_cons, command_body_length]
            dsimp only
            omega
          generalize serializeCommands hop.commands ++
            (PerHopCommand.nextNodeHop next.id (Fixed.copy macLength mac)).toBytes = block at sized ⊢
          have padded : (block ++ zeros (g.perHopRoutingInfoLength - block.length)).length = g.perHopRoutingInfoLength := by
            rw [List.length_append, zeros_length]
            omega
          generalize block ++ zeros (g.perHopRoutingInfoLength - block.length) = buffer at padded ⊢
          have front : (buffer.take 82).length = 82 := by
            rw [List.length_take]
            omega
          have back : (buffer.drop 82).length = slot := by
            rw [List.length_drop]
            omega
          have copied : copyInto (buffer.drop 82) next.element = next.element.take slot := by
            rw [copyInto, back, List.drop_of_length_le (by omega), List.append_nil]
          refine ⟨?_, sized, ?_, ?_⟩
          · rw [List.length_append, copy_into_length, front, back]
            omega
          · rw [List.take_append_of_le_length (by omega), List.take_take, Nat.min_self]
          · intro n member
            cases member
            rw [copied]
            have middle := part_middle (buffer.take 82) (next.element.take slot) [] 82 slot front (by
              rw [List.length_take]
              omega)
            rwa [List.append_nil] at middle

end Fragment

section Split

variable (g : Geometry) (elementSize slot : Nat) (layout : Layout g elementSize slot)

include layout in
theorem ks_len_add (i : Nat) (inside : i ≤ g.nrHops) : ksLen g i + i * g.perHopRoutingInfoLength = g.routingInfoLength := by
  have less : i * g.perHopRoutingInfoLength ≤ g.perHopRoutingInfoLength * g.nrHops := by
    rw [Nat.mul_comm]
    exact Nat.mul_le_mul_left _ inside
  rw [ksLen, layout.routingInfo, Nat.succ_mul]
  omega

include layout in
theorem ks_len_succ (i : Nat) (inside : i < g.nrHops) : ksLen g i = g.perHopRoutingInfoLength + ksLen g (i + 1) := by
  have here := ks_len_add g elementSize slot layout i (Nat.le_of_lt inside)
  have after := ks_len_add g elementSize slot layout (i + 1) inside
  rw [Nat.succ_mul] at after
  omega

end Split

def accepts (g : Geometry) : List PathStop → Bool
  | [] => true
  | stop :: rest => (commandsToBytes g stop.commands rest.isEmpty).isOk && accepts g rest

section Sealed

variable (c : SphinxCrypto) (laws : SphinxCryptoLaws c) (g : Geometry) (elementSize slot : Nat)
  (layout : Layout g elementSize slot) (filler : Bytes)

def riPadding (i : Nat) (previous : Bytes) (hop : HeaderHop) : Bytes :=
  foldPadding previous ((hopKeyStream c g hop).drop (ksLen g i))

theorem seal_hops_cons (i : Nat) (previous info mac : Bytes) (hop : HeaderHop) (rest : List HeaderHop)
    (made : sealHops c g slot filler i previous (hop :: rest) = .returns (info, mac)) :
    ∃ inner innerMac fragment, sealHops c g slot filler (i + 1) (riPadding c g i previous hop) rest = .returns (inner, innerMac) ∧
      riFragment g slot hop rest.head? innerMac = .ok fragment ∧
      info = xor (fragment ++ inner) ((hopKeyStream c g hop).take (ksLen g i)) ∧
      (fragment ++ inner).length = ((hopKeyStream c g hop).take (ksLen g i)).length ∧
      mac = (c.mac hop.keys.headerMAC (v0AD ++ hop.element ++ info ++ previous)).bytes := by
  rw [sealHops] at made
  obtain ⟨⟨inner, innerMac⟩, deeper, made⟩ := bind_returns _ _ _ made
  dsimp only at made
  cases fragmented : riFragment g slot hop rest.head? innerMac with
  | error e =>
      rw [fragmented] at made
      exact absurd made (fails_ne_returns _ _)
  | ok fragment =>
      rw [fragmented] at made
      dsimp only at made
      split at made
      · exact absurd made (panics_ne_returns _)
      · rename_i same
        obtain ⟨rfl, rfl⟩ := Prod.mk.inj (returns_inj _ _ made)
        exact ⟨inner, innerMac, fragment, deeper, fragmented, rfl, not_not.mp same, rfl⟩

include laws in
theorem hop_key_stream_length (hop : HeaderHop) :
    (hopKeyStream c g hop).length = g.routingInfoLength + g.perHopRoutingInfoLength := laws.keyStream_length _ _ _

include laws layout in
theorem key_stream_split (i : Nat) (inside : i < g.nrHops) (hop : HeaderHop) :
    ((hopKeyStream c g hop).take (ksLen g i)).length = ksLen g i ∧
      ((hopKeyStream c g hop).drop (ksLen g i)).length = i * g.perHopRoutingInfoLength + g.perHopRoutingInfoLength := by
  have whole := hop_key_stream_length c laws g hop
  have add := ks_len_add g elementSize slot layout i (Nat.le_of_lt inside)
  rw [List.length_take, List.length_drop, whole]
  omega

include laws layout in
theorem ri_padding_length (i : Nat) (inside : i < g.nrHops) (hop : HeaderHop) (previous : Bytes)
    (sized : previous.length = i * g.perHopRoutingInfoLength) :
    (riPadding c g i previous hop).length = (i + 1) * g.perHopRoutingInfoLength := by
  have split := (key_stream_split c laws g elementSize slot layout i inside hop).2
  rw [riPadding, fold_padding_length _ _ (by omega), split, Nat.succ_mul]

include laws layout in
theorem seal_hops_length (i : Nat) (previous info mac : Bytes) (hops : List HeaderHop)
    (bound : i + hops.length ≤ g.nrHops) (filled : filler.length = ksLen g (i + hops.length))
    (made : sealHops c g slot filler i previous hops = .returns (info, mac)) : info.length = ksLen g i := by
  cases hops with
  | nil =>
      obtain ⟨rfl, _⟩ := Prod.mk.inj (returns_inj _ _ made)
      exact filled
  | cons hop rest =>
      obtain ⟨inner, innerMac, fragment, _, _, rfl, same, _⟩ := seal_hops_cons c g slot filler i previous info mac hop rest made
      rw [List.length_cons] at bound
      rw [xor_length, same, Nat.min_self]
      exact (key_stream_split c laws g elementSize slot layout i (by omega) hop).1

include laws layout in
theorem seal_hops_returns (i : Nat) (previous : Bytes) (hops : List HeaderHop) (bound : i + hops.length ≤ g.nrHops)
    (filled : filler.length = ksLen g (i + hops.length)) (covered : ∀ hop ∈ hops, slot ≤ hop.element.length)
    (accepted : accepts g (hops.map HeaderHop.toPathStop) = true) :
    ∃ info mac, sealHops c g slot filler i previous hops = .returns (info, mac) := by
  induction hops generalizing i previous with
  | nil => exact ⟨filler, [], rfl⟩
  | cons hop rest ih =>
      rw [List.length_cons] at bound filled
      rw [List.map_cons, accepts, Bool.and_eq_true] at accepted
      have nextBound : i + 1 + rest.length ≤ g.nrHops := by omega
      have nextFilled : filler.length = ksLen g (i + 1 + rest.length) := by
        rw [filled]
        congr 1
        omega
      obtain ⟨inner, innerMac, deeper⟩ := ih (i + 1) (riPadding c g i previous hop) nextBound nextFilled
        (fun other member => covered other (List.mem_cons_of_mem _ member)) accepted.2
      have innerLength := seal_hops_length c laws g elementSize slot layout filler (i + 1) _ inner innerMac rest nextBound
        nextFilled deeper
      obtain ⟨fragment, fragmented⟩ : ∃ fragment, riFragment g slot hop rest.head? innerMac = .ok fragment := by
        have ok := accepted.1
        unfold riFragment
        cases rest with
        | nil =>
            cases serialized : commandsToBytes g hop.commands true with
            | error e => simp [serialized, Except.isOk, Except.toBool] at ok
            | ok b => simp [serialized]
        | cons next later =>
            cases serialized : commandsToBytes g hop.commands false with
            | error e => simp [serialized, Except.isOk, Except.toBool] at ok
            | ok b => simp [serialized]
      have covers : ∀ n ∈ rest.head?, slot ≤ n.element.length := fun n member =>
        covered n (List.mem_cons_of_mem _ (List.mem_of_mem_head? member))
      have fragmentLength := (fragment_spec g elementSize slot layout hop rest.head? innerMac fragment covers fragmented).1
      have same : (fragment ++ inner).length = ((hopKeyStream c g hop).take (ksLen g i)).length := by
        rw [List.length_append, fragmentLength, innerLength,
          (key_stream_split c laws g elementSize slot layout i (by omega) hop).1,
          ks_len_succ g elementSize slot layout i (by omega)]
      rw [sealHops]
      dsimp only
      rw [show foldPadding previous ((hopKeyStream c g hop).drop (ksLen g i)) = riPadding c g i previous hop from rfl, deeper,
        returns_bind]
      dsimp only
      rw [fragmented]
      dsimp only
      rw [if_neg (not_not.mpr same)]
      exact ⟨_, _, rfl⟩

end Sealed

def travelling (element info previous mac body : Bytes) : Bytes :=
  v0AD ++ (element ++ ((info ++ previous) ++ (mac ++ body)))

section Travelling

variable (element info previous mac body : Bytes) (elementSize infoSize : Nat) (hasElement : element.length = elementSize)
  (hasInfo : (info ++ previous).length = infoSize) (hasMac : mac.length = macLength)

include hasElement in
theorem travelling_element : part (travelling element info previous mac body) 2 elementSize = element :=
  part_middle v0AD element _ 2 elementSize rfl hasElement

include hasElement hasInfo in
theorem travelling_info : part (travelling element info previous mac body) (2 + elementSize) infoSize = info ++ previous := by
  have whole : travelling element info previous mac body = (v0AD ++ element) ++ ((info ++ previous) ++ (mac ++ body)) :=
    (List.append_assoc _ _ _).symm
  rw [whole]
  apply part_middle _ _ _ _ _ _ hasInfo
  rw [List.length_append, hasElement]
  rfl

include hasElement hasInfo in
theorem travelling_front : (travelling element info previous mac body).take (2 + elementSize + infoSize) =
    v0AD ++ element ++ info ++ previous := by
  have whole : travelling element info previous mac body = (v0AD ++ element ++ info ++ previous) ++ (mac ++ body) := by
    simp only [travelling, List.append_assoc]
  rw [whole]
  apply List.take_left'
  rw [List.append_assoc, List.length_append, List.length_append, hasElement, hasInfo]
  rfl

include hasElement hasInfo hasMac in
theorem travelling_mac : part (travelling element info previous mac body) (2 + elementSize + infoSize) macLength = mac := by
  have whole : travelling element info previous mac body = (v0AD ++ element ++ (info ++ previous)) ++ (mac ++ body) := by
    simp only [travelling, List.append_assoc]
  rw [whole]
  apply part_middle _ _ _ _ _ _ hasMac
  rw [List.length_append, List.length_append, hasElement, hasInfo]
  rfl

include hasElement hasInfo hasMac in
theorem travelling_body : (travelling element info previous mac body).drop (2 + elementSize + infoSize + macLength) = body := by
  have whole : travelling element info previous mac body = (v0AD ++ element ++ (info ++ previous) ++ mac) ++ body := by
    simp only [travelling, List.append_assoc]
  rw [whole]
  apply List.drop_left'
  rw [List.length_append, List.length_append, List.length_append, hasElement, hasInfo, hasMac]
  rfl

include hasElement hasInfo hasMac in
theorem travelling_length : (travelling element info previous mac body).length =
    2 + elementSize + infoSize + macLength + body.length := by
  simp only [travelling, List.length_append, hasElement, hasMac]
  rw [List.length_append] at hasInfo
  have version : v0AD.length = 2 := rfl
  omega

end Travelling

def peelPayload (c : SphinxCrypto) : List PacketKeys → Bytes → Bytes
  | [], b => b
  | keys :: rest, b => peelPayload c rest (c.sprpDecrypt keys.payloadEncryption keys.headerEncryptionIV b)

theorem peel_wrapped (c : SphinxCrypto) (laws : SphinxCryptoLaws c) (keys : List PacketKeys) (b : Bytes) :
    peelPayload c keys (wrapPayload c keys b) = b := by
  induction keys with
  | nil => rfl
  | cons first rest ih =>
      rw [wrapPayload, peelPayload, laws.decrypt_encrypt]
      exact ih

theorem wrap_length (c : SphinxCrypto) (laws : SphinxCryptoLaws c) (keys : List PacketKeys) (b : Bytes) :
    (wrapPayload c keys b).length = b.length := by
  induction keys with
  | nil => rfl
  | cons first rest ih => rw [wrapPayload, laws.encrypt_length, ih]

def fitsBlock : List PathStop → Bool
  | [] => true
  | [stop] => (serializeCommands stop.commands).length ≤ 82
  | stop :: rest => decide ((serializeCommands stop.commands).length ≤ 17) && fitsBlock rest

section NextNode

variable (stop : PathStop) (plain : stop.commands.any PerHopCommand.isNextNodeHop = false)

include plain in
theorem next_node_plain : nextNode stop.commands = none := by
  rw [nextNode, List.findSome?_eq_none_iff]
  intro cmd member
  have other : cmd.isNextNodeHop = false := by
    simpa using List.any_eq_false.mp plain cmd member
  cases cmd with
  | nextNodeHop id mac => cases other
  | recipient id => rfl
  | surbReply id => rfl
  | nodeDelay delay => rfl

include plain in
theorem next_node_block (next : PathStop) (mac : Bytes) :
    nextNode (blockCommands stop (some next) mac) = some (next.id, Fixed.copy macLength mac) := by
  have first := next_node_plain stop plain
  rw [nextNode] at first
  rw [nextNode, blockCommands, List.findSome?_append, first]
  rfl

include plain in
theorem block_unrepeated (next : Option PathStop) (mac : Bytes) (single : stop.commands.countP PerHopCommand.isSURBReply ≤ 1) :
    Unrepeated (blockCommands stop next mac) := by
  have none : stop.commands.countP PerHopCommand.isNextNodeHop = 0 := by
    rw [List.countP_eq_zero]
    intro cmd member
    exact List.any_eq_false.mp plain cmd member
  rw [Unrepeated, blockCommands, List.countP_append, List.countP_append, none]
  cases next with
  | none => exact ⟨Nat.zero_le _, single⟩
  | some next => exact ⟨Nat.le_refl _, single⟩

end NextNode

section Journey

variable {Key : Type} (c : SphinxCrypto) (laws : SphinxCryptoLaws c) (g : Geometry) (elementSize slot : Nat)
  (layout : Layout g elementSize slot) (filler : Bytes) (unwrap : Key → Bytes → Call SphinxError HopResult)

structure Opens (key : Key) (hop : HeaderHop) (next : Option HeaderHop) : Prop where
  sized : hop.element.length = elementSize
  opens : ∃ nextElement : Bytes → Call SphinxError Bytes,
    (∀ pkt, g.headerLength ≤ pkt.length → pkt.take 2 = v0AD → part pkt 2 elementSize = hop.element →
      ∃ replayTag, unwrap key pkt = openBlock c g elementSize slot hop.keys pkt >>= fun (cmds, ciphertext, newRoutingInfo) =>
        finishUnwrap c g elementSize hop.keys pkt replayTag cmds (nextElement ciphertext) newRoutingInfo) ∧
    ∀ n ∈ next, nextElement (n.element.take slot) = .returns n.element

def OpensAll : List HeaderHop → List Key → Prop
  | [], [] => True
  | hop :: rest, key :: keys => Opens c g elementSize slot unwrap key hop rest.head? ∧ OpensAll rest keys
  | _, _ => False

include laws layout in
theorem open_sealed (i : Nat) (previous info mac body : Bytes) (hop : HeaderHop) (rest : List HeaderHop)
    (bound : i + (rest.length + 1) ≤ g.nrHops) (filled : filler.length = ksLen g (i + (rest.length + 1)))
    (sized : hop.element.length = elementSize) (covered : ∀ n ∈ rest.head?, slot ≤ n.element.length)
    (padded : previous.length = i * g.perHopRoutingInfoLength)
    (made : sealHops c g slot filler i previous (hop :: rest) = .returns (info, mac)) :
    ∃ inner innerMac fragment, sealHops c g slot filler (i + 1) (riPadding c g i previous hop) rest = .returns (inner, innerMac) ∧
      riFragment g slot hop rest.head? innerMac = .ok fragment ∧
      (inner ++ riPadding c g i previous hop).length = g.routingInfoLength ∧ (info ++ previous).length = g.routingInfoLength ∧
      openBlock c g elementSize slot hop.keys (travelling hop.element info previous mac body) =
        parseCommands g (fragment.take 82) >>= fun cmds =>
          .returns (cmds, part fragment 82 slot, inner ++ riPadding c g i previous hop) := by
  have inside : i < g.nrHops := by omega
  have infoLength := seal_hops_length c laws g elementSize slot layout filler i previous info mac (hop :: rest) bound filled made
  obtain ⟨inner, innerMac, fragment, deeper, fragmented, whole, same, maced⟩ :=
    seal_hops_cons c g slot filler i previous info mac hop rest made
  obtain ⟨fragmentLength, _, _, _⟩ := fragment_spec g elementSize slot layout hop rest.head? innerMac fragment covered fragmented
  obtain ⟨taken, dropped⟩ := key_stream_split c laws g elementSize slot layout i inside hop
  have paddingLength := ri_padding_length c laws g elementSize slot layout i inside hop previous padded
  have here := ks_len_add g elementSize slot layout i (Nat.le_of_lt inside)
  have after := ks_len_add g elementSize slot layout (i + 1) inside
  have innerLength : inner.length = ksLen g (i + 1) := by
    have succ := ks_len_succ g elementSize slot layout i inside
    rw [List.length_append, taken] at same
    omega
  have infoWhole : (info ++ previous).length = g.routingInfoLength := by
    rw [List.length_append]
    omega
  have perHop := layout.perHop
  have macSized : mac.length = macLength := by
    rw [maced]
    exact Fixed.size _
  refine ⟨inner, innerMac, fragment, deeper, fragmented, ?_, infoWhole, ?_⟩
  · rw [List.length_append]
    omega
  · have decrypted : xor (info ++ previous ++ zeros g.perHopRoutingInfoLength) (hopKeyStream c g hop) =
        fragment ++ (inner ++ riPadding c g i previous hop) := by
      conv => lhs; rw [← List.take_append_drop (ksLen g i) (hopKeyStream c g hop)]
      rw [whole, shifted_decryption _ _ _ _ _ same.symm (by rw [dropped, padded]), List.append_assoc]
      rfl
    have reserve : g.perHopRoutingInfoLength - slot = 82 := by omega
    rw [openBlock]
    dsimp only
    rw [travelling_mac _ _ _ _ _ _ _ sized infoWhole macSized, travelling_front _ _ _ _ _ _ _ sized infoWhole,
      travelling_info _ _ _ _ _ _ _ sized infoWhole, if_neg (not_not.mpr maced)]
    have stream : c.keyStream hop.keys.headerEncryption hop.keys.headerEncryptionIV
        (g.routingInfoLength + g.perHopRoutingInfoLength) = hopKeyStream c g hop := rfl
    rw [stream, decrypted, reserve, List.take_append_of_le_length (by omega), List.drop_left' fragmentLength]
    have slotted : part (fragment ++ (inner ++ riPadding c g i previous hop)) 82 slot = part fragment 82 slot := by
      rw [part, part, List.drop_append_of_le_length (by omega), List.take_append_of_le_length (by rw [List.length_drop]; omega)]
    rw [slotted]

theorem finish_forwards (element info previous mac body : Bytes) (element' info' previous' : Bytes) (keys : PacketKeys)
    (replayTag : Fixed 32) (cmds : List PerHopCommand) (id : Digest) (mac' : Fixed macLength)
    (sized : element.length = elementSize) (sized' : element'.length = elementSize)
    (infoWhole : (info ++ previous).length = g.routingInfoLength) (infoWhole' : (info' ++ previous').length = g.routingInfoLength)
    (macSized : mac.length = macLength) (filled : 0 < body.length)
    (kept : (c.sprpDecrypt keys.payloadEncryption keys.headerEncryptionIV body).length = body.length)
    (forwards : nextNode cmds = some (id, mac')) :
    finishUnwrap c g elementSize keys (travelling element info previous mac body) replayTag cmds (.returns element')
        (info' ++ previous') =
      .returns ⟨none, replayTag, cmds, travelling element' info' previous' mac'.bytes
        (c.sprpDecrypt keys.payloadEncryption keys.headerEncryptionIV body)⟩ := by
  rw [finishUnwrap]
  rw [forwards, travelling_body _ _ _ _ _ _ _ sized infoWhole macSized, travelling_mac _ _ _ _ _ _ _ sized infoWhole macSized,
    travelling_info _ _ _ _ _ _ _ sized infoWhole, travelling_element _ _ _ _ _ _ sized, if_pos filled]
  dsimp only
  rw [returns_bind, copy_into_whole _ _ (sized'.trans sized.symm), copy_into_whole _ _ (infoWhole'.trans infoWhole.symm),
    copy_into_whole _ _ (mac'.size.trans macSized.symm), copy_into_whole _ _ kept]
  rfl

theorem finish_delivers (element info previous mac body : Bytes) (keys : PacketKeys) (replayTag : Fixed 32)
    (cmds : List PerHopCommand) (nextElement : Call SphinxError Bytes) (newRoutingInfo payload : Bytes)
    (sized : element.length = elementSize) (infoWhole : (info ++ previous).length = g.routingInfoLength)
    (macSized : mac.length = macLength) (filled : 0 < body.length) (ends : nextNode cmds = none)
    (final : finalPayload g cmds (c.sprpDecrypt keys.payloadEncryption keys.headerEncryptionIV body) = .returns payload) :
    finishUnwrap c g elementSize keys (travelling element info previous mac body) replayTag cmds nextElement newRoutingInfo =
      .returns ⟨some payload, replayTag, cmds, travelling element info previous mac body⟩ := by
  rw [finishUnwrap]
  rw [ends, travelling_body _ _ _ _ _ _ _ sized infoWhole macSized, if_pos filled]
  dsimp only
  rw [final, returns_bind]

include layout in
theorem read_block (hop : HeaderHop) (next : Option HeaderHop) (mac fragment : Bytes)
    (covered : ∀ n ∈ next, slot ≤ n.element.length) (made : riFragment g slot hop next mac = .ok fragment)
    (single : hop.commands.countP PerHopCommand.isSURBReply ≤ 1)
    (fits : (serializeCommands (blockCommands hop.toPathStop (next.map HeaderHop.toPathStop) mac)).length ≤ 82) :
    parseCommands g (fragment.take 82) = .returns (blockCommands hop.toPathStop (next.map HeaderHop.toPathStop) mac) := by
  obtain ⟨_, _, front, _⟩ := fragment_spec g elementSize slot layout hop next mac fragment covered made
  have plain : hop.commands.any PerHopCommand.isNextNodeHop = false := by
    cases serialized : commandsToBytes g hop.commands next.isNone with
    | error e => simp [riFragment, serialized] at made
    | ok b => exact (commands_to_bytes_ok g _ _ b serialized).1
  have once := block_unrepeated hop.toPathStop plain (next.map HeaderHop.toPathStop) mac single
  have perHop := layout.perHop
  generalize blockCommands hop.toPathStop (next.map HeaderHop.toPathStop) mac = cmds at fits front once ⊢
  have cut : (serializeCommands cmds ++ zeros (g.perHopRoutingInfoLength - (serializeCommands cmds).length)).take 82 =
      serializeCommands cmds ++ zeros (82 - (serializeCommands cmds).length) := by
    rw [List.take_append, List.take_of_length_le fits, zeros, List.take_replicate]
    congr 2
    omega
  rw [front, cut]
  exact parse_commands_serialized g layout.nextNode cmds _ once

theorem block_commands_length (stop next : PathStop) (mac : Bytes) :
    (serializeCommands (blockCommands stop (some next) mac)).length = (serializeCommands stop.commands).length + 65 := by
  simp only [blockCommands, Option.map_some, Option.toList_some, serialize_append, serialize_single, List.length_append,
    PerHopCommand.toBytes, List.length_cons, command_body_length]

include laws layout in
theorem unwrap_sealed (i : Nat) (previous info mac body : Bytes) (hop : HeaderHop) (rest : List HeaderHop) (key : Key)
    (bound : i + (rest.length + 1) ≤ g.nrHops) (filled : filler.length = ksLen g (i + (rest.length + 1)))
    (covered : ∀ n ∈ rest.head?, slot ≤ n.element.length) (padded : previous.length = i * g.perHopRoutingInfoLength)
    (opens : Opens c g elementSize slot unwrap key hop rest.head?)
    (fits : ∀ mac, (serializeCommands (blockCommands hop.toPathStop (rest.head?.map HeaderHop.toPathStop) mac)).length ≤ 82)
    (single : hop.commands.countP PerHopCommand.isSURBReply ≤ 1)
    (made : sealHops c g slot filler i previous (hop :: rest) = .returns (info, mac)) :
    ∃ inner innerMac nextElement replayTag,
      sealHops c g slot filler (i + 1) (riPadding c g i previous hop) rest = .returns (inner, innerMac) ∧
      (inner ++ riPadding c g i previous hop).length = g.routingInfoLength ∧ (info ++ previous).length = g.routingInfoLength ∧
      mac.length = macLength ∧ hop.commands.any PerHopCommand.isNextNodeHop = false ∧
      (∀ n ∈ rest.head?, nextElement = .returns n.element) ∧
      unwrap key (travelling hop.element info previous mac body) =
        finishUnwrap c g elementSize hop.keys (travelling hop.element info previous mac body) replayTag
          (blockCommands hop.toPathStop (rest.head?.map HeaderHop.toPathStop) innerMac) nextElement
          (inner ++ riPadding c g i previous hop) := by
  obtain ⟨sized, nextElement, unwraps, passes⟩ := opens
  obtain ⟨inner, innerMac, fragment, deeper, fragmented, innerWhole, infoWhole, opened⟩ :=
    open_sealed c laws g elementSize slot layout filler i previous info mac body hop rest bound filled sized covered padded made
  obtain ⟨_, _, _, _, _, _, _, maced⟩ := seal_hops_cons c g slot filler i previous info mac hop rest made
  have macSized : mac.length = macLength := by
    rw [maced]
    exact Fixed.size _
  have plain : hop.commands.any PerHopCommand.isNextNodeHop = false := by
    cases serialized : commandsToBytes g hop.commands rest.head?.isNone with
    | error e => simp [riFragment, serialized] at fragmented
    | ok b => exact (commands_to_bytes_ok g _ _ b serialized).1
  have whole := travelling_length hop.element info previous mac body _ _ sized infoWhole macSized
  obtain ⟨replayTag, unwrapped⟩ := unwraps (travelling hop.element info previous mac body)
    (by rw [whole, layout.header]; omega) rfl (travelling_element _ _ _ _ _ _ sized)
  have slots := (fragment_spec g elementSize slot layout hop rest.head? innerMac fragment covered fragmented).2.2.2
  refine ⟨inner, innerMac, nextElement (part fragment 82 slot), replayTag, deeper, innerWhole, infoWhole, macSized, plain, ?_, ?_⟩
  · intro n member
    rw [slots n member]
    exact passes n member
  · rw [unwrapped, opened, read_block g elementSize slot layout hop rest.head? innerMac fragment covered fragmented single
      (fits innerMac)]
    rfl

include laws layout in
theorem journey (i : Nat) (previous info mac body payload : Bytes) (hop : HeaderHop) (rest : List HeaderHop) (keys : List Key)
    (bound : i + (rest.length + 1) ≤ g.nrHops) (filled : filler.length = ksLen g (i + (rest.length + 1)))
    (slotted : slot ≤ elementSize) (padded : previous.length = i * g.perHopRoutingInfoLength)
    (opens : OpensAll c g elementSize slot unwrap (hop :: rest) keys)
    (fits : fitsBlock ((hop :: rest).map HeaderHop.toPathStop) = true)
    (single : ∀ h ∈ hop :: rest, h.commands.countP PerHopCommand.isSURBReply ≤ 1)
    (made : sealHops c g slot filler i previous (hop :: rest) = .returns (info, mac)) (loaded : 0 < body.length)
    (final : ∀ last ∈ (hop :: rest).getLast?,
      finalPayload g last.commands (peelPayload c ((hop :: rest).map HeaderHop.keys) body) = .returns payload) :
    ∃ results, unwrapAll unwrap keys (travelling hop.element info previous mac body) = .returns results ∧
      Delivered payload (g.headerLength + body.length) ((hop :: rest).map HeaderHop.toPathStop) results := by
  induction rest generalizing i previous info mac body hop keys with
  | nil =>
      cases keys with
      | nil => exact opens.elim
      | cons key keys =>
          obtain ⟨first, none⟩ := opens
          cases keys with
          | cons other keys => exact none.elim
          | nil =>
              have short : (serializeCommands hop.commands).length ≤ 82 := of_decide_eq_true fits
              obtain ⟨inner, innerMac, nextElement, replayTag, _, _, infoWhole, macSized, plain, _, unwrapped⟩ :=
                unwrap_sealed c laws g elementSize slot layout filler unwrap i previous info mac body hop [] key bound filled
                  (fun n member => nomatch member) padded first
                  (fun mac => by simpa [blockCommands] using short) (single hop List.mem_cons_self) made
              have only : blockCommands hop.toPathStop (([] : List HeaderHop).head?.map HeaderHop.toPathStop) innerMac =
                hop.commands := List.append_nil _
              have last : finalPayload g hop.commands
                  (c.sprpDecrypt hop.keys.payloadEncryption hop.keys.headerEncryptionIV body) = .returns payload := final hop rfl
              rw [only, finish_delivers c g elementSize _ _ _ _ _ _ _ _ _ _ payload first.sized infoWhole macSized loaded
                (next_node_plain hop.toPathStop plain) last] at unwrapped
              have whole := travelling_length hop.element info previous mac body _ _ first.sized infoWhole macSized
              refine ⟨[⟨some payload, replayTag, hop.commands, travelling hop.element info previous mac body⟩], ?_, rfl, rfl, ?_⟩
              · rw [unwrapAll, unwrapped]
                rfl
              · rw [whole, layout.header]
  | cons next rest ih =>
      cases keys with
      | nil => exact opens.elim
      | cons key keys =>
          obtain ⟨first, later⟩ := opens
          simp only [List.map_cons, fitsBlock, Bool.and_eq_true, decide_eq_true_eq] at fits
          have nextSized : next.element.length = elementSize := by
            cases keys with
            | nil => exact later.elim
            | cons other keys => exact later.1.sized
          have inside : i < g.nrHops := by omega
          obtain ⟨inner, innerMac, nextElement, replayTag, deeper, innerWhole, infoWhole, macSized, plain, passes, unwrapped⟩ :=
            unwrap_sealed c laws g elementSize slot layout filler unwrap i previous info mac body hop (next :: rest) key bound
              filled (fun n member => by cases member; omega) padded first
              (fun mac => by
                rw [List.head?_cons, Option.map_some, block_commands_length]
                exact Nat.add_le_add_right fits.1 65)
              (single hop List.mem_cons_self) made
          obtain ⟨_, _, _, _, _, _, _, innerMaced⟩ := seal_hops_cons c g slot filler (i + 1) _ inner innerMac next rest deeper
          have copied : (Fixed.copy macLength innerMac).bytes = innerMac := by
            rw [innerMaced, fixed_copy_bytes]
          have kept := laws.decrypt_length hop.keys.payloadEncryption hop.keys.headerEncryptionIV body
          rw [List.head?_cons, Option.map_some] at unwrapped
          rw [passes next rfl, finish_forwards c g elementSize _ _ _ _ _ _ _ _ _ replayTag _ next.id (Fixed.copy macLength innerMac)
            first.sized nextSized infoWhole innerWhole macSized loaded kept
            (next_node_block hop.toPathStop plain next.toPathStop innerMac), copied] at unwrapped
          have whole := travelling_length next.element inner (riPadding c g i previous hop) innerMac
            (c.sprpDecrypt hop.keys.payloadEncryption hop.keys.headerEncryptionIV body) _ _ nextSized innerWhole
            (by rw [innerMaced]; exact Fixed.size _)
          rw [kept] at whole
          rw [List.length_cons] at bound filled
          obtain ⟨results, passed, delivered⟩ := ih (i + 1) (riPadding c g i previous hop) inner innerMac
            (c.sprpDecrypt hop.keys.payloadEncryption hop.keys.headerEncryptionIV body) next keys (by omega)
            (by rw [filled]; congr 1; omega) (ri_padding_length c laws g elementSize slot layout i inside hop previous padded) later
            fits.2 (fun h member => single h (List.mem_cons_of_mem _ member)) deeper (by rw [kept]; exact loaded)
            (fun last member => final last (by rwa [List.getLast?_cons_cons]))
          rw [kept] at delivered
          refine ⟨⟨none, replayTag, blockCommands hop.toPathStop (some next.toPathStop) innerMac,
            travelling next.element inner (riPadding c g i previous hop) innerMac
              (c.sprpDecrypt hop.keys.payloadEncryption hop.keys.headerEncryptionIV body)⟩ :: results,
            ?_, ⟨_, rfl⟩, rfl, ?_, delivered⟩
          · rw [unwrapAll, unwrapped, returns_bind]
            dsimp only
            rw [passed]
            rfl
          · rw [layout.header]
            exact whole

end Journey

end Katzenpost
