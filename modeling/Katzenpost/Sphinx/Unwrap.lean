import Katzenpost.Go.InPlace
import Katzenpost.Sphinx.Kem

set_option autoImplicit false

namespace Katzenpost

open Go

abbrev TaggedError := SphinxError × Option (Fixed 32)

section Slices

variable (g : Geometry)

def fieldSliced (length : Nat) (make : Bytes → PerHopCommand) (b : Bytes) : Call SphinxError (Option (PerHopCommand × Bytes)) :=
  if b.length < length then .fails .invalidCommand
  else do
    let rest ← slice b length b.length
    let id ← slice b 0 length
    .returns (some (make id, rest))

def nextNodeHopSliced (b : Bytes) : Call SphinxError (Option (PerHopCommand × Bytes)) :=
  if b.length < g.nextNodeHopLength - 1 then .fails .invalidCommand
  else do
    let rest ← slice b (g.nextNodeHopLength - 1) b.length
    let id ← slice b 0 nodeIDLength
    let mac ← slice b nodeIDLength b.length
    .returns (some (.nextNodeHop (Digest.copy id) (Fixed.copy macLength mac), rest))

def commandSliced : Bytes → Call SphinxError (Option (PerHopCommand × Bytes))
  | [] => .returns none
  | [id] => if id = nullID then .returns none else .fails .invalidCommand
  | id :: b =>
      if id = nullID then if b.all (· = 0) then .returns none else .fails .invalidCommand
      else if id = nextNodeHopID then nextNodeHopSliced g b
      else if id = recipientID then fieldSliced recipientIDLength (fun id => .recipient (Digest.copy id)) b
      else if id = surbReplyID then fieldSliced surbIDLength (fun id => .surbReply (Fixed.copy surbIDLength id)) b
      else if id = nodeDelayID then fieldSliced 4 (fun delay => .nodeDelay (uint32BE delay)) b
      else .fails .invalidCommand

def loopSliced (tag : Fixed 32) : Nat → List PerHopCommand → Bytes → InPlace TaggedError (List PerHopCommand)
  | 0, _, _ => .stop .unfinished
  | fuel + 1, cmds, cmdBuf => do
      match ← InPlace.call (commandSliced g cmdBuf) (·, some tag) with
      | none => pure cmds
      | some (cmd, rest) =>
          match acceptCommand cmds cmd with
          | .error e => .stop (.fails (e, some tag))
          | .ok cmds => loopSliced tag fuel cmds rest

end Slices

section Parsing

variable (g : Geometry) (laid : g.nextNodeHopLength = 65)

def sliceFree {α : Type} : Except SphinxError α → Call SphinxError α
  | .error e => .fails e
  | .ok a => .returns a

theorem field_sliced (length : Nat) (make : Bytes → PerHopCommand) (b : Bytes) :
    fieldSliced length make b = sliceFree (bodyFromBytes length (fun b => make (b.take length)) b) := by
  rw [fieldSliced, bodyFromBytes]
  split
  · rfl
  · rename_i covered
    rw [slice_returns b length b.length ⟨by omega, le_refl _⟩, slice_returns b 0 length ⟨Nat.zero_le _, by omega⟩,
      List.take_length]
    rfl

include laid in
theorem next_node_hop_sliced (b : Bytes) : nextNodeHopSliced g b = sliceFree (nextNodeHopFromBytes g b) := by
  rw [nextNodeHopSliced, nextNodeHopFromBytes, bodyFromBytes, laid]
  split
  · rfl
  · rename_i covered
    have node : nodeIDLength = 32 := rfl
    rw [slice_returns b (65 - 1) b.length ⟨by omega, le_refl _⟩, slice_returns b 0 nodeIDLength ⟨Nat.zero_le _, by omega⟩,
      slice_returns b nodeIDLength b.length ⟨by omega, le_refl _⟩, List.take_length]
    rfl

include laid in
theorem command_sliced (b : Bytes) : commandSliced g b = sliceFree (commandFromBytes g b) := by
  cases b with
  | nil => rfl
  | cons id b =>
      cases b with
      | nil => exact (apply_ite sliceFree (id = nullID) (.ok none) (.error .invalidCommand)).symm
      | cons byte rest =>
          simp only [commandSliced, commandFromBytes, apply_ite sliceFree, next_node_hop_sliced g laid, field_sliced]
          rfl

def loopEnd (tag : Fixed 32) : Call SphinxError (List PerHopCommand) → Except (Stop TaggedError) (List PerHopCommand)
  | none => .error .unfinished
  | some (.error e) => .error (.fails (e, some tag))
  | some (.ok cmds) => .ok cmds

include laid in
theorem loop_sliced (tag : Fixed 32) (fuel : Nat) (done : List PerHopCommand) (b buffer : Bytes) :
    loopSliced g tag fuel done b buffer = (loopEnd tag (parseLoop g fuel done b), buffer) := by
  induction fuel generalizing done b with
  | zero => rfl
  | succ fuel ih =>
      rw [loopSliced, command_sliced g laid, parseLoop]
      cases commandFromBytes g b with
      | error e => rfl
      | ok found =>
          cases found with
          | none => rfl
          | some found =>
              obtain ⟨cmd, rest⟩ := found
              dsimp only
              cases accepted : acceptCommand done cmd with
              | error e =>
                  change (match acceptCommand done cmd with
                    | .error e => InPlace.stop (.fails (e, some tag))
                    | .ok cmds => loopSliced g tag fuel cmds rest) buffer = _
                  rw [accepted]
                  rfl
              | ok next =>
                  change (match acceptCommand done cmd with
                    | .error e => InPlace.stop (.fails (e, some tag))
                    | .ok cmds => loopSliced g tag fuel cmds rest) buffer = _
                  rw [accepted]
                  exact ih next rest

include laid in
theorem loop_sliced_ends {α : Type} (tag : Fixed 32) (cmdBuf buffer : Bytes) (f : List PerHopCommand → InPlace TaggedError α)
    (returned : α → Bytes → Prop) (stopped : Stop TaggedError → Bytes → Prop) (fails : ∀ e, stopped (.fails e) buffer)
    (next : ∀ cmds, Unrepeated cmds → (f cmds).Ends buffer returned stopped) :
    (loopSliced g tag (cmdBuf.length + 1) [] cmdBuf >>= f).Ends buffer returned stopped := by
  have ended := parse_loop_ends g laid (cmdBuf.length + 1) [] cmdBuf (Nat.lt_succ_self _)
  refine InPlace.ends_bind _ f ?_
  rw [InPlace.Ends, loop_sliced g laid]
  cases parsed : parseLoop g (cmdBuf.length + 1) [] cmdBuf with
  | none => exact absurd parsed ended
  | some outcome =>
      cases outcome with
      | error e => exact fails _
      | ok cmds =>
          obtain ⟨_, _, _, _, once⟩ := parse_loop_exact g laid _ cmds [] cmdBuf ⟨Nat.zero_le _, Nat.zero_le _⟩ parsed
          exact next cmds once

end Parsing

-- What the element of a packet leads to: the secret, the replay tag, and the element for
-- the next hop, given the keys and the ciphertext slot. Without one Unwrap panics.
structure OpenedElement where
  sharedSecret : Bytes
  replayTag : Fixed 32
  next : PacketKeys → Bytes → Option Bytes

section InPlaceUnwrap

variable (c : SphinxCrypto) (g : Geometry) (elementSize slot : Nat)

def riOff : Nat := 2 + elementSize

def macOff : Nat := riOff elementSize + g.routingInfoLength

def payloadOff : Nat := macOff g elementSize + macLength

def openInPlace (keys : PacketKeys) (tag : Fixed 32) : InPlace TaggedError (List PerHopCommand × Bytes × Bytes) := do
  let signed ← InPlace.read 0 (macOff g elementSize)
  let mac ← InPlace.read (macOff g elementSize) (macOff g elementSize + macLength)
  if mac ≠ (c.mac keys.headerMAC signed).bytes then .stop (.fails (.macMismatch, some tag))
  else do
    let routingInfo ← InPlace.read (riOff elementSize) (riOff elementSize + g.routingInfoLength)
    let b := xor (routingInfo ++ zeros g.perHopRoutingInfoLength)
      (c.keyStream keys.headerEncryption keys.headerEncryptionIV (g.routingInfoLength + g.perHopRoutingInfoLength))
    let cmdBuf ← InPlace.sliced b 0 (g.perHopRoutingInfoLength - slot)
    let ciphertext ← InPlace.sliced b (g.perHopRoutingInfoLength - slot) g.perHopRoutingInfoLength
    let newRoutingInfo ← InPlace.sliced b g.perHopRoutingInfoLength b.length
    let cmds ← loopSliced g tag (cmdBuf.length + 1) [] cmdBuf
    pure (cmds, ciphertext, newRoutingInfo)

def forwardInPlace (mac : Fixed macLength) (element newRoutingInfo payload : Bytes) : InPlace TaggedError Unit := do
  InPlace.write 2 (riOff elementSize) element
  InPlace.write (riOff elementSize) (macOff g elementSize) newRoutingInfo
  InPlace.write (macOff g elementSize) (payloadOff g elementSize) mac.bytes
  let length ← InPlace.length
  if payload.length > 0 then InPlace.write (payloadOff g elementSize) length payload
  else pure ()

def payloadInPlace (tag : Fixed 32) (cmds : List PerHopCommand) (payload : Bytes) : InPlace TaggedError Bytes :=
  if payload.length < g.payloadTagLength then .stop (.fails (.truncatedPayload, some tag))
  else if cmds.any PerHopCommand.isSURBReply then pure payload
  else do
    let front ← InPlace.sliced payload 0 g.payloadTagLength
    if front.all (· = 0) then InPlace.sliced payload g.payloadTagLength payload.length
    else .stop (.fails (.invalidTag, some tag))

def finishInPlace (keys : PacketKeys) (opened : OpenedElement) (cmds : List PerHopCommand) (ciphertext newRoutingInfo : Bytes) :
    InPlace TaggedError (Option Bytes × Fixed 32 × List PerHopCommand) := do
  let length ← InPlace.length
  let sealed ← InPlace.read (payloadOff g elementSize) length
  let payload := if sealed.length > 0 then c.sprpDecrypt keys.payloadEncryption keys.headerEncryptionIV sealed else sealed
  match nextNode cmds with
  | some (_, mac) =>
      match opened.next keys ciphertext with
      | none => .stop .panics
      | some element => do
          forwardInPlace g elementSize mac element newRoutingInfo payload
          pure (none, opened.replayTag, cmds)
  | none => do
      let payload ← payloadInPlace g opened.replayTag cmds payload
      pure (some payload, opened.replayTag, cmds)

def unwrapInPlace (openElement : Bytes → Option OpenedElement) : InPlace TaggedError (Option Bytes × Fixed 32 × List PerHopCommand) := do
  let length ← InPlace.length
  if length < g.headerLength then .stop (.fails (.truncated, none))
  else do
    let version ← InPlace.read 0 2
    if version ≠ v0AD then .stop (.fails (.unknownVersion, none))
    else do
      let element ← InPlace.read 2 (riOff elementSize)
      match openElement element with
      | none => .stop (.fails (.failedElement, none))
      | some opened => do
          let (cmds, ciphertext, newRoutingInfo) ← openInPlace c g elementSize slot (c.kdf opened.sharedSecret) opened.replayTag
          finishInPlace c g elementSize (c.kdf opened.sharedSecret) opened cmds ciphertext newRoutingInfo

end InPlaceUnwrap

section Atomic

variable (c : SphinxCrypto) (laws : SphinxCryptoLaws c) (g : Geometry) (elementSize slot : Nat) (laid : Layout g elementSize slot)
  (pkt : Bytes) (long : g.headerLength ≤ pkt.length)

def Unharmed (pkt : Bytes) (blindFails : Prop) (s : Stop TaggedError) (after : Bytes) : Prop :=
  after = pkt ∧ ((∃ e, s = .fails e) ∨ s = .panics ∧ blindFails)

theorem unharmed_error (blindFails : Prop) (e : TaggedError) : Unharmed pkt blindFails (.fails e) pkt := ⟨rfl, .inl ⟨e, rfl⟩⟩

def Rewritten (pkt : Bytes) (result : Option Bytes × Fixed 32 × List PerHopCommand) (after : Bytes) : Prop :=
  Unrepeated result.2.2 ∧ (nextNode result.2.2 = none → after = pkt) ∧
    ∀ id mac, nextNode result.2.2 = some (id, mac) →
      after.length = pkt.length ∧ part after (macOff g elementSize) macLength = mac.bytes

include laid long in
theorem offsets_inside :
    riOff elementSize = 2 + elementSize ∧ macOff g elementSize = 2 + elementSize + g.routingInfoLength ∧
      payloadOff g elementSize = macOff g elementSize + 32 ∧ payloadOff g elementSize ≤ pkt.length := by
  have header := laid.header
  have mac : macLength = 32 := rfl
  refine ⟨rfl, rfl, rfl, ?_⟩
  rw [payloadOff, macOff, riOff]
  omega

include laws laid long in
theorem open_in_place_ends (keys : PacketKeys) (tag : Fixed 32) (blindFails : Prop) :
    (openInPlace c g elementSize slot keys tag).Ends pkt (fun result after => after = pkt ∧ Unrepeated result.1)
      (Unharmed pkt blindFails) := by
  obtain ⟨ri, mac, payload, inside⟩ := offsets_inside g elementSize slot laid pkt long
  have perHop := laid.perHop
  have bytes : macLength = 32 := rfl
  refine InPlace.ends_bind _ _ (InPlace.ends_read _ _ ⟨Nat.zero_le _, by omega⟩ ?_)
  refine InPlace.ends_bind _ _ (InPlace.ends_read _ _ ⟨by omega, by omega⟩ ?_)
  refine InPlace.ends_if _ _ _ (fun _ => unharmed_error pkt blindFails _) fun _ => ?_
  refine InPlace.ends_bind _ _ (InPlace.ends_read _ _ ⟨by omega, by omega⟩ ?_)
  -- The decrypted block has the length of its keystream.
  have length : (xor ((pkt.take (riOff elementSize + g.routingInfoLength)).drop (riOff elementSize) ++ zeros g.perHopRoutingInfoLength)
      (c.keyStream keys.headerEncryption keys.headerEncryptionIV (g.routingInfoLength + g.perHopRoutingInfoLength))).length =
        g.routingInfoLength + g.perHopRoutingInfoLength := by
    rw [xor_length, laws.keyStream_length, List.length_append, zeros_length, List.length_drop, List.length_take]
    omega
  refine InPlace.ends_bind _ _ (InPlace.ends_sliced _ _ _ ⟨Nat.zero_le _, by omega⟩ ?_)
  refine InPlace.ends_bind _ _ (InPlace.ends_sliced _ _ _ ⟨by omega, by omega⟩ ?_)
  refine InPlace.ends_bind _ _ (InPlace.ends_sliced _ _ _ ⟨by omega, le_refl _⟩ ?_)
  exact loop_sliced_ends g laid.nextNode tag _ pkt _ _ _ (unharmed_error pkt blindFails) fun cmds once => ⟨rfl, once⟩

include laid long in
theorem forward_in_place_ends (mac : Fixed macLength) (element newRoutingInfo payload : Bytes)
    (stopped : Stop TaggedError → Bytes → Prop) :
    (forwardInPlace g elementSize mac element newRoutingInfo payload).Ends pkt
      (fun _ after => after.length = pkt.length ∧ part after (macOff g elementSize) macLength = mac.bytes) stopped := by
  obtain ⟨ri, macStart, payloadStart, inside⟩ := offsets_inside g elementSize slot laid pkt long
  have fills : mac.bytes.length = payloadOff g elementSize - macOff g elementSize := by
    rw [mac.size, payloadOff]
    omega
  have size : payloadOff g elementSize - macOff g elementSize = macLength := by
    rw [← fills, mac.size]
  -- Each write is within the packet, whose length stays the same.
  refine InPlace.ends_bind _ _ (InPlace.ends_write _ _ _ ⟨by omega, by omega⟩ ?_)
  have first := InPlace.written_length pkt element 2 (riOff elementSize) ⟨by omega, by omega⟩
  generalize pkt.take 2 ++ _ = one at first ⊢
  refine InPlace.ends_bind _ _ (InPlace.ends_write _ _ _ ⟨by omega, by omega⟩ ?_)
  have second := InPlace.written_length one newRoutingInfo (riOff elementSize) (macOff g elementSize) ⟨by omega, by omega⟩
  generalize one.take (riOff elementSize) ++ _ = two at second ⊢
  refine InPlace.ends_bind _ _ (InPlace.ends_write _ _ _ ⟨by omega, by omega⟩ ?_)
  have third := InPlace.written_length two mac.bytes (macOff g elementSize) (payloadOff g elementSize) ⟨by omega, by omega⟩
  have field := InPlace.written_part two mac.bytes (macOff g elementSize) (payloadOff g elementSize) ⟨by omega, by omega⟩ fills
  generalize two.take (macOff g elementSize) ++ _ = three at third field ⊢
  rw [size] at field
  refine InPlace.ends_bind _ _ (InPlace.ends_length (InPlace.ends_if _ _ _ (fun _ => ?_) fun _ => ⟨by omega, field⟩))
  refine InPlace.ends_write _ _ _ ⟨by omega, le_refl _⟩ ⟨?_, ?_⟩
  · rw [InPlace.written_length three payload _ _ ⟨by omega, le_refl _⟩]
    omega
  · rw [InPlace.written_before three payload _ _ _ _ ⟨by omega, le_refl _⟩ (by omega), field]

include laid long in
theorem finish_in_place_ends (keys : PacketKeys) (opened : OpenedElement) (cmds : List PerHopCommand) (once : Unrepeated cmds)
    (ciphertext newRoutingInfo : Bytes) :
    (finishInPlace c g elementSize keys opened cmds ciphertext newRoutingInfo).Ends pkt (Rewritten g elementSize pkt)
      (Unharmed pkt (opened.next keys ciphertext = none)) := by
  obtain ⟨ri, mac, payload, inside⟩ := offsets_inside g elementSize slot laid pkt long
  refine InPlace.ends_bind _ _ (InPlace.ends_length (InPlace.ends_bind _ _ (InPlace.ends_read _ _ ⟨inside, le_refl _⟩ ?_)))
  cases next : nextNode cmds with
  | some hop =>
      obtain ⟨node, mac⟩ := hop
      cases made : opened.next keys ciphertext with
      | none => exact ⟨rfl, .inr ⟨rfl, rfl⟩⟩
      | some element =>
          refine InPlace.ends_bind _ _ (InPlace.ends_mono _
            (forward_in_place_ends g elementSize slot laid pkt long mac element newRoutingInfo _ _)
            (fun _ after forwarded => ?_) fun _ _ => id)
          refine ⟨once, fun none => ?_, fun _ _ hop => ?_⟩
          · rw [next] at none
            cases none
          · obtain ⟨rfl, rfl⟩ := Prod.mk.inj (Option.some.inj (next.symm.trans hop))
            exact forwarded
  | none =>
      have unchanged : ∀ payload, Rewritten g elementSize pkt (some payload, opened.replayTag, cmds) pkt := by
        refine fun payload => ⟨once, fun _ => rfl, fun _ _ hop => ?_⟩
        rw [next] at hop
        cases hop
      refine InPlace.ends_bind _ _ (InPlace.ends_if _ _ _ (fun _ => unharmed_error pkt _ _) fun covered => ?_)
      refine InPlace.ends_if _ _ _ (fun _ => unchanged _) fun _ => ?_
      refine InPlace.ends_bind _ _ (InPlace.ends_sliced _ _ _ ⟨Nat.zero_le _, by omega⟩ ?_)
      refine InPlace.ends_if _ _ _ (fun _ => ?_) fun _ => unharmed_error pkt _ _
      exact InPlace.ends_sliced _ _ _ ⟨by omega, le_refl _⟩ (unchanged _)

include laws laid in
theorem unwrap_in_place_ends (openElement : Bytes → Option OpenedElement) :
    (unwrapInPlace c g elementSize slot openElement).Ends pkt (Rewritten g elementSize pkt)
      (Unharmed pkt (∃ bytes opened keys ciphertext, openElement bytes = some opened ∧ opened.next keys ciphertext = none)) := by
  refine InPlace.ends_bind _ _ (InPlace.ends_length (InPlace.ends_if _ _ _ (fun _ => unharmed_error pkt _ _) fun short => ?_))
  have long : g.headerLength ≤ pkt.length := not_lt.mp short
  obtain ⟨ri, mac, payload, inside⟩ := offsets_inside g elementSize slot laid pkt long
  refine InPlace.ends_bind _ _ (InPlace.ends_read _ _ ⟨Nat.zero_le _, by omega⟩ ?_)
  refine InPlace.ends_if _ _ _ (fun _ => unharmed_error pkt _ _) fun _ => ?_
  refine InPlace.ends_bind _ _ (InPlace.ends_read _ _ ⟨by omega, by omega⟩ ?_)
  cases found : openElement ((pkt.take (riOff elementSize)).drop 2) with
  | none => exact unharmed_error pkt _ _
  | some opened =>
      refine InPlace.ends_bind _ _ (InPlace.ends_mono _ (open_in_place_ends c laws g elementSize slot laid pkt long _ _ _)
        ?_ fun _ _ => id)
      rintro ⟨cmds, ciphertext, newRoutingInfo⟩ after ⟨rfl, once⟩
      refine InPlace.ends_mono _ (finish_in_place_ends c g elementSize slot laid after long _ opened cmds once ciphertext newRoutingInfo)
        (fun _ _ => id) fun s after => ?_
      rintro ⟨same, error | ⟨panics, missing⟩⟩
      · exact ⟨same, .inl error⟩
      · exact ⟨same, .inr ⟨panics, _, opened, _, ciphertext, found, missing⟩⟩

end Atomic

theorem next_node_of_mem (cmds : List PerHopCommand) (id : Digest) (mac : Fixed macLength)
    (once : cmds.countP PerHopCommand.isNextNodeHop ≤ 1) (member : .nextNodeHop id mac ∈ cmds) : nextNode cmds = some (id, mac) := by
  induction cmds with
  | nil => cases member
  | cons cmd rest ih =>
      rw [List.countP_cons] at once
      cases List.mem_cons.mp member with
      | inl here =>
          rw [← here]
          rfl
      | inr later =>
          have counted : 0 < rest.countP PerHopCommand.isNextNodeHop := List.countP_pos_iff.mpr ⟨_, later, rfl⟩
          have plain : cmd.isNextNodeHop = false := by
            cases named : cmd.isNextNodeHop with
            | false => rfl
            | true =>
                rw [if_pos named] at once
                omega
          have found := ih (by omega) later
          cases cmd with
          | nextNodeHop id mac => cases plain
          | recipient _ => exact found
          | surbReply _ => exact found
          | nodeDelay _ => exact found

theorem next_node_none (cmds : List PerHopCommand) (unnamed : cmds.countP PerHopCommand.isNextNodeHop = 0) : nextNode cmds = none := by
  rw [nextNode, List.findSome?_eq_none_iff]
  intro cmd member
  have plain := List.countP_eq_zero.mp unnamed cmd member
  cases cmd with
  | nextNodeHop id mac => exact absurd rfl plain
  | recipient _ => rfl
  | surbReply _ => rfl
  | nodeDelay _ => rfl

def NikeSphinx.unwrapNikeInPlace (s : NikeSphinx) (privKey : s.nike.PrivateKey) :
    InPlace TaggedError (Option Bytes × Fixed 32 × List PerHopCommand) :=
  unwrapInPlace s.crypto s.geometry s.nike.publicKeySize 0 fun bytes =>
    (s.nike.unmarshalBinaryPublicKey bytes).map fun groupElement =>
      ⟨s.nike.deriveSecret privKey groupElement, s.crypto.hash (s.nike.bytes groupElement),
        fun keys _ => (s.nike.publicKeyBlind groupElement (s.blindingFactor keys)).map s.nike.bytes⟩

def KemSphinx.unwrapKemInPlace (s : KemSphinx) (privKey : s.kem.PrivateKey) :
    InPlace TaggedError (Option Bytes × Fixed 32 × List PerHopCommand) :=
  unwrapInPlace s.crypto s.geometry s.kem.ciphertextSize s.kem.ciphertextSize fun kemCiphertext =>
    (s.kem.decapsulate privKey kemCiphertext).map fun sharedSecret =>
      ⟨sharedSecret, s.crypto.hash kemCiphertext, fun _ ciphertext => some ciphertext⟩

section Agreement

variable (c : SphinxCrypto) (laws : SphinxCryptoLaws c) (g : Geometry) (elementSize slot : Nat) (laid : Layout g elementSize slot)
  (pkt : Bytes)

def unwrapPlain (openElement : Bytes → Option OpenedElement) : Call SphinxError HopResult := do
  checkFront g pkt
  match openElement (part pkt 2 elementSize) with
  | none => .fails .failedElement
  | some opened =>
      let keys := c.kdf opened.sharedSecret
      openBlock c g elementSize slot keys pkt >>= fun (cmds, ciphertext, newRoutingInfo) =>
        finishUnwrap c g elementSize keys pkt opened.replayTag cmds (orPanic (opened.next keys ciphertext)) newRoutingInfo

def SameReturn (plain : Call SphinxError HopResult) (result : Option Bytes × Fixed 32 × List PerHopCommand) (after : Bytes) : Prop :=
  plain = .returns ⟨result.1, result.2.1, result.2.2, after⟩

def SameStop {α : Type} (plain : Call SphinxError α) : Stop TaggedError → Bytes → Prop
  | .fails (e, _), _ => plain = .fails e
  | .panics, _ => plain = .panics
  | _, _ => False

theorem read_part (b : Bytes) (lo hi n : Nat) (size : hi = lo + n) : (b.take hi).drop lo = part b lo n := by
  rw [size, List.drop_take, part, Nat.add_sub_cancel_left]

theorem written_next (front source : Bytes) (lo hi n : Nat) (starts : front.length = lo) (size : hi = lo + n) :
    (front ++ pkt.drop lo).take lo ++ (copyInto (((front ++ pkt.drop lo).take hi).drop lo) source ++ (front ++ pkt.drop lo).drop hi) =
      (front ++ copyInto (part pkt lo n) source) ++ pkt.drop hi := by
  have range : ((front ++ pkt.drop lo).take hi).drop lo = part pkt lo n := by
    rw [read_part _ lo hi n size, part, part, List.drop_left' starts]
  have rest : (front ++ pkt.drop lo).drop hi = pkt.drop hi := by
    rw [size, ← List.drop_drop, List.drop_left' starts, List.drop_drop]
  rw [List.take_left' starts, range, rest, List.append_assoc]

include laid in
theorem forward_agrees (long : g.headerLength ≤ pkt.length) (mac : Fixed macLength) (element newRoutingInfo payload : Bytes)
    (stopped : Stop TaggedError → Bytes → Prop) :
    (forwardInPlace g elementSize mac element newRoutingInfo payload).Ends pkt
      (fun _ after => after = pkt.take 2 ++ (copyInto (part pkt 2 elementSize) element ++
        (copyInto (part pkt (2 + elementSize) g.routingInfoLength) newRoutingInfo ++
          (copyInto (part pkt (2 + elementSize + g.routingInfoLength) macLength) mac.bytes ++
            copyInto (pkt.drop (2 + elementSize + g.routingInfoLength + macLength)) payload)))) stopped := by
  obtain ⟨ri, macStart, payloadStart, inside⟩ := offsets_inside g elementSize slot laid pkt long
  have parts : ∀ lo n, lo + n ≤ pkt.length → ∀ source, (copyInto (part pkt lo n) source).length = n := by
    intro lo n fits source
    rw [copy_into_length, part_length pkt lo n fits]
  have macSize : macLength = 32 := rfl
  -- What is rewritten grows at the front, write by write.
  refine InPlace.ends_bind _ _ (InPlace.ends_write _ _ _ ⟨by omega, by omega⟩ ?_)
  rw [read_part pkt 2 (riOff elementSize) elementSize rfl, ← List.append_assoc]
  have first : (pkt.take 2 ++ copyInto (part pkt 2 elementSize) element).length = riOff elementSize := by
    rw [List.length_append, parts _ _ (by omega), List.length_take_of_le (by omega), riOff]
  refine InPlace.ends_bind _ _ (InPlace.ends_write _ _ _ ⟨by omega, ?_⟩ ?_)
  · rw [List.length_append, first, List.length_drop]
    omega
  rw [written_next pkt _ newRoutingInfo _ (macOff g elementSize) g.routingInfoLength first rfl]
  have second : ((pkt.take 2 ++ copyInto (part pkt 2 elementSize) element) ++
      copyInto (part pkt (riOff elementSize) g.routingInfoLength) newRoutingInfo).length = macOff g elementSize := by
    rw [List.length_append, first, parts _ _ (by omega), macOff]
  refine InPlace.ends_bind _ _ (InPlace.ends_write _ _ _ ⟨by omega, ?_⟩ ?_)
  · rw [List.length_append, second, List.length_drop]
    omega
  rw [written_next pkt _ mac.bytes _ (payloadOff g elementSize) macLength second rfl]
  have third : (((pkt.take 2 ++ copyInto (part pkt 2 elementSize) element) ++
      copyInto (part pkt (riOff elementSize) g.routingInfoLength) newRoutingInfo) ++
      copyInto (part pkt (macOff g elementSize) macLength) mac.bytes).length = payloadOff g elementSize := by
    rw [List.length_append, second, parts _ _ (by omega), payloadOff]
  have total : ((((pkt.take 2 ++ copyInto (part pkt 2 elementSize) element) ++
      copyInto (part pkt (riOff elementSize) g.routingInfoLength) newRoutingInfo) ++
      copyInto (part pkt (macOff g elementSize) macLength) mac.bytes) ++ pkt.drop (payloadOff g elementSize)).length = pkt.length := by
    rw [List.length_append, third, List.length_drop]
    omega
  refine InPlace.ends_bind _ _ (InPlace.ends_length (InPlace.ends_if _ _ _ (fun some => ?_) fun empty => ?_))
  · refine InPlace.ends_write _ _ _ ⟨by omega, le_refl _⟩ ?_
    rw [total, written_next pkt _ payload _ pkt.length (pkt.length - payloadOff g elementSize) third (by omega)]
    have last : part pkt (payloadOff g elementSize) (pkt.length - payloadOff g elementSize) = pkt.drop (payloadOff g elementSize) :=
      List.take_of_length_le (by rw [List.length_drop])
    rw [last, List.drop_length, List.append_nil]
    simp only [List.append_assoc]
    rfl
  · have none : payload = [] := List.length_eq_zero_iff.mp (Nat.le_zero.mp (not_lt.mp empty))
    have kept : copyInto (pkt.drop (payloadOff g elementSize)) payload = pkt.drop (payloadOff g elementSize) := by
      rw [none, copyInto, List.take_nil, List.nil_append, List.length_nil, List.drop_zero]
    show _ = pkt.take 2 ++ (copyInto (part pkt 2 elementSize) element ++
      (copyInto (part pkt (riOff elementSize) g.routingInfoLength) newRoutingInfo ++
        (copyInto (part pkt (macOff g elementSize) macLength) mac.bytes ++ copyInto (pkt.drop (payloadOff g elementSize)) payload)))
    rw [kept]
    simp only [List.append_assoc]

theorem same_stop_bind {α β : Type} (x : Call SphinxError α) (f : α → Call SphinxError β) (stop : Stop TaggedError) (after : Bytes)
    (stopped : SameStop x stop after) : SameStop (x >>= f) stop after := by
  cases stop with
  | fails e => exact congrArg (fun x => x >>= f) stopped
  | panics => exact congrArg (fun x => x >>= f) stopped
  | outOfRange => exact stopped
  | unfinished => exact stopped

theorem payload_agrees (tag : Fixed 32) (cmds : List PerHopCommand) (payload buffer : Bytes) :
    (payloadInPlace g tag cmds payload).Ends buffer
      (fun result after => after = buffer ∧ finalPayload g cmds payload = .returns result) (SameStop (finalPayload g cmds payload)) := by
  rw [payloadInPlace, finalPayload]
  refine InPlace.ends_if _ _ _ (fun short => if_pos short) fun covered => ?_
  rw [if_neg covered]
  refine InPlace.ends_if _ _ _ (fun reply => ⟨rfl, if_pos reply⟩) fun plain => ?_
  rw [if_neg plain]
  refine InPlace.ends_bind _ _ (InPlace.ends_sliced _ _ _ ⟨Nat.zero_le _, by omega⟩ ?_)
  rw [List.drop_zero]
  refine InPlace.ends_if _ _ _ (fun clean => ?_) fun dirty => if_neg dirty
  refine InPlace.ends_sliced _ _ _ ⟨by omega, le_refl _⟩ ⟨rfl, ?_⟩
  rw [if_pos clean, List.take_length]

include laid in
theorem finish_agrees (long : g.headerLength ≤ pkt.length) (keys : PacketKeys) (opened : OpenedElement) (cmds : List PerHopCommand)
    (ciphertext newRoutingInfo : Bytes) (plain : Call SphinxError HopResult)
    (same : plain = finishUnwrap c g elementSize keys pkt opened.replayTag cmds (orPanic (opened.next keys ciphertext)) newRoutingInfo) :
    (finishInPlace c g elementSize keys opened cmds ciphertext newRoutingInfo).Ends pkt (SameReturn plain) (SameStop plain) := by
  obtain ⟨ri, macStart, payloadStart, inside⟩ := offsets_inside g elementSize slot laid pkt long
  refine InPlace.ends_bind _ _ (InPlace.ends_length (InPlace.ends_bind _ _ (InPlace.ends_read _ _ ⟨inside, le_refl _⟩ ?_)))
  rw [List.take_length]
  have payload : (if (pkt.drop (payloadOff g elementSize)).length > 0 then
      c.sprpDecrypt keys.payloadEncryption keys.headerEncryptionIV (pkt.drop (payloadOff g elementSize))
    else pkt.drop (payloadOff g elementSize)) = if (pkt.drop (payloadOff g elementSize)).length > 0 then
      c.sprpDecrypt keys.payloadEncryption keys.headerEncryptionIV (pkt.drop (payloadOff g elementSize)) else [] := by
    split
    · rfl
    · rename_i empty
      exact List.length_eq_zero_iff.mp (Nat.le_zero.mp (not_lt.mp empty))
  dsimp only
  rw [payload]
  rw [finishUnwrap] at same
  cases next : nextNode cmds with
  | some hop =>
      obtain ⟨node, mac⟩ := hop
      rw [next] at same
      cases made : opened.next keys ciphertext with
      | none =>
          rw [made] at same
          exact same
      | some element =>
          rw [made] at same
          refine InPlace.ends_bind _ _ (InPlace.ends_mono _
            (forward_agrees g elementSize slot laid pkt long mac element newRoutingInfo _ _)
            (fun _ after rewritten => ?_) fun _ _ => id)
          show plain = _
          rw [same, rewritten]
          rfl
  | none =>
      rw [next] at same
      rw [same]
      refine InPlace.ends_bind _ _ (InPlace.ends_mono _ (payload_agrees g opened.replayTag cmds _ pkt) ?_
        fun stop after stopped => same_stop_bind _ _ stop after stopped)
      rintro payload after ⟨rfl, returned⟩
      exact congrArg (fun x : Call SphinxError Bytes => x >>= fun payload =>
        Call.returns (HopResult.mk (some payload) opened.replayTag cmds after)) returned

def headerBlock (keys : PacketKeys) : Bytes :=
  xor (part pkt (riOff elementSize) g.routingInfoLength ++ zeros g.perHopRoutingInfoLength)
    (c.keyStream keys.headerEncryption keys.headerEncryptionIV (g.routingInfoLength + g.perHopRoutingInfoLength))

theorem open_block_eq (keys : PacketKeys) :
    openBlock c g elementSize slot keys pkt =
      if part pkt (macOff g elementSize) macLength ≠ (c.mac keys.headerMAC (pkt.take (macOff g elementSize))).bytes then
        .fails .macMismatch
      else parseCommands g ((headerBlock c g elementSize pkt keys).take (g.perHopRoutingInfoLength - slot)) >>= fun cmds =>
        .returns (cmds, part (headerBlock c g elementSize pkt keys) (g.perHopRoutingInfoLength - slot) slot,
          (headerBlock c g elementSize pkt keys).drop g.perHopRoutingInfoLength) := rfl

include laws in
theorem header_block_length (keys : PacketKeys) (fits : riOff elementSize + g.routingInfoLength ≤ pkt.length) :
    (headerBlock c g elementSize pkt keys).length = g.routingInfoLength + g.perHopRoutingInfoLength := by
  rw [headerBlock, xor_length, laws.keyStream_length, List.length_append, zeros_length, part_length _ _ _ fits, Nat.min_self]

include laws laid in
theorem open_agrees (long : g.headerLength ≤ pkt.length) (keys : PacketKeys) (tag : Fixed 32) :
    (openInPlace c g elementSize slot keys tag).Ends pkt
      (fun result after => after = pkt ∧ openBlock c g elementSize slot keys pkt = .returns result)
      (SameStop (openBlock c g elementSize slot keys pkt)) := by
  obtain ⟨ri, macStart, payloadStart, inside⟩ := offsets_inside g elementSize slot laid pkt long
  have perHop := laid.perHop
  have macSize : macLength = 32 := rfl
  have length := header_block_length c laws g elementSize pkt keys (by omega)
  rw [open_block_eq]
  refine InPlace.ends_bind _ _ (InPlace.ends_read _ _ ⟨Nat.zero_le _, by omega⟩ ?_)
  refine InPlace.ends_bind _ _ (InPlace.ends_read _ _ ⟨by omega, by omega⟩ ?_)
  rw [List.drop_zero, read_part pkt (macOff g elementSize) _ macLength rfl]
  refine InPlace.ends_if _ _ _ (fun differs => if_pos differs) fun agrees => ?_
  refine InPlace.ends_bind _ _ (InPlace.ends_read _ _ ⟨by omega, by omega⟩ ?_)
  rw [read_part pkt (riOff elementSize) _ g.routingInfoLength rfl, if_neg agrees, ← headerBlock]
  generalize headerBlock c g elementSize pkt keys = b at length ⊢
  refine InPlace.ends_bind _ _ (InPlace.ends_sliced _ _ _ ⟨Nat.zero_le _, by omega⟩ ?_)
  refine InPlace.ends_bind _ _ (InPlace.ends_sliced _ _ _ ⟨by omega, by omega⟩ ?_)
  refine InPlace.ends_bind _ _ (InPlace.ends_sliced _ _ _ ⟨by omega, le_refl _⟩ ?_)
  rw [List.drop_zero, List.take_length, read_part b _ g.perHopRoutingInfoLength slot (by omega), parseCommands]
  have ended := parse_loop_ends g laid.nextNode ((b.take (g.perHopRoutingInfoLength - slot)).length + 1) []
    (b.take (g.perHopRoutingInfoLength - slot)) (Nat.lt_succ_self _)
  refine InPlace.ends_bind _ _ ?_
  rw [InPlace.Ends, loop_sliced g laid.nextNode]
  cases parsed : parseLoop g ((b.take (g.perHopRoutingInfoLength - slot)).length + 1) [] (b.take (g.perHopRoutingInfoLength - slot)) with
  | none => exact absurd parsed ended
  | some outcome =>
      cases outcome with
      | error e => rfl
      | ok cmds => exact ⟨rfl, rfl⟩

include laws laid in
theorem unwrap_in_place_agrees (openElement : Bytes → Option OpenedElement) :
    (unwrapInPlace c g elementSize slot openElement).Ends pkt (SameReturn (unwrapPlain c g elementSize slot pkt openElement))
      (SameStop (unwrapPlain c g elementSize slot pkt openElement)) := by
  rw [unwrapPlain, checkFront]
  refine InPlace.ends_bind _ _ (InPlace.ends_length (InPlace.ends_if _ _ _ (fun short => ?_) fun covered => ?_))
  · rw [if_pos short]
    rfl
  have long : g.headerLength ≤ pkt.length := not_lt.mp covered
  obtain ⟨ri, macStart, payloadStart, inside⟩ := offsets_inside g elementSize slot laid pkt long
  rw [if_neg covered]
  refine InPlace.ends_bind _ _ (InPlace.ends_read _ _ ⟨Nat.zero_le _, by omega⟩ ?_)
  rw [List.drop_zero]
  refine InPlace.ends_if _ _ _ (fun other => ?_) fun known => ?_
  · rw [if_pos other]
    rfl
  rw [if_neg known, returns_bind]
  refine InPlace.ends_bind _ _ (InPlace.ends_read _ _ ⟨by omega, by omega⟩ ?_)
  rw [read_part pkt 2 (riOff elementSize) elementSize rfl]
  cases openElement (part pkt 2 elementSize) with
  | none => rfl
  | some opened =>
      refine InPlace.ends_bind _ _ (InPlace.ends_mono _ (open_agrees c laws g elementSize slot laid pkt long _ opened.replayTag) ?_
        fun stop after stopped => same_stop_bind _ _ stop after stopped)
      rintro ⟨cmds, ciphertext, newRoutingInfo⟩ after ⟨rfl, returned⟩
      refine finish_agrees c g elementSize slot laid after long _ opened cmds ciphertext newRoutingInfo _ ?_
      dsimp only
      rw [returned]
      rfl

end Agreement

theorem or_panic_map {α β : Type} (f : α → β) (x : Option α) :
    orPanic (x.map f) = (orPanic x >>= fun value => .returns (f value) : Call SphinxError β) := by
  cases x with
  | none => rfl
  | some value => rfl

theorem unwrap_plain_nike (s : NikeSphinx) (privKey : s.nike.PrivateKey) (pkt : Bytes) :
    unwrapPlain s.crypto s.geometry s.nike.publicKeySize 0 pkt (fun bytes =>
      (s.nike.unmarshalBinaryPublicKey bytes).map fun groupElement =>
        ⟨s.nike.deriveSecret privKey groupElement, s.crypto.hash (s.nike.bytes groupElement),
          fun keys _ => (s.nike.publicKeyBlind groupElement (s.blindingFactor keys)).map s.nike.bytes⟩) =
      s.unwrapNike privKey pkt := by
  rw [NikeSphinx.unwrapNike, unwrapPlain]
  cases s.nike.unmarshalBinaryPublicKey (part pkt 2 s.nike.publicKeySize) with
  | none => rfl
  | some groupElement => simp only [Option.map_some, or_panic_map]

theorem unwrap_plain_kem (s : KemSphinx) (privKey : s.kem.PrivateKey) (pkt : Bytes) :
    unwrapPlain s.crypto s.geometry s.kem.ciphertextSize s.kem.ciphertextSize pkt (fun kemCiphertext =>
      (s.kem.decapsulate privKey kemCiphertext).map fun sharedSecret =>
        ⟨sharedSecret, s.crypto.hash kemCiphertext, fun _ ciphertext => some ciphertext⟩) =
      s.unwrapKem privKey pkt := by
  rw [KemSphinx.unwrapKem, unwrapPlain]
  dsimp only
  cases s.kem.decapsulate privKey (part pkt 2 s.kem.ciphertextSize) with
  | none => rfl
  | some sharedSecret => rfl

theorem unwrap_nike_agrees (s : NikeSphinx) (laws : SphinxCryptoLaws s.crypto) (privKey : s.nike.PrivateKey) (pkt : Bytes) :
    (s.unwrapNikeInPlace privKey).Ends pkt (SameReturn (s.unwrapNike privKey pkt)) (SameStop (s.unwrapNike privKey pkt)) := by
  rw [← unwrap_plain_nike]
  exact unwrap_in_place_agrees _ laws _ _ _ (nike_sphinx_layout s) pkt _

theorem unwrap_kem_agrees (s : KemSphinx) (laws : SphinxCryptoLaws s.crypto) (privKey : s.kem.PrivateKey) (pkt : Bytes) :
    (s.unwrapKemInPlace privKey).Ends pkt (SameReturn (s.unwrapKem privKey pkt)) (SameStop (s.unwrapKem privKey pkt)) := by
  rw [← unwrap_plain_kem]
  exact unwrap_in_place_agrees _ laws _ _ _ (kem_sphinx_layout s) pkt _

structure AtomicUnwrap (off : Nat) (pkt : Bytes) (blindFails : Prop)
    (result : Except (Stop TaggedError) (Option Bytes × Fixed 32 × List PerHopCommand) × Bytes) : Prop where
  inRange : result.1 ≠ .error .outOfRange
  finished : result.1 ≠ .error .unfinished
  panicked : result.1 = .error .panics → blindFails
  failed : ∀ e, result.1 = .error (.fails e) → result.2 = pkt
  changed : result.2 ≠ pkt → ∃ payload tag cmds, result.1 = .ok (payload, tag, cmds) ∧
    cmds.countP PerHopCommand.isNextNodeHop = 1
  forwarded : ∀ payload tag cmds id mac, result.1 = .ok (payload, tag, cmds) → .nextNodeHop id mac ∈ cmds →
    result.2.length = pkt.length ∧ part result.2 off macLength = mac.bytes

theorem ends_atomic (g : Geometry) (elementSize : Nat) (pkt : Bytes) (blindFails : Prop)
    (x : InPlace TaggedError (Option Bytes × Fixed 32 × List PerHopCommand))
    (ends : x.Ends pkt (Rewritten g elementSize pkt) (Unharmed pkt blindFails)) :
    AtomicUnwrap (macOff g elementSize) pkt blindFails (x pkt) := by
  unfold InPlace.Ends at ends
  cases run : x pkt with
  | mk outcome after =>
      rw [run] at ends
      cases outcome with
      | error s =>
          obtain ⟨rfl, ⟨e, rfl⟩ | ⟨rfl, blinds⟩⟩ := ends
          · exact ⟨nofun, nofun, nofun, fun _ _ => rfl, fun other => absurd rfl other, nofun⟩
          · exact ⟨nofun, nofun, fun _ => blinds, fun _ _ => rfl, fun other => absurd rfl other, nofun⟩
      | ok result =>
          obtain ⟨payload, tag, cmds⟩ := result
          obtain ⟨once, unchanged, forwarded⟩ := ends
          refine ⟨nofun, nofun, nofun, nofun, fun other => ⟨payload, tag, cmds, rfl, ?_⟩, ?_⟩
          · have named : cmds.countP PerHopCommand.isNextNodeHop ≠ 0 := fun unnamed => other (unchanged (next_node_none cmds unnamed))
            have limit := once.1
            dsimp only at limit
            omega
          · intro _ _ _ id mac same member
            obtain ⟨rfl, rfl, rfl⟩ : payload = _ ∧ tag = _ ∧ cmds = _ := by simpa using same
            exact forwarded id mac (next_node_of_mem _ id mac once.1 member)

/-- Unwrap on any bytes ends within their bounds, changes them only to forward the packet, and
leaves them alone if it fails. A panic would come from a scheme that cannot blind. What it
returns, and the packet it leaves behind, are those of the calls on values. -/
theorem unwrap_atomic (s : NikeSphinx) (k : KemSphinx) (laws : SphinxCryptoLaws s.crypto) (kemLaws : SphinxCryptoLaws k.crypto)
    (privKey : s.nike.PrivateKey) (kemKey : k.kem.PrivateKey) (pkt : Bytes) :
    (AtomicUnwrap (macOff s.geometry s.nike.publicKeySize) pkt (∃ pub factor, s.nike.publicKeyBlind pub factor = none)
      (s.unwrapNikeInPlace privKey pkt) ∧
    (s.unwrapNikeInPlace privKey).Ends pkt (SameReturn (s.unwrapNike privKey pkt)) (SameStop (s.unwrapNike privKey pkt))) ∧
    AtomicUnwrap (macOff k.geometry k.kem.ciphertextSize) pkt False (k.unwrapKemInPlace kemKey pkt) ∧
    (k.unwrapKemInPlace kemKey).Ends pkt (SameReturn (k.unwrapKem kemKey pkt)) (SameStop (k.unwrapKem kemKey pkt)) := by
  refine ⟨⟨?_, unwrap_nike_agrees s laws privKey pkt⟩, ?_, unwrap_kem_agrees k kemLaws kemKey pkt⟩
  · refine ends_atomic _ _ _ _ _ (InPlace.ends_mono _ (unwrap_in_place_ends s.crypto laws s.geometry _ 0 (nike_layout _ _ _ _) pkt _)
      (fun _ _ => id) ?_)
    rintro stop after ⟨same, error | ⟨panics, bytes, opened, keys, ciphertext, found, missing⟩⟩
    · exact ⟨same, .inl error⟩
    · obtain ⟨element, _, rfl⟩ := Option.map_eq_some_iff.mp found
      exact ⟨same, .inr ⟨panics, element, s.blindingFactor keys, Option.map_eq_none_iff.mp missing⟩⟩
  · refine ends_atomic _ _ _ _ _ (InPlace.ends_mono _ (unwrap_in_place_ends k.crypto kemLaws k.geometry _ _ (kem_sphinx_layout k) pkt _)
      (fun _ _ => id) ?_)
    rintro stop after ⟨same, error | ⟨panics, bytes, opened, keys, ciphertext, found, missing⟩⟩
    · exact ⟨same, .inl error⟩
    · obtain ⟨sharedSecret, _, rfl⟩ := Option.map_eq_some_iff.mp found
      cases missing

theorem forwarded_packet_atomic :
    (byteKemSphinx.unwrapKemInPlace (3 : UInt8) (kemPacket byteRoute)).2 ≠ kemPacket byteRoute ∧
    AtomicUnwrap (macOff byteSphinx.geometry 1) (kemPacket byteRoute) (∃ pub factor, byteNike.publicKeyBlind pub factor = none)
      (byteSphinx.unwrapNikeInPlace (3 : UInt8) (kemPacket byteRoute)) ∧
    AtomicUnwrap (macOff byteKemSphinx.geometry byteKem.ciphertextSize) (kemPacket byteRoute) False
      (byteKemSphinx.unwrapKemInPlace (3 : UInt8) (kemPacket byteRoute)) := by
  obtain ⟨⟨nike, _⟩, kem, _⟩ := unwrap_atomic byteSphinx byteKemSphinx byte_crypto_laws byte_crypto_laws (3 : UInt8) (3 : UInt8)
    (kemPacket byteRoute)
  exact ⟨by decide +kernel, nike, kem⟩

end Katzenpost
