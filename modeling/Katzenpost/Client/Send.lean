import Katzenpost.Core.Types
import Katzenpost.Sphinx.Geometry

set_option autoImplicit false

namespace Katzenpost

open Go

abbrev SurbId := Bytes

-- thin.SendMessage without the ID, which only the ARQ reads.
structure SendMessage where
  withSURB : Bool
  surbID : Option SurbId
  destinationIdHash : Option Digest
  recipientQueueID : Bytes
  payload : Bytes

structure SendRequest where
  sendMessage : Option SendMessage

structure ChannelQuery where
  destinationIdHash : Option Digest
  recipientQueueID : Bytes
  payload : Bytes

inductive SendError where
  | noSendMessage
  | destinationIdHashNil
  | recipientNil
  | invalidRecipient (recipient : Bytes)
  | messageTooLarge (length max : Nat)
  | payloadTooLarge (length max : Nat)
  | shutdown
  | path (message : Bytes)
  | sphinx (message : Bytes)
  | invalidPayloadLength (length expected : Nat)
  | attemptsExceeded (attempts : Nat)
deriving DecidableEq

-- The cryptographic part of the Sphinx format over some type of random bytes
-- and of hops: making a SURB, which returns it with its keys, making a packet,
-- and the block which the last hop of a packet's path finds in it.
structure Sphinx (Random Hop : Type) where
  newSURB : Random → List Hop → Call SendError (Bytes × Bytes)
  wrap : Random → List Hop → Bytes → Call SendError Bytes
  delivered : Bytes → Option Bytes

structure SphinxLaws {Random Hop : Type} (g : Geometry) (s : Sphinx Random Hop) : Prop where
  surbLength : ∀ random path surb key, s.newSURB random path = .returns (surb, key) → surb.length = g.surbLength
  delivers : ∀ random path block packet, s.wrap random path block = .returns packet → s.delivered packet = some block

-- What one round of path selection meets: whether the client shuts down, the
-- skewed clock in seconds, how long the selection took, the connection, the
-- selected paths with the time at their end, and random bytes.
structure Attempt (Random Hop : Type) where
  halted : Bool
  unixTime : Int
  took : Int
  gateway : Option Digest
  queueID : Option Bytes
  makePath : Bytes → Option Digest → Option SurbId → Int → Bool → Digest → Call SendError (List Hop × Int)
  random : Random

-- Times and durations in nanoseconds; the period is that of the build.
structure SendClient (Random Hop : Type) where
  geo : Geometry
  sphinx : Sphinx Random Hop
  period : Int
  epoch : Int
  attempts : Nat → Attempt Random Hop

def maxPathSelectionAttempts : Nat := 32

def tillNextEpoch (epoch period now : Int) : Option Int :=
  let fromEpoch := now - epoch
  if fromEpoch < 0 ∨ period = 0 then none
  else some (epoch + (fromEpoch.tdiv period) * period + period - now)

-- The packet with the SURB keys and the delay of its path. The SURB in the
-- block is not returned by the source.
structure Composed where
  packet : Bytes
  surbKey : Option Bytes
  rtt : Int
  surb : Option Bytes
deriving DecidableEq

def validateSendMessageRequest (destinationIdHash : Option Digest) (recipientQueueID payload : Bytes) (maxPayloadLen : Nat) :
    Call SendError Unit :=
  if destinationIdHash.isNone then .fails .destinationIdHashNil
  else if recipientQueueID.length = 0 then .fails .recipientNil
  else if recipientQueueID.length > recipientIDLength then .fails (.invalidRecipient recipientQueueID)
  else if payload.length > maxPayloadLen then .fails (.messageTooLarge payload.length maxPayloadLen)
  else .returns ()

structure Selected (Random Hop : Type) where
  forward : List Hop
  reverse : List Hop
  delay : Int
  random : Random

section Compose

variable {Random Hop : Type}

def Sphinx.newPacket (s : Sphinx Random Hop) (g : Geometry) (random : Random) (path : List Hop) (payload : Bytes) :
    Call SendError Bytes :=
  if payload.length ≠ g.forwardPayloadLength then
    .fails (.invalidPayloadLength payload.length g.forwardPayloadLength)
  else s.wrap random path payload

def SendClient.selectOnce (c : SendClient Random Hop) (a : Attempt Random Hop) (recipient : Bytes)
    (destination : Option Digest) (surbID : Option SurbId) : Call SendError (Option (Selected Random Hop)) :=
  if a.halted then .fails .shutdown
  else do
    let now := a.unixTime * 1000000000
    let budget ← match tillNextEpoch c.epoch c.period now with
      | none => .panics
      | some till => .returns till
    let gateway ← match a.gateway with
      | none => .panics
      | some gateway => .returns gateway
    let (forward, arrival) ← a.makePath recipient destination surbID now true gateway
    let (reverse, back) ← match surbID with
      | none => .returns ([], arrival)
      | some _ =>
          match a.queueID with
          | none => .panics
          | some queueID => a.makePath queueID destination surbID arrival false gateway
    if a.took > budget then .returns none
    else if back - now < c.period * 2 then .returns (some ⟨forward, reverse, back - now, a.random⟩)
    else .returns none

def SendClient.selectPath (c : SendClient Random Hop) (recipient : Bytes) (destination : Option Digest)
    (surbID : Option SurbId) : List (Attempt Random Hop) → Call SendError (Selected Random Hop)
  | [] => .fails (.attemptsExceeded maxPathSelectionAttempts)
  | a :: rest => do
      match ← c.selectOnce a recipient destination surbID with
      | some selected => .returns selected
      | none => c.selectPath recipient destination surbID rest

def SendClient.rounds (c : SendClient Random Hop) : List (Attempt Random Hop) :=
  (List.range maxPathSelectionAttempts).map c.attempts

def SendClient.packWithSURB (c : SendClient Random Hop) (selected : Selected Random Hop) (payload : Bytes) :
    Call SendError Composed := do
  let (surb, key) ← c.sphinx.newSURB selected.random selected.reverse
  let block := copied c.geo.forwardPayloadLength ([flagsSURB, reserved] ++ surb ++ payload)
  let packet ← c.sphinx.newPacket c.geo selected.random selected.forward block
  .returns ⟨packet, some key, selected.delay, some surb⟩

def SendClient.packBare (c : SendClient Random Hop) (selected : Selected Random Hop) (payload : Bytes) :
    Call SendError Composed := do
  let block := copied c.geo.forwardPayloadLength (copied c.geo.userForwardPayloadLength payload)
  let packet ← c.sphinx.newPacket c.geo selected.random selected.forward block
  .returns ⟨packet, none, selected.delay, none⟩

def SendClient.composeSphinxPacket (c : SendClient Random Hop) (request : SendRequest) : Call SendError Composed :=
  match request.sendMessage with
  | none => .fails .noSendMessage
  | some m => do
      validateSendMessageRequest m.destinationIdHash m.recipientQueueID m.payload c.geo.userForwardPayloadLength
      let selected ← c.selectPath m.recipientQueueID m.destinationIdHash m.surbID c.rounds
      if m.withSURB then c.packWithSURB selected m.payload else c.packBare selected m.payload

def SendClient.composeSphinxPacketForQuery (c : SendClient Random Hop) (query : ChannelQuery) (surbID : Option SurbId) :
    Call SendError Composed :=
  if query.payload.length > c.geo.userForwardPayloadLength then
    .fails (.payloadTooLarge query.payload.length c.geo.userForwardPayloadLength)
  else do
    let selected ← c.selectPath query.recipientQueueID query.destinationIdHash surbID c.rounds
    c.packWithSURB selected query.payload

def Arrives (c : SendClient Random Hop) (composed : Composed) (payload : Bytes) (withSURB : Bool) : Prop :=
  ∃ block, c.sphinx.delivered composed.packet = some block ∧ composed.surb.isSome = withSURB ∧
    parseForwardPacket c.geo block = .returns (copied c.geo.userForwardPayloadLength payload, composed.surb)

theorem validate_send_message_returns (destination : Option Digest) (recipient payload : Bytes) (bound : Nat)
    (valid : validateSendMessageRequest destination recipient payload bound = .returns ()) : payload.length ≤ bound := by
  unfold validateSendMessageRequest at valid
  by_cases large : payload.length > bound
  · split_ifs at valid
    all_goals exact absurd valid (fails_ne_returns _ _)
  · omega

theorem new_packet_returns (s : Sphinx Random Hop) (g : Geometry) (laws : SphinxLaws g s) (random : Random)
    (path : List Hop) (payload packet : Bytes) (made : s.newPacket g random path payload = .returns packet) :
    s.delivered packet = some payload := by
  unfold Sphinx.newPacket at made
  split at made
  · exact absurd made (fails_ne_returns _ _)
  · exact laws.delivers random path payload packet made

theorem pack_with_surb_arrives (c : SendClient Random Hop) (laws : SphinxLaws c.geo c.sphinx) (room : Bool)
    (laid : Laid c.geo room) (selected : Selected Random Hop) (payload : Bytes)
    (composed : Composed)
    (packed : c.packWithSURB selected payload = .returns composed) : Arrives c composed payload true ↔ room = true := by
  obtain ⟨⟨surb, key⟩, made, packed⟩ := bind_returns _ _ _ packed
  obtain ⟨packet, wrapped, packed⟩ := bind_returns _ _ _ packed
  have delivered := new_packet_returns c.sphinx c.geo laws _ _ _ _ wrapped
  have surbSized := laws.surbLength _ _ _ _ made
  cases returns_inj _ _ packed
  cases room with
  | false =>
      refine iff_of_false (fun ⟨block, _, _, parsed⟩ => ?_) (by decide)
      exact parse_without_room c.geo laid block _ _ parsed
  | true =>
      refine iff_of_true ⟨_, delivered, rfl, ?_⟩ rfl
      have front : ([flagsSURB, reserved] ++ surb).length = 2 + c.geo.surbLength := by
        rw [List.length_append, surbSized]
        rfl
      rw [laid.payload, if_pos rfl, ← front, copied_append]
      exact parse_surb_block c.geo laid surb _ surbSized (copied_length _ _)

theorem pack_bare_arrives (c : SendClient Random Hop) (laws : SphinxLaws c.geo c.sphinx) (room : Bool)
    (laid : Laid c.geo room) (selected : Selected Random Hop) (payload : Bytes)
    (short : payload.length ≤ c.geo.userForwardPayloadLength) (composed : Composed)
    (packed : c.packBare selected payload = .returns composed) :
    Arrives c composed payload false ↔ room = true ∧ ∀ b ∈ payload, b = 0 := by
  obtain ⟨packet, wrapped, packed⟩ := bind_returns _ _ _ packed
  have delivered := new_packet_returns c.sphinx c.geo laws _ _ _ _ wrapped
  cases returns_inj _ _ packed
  cases room with
  | false =>
      refine iff_of_false (fun ⟨block, _, _, parsed⟩ => ?_) (fun ⟨room, _⟩ => absurd room (by decide))
      exact parse_without_room c.geo laid block _ _ parsed
  | true =>
      have whole : copied c.geo.forwardPayloadLength (copied c.geo.userForwardPayloadLength payload) =
          copied c.geo.userForwardPayloadLength payload ++ List.replicate (2 + c.geo.surbLength) 0 := by
        rw [copied_short _ _ (by rw [copied_length, laid.payload]; omega), copied_length, laid.payload, if_pos rfl,
          Nat.add_sub_cancel_left]
      rw [whole] at delivered
      have zeros := copied_zero_iff _ payload short
      have parses := parse_bare_block c.geo laid _ (copied_length c.geo.userForwardPayloadLength payload)
      rw [zeros] at parses
      apply Iff.intro
      · intro ⟨block, found, _, parsed⟩
        cases delivered.symm.trans found
        exact ⟨rfl, parses.mp parsed⟩
      · intro ⟨_, zero⟩
        exact ⟨_, delivered, rfl, parses.mpr zero⟩

theorem compose_sphinx_packet_arrives (c : SendClient Random Hop) (laws : SphinxLaws c.geo c.sphinx) (room : Bool)
    (laid : Laid c.geo room) (m : SendMessage) (composed : Composed)
    (accepted : c.composeSphinxPacket ⟨some m⟩ = .returns composed) :
    Arrives c composed m.payload m.withSURB ↔ room = true ∧ (m.withSURB = true ∨ ∀ b ∈ m.payload, b = 0) := by
  obtain ⟨⟨⟩, valid, accepted⟩ := bind_returns _ _ _ accepted
  obtain ⟨selected, _, packed⟩ := bind_returns _ _ _ accepted
  have short := validate_send_message_returns _ _ _ _ valid
  cases requested : m.withSURB with
  | false =>
      rw [requested, if_neg (by decide)] at packed
      rw [pack_bare_arrives c laws room laid selected m.payload short composed packed]
      simp
  | true =>
      rw [requested, if_pos rfl] at packed
      rw [pack_with_surb_arrives c laws room laid selected m.payload composed packed]
      simp

theorem compose_for_query_arrives (c : SendClient Random Hop) (laws : SphinxLaws c.geo c.sphinx) (room : Bool)
    (laid : Laid c.geo room) (query : ChannelQuery) (surbID : Option SurbId) (composed : Composed)
    (accepted : c.composeSphinxPacketForQuery query surbID = .returns composed) :
    Arrives c composed query.payload true ↔ room = true := by
  unfold SendClient.composeSphinxPacketForQuery at accepted
  split at accepted
  · exact absurd accepted (fails_ne_returns _ _)
  · obtain ⟨selected, _, packed⟩ := bind_returns _ _ _ accepted
    exact pack_with_surb_arrives c laws room laid selected query.payload composed packed

/-- For every geometry the package makes and every accepted request: exactly if the geometry has
room for a SURB, and one was asked for or all bytes are zero, does the service get what was sent.
-/
theorem payload_arrives_iff (scheme : SphinxScheme) (user : Nat) (room : Bool) (nrHops : Nat) (c : SendClient Random Hop)
    (built : c.geo = geometryFromUserForwardPayloadLength scheme user room nrHops) (laws : SphinxLaws c.geo c.sphinx) :
    (∀ (request : SendRequest) (composed : Composed), c.composeSphinxPacket request = .returns composed →
      ∃ m, request.sendMessage = some m ∧ m.payload.length ≤ user ∧
        (Arrives c composed m.payload m.withSURB ↔ room = true ∧ (m.withSURB = true ∨ ∀ b ∈ m.payload, b = 0))) ∧
    ∀ (query : ChannelQuery) (surbID : Option SurbId) (composed : Composed),
      c.composeSphinxPacketForQuery query surbID = .returns composed →
        (Arrives c composed query.payload true ↔ room = true) := by
  have laid : Laid c.geo room := built ▸ geometry_laid scheme user room nrHops
  have bound : c.geo.userForwardPayloadLength = user := by
    rw [built]
    rfl
  refine ⟨fun request composed accepted => ?_, fun query surbID composed accepted =>
    compose_for_query_arrives c laws room laid query surbID composed accepted⟩
  cases request with
  | mk sendMessage =>
      cases sendMessage with
      | none => exact absurd accepted (fails_ne_returns _ _)
      | some m =>
          obtain ⟨⟨⟩, valid, _⟩ := bind_returns _ _ _ accepted
          have short := validate_send_message_returns _ _ _ _ valid
          rw [bound] at short
          exact ⟨m, rfl, short, compose_sphinx_packet_arrives c laws room laid m composed accepted⟩

end Compose

def sampleGeometry : Geometry := geometryFromUserForwardPayloadLength (.nike 32) 4 true 1

def plainSphinx : Sphinx Unit Unit where
  newSURB _ path := if path = [] then .panics else .returns (List.replicate sampleGeometry.surbLength 7, [8])
  wrap _ _ block := .returns block
  delivered := some

theorem plain_sphinx_laws : SphinxLaws sampleGeometry plainSphinx where
  surbLength _ path surb key made := by
    by_cases empty : path = []
    · simp only [plainSphinx, if_pos empty] at made
      exact absurd made (panics_ne_returns _)
    · simp only [plainSphinx, if_neg empty] at made
      cases returns_inj _ _ made
      exact List.length_replicate
  delivers _ _ block packet wrapped := congrArg some (returns_inj _ _ wrapped).symm

def sampleNode : Digest := ⟨List.replicate 32 3, by decide⟩

def sampleClient : SendClient Unit Unit where
  geo := sampleGeometry
  sphinx := plainSphinx
  period := 1200000000000
  epoch := 1496275200000000000
  attempts n :=
    { halted := false
      unixTime := 1496275201
      took := if n = 0 then 1200000000000 else 5
      gateway := some sampleNode
      queueID := some [9]
      makePath := fun _ _ _ base _ _ => .returns ([()], base + 1000000000)
      random := () }

def sampleMessage (withSURB : Bool) (payload : Bytes) : SendRequest :=
  ⟨some ⟨withSURB, some (List.replicate 16 1), some sampleNode, [5], payload⟩⟩

def sampleComposed : Composed :=
  ⟨copied sampleGeometry.forwardPayloadLength ([1, 0] ++ List.replicate sampleGeometry.surbLength 7 ++ [5, 6]), some [8],
    2000000000, some (List.replicate sampleGeometry.surbLength 7)⟩

theorem payload_with_surb_arrives : sampleClient.composeSphinxPacket (sampleMessage true [5, 6]) = .returns sampleComposed ∧
    Arrives sampleClient sampleComposed [5, 6] true := by
  have accepted : sampleClient.composeSphinxPacket (sampleMessage true [5, 6]) = .returns sampleComposed := by decide +kernel
  have law := (payload_arrives_iff (.nike 32) 4 true 1 sampleClient rfl plain_sphinx_laws).1 _ _ accepted
  obtain ⟨m, sent, _, arrives⟩ := law
  cases Option.some_inj.mp sent
  exact ⟨accepted, arrives.mpr ⟨rfl, Or.inl rfl⟩⟩

/-- Without a SURB the first byte of the message is read as flags. -/
theorem payload_without_surb_lost :
    sampleClient.composeSphinxPacket (sampleMessage false [5, 6]) =
      .returns ⟨copied sampleGeometry.forwardPayloadLength [5, 6], none, 2000000000, none⟩ ∧
    sampleClient.sphinx.delivered (copied sampleGeometry.forwardPayloadLength [5, 6]) =
      some (copied sampleGeometry.forwardPayloadLength [5, 6]) ∧
    parseForwardPacket sampleGeometry (copied sampleGeometry.forwardPayloadLength [5, 6]) = .fails (.invalidReserved 6) ∧
    parseForwardPacket sampleGeometry (copied sampleGeometry.forwardPayloadLength [0, 0, 6]) =
      .returns (copied 4 [], none) := by
  decide +kernel

end Katzenpost
