import Katzenpost.Server.CryptoWorker

set_option autoImplicit false

namespace Katzenpost

open Go

structure NodeTables where
  maxDelay : Int
  conns : GoMap Digest Unit
  decoyRecipient : Bytes
  surbIDBase : UInt64
  surbStore : GoMap UInt64 Bytes
  wtReplySessions : GoMap Digest Bool
  spool : GoMap Bytes Bucket
  kaetzchen : GoMap Digest Unit
  plugins : GoMap Digest Unit

-- What the handlers meet besides: the payload cipher of a SURB, the ID of the
-- next packet, the clock when the
-- gateway's or service node's worker takes the packet, when the endpoint's
-- worker does and when that has its answer, and the endpoints that are still
-- there at that time.
structure HandlerEnv where
  sprpEncrypt : Bytes → Bytes → Bytes → Bytes
  nextID : UInt64
  dequeuedAt : Int
  workedAt : Int
  answeredAt : Int
  kaetzchenLater : GoMap Digest Unit
  pluginsLater : GoMap Digest Unit

-- A packet waits in the mix queue, or its owner is done with it and has
-- disposed of it, or has dropped it without that.
inductive Fate where
  | enqueued
  | disposed
  | leaked
deriving DecidableEq

structure Handled where
  tables : NodeTables
  fate : Fate
  reply : Option Packet

def sphinxPacketFromSURB (g : Geometry) (sprpEncrypt : Bytes → Bytes → Bytes → Bytes) (surb payload : Bytes) :
    Call PacketError (Bytes × Digest) :=
  let idOff := g.headerLength
  let keyOff := idOff + nodeIDLength
  let ivOff := keyOff + sprpKeyLength
  if surb.length ≠ g.surbLength then .fails .truncatedSURB
  else do
    let hdr ← slice surb 0 g.headerLength
    let nodeID ← slice surb idOff keyOff
    let sprpKey ← slice surb keyOff ivOff
    let sprpIV ← slice surb ivOff surb.length
    let tag ← slice (List.replicate g.perHopRoutingInfoLength 0) 0 g.payloadTagLength
    let b := sprpEncrypt (copied sprpKeyLength sprpKey) (copied sprpIVLength sprpIV) (tag ++ payload)
    .returns (hdr ++ copied (tag ++ payload).length b, ⟨copied nodeIDLength nodeID, copied_length _ _⟩)

def newPacketFromSURB (g : Geometry) (sprpEncrypt : Bytes → Bytes → Bytes → Bytes) (id : UInt64) (surb payload : Bytes) :
    Call PacketError Packet :=
  if payload.length > g.forwardPayloadLength then .fails (.oversizedResponse payload.length)
  else do
    let (raw, firstHop) ← sphinxPacketFromSURB g sprpEncrypt surb (copied g.forwardPayloadLength payload)
    match newPacket g id raw with
    | .error e => .fails e
    | .ok pkt =>
        match pkt.set none [.nextNodeHop firstHop (List.replicate macLength 0), .nodeDelay 0] with
        | .error e => .fails e
        | .ok pkt => .returns { pkt with mustForward := true }

def schedulePacket (tables : NodeTables) (pkt : Packet) : Option Fate :=
  if pkt.delay > tables.maxDelay then some .disposed
  else
    match pkt.nextNodeHop with
    | none => none
    | some (id, _) => if id ∈ tables.conns then some .enqueued else some .disposed

-- Decoy.OnPacket, which panics on anything but a SURB reply. Whether the
-- payload decrypts only matters to its statistics.
def decoyPacket (tables : NodeTables) (pkt : Packet) : Option Handled :=
  if !pkt.isSURBReply then none
  else
    match pkt.recipient with
    | none => none
    | some recipient =>
        if recipient.bytes ≠ tables.decoyRecipient then some ⟨tables, .disposed, none⟩
        else
          match pkt.surbReply with
          | none => none
          | some surbID =>
              if uint64BE surbID ≠ tables.surbIDBase then some ⟨tables, .disposed, none⟩
              else some ⟨{ tables with surbStore := tables.surbStore.erase (uint64BE (surbID.drop 8)) }, .disposed, none⟩

def NodeTables.store (tables : NodeTables) (recipient : Digest) (m : StoredMessage) : NodeTables × Bool :=
  match doStore recipient.bytes tables.spool[recipient.bytes]? m with
  | .error _ => (tables, false)
  | .ok bucket => ({ tables with spool := tables.spool.insert recipient.bytes bucket }, true)

def onSURBReply (cfg : ServerConfig) (tables : NodeTables) (pkt : Packet) (recipient : Digest) :
    Option NodeTables :=
  let payload := pkt.payload.getD []
  if payload.length ≠ cfg.geo.payloadTagLength + cfg.geo.forwardPayloadLength then some tables
  else if tables.wtReplySessions[recipient]? = some true then some tables
  else
    match pkt.surbReply with
    | none => none
    | some surbID => some (tables.store recipient ⟨some surbID, payload⟩).1

def onToUser (cfg : ServerConfig) (env : HandlerEnv) (tables : NodeTables) (pkt : Packet) (recipient : Digest) :
    Option (NodeTables × Option Packet) :=
  match (parseForwardPacket cfg.geo (pkt.payload.getD [])).run with
  | none => none
  | some (.error _) => some (tables, none)
  | some (.ok (ct, surb)) =>
      match tables.store recipient ⟨none, ct⟩, surb with
      | (tables, false), _ => some (tables, none)
      | (tables, true), none => some (tables, none)
      | (tables, true), some surb =>
          match (newPacketFromSURB cfg.geo env.sprpEncrypt env.nextID surb []).run with
          | none => none
          | some (.error _) => some (tables, none)
          | some (.ok ackPkt) => some (tables, some ackPkt)

-- The gateway's worker. It takes the recipient's ID before it looks at what
-- kind of packet it has.
def gatewayPacket (cfg : ServerConfig) (env : HandlerEnv) (tables : NodeTables) (pkt : Packet) : Option Handled :=
  if timeSub env.dequeuedAt pkt.dispatchAt > cfg.gatewayDelay * millisecond then some ⟨tables, .disposed, none⟩
  else
    match pkt.recipient with
    | none => none
    | some recipient =>
        if pkt.isSURBReply then
          (onSURBReply cfg tables pkt recipient).map fun tables => ⟨tables, .disposed, none⟩
        else
          (onToUser cfg env tables pkt recipient).map fun (tables, ackPkt) => ⟨tables, .disposed, ackPkt⟩

def Packet.newDelay (pkt : Packet) (now : Int) : Int := max 0 (pkt.delay - timeSub now pkt.recvAt)

-- KaetzchenWorker's worker on a packet and its processKaetzchen. Every built-in
-- service is an echo, which answers only if it has a SURB.
def kaetzchenPacket (cfg : ServerConfig) (env : HandlerEnv) (tables : NodeTables) (pkt : Packet) : Option Handled :=
  if timeSub env.workedAt pkt.dispatchAt > cfg.kaetzchenDelay * millisecond then some ⟨tables, .disposed, none⟩
  else
    match (parseForwardPacket cfg.geo (pkt.payload.getD [])).run with
    | none => none
    | some (.error _) => some ⟨tables, .disposed, none⟩
    | some (.ok (payload, surb)) =>
        match pkt.recipient with
        | none => none
        | some recipient =>
            match env.kaetzchenLater[recipient]?, surb with
            | none, _ => some ⟨tables, .disposed, none⟩
            | some _, none => some ⟨tables, .disposed, none⟩
            | some _, some surb =>
                match (newPacketFromSURB cfg.geo env.sprpEncrypt env.nextID surb payload).run with
                | none => none
                | some (.error _) => some ⟨tables, .disposed, none⟩
                | some (.ok respPkt) =>
                    match respPkt.nodeDelay with
                    | none => none
                    | some _ =>
                        let delay := pkt.newDelay env.answeredAt
                        some ⟨tables, .disposed, some { respPkt with nodeDelay := some (UInt32.ofInt delay), delay := delay }⟩

-- CBORPluginWorker's OnKaetzchen, its worker and processKaetzchen. A plugin
-- that is gone by now loses the packet without Dispose.
def pluginPacket (cfg : ServerConfig) (env : HandlerEnv) (tables : NodeTables) (pkt : Packet) : Option Handled :=
  match pkt.recipient with
  | none => none
  | some recipient =>
      match env.pluginsLater[recipient]? with
      | none => some ⟨tables, .leaked, none⟩
      | some _ =>
          if timeSub env.workedAt pkt.dispatchAt > cfg.kaetzchenDelay * millisecond then some ⟨tables, .disposed, none⟩
          else
            match (parseForwardPacket cfg.geo (pkt.payload.getD [])).run with
            | none => none
            | some (.error _) => some ⟨tables, .disposed, none⟩
            | some (.ok _) => some ⟨tables, .disposed, none⟩

def servicePacket (cfg : ServerConfig) (env : HandlerEnv) (tables : NodeTables) (pkt : Packet) : Option Handled :=
  if timeSub env.dequeuedAt pkt.dispatchAt > cfg.serviceDelay * millisecond then some ⟨tables, .disposed, none⟩
  else
    match pkt.recipient with
    | none => none
    | some recipient =>
        if recipient ∈ tables.kaetzchen then
          if pkt.isSURBReply then some ⟨tables, .disposed, none⟩ else kaetzchenPacket cfg env tables pkt
        else if recipient ∈ tables.plugins then
          if pkt.isSURBReply then some ⟨tables, .disposed, none⟩ else pluginPacket cfg env tables pkt
        else some ⟨tables, .disposed, none⟩

def handOff (cfg : ServerConfig) (env : HandlerEnv) (tables : NodeTables) : Handoff → Option Handled
  | .disposed => some ⟨tables, .disposed, none⟩
  | .scheduler pkt => (schedulePacket tables pkt).map fun fate => ⟨tables, fate, none⟩
  | .decoy pkt => decoyPacket tables pkt
  | .gateway pkt => gatewayPacket cfg env tables pkt
  | .serviceNode pkt => servicePacket cfg env tables pkt

def withReply (handled : Handled) : Option Handled :=
  match handled.reply with
  | none => some handled
  | some reply => (schedulePacket handled.tables reply).map fun _ => handled

structure RoomyGeometry (g : Geometry) : Prop where
  header : 2 ≤ g.sphinxPlaintextHeaderLength + g.surbLength
  surb : g.headerLength + nodeIDLength + sprpKeyLength ≤ g.surbLength
  tag : g.payloadTagLength ≤ g.perHopRoutingInfoLength

theorem geometry_roomy (scheme : SphinxScheme) (user : Nat) (withSURB : Bool) (nrHops : Nat) :
    RoomyGeometry (geometryFromUserForwardPayloadLength scheme user withSURB nrHops) := by
  constructor
  · exact Nat.le_add_right 2 _
  · simp only [geometryFromUserForwardPayloadLength, GeometryFactory.surbLength]
    omega
  · cases scheme with
    | nike publicKeySize => exact (by decide : payloadTagLength ≤ 65 + 17)
    | kem ciphertextSize => exact Nat.le_trans (by decide : payloadTagLength ≤ 65 + 17) (Nat.le_add_right _ _)

theorem announced_surb_returns (flags : UInt8) (area : Bytes) :
    ∃ result, (announcedSURB flags area).run = some result := by
  unfold announcedSURB
  split
  · exact ⟨_, rfl⟩
  · split
    · exact ⟨_, rfl⟩
    · exact ⟨_, rfl⟩

theorem parse_forward_packet_no_panic (g : Geometry) (roomy : RoomyGeometry g) (b : Bytes) :
    ∃ result, (parseForwardPacket g b).run = some result := by
  unfold parseForwardPacket
  by_cases wrong : b.length ≠ g.forwardPayloadLength
  · rw [if_pos wrong]
    exact ⟨_, rfl⟩
  · rw [if_neg wrong]
    by_cases truncated : b.length < g.sphinxPlaintextHeaderLength + g.surbLength
    · rw [if_pos truncated]
      exact ⟨_, rfl⟩
    · rw [if_neg truncated]
      -- A block that is not truncated has the two bytes of the flags.
      have long : 2 ≤ b.length := Nat.le_trans roomy.header (Nat.le_of_not_lt truncated)
      match b, long with
      | flags :: second :: rest, _ =>
          dsimp only
          split
          · exact ⟨_, rfl⟩
          · obtain ⟨announced, called⟩ := announced_surb_returns flags
              (((flags :: second :: rest).take (g.sphinxPlaintextHeaderLength + g.surbLength)).drop g.sphinxPlaintextHeaderLength)
            rw [ExceptT.run_bind, called]
            cases announced with
            | error e => exact ⟨_, rfl⟩
            | ok surb =>
                simp only [Option.bind_eq_bind, Option.bind_some]
                split
                · exact ⟨_, rfl⟩
                · exact ⟨_, rfl⟩

theorem sphinx_packet_from_surb_no_panic (g : Geometry) (roomy : RoomyGeometry g) (sprpEncrypt : Bytes → Bytes → Bytes → Bytes)
    (surb payload : Bytes) : ∃ result, (sphinxPacketFromSURB g sprpEncrypt surb payload).run = some result := by
  unfold sphinxPacketFromSURB
  by_cases wrong : surb.length ≠ g.surbLength
  · rw [if_pos wrong]
    exact ⟨_, rfl⟩
  · rw [if_neg wrong]
    have sized : surb.length = g.surbLength := not_not.mp wrong
    have room := roomy.surb
    have tag := roomy.tag
    rw [slice_returns surb _ _ (by omega), slice_returns surb _ _ (by omega), slice_returns surb _ _ (by omega),
      slice_returns surb _ _ (by omega), slice_returns _ _ _ (by rw [List.length_replicate]; omega)]
    exact ⟨_, rfl⟩

theorem new_packet_from_surb_no_panic (g : Geometry) (roomy : RoomyGeometry g) (sprpEncrypt : Bytes → Bytes → Bytes → Bytes)
    (id : UInt64) (surb payload : Bytes) :
    ∃ result, (newPacketFromSURB g sprpEncrypt id surb payload).run = some result ∧
      ∀ pkt, result = .ok pkt → (∃ hop, pkt.nextNodeHop = some hop) ∧ ∃ delay, pkt.nodeDelay = some delay := by
  unfold newPacketFromSURB
  split
  · exact ⟨_, rfl, fun _ impossible => nomatch impossible⟩
  · obtain ⟨packed, called⟩ := sphinx_packet_from_surb_no_panic g roomy sprpEncrypt surb (copied g.forwardPayloadLength payload)
    rw [ExceptT.run_bind, called]
    cases packed with
    | error e => exact ⟨_, rfl, fun _ impossible => nomatch impossible⟩
    | ok packed =>
        obtain ⟨raw, firstHop⟩ := packed
        simp only [Option.bind_eq_bind, Option.bind_some]
        by_cases sized : raw.length = g.packetLength
        · rw [newPacket, if_neg (not_not.mpr sized)]
          refine ⟨_, rfl, fun pkt made => ?_⟩
          cases made
          exact ⟨⟨_, rfl⟩, ⟨_, rfl⟩⟩
        · rw [newPacket, if_pos sized]
          exact ⟨_, rfl, fun _ impossible => nomatch impossible⟩

def Completes (result : Option Handled) : Prop := ∃ handled, result.bind withReply = some handled ∧ handled.fate ≠ .leaked

theorem schedule_packet_returns (tables : NodeTables) (pkt : Packet) (hop : Digest × Bytes)
    (next : pkt.nextNodeHop = some hop) : ∃ fate, schedulePacket tables pkt = some fate ∧ fate ≠ .leaked := by
  unfold schedulePacket
  split
  · exact ⟨_, rfl, nofun⟩
  · rw [next]
    dsimp only
    split
    · exact ⟨_, rfl, nofun⟩
    · exact ⟨_, rfl, nofun⟩

theorem completes_without_reply (handled : Handled) (silent : handled.reply = none) :
    Completes (some handled) ↔ handled.fate ≠ .leaked := by
  simp [Completes, withReply, silent]

theorem completes_with_reply (handled : Handled) (reply : Packet) (replied : handled.reply = some reply)
    (hop : Digest × Bytes) (next : reply.nextNodeHop = some hop) (kept : handled.fate ≠ .leaked) :
    Completes (some handled) := by
  obtain ⟨fate, scheduled, _⟩ := schedule_packet_returns handled.tables reply hop next
  refine ⟨handled, ?_, kept⟩
  simp only [Option.bind_some, withReply, replied, scheduled, Option.map_some]

theorem not_completes_none : ¬ Completes none := by
  intro ⟨handled, impossible, _⟩
  cases impossible

theorem scheduler_completes (tables : NodeTables) (pkt : Packet) (hop : Digest × Bytes) (next : pkt.nextNodeHop = some hop) :
    Completes ((schedulePacket tables pkt).map fun fate => ⟨tables, fate, none⟩) := by
  obtain ⟨fate, scheduled, kept⟩ := schedule_packet_returns tables pkt hop next
  rw [scheduled]
  exact (completes_without_reply _ rfl).mpr kept

theorem decoy_completes (tables : NodeTables) (pkt : Packet) (reply : pkt.isSURBReply = true) :
    Completes (decoyPacket tables pkt) := by
  obtain ⟨⟨recipient, hasRecipient⟩, surbID, hasID⟩ := surb_reply_commands pkt reply
  simp only [decoyPacket, reply, hasRecipient, hasID, Bool.not_true, Bool.false_eq_true, if_false]
  split
  · exact (completes_without_reply _ rfl).mpr nofun
  · split
    · exact (completes_without_reply _ rfl).mpr nofun
    · exact (completes_without_reply _ rfl).mpr nofun

section Roomy

variable (cfg : ServerConfig) (env : HandlerEnv) (tables : NodeTables) (roomy : RoomyGeometry cfg.geo) (pkt : Packet)

theorem on_surb_reply_returns (recipient : Digest) (reply : pkt.isSURBReply = true) :
    ∃ after, onSURBReply cfg tables pkt recipient = some after := by
  obtain ⟨_, surbID, hasID⟩ := surb_reply_commands pkt reply
  simp only [onSURBReply, hasID]
  split
  · exact ⟨_, rfl⟩
  · split
    · exact ⟨_, rfl⟩
    · exact ⟨_, rfl⟩

include roomy

theorem on_to_user_returns (recipient : Digest) :
    ∃ after ack, onToUser cfg env tables pkt recipient = some (after, ack) ∧
      ∀ reply, ack = some reply → ∃ hop, reply.nextNodeHop = some hop := by
  obtain ⟨parsed, called⟩ := parse_forward_packet_no_panic cfg.geo roomy (pkt.payload.getD [])
  rw [onToUser, called]
  cases parsed with
  | error e => exact ⟨_, _, rfl, fun _ same => nomatch same⟩
  | ok parsed =>
      obtain ⟨ct, surb⟩ := parsed
      dsimp only
      split
      · exact ⟨_, _, rfl, fun _ same => nomatch same⟩
      · exact ⟨_, _, rfl, fun _ same => nomatch same⟩
      · rename_i _ surb _
        obtain ⟨made, called, forward⟩ := new_packet_from_surb_no_panic cfg.geo roomy env.sprpEncrypt env.nextID surb []
        rw [called]
        cases made with
        | error e => exact ⟨_, _, rfl, fun _ same => nomatch same⟩
        | ok ack =>
            refine ⟨_, _, rfl, fun reply same => ?_⟩
            cases same
            exact (forward ack rfl).1

theorem gateway_completes_iff :
    Completes (gatewayPacket cfg env tables pkt) ↔
      timeSub env.dequeuedAt pkt.dispatchAt > cfg.gatewayDelay * millisecond ∨ pkt.recipient ≠ none := by
  unfold gatewayPacket
  split
  · rename_i late
    simp [completes_without_reply, late]
  · rename_i prompt
    simp only [prompt, false_or]
    cases found : pkt.recipient with
    | none => simp [not_completes_none]
    | some recipient =>
        simp only [ne_eq, reduceCtorEq, not_false_eq_true, iff_true]
        split
        · rename_i reply
          obtain ⟨after, called⟩ := on_surb_reply_returns cfg tables pkt recipient reply
          rw [called]
          exact (completes_without_reply _ rfl).mpr nofun
        · obtain ⟨after, ack, called, forward⟩ := on_to_user_returns cfg env tables roomy pkt recipient
          rw [called]
          cases ack with
          | none => exact (completes_without_reply _ rfl).mpr nofun
          | some ack =>
              obtain ⟨hop, next⟩ := forward ack rfl
              exact completes_with_reply _ ack rfl hop next nofun

theorem kaetzchen_completes (recipient : Digest) (found : pkt.recipient = some recipient) :
    Completes (kaetzchenPacket cfg env tables pkt) := by
  unfold kaetzchenPacket
  split
  · exact (completes_without_reply _ rfl).mpr nofun
  · obtain ⟨parsed, called⟩ := parse_forward_packet_no_panic cfg.geo roomy (pkt.payload.getD [])
    rw [called]
    cases parsed with
    | error e => exact (completes_without_reply _ rfl).mpr nofun
    | ok parsed =>
        obtain ⟨payload, surb⟩ := parsed
        simp only [found]
        split
        · exact (completes_without_reply _ rfl).mpr nofun
        · exact (completes_without_reply _ rfl).mpr nofun
        · rename_i surb _
          obtain ⟨made, called, forward⟩ := new_packet_from_surb_no_panic cfg.geo roomy env.sprpEncrypt env.nextID surb payload
          rw [called]
          cases made with
          | error e => exact (completes_without_reply _ rfl).mpr nofun
          | ok respPkt =>
              obtain ⟨⟨hop, next⟩, delay, delayed⟩ := forward respPkt rfl
              simp only [delayed]
              exact completes_with_reply _ _ rfl hop next nofun

theorem plugin_completes_iff (recipient : Digest) (found : pkt.recipient = some recipient) :
    Completes (pluginPacket cfg env tables pkt) ↔ recipient ∈ env.pluginsLater := by
  rw [mem_iff_lookup]
  simp only [pluginPacket, found]
  cases later : env.pluginsLater[recipient]? with
  | none => simp [completes_without_reply]
  | some there =>
      refine ⟨fun _ => ⟨there, rfl⟩, fun _ => ?_⟩
      dsimp only
      split
      · exact (completes_without_reply _ rfl).mpr nofun
      · obtain ⟨parsed, called⟩ := parse_forward_packet_no_panic cfg.geo roomy (pkt.payload.getD [])
        rw [called]
        cases parsed with
        | error e => exact (completes_without_reply _ rfl).mpr nofun
        | ok parsed => exact (completes_without_reply _ rfl).mpr nofun

theorem service_completes_iff :
    Completes (servicePacket cfg env tables pkt) ↔
      timeSub env.dequeuedAt pkt.dispatchAt > cfg.serviceDelay * millisecond ∨
        ∃ recipient, pkt.recipient = some recipient ∧
          (recipient ∈ tables.plugins → recipient ∈ tables.kaetzchen ∨ pkt.isSURBReply = true ∨ recipient ∈ env.pluginsLater) := by
  unfold servicePacket
  split
  · rename_i late
    simp [completes_without_reply, late]
  · rename_i prompt
    simp only [prompt, false_or]
    cases found : pkt.recipient with
    | none => simp [not_completes_none]
    | some recipient =>
        simp only [Option.some.injEq, exists_eq_left']
        by_cases kaetzchen : recipient ∈ tables.kaetzchen
        · simp only [kaetzchen, if_true, true_or, implies_true, iff_true]
          split
          · exact (completes_without_reply _ rfl).mpr nofun
          · exact kaetzchen_completes cfg env tables roomy pkt recipient found
        · by_cases plugin : recipient ∈ tables.plugins
          · simp only [kaetzchen, plugin, if_true, if_false, false_or, forall_true_left]
            by_cases reply : pkt.isSURBReply = true
            · simp [reply, completes_without_reply]
            · simp [reply, plugin_completes_iff cfg env tables roomy pkt recipient found]
          · simp [kaetzchen, plugin, completes_without_reply]

end Roomy

end Katzenpost
