import Katzenpost.Server.CryptoWorker

set_option autoImplicit false

namespace Katzenpost

open Go

structure ServerConn where
  fromClient : Bool
  sendTokens : UInt64
  maxSendTokens : UInt64
  sendTokenIncr : Int
  sendTokenLast : Int
deriving DecidableEq

structure PacketEffect where
  conn : ServerConn
  enqueued : Option Packet
  refused : Option PacketError
deriving DecidableEq

-- The tokens earned since sendTokenLast. A count is converted to uint64 and,
-- for the time, back.
def ServerConn.refill (c : ServerConn) (now : Int) : ServerConn :=
  let incrCount := (timeSub now c.sendTokenLast).tdiv c.sendTokenIncr
  if UInt64.ofInt incrCount > 0 then
    let sendTokens := c.sendTokens + UInt64.ofInt incrCount
    { c with
      sendTokenLast := c.sendTokenLast + c.sendTokenIncr * incrCount
      sendTokens := if sendTokens > c.maxSendTokens then c.maxSendTokens else sendTokens }
  else c

def ServerConn.takeToken (c : ServerConn) (now : Int) : ServerConn × Bool :=
  if c.fromClient = true ∧ c.sendTokenIncr ≠ 0 then
    let c := c.refill now
    if c.sendTokens = 0 then (c, false) else ({ c with sendTokens := c.sendTokens - 1 }, true)
  else (c, true)

def onSendPacket (cfg : ServerConfig) (c : ServerConn) (id : UInt64) (tokensAt recvAt : Int) (raw : Bytes) : PacketEffect :=
  match newPacket cfg.geo id raw with
  | .error e => ⟨c, none, some e⟩
  | .ok pkt =>
      let pkt := { pkt with
        mustForward := c.fromClient
        mustTerminate := cfg.isServiceNode && !c.fromClient }
      match c.takeToken tokensAt with
      | (c, false) => ⟨c, none, none⟩
      | (c, true) => ⟨c, some { pkt with recvAt := recvAt }, none⟩

structure SendRetrievePacketReply where
  surbID : SurbId
  payload : Bytes
deriving DecidableEq

def onSendRetrievePacket (cfg : ServerConfig) (c : ServerConn) (id : UInt64) (authenticated : Bool) (bucket : Option Bucket)
    (raw : Bytes) : PacketEffect × Option Bucket × Option SendRetrievePacketReply :=
  match newPacket cfg.geo id raw with
  | .error e => (⟨c, none, some e⟩, bucket, none)
  | .ok pkt =>
      if authenticated then
        let (after, head, _) := Bucket.get bucket true
        let surbID := (head.bind StoredMessage.surbID).getD []
        let msg := (head.map StoredMessage.msg).getD []
        (⟨c, some pkt, none⟩, after, some ⟨copied surbIDLength surbID, msg⟩)
      else (⟨c, some pkt, none⟩, bucket, none)

theorem new_packet_sized (cfg : ServerConfig) (id : UInt64) (raw : Bytes) (sized : raw.length = cfg.geo.packetLength) :
    newPacket cfg.geo id raw = .ok (blankPacket id raw) := if_neg (not_not.mpr sized)

theorem send_retrieve_enqueues (cfg : ServerConfig) (c : ServerConn) (id : UInt64) (authenticated : Bool)
    (bucket : Option Bucket) (raw : Bytes) (sized : raw.length = cfg.geo.packetLength) :
    (onSendRetrievePacket cfg c id authenticated bucket raw).1 = ⟨c, some (blankPacket id raw), none⟩ := by
  rw [onSendRetrievePacket, new_packet_sized cfg id raw sized]
  cases authenticated with
  | true => rfl
  | false => rfl

theorem send_marks_client (cfg : ServerConfig) (c : ServerConn) (id : UInt64) (tokensAt recvAt : Int) (raw : Bytes)
    (pkt : Packet) (enqueued : (onSendPacket cfg c id tokensAt recvAt raw).enqueued = some pkt) :
    pkt.mustForward = c.fromClient := by
  unfold onSendPacket at enqueued
  split at enqueued
  · cases enqueued
  · split at enqueued
    · cases enqueued
    · cases enqueued
      rfl

/-- The two commands are handled alike exactly if both refuse the packet. -/
theorem client_packets_alike_iff (cfg : ServerConfig) (c : ServerConn) (id : UInt64) (tokensAt recvAt : Int)
    (authenticated : Bool) (bucket : Option Bucket) (raw : Bytes) (client : c.fromClient = true) :
    (onSendRetrievePacket cfg c id authenticated bucket raw).1 = onSendPacket cfg c id tokensAt recvAt raw ↔
      raw.length ≠ cfg.geo.packetLength := by
  by_cases sized : raw.length = cfg.geo.packetLength
  · refine ⟨fun same => ?_, fun missized => absurd sized missized⟩
    rw [send_retrieve_enqueues cfg c id authenticated bucket raw sized] at same
    have marked := send_marks_client cfg c id tokensAt recvAt raw (blankPacket id raw) (by rw [← same])
    rw [client] at marked
    cases marked
  · refine ⟨fun _ => sized, fun _ => ?_⟩
    rw [onSendRetrievePacket, onSendPacket, newPacket, if_pos sized]

def gatewayConfig : ServerConfig := ⟨sampleGeometry, 1200000 * millisecond, true, false, 250, 500, 500, 750⟩

def clientConn (sendTokens : UInt64) : ServerConn := ⟨true, sendTokens, 4, 600 * millisecond, 2 ^ 63⟩

def sizedRaw : Bytes := List.replicate sampleGeometry.packetLength 0

theorem undersized_handled_alike :
    (clientConn 1).fromClient = true ∧
      (onSendRetrievePacket gatewayConfig (clientConn 1) 1 true none []).1 =
        onSendPacket gatewayConfig (clientConn 1) 1 (2 ^ 63) (2 ^ 63) [] :=
  ⟨rfl, (client_packets_alike_iff gatewayConfig (clientConn 1) 1 (2 ^ 63) (2 ^ 63) true none [] rfl).mpr (by decide +kernel)⟩

def forwardFate (pkt : Packet) : Option Handoff :=
  let unwrap : SphinxUnwrap := fun _ _ raw =>
    (raw, .ok ⟨none, List.replicate 32 1, [.nextNodeHop ⟨List.replicate 32 2, rfl⟩ [], .nodeDelay 5]⟩)
  let filter : BloomFilter Unit := ⟨fun _ => 0, fun _ => 1, fun _ _ => false, fun _ _ => ()⟩
  (processPacket filter unwrap gatewayConfig [] ((∅ : KeyMap).insert 7 0) (2 ^ 63) ⟨7, gracePeriod, gracePeriod⟩
    [⟨7, (), 1, false⟩] pkt).map Prod.snd

def forwardedPacket : Packet :=
  { blankPacket 1 sizedRaw with
    nextNodeHop := some (⟨List.replicate 32 2, rfl⟩, [])
    nodeDelay := some 5
    delay := 5 * millisecond
    recvAt := 2 ^ 63
    mustForward := true }

/-- The same packet of the same client, by the one command and by the other: the marks, then the
rate limit, then what the crypto worker makes of it. -/
theorem send_retrieve_differs :
    ((onSendRetrievePacket gatewayConfig (clientConn 1) 1 true none sizedRaw).1.enqueued.map Packet.mustForward = some false ∧
      (onSendPacket gatewayConfig (clientConn 1) 1 (2 ^ 63) (2 ^ 63) sizedRaw).enqueued.map Packet.mustForward = some true) ∧
    ((onSendRetrievePacket gatewayConfig (clientConn 0) 1 true none sizedRaw).1.enqueued.isSome = true ∧
      (onSendPacket gatewayConfig (clientConn 0) 1 (2 ^ 63) (2 ^ 63) sizedRaw).enqueued = none) ∧
    ((onSendRetrievePacket gatewayConfig (clientConn 1) 1 true none sizedRaw).1.enqueued.bind forwardFate = some .disposed ∧
      ∃ pkt, (onSendPacket gatewayConfig (clientConn 1) 1 (2 ^ 63) (2 ^ 63) sizedRaw).enqueued.bind forwardFate =
        some (.scheduler pkt)) := by
  refine ⟨⟨?_, ?_⟩, ⟨?_, ?_⟩, ?_, forwardedPacket, ?_⟩ <;> decide +kernel

section Age

variable {F : Type} (bloom : BloomFilter F) (unwrap : SphinxUnwrap)

/-- Without a time of receipt a packet is over-age for every worker. -/
theorem blank_over_age (cfg : ServerConfig) (decoyRecipient : Bytes) (mixKeys : KeyMap) (startAt : Int) (now : EpochNow)
    (heap : KeyHeap F) (id : UInt64) (raw : Bytes) (late : maxDuration ≤ startAt)
    (slack : cfg.unwrapDelay * millisecond < maxDuration) :
    processPacket bloom unwrap cfg decoyRecipient mixKeys startAt now heap (blankPacket id raw) = some (heap, .disposed) := by
  have age : timeSub startAt (blankPacket id raw).recvAt = maxDuration := by
    apply time_sub_far
    rw [show (blankPacket id raw).recvAt = 0 from rfl, sub_zero]
    exact late
  rw [processPacket, age, if_pos slack]

end Age

end Katzenpost
