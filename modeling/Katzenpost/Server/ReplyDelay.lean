import Katzenpost.Server.NodeSafety

set_option autoImplicit false

namespace Katzenpost

open Go

structure PluginRequest where
  requestAt : Int
  delay : Int
  id : UInt64
  payload : Bytes
  surb : Option Bytes
deriving DecidableEq

structure PluginResponse where
  requestAt : Int
  delay : Int
  id : UInt64
  payload : Bytes
  surb : Option Bytes
deriving DecidableEq

def pluginRequest (g : Geometry) (requestAt : Int) (pkt : Packet) : Option PluginRequest :=
  match (parseForwardPacket g (pkt.payload.getD [])).run with
  | some (.ok (payload, surb)) => some ⟨requestAt, pkt.delay, pkt.id, payload, surb⟩
  | _ => none

-- The plugin keeps the request's SURB. It hands back the two fields of the delay,
-- the time cut to what the encoding keeps of it, or leaves both unset.
def PluginResponse.answers (response : PluginResponse) (request : PluginRequest) : Prop :=
  response.surb = request.surb ∧
    (response.requestAt = zeroTime ∧ response.delay = 0 ∨
      response.requestAt ≤ request.requestAt ∧ response.delay = request.delay)

instance (response : PluginResponse) (request : PluginRequest) : Decidable (response.answers request) :=
  inferInstanceAs (Decidable (_ ∧ _))

def sendReply (g : Geometry) (sprpEncrypt : Bytes → Bytes → Bytes → Bytes) (id : UInt64) (now : Int) (r : PluginResponse) :
    Option Packet :=
  if r.payload.length > g.userForwardPayloadLength then none
  else if (r.surb.getD []).length = g.surbLength then
    match (newPacketFromSURB g sprpEncrypt id (r.surb.getD []) r.payload).run with
    | some (.ok respPkt) => some { respPkt with delay := max 0 (r.delay - timeSub now r.requestAt) }
    | _ => none
  else none

inductive Replies (cfg : ServerConfig) (tables : NodeTables) (pkt : Packet) : Int → Packet → Prop where
  | builtIn (env : HandlerEnv) (handled : Handled) (reply : Packet) (worked : kaetzchenPacket cfg env tables pkt = some handled)
      (answered : handled.reply = some reply) : Replies cfg tables pkt env.answeredAt reply
  | plugin (sprpEncrypt : Bytes → Bytes → Bytes → Bytes) (id : UInt64) (requestAt now : Int) (request : PluginRequest)
      (response : PluginResponse) (reply : Packet) (asked : pluginRequest cfg.geo requestAt pkt = some request)
      (answers : response.answers request) (later : response.requestAt ≤ now)
      (sent : sendReply cfg.geo sprpEncrypt id now response = some reply) : Replies cfg tables pkt now reply

structure HonoursDelay (d : UInt32) (r s : Int) (reply : Packet) : Prop where
  delay : reply.delay = max 0 (d.toNat * millisecond - (s - r))
  command : ∃ n : UInt32, reply.nodeDelay = some n ∧ n.toNat = reply.delay / millisecond
  leaves : r + d.toNat * millisecond ≤ s + reply.delay

section Delivered

theorem set_command_delay (pkt after : Packet) (cmd : RoutingCommand) (set : pkt.setCommand cmd = .ok after) :
    after.delay = pkt.delay := by
  have vacant := (set_command_ok_iff pkt cmd).mp ⟨after, set⟩
  cases cmd
  all_goals
    simp only [Packet.setCommand, RoutingCommand.kind, Packet.has] at set vacant
    rw [if_neg (by simp [vacant])] at set
    cases set
    rfl

theorem split_commands_delay (pkt after : Packet) (cmds : List RoutingCommand) (split : pkt.splitCommands cmds = .ok after) :
    after.delay = pkt.delay := by
  induction cmds generalizing pkt with
  | nil =>
      cases split
      rfl
  | cons cmd rest ih =>
      rw [Packet.splitCommands] at split
      cases set : pkt.setCommand cmd with
      | error e => simp [set] at split
      | ok mid =>
          rw [set] at split
          exact (ih mid split).trans (set_command_delay pkt mid cmd set)

theorem set_times (pkt after : Packet) (payload : Option Bytes) (cmds : List RoutingCommand)
    (set : pkt.set payload cmds = .ok after) : after.delay = pkt.delay ∧ after.recvAt = pkt.recvAt := by
  rw [Packet.set] at set
  exact ⟨split_commands_delay { pkt with payload := payload } after cmds set, (split_commands_spec _ after cmds set).1.recvAt⟩

variable {F : Type} (bloom : BloomFilter F) (unwrap : SphinxUnwrap)

def Tried.packet : Tried → Option Packet
  | .failed pkt _ => some pkt
  | .rejected _ => none
  | .passed pkt _ => some pkt

theorem try_key_times (heap after : KeyHeap F) (ref : KeyRef) (pkt left : Packet) (tried : Tried)
    (turn : tryKey bloom unwrap heap ref pkt = some (after, tried)) (kept : tried.packet = some left) :
    left.delay = pkt.delay ∧ left.recvAt = pkt.recvAt := by
  unfold tryKey at turn
  split at turn
  · cases turn
  · split at turn
    · cases turn
      cases kept
      exact ⟨rfl, rfl⟩
    · split at turn
      · cases turn
        cases kept
      · rename_i set
        split at turn
        · cases turn
        · cases turn
          cases kept
        · cases turn
          cases kept
          have times := set_times _ left _ _ set
          exact times

theorem try_keys_times (lastErr : UnwrapError) (heap after : KeyHeap F) (pkt opened : Packet) (keys : List KeyRef)
    (tried : tryKeys bloom unwrap lastErr heap pkt keys = some (after, .ok opened)) :
    opened.delay = pkt.delay ∧ opened.recvAt = pkt.recvAt := by
  induction keys generalizing lastErr heap pkt with
  | nil => simp [tryKeys] at tried
  | cons ref rest ih =>
      rw [tryKeys] at tried
      cases turn : tryKey bloom unwrap heap ref pkt with
      | none => simp [turn] at tried
      | some result =>
          obtain ⟨heap', tried'⟩ := result
          have times := fun left => try_key_times bloom unwrap heap heap' ref pkt left tried' turn
          rw [turn] at tried
          cases tried' with
          | failed next e =>
              obtain ⟨delay, recvAt⟩ := times next rfl
              obtain ⟨delay', recvAt'⟩ := ih e heap' next tried
              exact ⟨delay'.trans delay, recvAt'.trans recvAt⟩
          | rejected e => simp at tried
          | passed next tag =>
              simp only [Option.some.injEq, Prod.mk.injEq, Except.ok.injEq] at tried
              exact tried.2 ▸ times next rfl

theorem route_service_times (cfg : ServerConfig) (decoyRecipient : Bytes) (startAt : Int) (pkt delivered : Packet)
    (routed : routePacket cfg decoyRecipient startAt pkt = some (.serviceNode delivered)) :
    delivered.delay = pkt.delay ∧ delivered.recvAt = pkt.recvAt := by
  unfold routePacket at routed
  dsimp only at routed
  repeat' split at routed
  all_goals cases routed
  exact ⟨rfl, rfl⟩

theorem delivered_times (cfg : ServerConfig) (decoyRecipient : Bytes) (mixKeys : KeyMap) (startAt r : Int) (now : EpochNow)
    (heap after : KeyHeap F) (id : UInt64) (raw : Bytes) (mustForward mustTerminate : Bool) (pkt : Packet)
    (delivered : processPacket bloom unwrap cfg decoyRecipient mixKeys startAt now heap
      (receivedPacket id raw r mustForward mustTerminate) = some (after, .serviceNode pkt)) :
    pkt.delay = 0 ∧ pkt.recvAt = r := by
  unfold processPacket at delivered
  split at delivered
  · cases delivered
  · split at delivered
    · cases delivered
    · cases delivered
    · rename_i opened unwrapped
      obtain ⟨handoff, routed, same⟩ := Option.map_eq_some_iff.mp delivered
      cases same
      obtain ⟨delay, recvAt⟩ := route_service_times cfg decoyRecipient startAt opened pkt routed
      unfold doUnwrap at unwrapped
      split at unwrapped
      · cases unwrapped
      · obtain ⟨delay', recvAt'⟩ := try_keys_times bloom unwrap _ heap after _ opened _ unwrapped
        exact ⟨delay.trans delay', recvAt.trans recvAt'⟩

end Delivered

section Reply

theorem new_packet_from_surb_delays (g : Geometry) (sprpEncrypt : Bytes → Bytes → Bytes → Bytes) (id : UInt64)
    (surb payload : Bytes) (respPkt : Packet)
    (made : (newPacketFromSURB g sprpEncrypt id surb payload).run = some (.ok respPkt)) : respPkt.nodeDelay = some 0 := by
  unfold newPacketFromSURB at made
  split at made
  · cases made
  · rw [ExceptT.run_bind] at made
    cases called : (sphinxPacketFromSURB g sprpEncrypt surb (copied g.forwardPayloadLength payload)).run with
    | none => simp [called] at made
    | some packed =>
        rw [called] at made
        cases packed with
        | error e => cases made
        | ok packed =>
            obtain ⟨raw, firstHop⟩ := packed
            simp only [Option.bind_eq_bind, Option.bind_some] at made
            by_cases sized : raw.length = g.packetLength
            · rw [newPacket, if_neg (not_not.mpr sized)] at made
              cases made
              rfl
            · rw [newPacket, if_pos sized] at made
              cases made

theorem nothing_left (now since : Int) (later : since ≤ now) : max 0 (0 - timeSub now since) = 0 := by
  have elapsed : 0 ≤ timeSub now since := by
    unfold timeSub maxDuration
    omega
  omega

theorem replies_at_once (cfg : ServerConfig) (tables : NodeTables) (pkt reply : Packet) (r s : Int) (unset : pkt.delay = 0)
    (received : pkt.recvAt = r) (later : r ≤ s) (replies : Replies cfg tables pkt s reply) :
    reply.delay = 0 ∧ reply.nodeDelay = some 0 := by
  cases replies with
  | builtIn env handled reply worked answered =>
      have spent : pkt.newDelay env.answeredAt = 0 := by
        rw [Packet.newDelay, unset, received]
        exact nothing_left _ _ later
      unfold kaetzchenPacket at worked
      repeat' split at worked
      all_goals cases worked
      all_goals cases answered
      rw [spent]
      exact ⟨rfl, rfl⟩
  | plugin sprpEncrypt id requestAt now request response reply asked answers since sent =>
      have echoed : response.delay = 0 := by
        rcases answers.2 with ⟨-, none⟩ | ⟨-, same⟩
        · exact none
        · unfold pluginRequest at asked
          split at asked
          · cases asked
            exact same.trans unset
          · cases asked
      unfold sendReply at sent
      repeat' split at sent
      all_goals cases sent
      rename_i respPkt made
      rw [echoed]
      exact ⟨nothing_left _ _ since, new_packet_from_surb_delays _ _ _ _ _ respPkt made⟩

variable {F : Type} (bloom : BloomFilter F) (unwrap : SphinxUnwrap)

/-- A reply leaves at once: the delay is kept only if the answer itself has taken so long. -/
theorem reply_delay_honoured_iff (cfg : ServerConfig) (tables : NodeTables) (mixKeys : KeyMap) (startAt r s : Int)
    (now : EpochNow) (heap after : KeyHeap F) (id : UInt64) (raw : Bytes) (mustForward mustTerminate : Bool)
    (pkt reply : Packet)
    (delivered : processPacket bloom unwrap cfg tables.decoyRecipient mixKeys startAt now heap
      (receivedPacket id raw r mustForward mustTerminate) = some (after, .serviceNode pkt))
    (later : r ≤ s) (replies : Replies cfg tables pkt s reply) :
    ∀ d ∈ pkt.nodeDelay, HonoursDelay d r s reply ↔ d.toNat * millisecond ≤ s - r := by
  obtain ⟨unset, received⟩ := delivered_times bloom unwrap cfg tables.decoyRecipient mixKeys startAt r now heap after id raw
    mustForward mustTerminate pkt delivered
  obtain ⟨atOnce, command⟩ := replies_at_once cfg tables pkt reply r s unset received later replies
  intro d _
  constructor
  · intro honoured
    have leaves := honoured.leaves
    omega
  · intro passed
    refine ⟨?_, ⟨0, command, ?_⟩, ?_⟩
    · omega
    · rw [atOnce]
      rfl
    · omega

end Reply

def echoRecipient : Digest := ⟨List.replicate 32 3, rfl⟩

def serviceConfig : ServerConfig := { gatewayConfig with isGatewayNode := false, isServiceNode := true }

def requestPayload : Bytes :=
  [1, 0] ++ List.replicate sampleGeometry.surbLength 7 ++ List.replicate sampleGeometry.userForwardPayloadLength 9

def opensToRequest : SphinxUnwrap :=
  fun _ _ raw => (raw, .ok ⟨some requestPayload, List.replicate 32 1, [.recipient echoRecipient, .nodeDelay 5]⟩)

def receivedAt : Int := 2 ^ 63

def deliveredRequest : Packet :=
  { receivedPacket 1 sizedRaw receivedAt false true with
    payload := some requestPayload
    recipient := some echoRecipient
    nodeDelay := some 5
    dispatchAt := receivedAt }

def echoEnv (answeredAt : Int) : HandlerEnv :=
  ⟨fun _ _ b => b, 2, receivedAt, receivedAt, answeredAt, (∅ : GoMap Digest Unit).insert echoRecipient (), ∅⟩

def pluginAnswers (request : PluginRequest) : List PluginResponse :=
  [⟨receivedAt, request.delay, 1, [4], request.surb⟩, ⟨zeroTime, 0, 1, [4], request.surb⟩]

theorem request_delivered :
    ∃ after, processPacket openFilter opensToRequest serviceConfig idleTables.decoyRecipient oneKeyMap receivedAt midEpoch oneKey
      (receivedPacket 1 sizedRaw receivedAt false true) = some (after, .serviceNode deliveredRequest) := by
  have result : (processPacket openFilter opensToRequest serviceConfig idleTables.decoyRecipient oneKeyMap receivedAt midEpoch
      oneKey (receivedPacket 1 sizedRaw receivedAt false true)).map Prod.snd = some (.serviceNode deliveredRequest) := by
    decide +kernel
  obtain ⟨⟨after, handoff⟩, processed, same⟩ := Option.map_eq_some_iff.mp result
  exact ⟨after, by rw [processed, ← same]⟩

theorem echo_replies (s : Int) (reply : Packet)
    (answered : (kaetzchenPacket serviceConfig (echoEnv s) idleTables deliveredRequest).bind Handled.reply = some reply) :
    Replies serviceConfig idleTables deliveredRequest s reply := by
  obtain ⟨handled, worked, replied⟩ := Option.bind_eq_some_iff.mp answered
  exact .builtIn (echoEnv s) handled reply worked replied

theorem late_answer_honours :
    ∃ reply, Replies serviceConfig idleTables deliveredRequest (receivedAt + 6 * millisecond) reply ∧
      HonoursDelay 5 receivedAt (receivedAt + 6 * millisecond) reply := by
  have answered : ((kaetzchenPacket serviceConfig (echoEnv (receivedAt + 6 * millisecond)) idleTables
      deliveredRequest).bind Handled.reply).isSome = true := by decide +kernel
  obtain ⟨reply, answered⟩ := Option.isSome_iff_exists.mp answered
  obtain ⟨after, delivered⟩ := request_delivered
  have replies := echo_replies _ reply answered
  exact ⟨reply, replies, (reply_delay_honoured_iff openFilter opensToRequest serviceConfig idleTables oneKeyMap receivedAt
    receivedAt _ midEpoch oneKey after 1 sizedRaw false true deliveredRequest reply delivered (by decide) replies 5 rfl).mpr
    (by decide)⟩

/-- The echo answers after 1 ms. Its reply should wait for 4 ms and goes at once, and so does that
of a plugin. -/
theorem prompt_answer_early :
    (∃ after, processPacket openFilter opensToRequest serviceConfig idleTables.decoyRecipient oneKeyMap receivedAt midEpoch
      oneKey (receivedPacket 1 sizedRaw receivedAt false true) = some (after, .serviceNode deliveredRequest)) ∧
    (∃ reply, (kaetzchenPacket serviceConfig (echoEnv (receivedAt + millisecond)) idleTables deliveredRequest).bind
      Handled.reply = some reply ∧ reply.delay = 0 ∧ ¬ HonoursDelay 5 receivedAt (receivedAt + millisecond) reply) ∧
    ∃ request, pluginRequest serviceConfig.geo receivedAt deliveredRequest = some request ∧
      ∀ response ∈ pluginAnswers request,
        response.answers request ∧ ∃ reply, sendReply serviceConfig.geo (fun _ _ b => b) 2 (receivedAt + millisecond) response =
          some reply ∧ reply.delay = 0 ∧ ¬ HonoursDelay 5 receivedAt (receivedAt + millisecond) reply := by
  have early : ∀ reply : Packet, reply.delay = 0 → ¬ HonoursDelay 5 receivedAt (receivedAt + millisecond) reply := by
    intro reply atOnce honoured
    exact absurd (atOnce ▸ honoured.delay) (by decide)
  refine ⟨request_delivered, ?_, ?_⟩
  · have answered : ((kaetzchenPacket serviceConfig (echoEnv (receivedAt + millisecond)) idleTables deliveredRequest).bind
        Handled.reply).map Packet.delay = some 0 := by decide +kernel
    obtain ⟨reply, replied, atOnce⟩ := Option.map_eq_some_iff.mp answered
    exact ⟨reply, replied, atOnce, early reply atOnce⟩
  · have asked : (pluginRequest serviceConfig.geo receivedAt deliveredRequest).any (fun request =>
        decide (∀ response ∈ pluginAnswers request,
          response.answers request ∧ (sendReply serviceConfig.geo (fun _ _ b => b) 2 (receivedAt + millisecond) response).map
            Packet.delay = some 0)) = true := by decide +kernel
    obtain ⟨request, asked, all⟩ := (Option.any_eq_true _ _).mp asked
    refine ⟨request, asked, fun response member => ?_⟩
    obtain ⟨answers, sent⟩ := of_decide_eq_true all response member
    obtain ⟨reply, sent, atOnce⟩ := Option.map_eq_some_iff.mp sent
    exact ⟨answers, reply, sent, atOnce, early reply atOnce⟩

end Katzenpost
