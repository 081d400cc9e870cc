import Katzenpost.Server.Handlers
import Katzenpost.Server.Incoming

set_option autoImplicit false

namespace Katzenpost

open Go

def receivedPacket (id : UInt64) (raw : Bytes) (recvAt : Int) (mustForward mustTerminate : Bool) : Packet :=
  { blankPacket id raw with recvAt := recvAt, mustForward := mustForward, mustTerminate := mustTerminate }

def forwardKinds (cmds : List RoutingCommand) : Prop :=
  CommandKind.nextNodeHop ∈ cmds.map RoutingCommand.kind ∧ CommandKind.nodeDelay ∈ cmds.map RoutingCommand.kind ∧
    CommandKind.recipient ∉ cmds.map RoutingCommand.kind ∧ CommandKind.surbReply ∉ cmds.map RoutingCommand.kind

def surbReplyKinds (cmds : List RoutingCommand) : Prop :=
  CommandKind.nextNodeHop ∉ cmds.map RoutingCommand.kind ∧ CommandKind.nodeDelay ∉ cmds.map RoutingCommand.kind ∧
    CommandKind.recipient ∈ cmds.map RoutingCommand.kind ∧ CommandKind.surbReply ∈ cmds.map RoutingCommand.kind

-- When the commands of a new packet do no harm: it came from a client, or the
-- node is a mix, or they are those of a forward packet; or else they name a
-- recipient, and a plugin that is to get a request stays registered. A worker
-- that takes the packet up too late does not look at it.
def SafeCommands (cfg : ServerConfig) (env : HandlerEnv) (tables : NodeTables) (startAt : Int) (mustForward : Bool)
    (cmds : List RoutingCommand) : Prop :=
  mustForward = true ∨ (cfg.isGatewayNode = false ∧ cfg.isServiceNode = false) ∨ forwardKinds cmds ∨
    if cfg.isGatewayNode = true then
      timeSub env.dequeuedAt startAt > cfg.gatewayDelay * millisecond ∨
        CommandKind.recipient ∈ cmds.map RoutingCommand.kind
    else
      timeSub env.dequeuedAt startAt > cfg.serviceDelay * millisecond ∨
        ∃ recipient, RoutingCommand.recipient recipient ∈ cmds ∧
          (recipient ∈ tables.plugins → recipient ∈ tables.kaetzchen ∨ surbReplyKinds cmds ∨ recipient ∈ env.pluginsLater)

section Node

variable {F : Type} (bloom : BloomFilter F) (unwrap : SphinxUnwrap)

def nodePacket (cfg : ServerConfig) (env : HandlerEnv) (tables : NodeTables) (mixKeys : KeyMap) (startAt : Int)
    (now : EpochNow) (heap : KeyHeap F) (pkt : Packet) : Option (KeyHeap F × Handled) :=
  match processPacket bloom unwrap cfg tables.decoyRecipient mixKeys startAt now heap pkt with
  | none => none
  | some (heap, handoff) => ((handOff cfg env tables handoff).bind withReply).map fun handled => (heap, handled)

def openedBy (heap : KeyHeap F) : Bytes → List KeyRef → Option (MixKey F × Unwrapped)
  | _, [] => none
  | raw, ref :: rest =>
      match heap[ref]? with
      | none => none
      | some k =>
          match unwrap ref k.closed raw with
          | (raw, .error _) => openedBy heap raw rest
          | (_, .ok u) => some (k, u)

def checkOpened (heap : KeyHeap F) (ref : KeyRef) (k : MixKey F) (u : Unwrapped) (pkt : Packet) :
    Option (KeyHeap F × Except UnwrapError Packet) :=
  match pkt.set u.payload u.cmds with
  | .error e => some (heap, .error (.packet e))
  | .ok pkt =>
      match k.isReplay bloom u.tag with
      | none => none
      | some (true, k) => some (heap.set ref k, .error .replay)
      | some (false, k) => some (heap.set ref k, .ok pkt)

theorem try_keys_unopened (lastErr : UnwrapError) (heap : KeyHeap F) (pkt : Packet) (keys : List KeyRef)
    (pointers : ∀ ref ∈ keys, ref < heap.length) (unopened : openedBy unwrap heap pkt.raw keys = none) :
    ∃ e, tryKeys bloom unwrap lastErr heap pkt keys = some (heap, .error e) := by
  induction keys generalizing pkt lastErr with
  | nil => exact ⟨lastErr, rfl⟩
  | cons ref rest ih =>
      obtain ⟨key, here⟩ : ∃ key, heap[ref]? = some key := ⟨_, List.getElem?_eq_getElem (pointers ref List.mem_cons_self)⟩
      rw [openedBy, here] at unopened
      rw [tryKeys, tryKey, here]
      dsimp only at unopened ⊢
      generalize unwrap ref key.closed pkt.raw = result at unopened ⊢
      obtain ⟨raw, e | u⟩ := result
      · exact ih (.sphinx e) { pkt with raw := raw } (fun other member => pointers other (List.mem_cons_of_mem _ member)) unopened
      · cases unopened

theorem try_keys_opened (lastErr : UnwrapError) (heap : KeyHeap F) (pkt : Packet) (keys : List KeyRef)
    (pointers : ∀ ref ∈ keys, ref < heap.length) (k : MixKey F) (u : Unwrapped)
    (opened : openedBy unwrap heap pkt.raw keys = some (k, u)) :
    ∃ raw ref, tryKeys bloom unwrap lastErr heap pkt keys = checkOpened bloom heap ref k u { pkt with raw := raw } := by
  induction keys generalizing pkt lastErr with
  | nil => cases opened
  | cons ref rest ih =>
      obtain ⟨key, here⟩ : ∃ key, heap[ref]? = some key := ⟨_, List.getElem?_eq_getElem (pointers ref List.mem_cons_self)⟩
      rw [openedBy, here] at opened
      rw [tryKeys, tryKey, here]
      dsimp only at opened ⊢
      generalize unwrap ref key.closed pkt.raw = result at opened ⊢
      obtain ⟨raw, e | u'⟩ := result
      · exact ih (.sphinx e) { pkt with raw := raw } (fun other member => pointers other (List.mem_cons_of_mem _ member)) opened
      · cases opened
        refine ⟨raw, ref, ?_⟩
        unfold checkOpened
        dsimp only
        cases set : ({ pkt with raw := raw } : Packet).set u.payload u.cmds with
        | error e => rfl
        | ok pkt' =>
            dsimp only
            cases replay : k.isReplay bloom u.tag with
            | none => rfl
            | some result =>
                obtain ⟨seen, k'⟩ := result
                cases seen with
                | true => rfl
                | false => rfl

end Node

section Routes

variable (cfg : ServerConfig) (env : HandlerEnv) (tables : NodeTables) (startAt : Int) (pkt : Packet)

def SafePacket : Prop :=
  pkt.mustForward = true ∨ (cfg.isGatewayNode = false ∧ cfg.isServiceNode = false) ∨ pkt.isForward = true ∨
    if cfg.isGatewayNode = true then
      timeSub env.dequeuedAt startAt > cfg.gatewayDelay * millisecond ∨ pkt.recipient ≠ none
    else
      timeSub env.dequeuedAt startAt > cfg.serviceDelay * millisecond ∨
        ∃ recipient, pkt.recipient = some recipient ∧
          (recipient ∈ tables.plugins → recipient ∈ tables.kaetzchen ∨ pkt.isSURBReply = true ∨ recipient ∈ env.pluginsLater)

theorem decoy_reply_returns (decoyRecipient : Bytes) :
    ∃ expected, isDecoyReply decoyRecipient pkt = some expected ∧ (expected = true → pkt.isSURBReply = true) := by
  unfold isDecoyReply
  split
  · rename_i reply
    obtain ⟨⟨recipient, found⟩, _⟩ := surb_reply_commands pkt reply
    exact ⟨_, by rw [expectReply, found]; rfl, fun _ => reply⟩
  · exact ⟨false, rfl, nofun⟩

theorem disposed_completes : Completes (handOff cfg env tables .disposed) := (completes_without_reply _ rfl).mpr nofun

theorem route_forward_completes (forward : pkt.isForward = true) :
    ∃ handoff, routePacket cfg tables.decoyRecipient startAt pkt = some handoff ∧ Completes (handOff cfg env tables handoff) := by
  obtain ⟨⟨hop, next⟩, delay, delayed⟩ := forward_commands pkt forward
  simp only [routePacket, forward, if_true, delayed]
  split
  · exact ⟨_, rfl, disposed_completes cfg env tables⟩
  · split
    · exact ⟨_, rfl, disposed_completes cfg env tables⟩
    · split
      · exact ⟨_, rfl, disposed_completes cfg env tables⟩
      · exact ⟨_, rfl, scheduler_completes tables _ hop next⟩

theorem surb_reply_safe (reply : pkt.isSURBReply = true) : SafePacket cfg env tables startAt pkt := by
  obtain ⟨⟨recipient, found⟩, _⟩ := surb_reply_commands pkt reply
  refine Or.inr (Or.inr (Or.inr ?_))
  split
  · exact Or.inr (by simp [found])
  · exact Or.inr ⟨recipient, found, fun _ => Or.inr (Or.inl reply)⟩

theorem route_completes_iff (roomy : RoomyGeometry cfg.geo) :
    (∃ handoff, routePacket cfg tables.decoyRecipient startAt pkt = some handoff ∧
      Completes (handOff cfg env tables handoff)) ↔ SafePacket cfg env tables startAt pkt := by
  by_cases forward : pkt.isForward = true
  · exact ⟨fun _ => Or.inr (Or.inr (Or.inl forward)), fun _ => route_forward_completes cfg env tables startAt pkt forward⟩
  · obtain ⟨expected, asked, reply⟩ := decoy_reply_returns pkt tables.decoyRecipient
    simp only [routePacket, forward, if_false, asked, Bool.false_eq_true]
    by_cases mix : cfg.isGatewayNode = false ∧ cfg.isServiceNode = false
    · rw [if_pos (by simp [mix])]
      refine ⟨fun _ => Or.inr (Or.inl mix), fun _ => ?_⟩
      cases expected with
      | true => exact ⟨_, rfl, decoy_completes tables pkt (reply rfl)⟩
      | false => exact ⟨_, rfl, disposed_completes cfg env tables⟩
    · rw [if_neg (by simpa using mix)]
      by_cases marked : pkt.mustForward = true
      · rw [if_pos marked]
        exact ⟨fun _ => Or.inl marked, fun _ => ⟨_, rfl, disposed_completes cfg env tables⟩⟩
      · rw [if_neg marked]
        cases expected with
        | true =>
            exact ⟨fun _ => surb_reply_safe cfg env tables startAt pkt (reply rfl), fun _ =>
              ⟨_, rfl, decoy_completes tables pkt (reply rfl)⟩⟩
        | false =>
            rw [SafePacket, or_iff_right marked, or_iff_right mix, or_iff_right forward]
            by_cases gateway : cfg.isGatewayNode = true
            · rw [if_pos gateway, if_pos gateway]
              simp only [Option.some.injEq, exists_eq_left', handOff]
              exact gateway_completes_iff cfg env tables roomy { pkt with dispatchAt := startAt }
            · have service : cfg.isServiceNode = true := by simpa [gateway] using mix
              rw [if_neg gateway, if_neg gateway, if_pos service]
              simp only [Option.some.injEq, exists_eq_left', handOff]
              exact service_completes_iff cfg env tables roomy { pkt with dispatchAt := startAt }

theorem safe_packet_iff (after : Packet) (payload : Option Bytes) (cmds : List RoutingCommand)
    (bare : ∀ kind, pkt.has kind = false) (set : pkt.set payload cmds = .ok after) :
    SafePacket cfg env tables startAt after ↔ SafeCommands cfg env tables startAt pkt.mustForward cmds := by
  obtain ⟨same, has, found⟩ := split_commands_spec { pkt with payload := payload } after cmds set
  have kinds : ∀ kind, after.has kind = decide (kind ∈ cmds.map RoutingCommand.kind) := by
    intro kind
    rw [has kind, show Packet.has { pkt with payload := payload } kind = false from bare kind, Bool.false_or]
  have unaddressed : pkt.recipient = none := Option.isNone_iff_eq_none.mp (Option.isSome_eq_false_iff.mp (bare .recipient))
  have addressed : ∀ id, after.recipient = some id ↔ RoutingCommand.recipient id ∈ cmds := by
    intro id
    rw [found id, show Packet.recipient { pkt with payload := payload } = none from unaddressed]
    simp
  have forward : after.isForward = true ↔ forwardKinds cmds := by
    simp only [is_forward_iff, kinds, decide_eq_true_iff, decide_eq_false_iff_not, forwardKinds]
  have reply : after.isSURBReply = true ↔ surbReplyKinds cmds := by
    simp only [is_surb_reply_iff, kinds, decide_eq_true_iff, decide_eq_false_iff_not, surbReplyKinds]
  have named : after.recipient ≠ none ↔ CommandKind.recipient ∈ cmds.map RoutingCommand.kind := by
    rw [← Option.isSome_iff_ne_none, ← decide_eq_true_iff (p := _ ∈ _), ← kinds]
    rfl
  simp only [SafePacket, SafeCommands, same.mustForward, forward, reply, named, addressed]

end Routes

section Node

variable {F : Type} (bloom : BloomFilter F) (unwrap : SphinxUnwrap) (cfg : ServerConfig) (env : HandlerEnv)
  (tables : NodeTables) (startAt : Int)

def SafeOpened (k : MixKey F) (u : Unwrapped) (mustForward : Bool) : Prop :=
  (u.cmds.map RoutingCommand.kind).Nodup → u.tag.length = tagLength →
    bloom.entries k.filter < bloom.maxEntries k.filter ∧
      (bloom.test k.filter u.tag = false → SafeCommands cfg env tables startAt mustForward u.cmds)

theorem check_opened_iff (heap : KeyHeap F) (ref : KeyRef) (k : MixKey F) (u : Unwrapped) (pkt : Packet)
    (bare : ∀ kind, pkt.has kind = false) :
    (∃ after result, checkOpened bloom heap ref k u pkt = some (after, result) ∧
      ∀ opened, result = .ok opened → SafePacket cfg env tables startAt opened) ↔
      SafeOpened bloom cfg env tables startAt k u pkt.mustForward := by
  have accepted := split_commands_ok_iff { pkt with payload := u.payload } u.cmds
  unfold checkOpened SafeOpened
  cases set : pkt.set u.payload u.cmds with
  | error e =>
      refine ⟨fun _ distinct => ?_, fun _ => ⟨_, _, rfl, fun _ same => nomatch same⟩⟩
      obtain ⟨after, split⟩ := accepted.mpr ⟨distinct, fun cmd _ => bare cmd.kind⟩
      cases set.symm.trans split
  | ok opened =>
      have distinct := (accepted.mp ⟨opened, set⟩).1
      have safe := safe_packet_iff cfg env tables startAt pkt opened u.payload u.cmds bare set
      simp only [MixKey.isReplay, distinct, forall_true_left]
      by_cases sized : u.tag.length = tagLength
      · rw [if_neg (not_not.mpr sized)]
        by_cases full : bloom.entries k.filter ≥ bloom.maxEntries k.filter
        · rw [if_pos full]
          simp only [sized, forall_true_left, reduceCtorEq, false_and, exists_false, false_iff, not_and]
          intro room
          omega
        · rw [if_neg full]
          simp only [sized, forall_true_left, Nat.lt_of_not_ge full, true_and]
          cases seen : bloom.test k.filter u.tag with
          | true => simp
          | false => simpa using safe
      · rw [if_pos sized]
        simp [sized]

def PointsInto (mixKeys : KeyMap) (heap : KeyHeap F) : Prop :=
  ∀ (epoch : UInt64) (ref : KeyRef), mixKeys[epoch]? = some ref → ref < heap.length

theorem candidate_pointers (heap : KeyHeap F) (mixKeys : KeyMap) (now : EpochNow) (keys : List KeyRef)
    (pointers : PointsInto mixKeys heap)
    (candidates : candidateKeys mixKeys now = .ok keys) : ∀ ref ∈ keys, ref < heap.length := by
  unfold candidateKeys at candidates
  cases first : mixKeys[now.epoch]? with
  | none => simp [first] at candidates
  | some k =>
      simp only [first, Except.ok.injEq] at candidates
      subst candidates
      intro ref member
      cases List.mem_cons.mp member with
      | inl same => exact pointers _ ref (same ▸ first)
      | inr other =>
          rw [Option.mem_toList] at other
          split at other
          · exact pointers _ ref other
          · split at other
            · exact pointers _ ref other
            · cases other

theorem do_unwrap_iff (heap : KeyHeap F) (mixKeys : KeyMap) (now : EpochNow) (pkt : Packet)
    (pointers : PointsInto mixKeys heap) (bare : ∀ kind, pkt.has kind = false) :
    (∃ after result, doUnwrap bloom unwrap mixKeys now heap pkt = some (after, result) ∧
      ∀ opened, result = .ok opened → SafePacket cfg env tables startAt opened) ↔
      ∀ keys k u, candidateKeys mixKeys now = .ok keys → openedBy unwrap heap pkt.raw keys = some (k, u) →
        SafeOpened bloom cfg env tables startAt k u pkt.mustForward := by
  unfold doUnwrap
  cases candidates : candidateKeys mixKeys now with
  | error e =>
      exact ⟨fun _ _ _ _ same => (nomatch same), fun _ => ⟨_, _, rfl, fun _ same => nomatch same⟩⟩
  | ok keys =>
      have valid := candidate_pointers heap mixKeys now keys pointers candidates
      have only : (∀ keys' k u, Except.ok (ε := UnwrapError) keys = .ok keys' → openedBy unwrap heap pkt.raw keys' = some (k, u) →
          SafeOpened bloom cfg env tables startAt k u pkt.mustForward) ↔
          ∀ k u, openedBy unwrap heap pkt.raw keys = some (k, u) → SafeOpened bloom cfg env tables startAt k u pkt.mustForward := by
        refine ⟨fun all k u => all keys k u rfl, fun all keys' k u same => ?_⟩
        cases same
        exact all k u
      rw [only]
      cases opened : openedBy unwrap heap pkt.raw keys with
      | none =>
          obtain ⟨e, failed⟩ := try_keys_unopened bloom unwrap .outOfKeys heap pkt keys valid opened
          exact ⟨fun _ _ _ same => (nomatch same), fun _ => ⟨_, _, failed, fun _ same => nomatch same⟩⟩
      | some found =>
          obtain ⟨k, u⟩ := found
          obtain ⟨raw, ref, tried⟩ := try_keys_opened bloom unwrap .outOfKeys heap pkt keys valid k u opened
          dsimp only
          rw [tried, check_opened_iff bloom cfg env tables startAt heap ref k u { pkt with raw := raw } bare]
          refine ⟨fun safe k' u' same => ?_, fun safe => safe k u rfl⟩
          cases same
          exact safe

theorem node_packet_iff (heap : KeyHeap F) (mixKeys : KeyMap) (now : EpochNow) (pkt : Packet)
    (roomy : RoomyGeometry cfg.geo) (prompt : ¬ timeSub startAt pkt.recvAt > cfg.unwrapDelay * millisecond) :
    (∃ after handled, nodePacket bloom unwrap cfg env tables mixKeys startAt now heap pkt = some (after, handled) ∧
      handled.fate ≠ .leaked) ↔
      ∃ after result, doUnwrap bloom unwrap mixKeys now heap pkt = some (after, result) ∧
        ∀ opened, result = .ok opened → SafePacket cfg env tables startAt opened := by
  unfold nodePacket processPacket
  rw [if_neg prompt]
  cases doUnwrap bloom unwrap mixKeys now heap pkt with
  | none => simp
  | some unwrapped =>
      obtain ⟨after, result⟩ := unwrapped
      cases result with
      | error e =>
          refine ⟨fun _ => ⟨after, _, rfl, fun _ same => ?_⟩, fun _ => ⟨after, ⟨tables, .disposed, none⟩, rfl, fun same => ?_⟩⟩
          · cases same
          · cases same
      | ok opened =>
          have route := route_completes_iff cfg env tables startAt opened roomy
          have only : (∃ after' result, some (after, Except.ok (ε := UnwrapError) opened) = some (after', result) ∧
              ∀ opened', result = .ok opened' → SafePacket cfg env tables startAt opened') ↔
              SafePacket cfg env tables startAt opened := by
            constructor
            · rintro ⟨_, _, same, safe⟩
              cases same
              exact safe opened rfl
            · refine fun safe => ⟨after, _, rfl, fun opened' same => ?_⟩
              cases same
              exact safe
          rw [only, ← route]
          dsimp only
          cases routed : routePacket cfg tables.decoyRecipient startAt opened with
          | none => simp
          | some handoff =>
              simp only [Option.map_some, Option.some.injEq, exists_eq_left', Completes, Option.map_eq_some_iff, Prod.mk.injEq]
              constructor
              · rintro ⟨_, handled, ⟨_, replied, _, same⟩, kept⟩
                exact ⟨handled, same ▸ replied, kept⟩
              · rintro ⟨handled, replied, kept⟩
                exact ⟨after, handled, ⟨handled, replied, rfl, rfl⟩, kept⟩

theorem node_packet_late (heap : KeyHeap F) (mixKeys : KeyMap) (now : EpochNow) (pkt : Packet)
    (late : timeSub startAt pkt.recvAt > cfg.unwrapDelay * millisecond) :
    nodePacket bloom unwrap cfg env tables mixKeys startAt now heap pkt = some (heap, ⟨tables, .disposed, none⟩) := by
  simp only [nodePacket, processPacket, late, if_true]
  rfl

/-- Every packet that is not over-age and that a candidate key opens has to be safe for the node.
-/
theorem packets_never_crash_iff (scheme : SphinxScheme) (user : Nat) (withSURB : Bool) (nrHops : Nat)
    (heap : KeyHeap F) (mixKeys : KeyMap) (now : EpochNow) (id : UInt64) (raw : Bytes) (recvAt : Int)
    (mustForward mustTerminate : Bool)
    (made : cfg.geo = geometryFromUserForwardPayloadLength scheme user withSURB nrHops)
    (pointers : PointsInto mixKeys heap) :
    (∃ after handled, nodePacket bloom unwrap cfg env tables mixKeys startAt now heap
        (receivedPacket id raw recvAt mustForward mustTerminate) = some (after, handled) ∧ handled.fate ≠ .leaked) ↔
      (timeSub startAt recvAt ≤ cfg.unwrapDelay * millisecond →
        ∀ keys k u, candidateKeys mixKeys now = .ok keys → openedBy unwrap heap raw keys = some (k, u) →
          SafeOpened bloom cfg env tables startAt k u mustForward) := by
  have roomy : RoomyGeometry cfg.geo := made ▸ geometry_roomy scheme user withSURB nrHops
  by_cases late : timeSub startAt recvAt > cfg.unwrapDelay * millisecond
  · have disposed := node_packet_late bloom unwrap cfg env tables startAt heap mixKeys now
      (receivedPacket id raw recvAt mustForward mustTerminate) late
    exact ⟨fun _ prompt => absurd late (Int.not_lt.mpr prompt), fun _ => ⟨heap, _, disposed, nofun⟩⟩
  · have bare : ∀ kind, (receivedPacket id raw recvAt mustForward mustTerminate).has kind = false := by
      intro kind
      cases kind <;> rfl
    rw [node_packet_iff bloom unwrap cfg env tables startAt heap mixKeys now
        (receivedPacket id raw recvAt mustForward mustTerminate) roomy late,
      do_unwrap_iff bloom unwrap cfg env tables startAt heap mixKeys now
        (receivedPacket id raw recvAt mustForward mustTerminate) pointers bare]
    exact ⟨fun safe _ => safe, fun safe => safe (Int.not_lt.mp late)⟩

end Node

def openFilter : BloomFilter Unit := ⟨fun _ => 0, fun _ => 1, fun _ _ => false, fun _ _ => ()⟩

def oneKey : KeyHeap Unit := [⟨7, (), 1, false⟩]

def oneKeyMap : KeyMap := (∅ : KeyMap).insert 7 0

def opensTo (cmds : List RoutingCommand) : SphinxUnwrap :=
  fun _ _ raw => (raw, .ok ⟨some [], List.replicate 32 1, cmds⟩)

def idleTables : NodeTables := ⟨0, ∅, [], 0, ∅, ∅, ∅, ∅, ∅⟩

def promptEnv : HandlerEnv := ⟨fun _ _ b => b, 2, 2 ^ 63, 2 ^ 63, 2 ^ 63, ∅, ∅⟩

def mixConn : ServerConn := ⟨false, 0, 0, 0, 0⟩

def midEpoch : EpochNow := ⟨7, gracePeriod, gracePeriod⟩

theorem one_key_points : PointsInto oneKeyMap oneKey := by
  intro epoch ref found
  rw [oneKeyMap, lookup_insert] at found
  split at found
  · cases found
    decide
  · simp at found

theorem addressed_packet_handled :
    gatewayConfig.geo = geometryFromUserForwardPayloadLength (.nike 32) 4 true 1 ∧ PointsInto oneKeyMap oneKey ∧
      ∃ after handled, nodePacket openFilter (opensTo [.recipient ⟨List.replicate 32 3, rfl⟩, .nodeDelay 5]) gatewayConfig
        promptEnv idleTables oneKeyMap (2 ^ 63) midEpoch oneKey (receivedPacket 1 sizedRaw (2 ^ 63) false false) =
          some (after, handled) ∧ handled.fate ≠ .leaked := by
  refine ⟨rfl, one_key_points, (packets_never_crash_iff openFilter _ gatewayConfig promptEnv idleTables (2 ^ 63)
    (.nike 32) 4 true 1 oneKey oneKeyMap midEpoch 1 sizedRaw (2 ^ 63) false false rfl one_key_points).mpr ?_⟩
  intro _ keys k u candidates opened _ _
  have tried : keys = [0] := by
    have only : candidateKeys oneKeyMap midEpoch = .ok [0] := by decide +kernel
    cases only.symm.trans candidates
    rfl
  subst tried
  cases opened
  exact ⟨by decide, fun _ => Or.inr (Or.inr (Or.inr (Or.inr (by decide))))⟩

/-- A mix hands a gateway or a service node a packet without any command. -/
theorem bare_packet_crashes :
    (onSendPacket gatewayConfig mixConn 1 (2 ^ 63) (2 ^ 63) sizedRaw).enqueued =
        some (receivedPacket 1 sizedRaw (2 ^ 63) false false) ∧
      nodePacket openFilter (opensTo []) gatewayConfig promptEnv idleTables oneKeyMap (2 ^ 63) midEpoch oneKey
        (receivedPacket 1 sizedRaw (2 ^ 63) false false) = none ∧
      nodePacket openFilter (opensTo []) { gatewayConfig with isGatewayNode := false, isServiceNode := true } promptEnv
        idleTables oneKeyMap (2 ^ 63) midEpoch oneKey (receivedPacket 1 sizedRaw (2 ^ 63) false true) = none := by
  refine ⟨by decide +kernel, ?_, ?_⟩
  · exact Option.isNone_iff_eq_none.mp (by decide +kernel)
  · exact Option.isNone_iff_eq_none.mp (by decide +kernel)

end Katzenpost
