import Katzenpost.Replica.Handlers

set_option autoImplicit false

namespace Katzenpost.Replica

open Go Pigeonhole

-- What mkem documents: a message opens for the keys it was made for, and a reply for its
-- receiver with the key of its sender and no other one.
structure MkemLaws {σ π ρ : Type} (mkem : Mkem σ π ρ) : Prop where
  public_round_trip : ∀ key, mkem.unmarshalBinaryPublicKey (mkem.marshalPublicKey key) = some key
  ephemeral : ∀ draw keys message,
    (mkem.encapsulate draw keys message).2.ephemeralPublicKey = mkem.publicKey (mkem.encapsulate draw keys message).1
  decapsulates : ∀ draw keys message (i : Nat) dek key, (mkem.encapsulate draw keys message).2.dekCiphertexts[i]? = some dek →
    keys[i]? = some (mkem.publicKey key) →
    mkem.decapsulate key { (mkem.encapsulate draw keys message).2 with dekCiphertexts := [dek] } = some message
  decapsulates_only : ∀ draw keys message (i : Nat) dek key plaintext,
    (mkem.encapsulate draw keys message).2.dekCiphertexts[i]? = some dek →
    mkem.decapsulate key { (mkem.encapsulate draw keys message).2 with dekCiphertexts := [dek] } = some plaintext →
    keys[i]? = some (mkem.publicKey key) ∧ plaintext = message
  reply_opens : ∀ draw sender receiver message,
    mkem.decryptEnvelope receiver (mkem.publicKey sender) (mkem.envelopeReply draw sender (mkem.publicKey receiver) message) =
      some message
  reply_opens_only : ∀ draw sender receiver message peer plaintext,
    mkem.decryptEnvelope receiver peer (mkem.envelopeReply draw sender (mkem.publicKey receiver) message) = some plaintext →
    peer = mkem.publicKey sender ∧ plaintext = message
  nothing_opens : ∀ key peer, mkem.decryptEnvelope key peer [] = none

section Sealed

variable {σ π ρ κ : Type} (mkem : Mkem σ π ρ)

structure Sealed (draw : ρ) (keys : List π) (payload : Bytes) (i : Nat) (msg : ReplicaMessage) : Prop where
  sender : msg.senderEPubKey = mkem.marshalPublicKey (mkem.encapsulate draw keys payload).2.ephemeralPublicKey
  dek : (mkem.encapsulate draw keys payload).2.dekCiphertexts[i]? = some msg.dek
  ciphertext : msg.ciphertext = (mkem.encapsulate draw keys payload).2.envelope

variable {mkem} {node : ReplicaNode} {draw : ρ} {keys : List π} {payload : Bytes} {i : Nat} {msg : ReplicaMessage}

theorem decapsulated_first (candidates : GoMap UInt64 (EnvelopeKey σ π)) (ct : MkemCiphertext π) (epochs : List UInt64)
    (plaintext : Bytes) (keypair : EnvelopeKey σ π) (epoch : UInt64)
    (found : decapsulateFirst mkem candidates ct epochs = some (plaintext, keypair, epoch)) :
    getKeypair candidates epoch = .ok keypair ∧ mkem.decapsulate keypair.privateKey ct = some plaintext := by
  induction epochs with
  | nil => cases found
  | cons first rest ih =>
      rw [decapsulateFirst] at found
      split at found
      · exact ih found
      · rename_i candidate present
        split at found
        · exact ih found
        · rename_i opened
          cases found
          exact ⟨present, opened⟩

theorem opened_sealed (laws : MkemLaws mkem) (sealed : Sealed mkem draw keys payload i msg) (m : Wire.ReplicaInnerMessage)
    (wellFormed : m.WellFormed) (written : m.bytes <+: payload) (view : View σ π) (request : OpenedRequest σ π)
    (opened : openRequest mkem node view msg = .ok request) :
    request.msg = m ∧ request.senderpubkey = mkem.publicKey (mkem.encapsulate draw keys payload).1 ∧
      keys[i]? = some (mkem.publicKey request.keypair.privateKey) := by
  rw [openRequest, sealed.sender, laws.public_round_trip] at opened
  dsimp only at opened
  split at opened
  · cases opened
  · rename_i requestRaw keypair epoch found
    obtain ⟨_, plain⟩ := decapsulated_first _ _ _ _ _ _ found
    rw [sealed.ciphertext] at plain
    obtain ⟨recipient, rfl⟩ := laws.decapsulates_only draw keys payload i msg.dek keypair.privateKey requestRaw sealed.dek plain
    have parsed := (Wire.parse_inner_message_iff requestRaw m).mpr ⟨wellFormed, written⟩
    rw [parsed] at opened
    dsimp only at opened
    split at opened
    · cases opened
    · split at opened
      · cases opened
      · cases opened
        exact ⟨rfl, laws.ephemeral _ _ _, recipient⟩

end Sealed

section Replies

theorem box_from_bytes_valid (data : Bytes) (box : Box) (parsed : boxFromBytes data = .ok box) : box.valid = true := by
  obtain ⟨⟨read, rest⟩, parsed, same⟩ := of_bind_ok _ _ _ parsed
  cases same
  obtain ⟨⟨boxID, cur⟩, _, parsed⟩ := of_bind_ok _ _ _ parsed
  obtain ⟨⟨size, cur1⟩, _, parsed⟩ := of_bind_ok _ _ _ parsed
  obtain ⟨⟨payload, cur2⟩, bytes, parsed⟩ := of_bind_ok _ _ _ parsed
  obtain ⟨⟨signature, cur3⟩, _, parsed⟩ := of_bind_ok _ _ _ parsed
  cases parsed
  exact decide_eq_true (of_read_bytes _ _ _ _ bytes).2

theorem read_box_valid (s : State) (boxID : Fixed 32) (box : Box) (read : s.stateHandleReplicaRead boxID = .ok box) :
    box.valid = true := by
  have kept (db : Database) (epochs : List UInt64) (read : readKept db boxID epochs = .ok box) : box.valid = true := by
    induction epochs with
    | nil => cases read
    | cons ep older ih =>
        rw [readKept] at read
        split at read
        · exact ih read
        · split at read
          · cases read
          · rename_i parsed
            cases read
            exact box_from_bytes_valid _ _ parsed
  rw [State.stateHandleReplicaRead] at read
  split at read
  · cases read
  · exact kept _ _ read

theorem handle_read_valid (s : State) (read : Wire.ReplicaRead) (reply : Wire.ReplicaReadReply)
    (answer : handleReplicaRead s read = some reply) : reply.validate = .ok () := by
  rw [handleReplicaRead] at answer
  split at answer
  · rename_i box found
    split at answer
    · cases answer
      rfl
    · cases answer
      have valid := read_box_valid s read.boxID box found
      rw [Box.valid, decide_eq_true_eq] at valid
      refine if_pos ?_
      dsimp only
      rw [valid, UInt32.ofNat_toNat]
  all_goals
    cases answer
    try rfl

theorem read_reply_well_formed (s : State) (read : Wire.ReplicaRead) (reply : Wire.ReplicaReadReply)
    (answer : handleReplicaRead s read = some reply) :
    Wire.ReplicaMessageReplyInnerMessage.WellFormed ⟨0, some reply, none⟩ :=
  ⟨.inl ⟨rfl, rfl, rfl⟩, handle_read_valid s read reply answer⟩

theorem write_reply_well_formed (reply : Wire.ReplicaWriteReply) :
    Wire.ReplicaMessageReplyInnerMessage.WellFormed ⟨1, none, some reply⟩ := ⟨.inr ⟨rfl, rfl, rfl⟩, rfl⟩

variable {σ π ρ κ : Type} {mkem : Mkem σ π ρ} {node : ReplicaNode}

theorem encrypted_reply_opens (laws : MkemLaws mkem) (draw : ρ) (privateKey key : σ) (peer : π)
    (reply : Wire.ReplicaMessageReplyInnerMessage) (wellFormed : reply.WellFormed) (errorCode : UInt8) (envelopeHash : Digest)
    (replicaID : UInt8) (raw : Bytes)
    (opened : mkem.decryptEnvelope key peer
      (encryptReply mkem node draw privateKey (mkem.publicKey key) reply errorCode envelopeHash replicaID).envelopeReply = some raw) :
    Wire.parseReplicaMessageReplyInnerMessage raw = .ok reply := by
  rw [encryptReply] at opened
  split at opened
  · rw [createReplicaMessageReply, laws.nothing_opens] at opened
    cases opened
  · rename_i blob padded
    obtain ⟨_, rfl⟩ := laws.reply_opens_only _ _ _ _ _ _ opened
    exact Wire.padded_reply_read node.geometry reply raw wellFormed padded

end Replies

section Requests

variable {σ π ρ κ : Type} {mkem : Mkem σ π ρ} {sum256 : Bytes → Fixed 32} {node : ReplicaNode} {later : View σ π} {draws : Drawn ρ}
  {kind : ProxyKind} {innerMessage : Wire.ReplicaInnerMessage} {boxID : Fixed 32} {sender : π} {hash : Digest}

structure Prepared (mkem : Mkem σ π ρ) (later : View σ π) (draws : Drawn ρ) (kind : ProxyKind) (innerMessage : Wire.ReplicaInnerMessage)
    (sender : π) (request : ReplicaMessage) (pending : ProxyRequest σ π) : Prop where
  kind : pending.kind = kind
  sealed : Sealed mkem draws.encapsulation [pending.targetEnvelopeKey] innerMessage.bytes 0 request
  privateKey : pending.mkemPrivateKey = (mkem.encapsulate draws.encapsulation [pending.targetEnvelopeKey] innerMessage.bytes).1
  keypair : getKeypair later.keys later.replicaEpoch = .ok pending.keypair
  sender : pending.originalSenderPubkey = sender

theorem of_required {α : Type} (message : String) (x : Option α) (a : α) (found : required message x = .ok a) : x = some a := by
  cases x with
  | none => cases found
  | some b =>
      cases found
      rfl

theorem of_indexed {α : Type} (x : Option α) (a : α) (found : indexed x = .ok a) : x = some a := by
  cases x with
  | none => cases found
  | some b =>
      cases found
      rfl

theorem of_to_option {ε α : Type} (x : Except ε α) (a : α) (found : x.toOption = some a) : x = .ok a := by
  cases x with
  | error e => cases found
  | ok b =>
      cases found
      rfl

theorem of_prepare_proxy (idHash : Fixed 32) (request : ReplicaMessage) (pending : ProxyRequest σ π)
    (prepared : prepareProxy mkem sum256 node later draws kind innerMessage boxID sender hash = .ok (idHash, request, pending)) :
    Prepared mkem later draws kind innerMessage sender request pending := by
  obtain ⟨doc, _, prepared⟩ := stop_bind_ok _ _ _ prepared
  obtain ⟨replicaID, _, prepared⟩ := stop_bind_ok _ _ _ prepared
  obtain ⟨shards, _, prepared⟩ := stop_bind_ok _ _ _ prepared
  obtain ⟨⟨idx, pos⟩, _, prepared⟩ := stop_bind_ok _ _ _ prepared
  obtain ⟨target, _, prepared⟩ := stop_bind_ok _ _ _ prepared
  obtain ⟨keypair, held, prepared⟩ := stop_bind_ok _ _ _ prepared
  obtain ⟨keyBytes, _, prepared⟩ := stop_bind_ok _ _ _ prepared
  obtain ⟨targetKey, _, prepared⟩ := stop_bind_ok _ _ _ prepared
  obtain ⟨dek, first, prepared⟩ := stop_bind_ok _ _ _ prepared
  cases prepared
  exact ⟨rfl, ⟨rfl, of_indexed _ _ first, rfl⟩, rfl, of_to_option _ _ (of_required _ _ _ held), rfl⟩

theorem of_proxy_asks (idHash : Fixed 32) (request : ReplicaMessage) (pending : ProxyRequest σ π)
    (asks : proxyRequest mkem sum256 node later draws kind innerMessage boxID sender hash = .asks idHash request pending) :
    Prepared mkem later draws kind innerMessage sender request pending := by
  rw [proxyRequest] at asks
  split at asks
  · rename_i prepared
    cases asks
    exact of_prepare_proxy idHash request pending prepared
  · cases asks
  · cases asks

theorem of_proxy_replied (reply : ReplicaMessageReply)
    (replied : proxyRequest mkem sum256 node later draws kind innerMessage boxID sender hash = .replied reply) :
    reply.envelopeReply = [] := by
  rw [proxyRequest] at replied
  split at replied
  · cases replied
  · cases replied
    rfl
  · cases replied

end Requests

structure Hop where
  node : ReplicaNode
  before : State
  after : State

section Answers

variable {σ π ρ κ : Type} (mkem : Mkem σ π ρ) (boxes : BoxScheme κ) (sum256 : Bytes → Fixed 32)

inductive Answered : ReplicaMessage → ReplicaMessageReply → List Hop → Prop where
  | replied (node : ReplicaNode) (s : State) (view later : View σ π) (draws : Drawn ρ) (msg : ReplicaMessage)
      (reply : ReplicaMessageReply)
      (handled : (handleReplicaMessage mkem boxes sum256 node s view later draws msg).handling = .replied reply) :
      Answered msg reply [⟨node, s, (handleReplicaMessage mkem boxes sum256 node s view later draws msg).state⟩]
  | proxied (node : ReplicaNode) (s : State) (view later : View σ π) (draws : Drawn ρ) (msg request : ReplicaMessage)
      (idHash : Fixed 32) (pending : ProxyRequest σ π) (shardReply : ReplicaMessageReply) (hops : List Hop)
      (handled : (handleReplicaMessage mkem boxes sum256 node s view later draws msg).handling = .asks idHash request pending)
      (answered : Answered request shardReply hops) :
      Answered msg (finishProxy mkem node draws.reply pending (some shardReply))
        (⟨node, s, (handleReplicaMessage mkem boxes sum256 node s view later draws msg).state⟩ :: hops)
  | unanswered (node : ReplicaNode) (s : State) (view later : View σ π) (draws : Drawn ρ) (msg request : ReplicaMessage)
      (idHash : Fixed 32) (pending : ProxyRequest σ π)
      (handled : (handleReplicaMessage mkem boxes sum256 node s view later draws msg).handling = .asks idHash request pending) :
      Answered msg (finishProxy mkem node draws.reply pending none)
        [⟨node, s, (handleReplicaMessage mkem boxes sum256 node s view later draws msg).state⟩]

inductive Serves (node : ReplicaNode) (doc : Document) (s : State) :
    Wire.ReplicaInnerMessage → State → Wire.ReplicaMessageReplyInnerMessage → Prop where
  | read (read : Wire.ReplicaRead) (shards : List ReplicaDescriptor) (reply : Wire.ReplicaReadReply)
      (sharded : getShards sum256 read.boxID doc = .ok shards) (mine : node.isShard shards = true)
      (answer : handleReplicaRead s read = some reply) : Serves node doc s ⟨0, some read, none⟩ s ⟨0, some reply, none⟩
  | write (write : Wire.ReplicaWrite) (shards : List ReplicaDescriptor)
      (sharded : getShards sum256 write.boxID doc = .ok shards) (mine : node.isShard shards = true) :
      Serves node doc s ⟨1, none, some write⟩ (handleReplicaWrite boxes node.geometry s write).1
        ⟨1, none, some (handleReplicaWrite boxes node.geometry s write).2⟩

def ServedLast (hops : List Hop) (m : Wire.ReplicaInnerMessage) (inner : Wire.ReplicaMessageReplyInnerMessage) : Prop :=
  ∃ proxies shard doc, hops = proxies ++ [shard] ∧ (∀ hop ∈ proxies, hop.after = hop.before) ∧
    Serves boxes sum256 shard.node doc shard.before m shard.after inner

variable {mkem boxes sum256}

theorem serves_well_formed {node : ReplicaNode} {doc : Document} {s next : State} {m : Wire.ReplicaInnerMessage}
    {inner : Wire.ReplicaMessageReplyInnerMessage} (serves : Serves boxes sum256 node doc s m next inner) : inner.WellFormed := by
  cases serves with
  | read read shards reply sharded mine answer => exact read_reply_well_formed s read reply answer
  | write write shards sharded mine => exact write_reply_well_formed _

theorem well_formed_read (m : Wire.ReplicaInnerMessage) (read : Wire.ReplicaRead) (wellFormed : m.WellFormed)
    (command : m.readMsg = some read) : m = ⟨0, some read, none⟩ := by
  obtain ⟨tag, readMsg, writeMsg⟩ := m
  cases command
  rcases wellFormed.1 with ⟨rfl, _, rfl⟩ | ⟨_, absent, _⟩
  · rfl
  · cases absent

theorem well_formed_write (m : Wire.ReplicaInnerMessage) (write : Wire.ReplicaWrite) (wellFormed : m.WellFormed)
    (other : m.readMsg = none) (command : m.writeMsg = some write) : m = ⟨1, none, some write⟩ := by
  obtain ⟨tag, readMsg, writeMsg⟩ := m
  cases other
  cases command
  rcases wellFormed.1 with ⟨_, present, _⟩ | ⟨rfl, _, _⟩
  · cases present
  · rfl

variable {draw : ρ} {keys : List π} {payload : Bytes} {i : Nat} {msg request : ReplicaMessage} {m : Wire.ReplicaInnerMessage}
  {node : ReplicaNode} {s : State} {view later : View σ π} {draws : Drawn ρ}

theorem asks_prepared (laws : MkemLaws mkem) (sealed : Sealed mkem draw keys payload i msg) (wellFormed : m.WellFormed)
    (written : m.bytes <+: payload) (idHash : Fixed 32) (pending : ProxyRequest σ π)
    (handled : (handleReplicaMessage mkem boxes sum256 node s view later draws msg).handling = .asks idHash request pending) :
    (handleReplicaMessage mkem boxes sum256 node s view later draws msg).state = s ∧
      Prepared mkem later draws (if m.messageType = 0 then .read else .write) m (mkem.publicKey (mkem.encapsulate draw keys payload).1)
        request pending := by
  have handles := message_handles mkem boxes sum256 node s view later draws msg
  generalize handleReplicaMessage mkem boxes sum256 node s view later draws msg = turn at handles handled
  cases handles with
  | fails | reads | writes => cases handled
  | asksRead asked shards read opened command sharded foreign =>
      obtain ⟨rfl, sender, _⟩ := opened_sealed laws sealed m wellFormed written view asked opened
      have same := well_formed_read _ read wellFormed command
      have prepared := of_proxy_asks idHash request pending handled
      rw [sender] at prepared
      rw [same]
      exact ⟨rfl, prepared⟩
  | asksWrite asked shards write opened other command sharded foreign =>
      obtain ⟨rfl, sender, _⟩ := opened_sealed laws sealed m wellFormed written view asked opened
      have same := well_formed_write _ write wellFormed other command
      have prepared := of_proxy_asks idHash request pending handled
      rw [sender] at prepared
      rw [same]
      exact ⟨rfl, prepared⟩

theorem replied_serves (laws : MkemLaws mkem) (sealed : Sealed mkem draw keys payload i msg) (wellFormed : m.WellFormed)
    (written : m.bytes <+: payload) (reply : ReplicaMessageReply)
    (handled : (handleReplicaMessage mkem boxes sum256 node s view later draws msg).handling = .replied reply)
    (enveloped : reply.envelopeReply ≠ []) :
    ∃ doc inner privateKey errorCode replicaID, Serves boxes sum256 node doc s m
        (handleReplicaMessage mkem boxes sum256 node s view later draws msg).state inner ∧
      keys[i]? = some (mkem.publicKey privateKey) ∧
      reply = encryptReply mkem node draws.reply privateKey (mkem.publicKey (mkem.encapsulate draw keys payload).1) inner errorCode
        (msg.envelopeHash sum256) replicaID := by
  have handles := message_handles mkem boxes sum256 node s view later draws msg
  generalize handleReplicaMessage mkem boxes sum256 node s view later draws msg = turn at handles handled
  cases handles with
  | fails =>
      cases handled
      exact absurd rfl enveloped
  | asksRead => exact absurd (of_proxy_replied reply handled) enveloped
  | asksWrite => exact absurd (of_proxy_replied reply handled) enveloped
  | reads asked shards read readReply opened command sharded mine answer =>
      obtain ⟨rfl, sender, recipient⟩ := opened_sealed laws sealed m wellFormed written view asked opened
      have same := well_formed_read _ read wellFormed command
      cases handled
      rw [sender]
      refine ⟨asked.doc, ⟨0, some readReply, none⟩, asked.keypair.privateKey, readReply.errorCode, asked.replicaID, ?_, recipient, rfl⟩
      rw [same]
      exact .read read shards readReply sharded mine answer
  | writes asked shards write opened other command sharded mine =>
      obtain ⟨rfl, sender, recipient⟩ := opened_sealed laws sealed m wellFormed written view asked opened
      have same := well_formed_write _ write wellFormed other command
      cases handled
      rw [sender]
      refine ⟨asked.doc, ⟨1, none, some (handleReplicaWrite boxes node.geometry s write).2⟩, asked.keypair.privateKey,
        (handleReplicaWrite boxes node.geometry s write).2.errorCode, asked.replicaID, ?_, recipient, rfl⟩
      rw [same]
      exact .write write shards sharded mine

theorem finished_proxy (draw : ρ) (pending : ProxyRequest σ π) (answer : Option ReplicaMessageReply)
    (enveloped : (finishProxy mkem node draw pending answer).envelopeReply ≠ []) :
    ∃ shardReply decrypted inner newInner errorCode, answer = some shardReply ∧
      mkem.decryptEnvelope pending.mkemPrivateKey pending.targetEnvelopeKey shardReply.envelopeReply = some decrypted ∧
      Wire.parseReplicaMessageReplyInnerMessage decrypted = .ok inner ∧ pending.kind.takes inner = some (newInner, errorCode) ∧
      finishProxy mkem node draw pending answer = encryptReply mkem node draw pending.keypair.privateKey pending.originalSenderPubkey
        newInner errorCode pending.originalEnvelopeHash pending.replicaID := by
  cases answer with
  | none => exact absurd rfl enveloped
  | some shardReply =>
      rw [finishProxy] at enveloped ⊢
      split at enveloped
      · rename_i some
        split at enveloped
        · exact absurd rfl enveloped
        · rename_i decrypted opened
          split at enveloped
          · exact absurd rfl enveloped
          · rename_i inner parsed
            split at enveloped
            · exact absurd rfl enveloped
            · rename_i newInner errorCode taken
              exact ⟨shardReply, decrypted, inner, newInner, errorCode, rfl, opened, parsed, taken, if_pos some⟩
      · exact absurd rfl enveloped

theorem takes_served {doc : Document} {next : State} {inner newInner : Wire.ReplicaMessageReplyInnerMessage} {errorCode : UInt8}
    (serves : Serves boxes sum256 node doc s m next inner)
    (taken : (if m.messageType = 0 then ProxyKind.read else ProxyKind.write).takes inner = some (newInner, errorCode)) :
    newInner = inner := by
  cases serves with
  | read =>
      cases taken
      rfl
  | write =>
      cases taken
      rfl

/-- Through any number of proxies, what a sender can open of a reply is what a shard of the box
answered from its own store, and no other store on the way has changed. -/
theorem opened_reply_served (laws : MkemLaws mkem) (reply : ReplicaMessageReply) (hops : List Hop)
    (answered : Answered mkem boxes sum256 msg reply hops) (sealed : Sealed mkem draw keys payload i msg) (wellFormed : m.WellFormed)
    (written : m.bytes <+: payload) (peer : π) (raw : Bytes)
    (opened : mkem.decryptEnvelope (mkem.encapsulate draw keys payload).1 peer reply.envelopeReply = some raw) :
    ∃ inner, Wire.parseReplicaMessageReplyInnerMessage raw = .ok inner ∧ ServedLast boxes sum256 hops m inner := by
  have enveloped (reply : ReplicaMessageReply) (key : σ) (peer : π) (raw : Bytes)
      (opened : mkem.decryptEnvelope key peer reply.envelopeReply = some raw) : reply.envelopeReply ≠ [] := by
    intro empty
    rw [empty, laws.nothing_opens] at opened
    cases opened
  induction answered generalizing draw keys payload i peer raw with
  | replied node s view later draws msg reply handled =>
      obtain ⟨doc, inner, privateKey, errorCode, replicaID, serves, _, rfl⟩ :=
        replied_serves laws sealed wellFormed written reply handled (enveloped _ _ _ _ opened)
      have parsed := encrypted_reply_opens laws _ _ _ _ inner (serves_well_formed serves) _ _ _ raw opened
      exact ⟨inner, parsed, [], ⟨node, s, _⟩, doc, rfl, fun _ member => absurd member List.not_mem_nil, serves⟩
  | proxied node s view later draws msg request idHash pending shardReply hops handled answered ih =>
      obtain ⟨kept, prepared⟩ := asks_prepared laws sealed wellFormed written idHash pending handled
      obtain ⟨_, decrypted, inner, newInner, errorCode, same, shardOpened, parsed, taken, finished⟩ :=
        finished_proxy draws.reply pending (some shardReply) (enveloped _ _ _ _ opened)
      cases same
      rw [prepared.privateKey] at shardOpened
      obtain ⟨served, servedParsed, proxies, shard, doc, rfl, unchanged, serves⟩ :=
        ih prepared.sealed List.prefix_rfl pending.targetEnvelopeKey decrypted shardOpened
      cases servedParsed.symm.trans parsed
      rw [prepared.kind] at taken
      obtain rfl := takes_served serves taken
      rw [finished, prepared.sender] at opened
      have reparsed := encrypted_reply_opens laws _ _ _ _ newInner (serves_well_formed serves) _ _ _ raw opened
      refine ⟨newInner, reparsed, ⟨node, s, _⟩ :: proxies, shard, doc, rfl, fun hop member => ?_, serves⟩
      rcases List.mem_cons.mp member with rfl | member
      · exact kept
      · exact unchanged hop member
  | unanswered node s view later draws msg request idHash pending handled =>
      exact absurd rfl (enveloped _ _ _ _ opened)

theorem encrypted_reply_key (laws : MkemLaws mkem) (draw : ρ) (privateKey key : σ) (reply : Wire.ReplicaMessageReplyInnerMessage)
    (errorCode : UInt8) (envelopeHash : Digest) (replicaID : UInt8) (peer : π)
    (enveloped :
      (encryptReply mkem node draw privateKey (mkem.publicKey key) reply errorCode envelopeHash replicaID).envelopeReply ≠ []) :
    (mkem.decryptEnvelope key peer
      (encryptReply mkem node draw privateKey (mkem.publicKey key) reply errorCode envelopeHash replicaID).envelopeReply).isSome = true ↔
      peer = mkem.publicKey privateKey := by
  rw [encryptReply] at enveloped ⊢
  split at enveloped
  · exact absurd rfl enveloped
  · rename_i blob padded
    constructor
    · intro opened
      obtain ⟨raw, opened⟩ := Option.isSome_iff_exists.mp opened
      exact (laws.reply_opens_only _ _ _ _ _ _ opened).1
    · rintro rfl
      exact Option.isSome_iff_exists.mpr ⟨blob, laws.reply_opens draw privateKey key blob⟩

/-- The reply of a shard opens under the key that the message was sealed for. The reply of a proxy
opens under the proxy's key of the epoch in which it asked, whatever key that was. -/
theorem reply_keys (laws : MkemLaws mkem) (sealed : Sealed mkem draw keys payload i msg) (wellFormed : m.WellFormed)
    (written : m.bytes <+: payload) :
    (∀ reply, (handleReplicaMessage mkem boxes sum256 node s view later draws msg).handling = .replied reply →
      reply.envelopeReply ≠ [] →
      ∀ peer, (mkem.decryptEnvelope (mkem.encapsulate draw keys payload).1 peer reply.envelopeReply).isSome = true ↔
        keys[i]? = some peer) ∧
    ∀ idHash request pending answer,
      (handleReplicaMessage mkem boxes sum256 node s view later draws msg).handling = .asks idHash request pending →
      (finishProxy mkem node draws.reply pending answer).envelopeReply ≠ [] →
      ∀ peer, (mkem.decryptEnvelope (mkem.encapsulate draw keys payload).1 peer
          (finishProxy mkem node draws.reply pending answer).envelopeReply).isSome = true ↔
        ∃ keypair, getKeypair later.keys later.replicaEpoch = .ok keypair ∧ peer = mkem.publicKey keypair.privateKey := by
  constructor
  · intro reply handled enveloped peer
    obtain ⟨doc, inner, privateKey, errorCode, replicaID, serves, recipient, rfl⟩ :=
      replied_serves laws sealed wellFormed written reply handled enveloped
    rw [encrypted_reply_key laws _ _ _ inner _ _ _ peer enveloped, recipient, Option.some_inj]
    exact eq_comm
  · intro idHash request pending answer handled enveloped peer
    obtain ⟨_, prepared⟩ := asks_prepared laws sealed wellFormed written idHash pending handled
    obtain ⟨_, _, _, newInner, errorCode, _, _, _, _, finished⟩ := finished_proxy draws.reply pending answer enveloped
    rw [finished, prepared.sender] at enveloped ⊢
    rw [encrypted_reply_key laws _ _ _ newInner _ _ _ peer enveloped]
    constructor
    · rintro rfl
      exact ⟨pending.keypair, prepared.keypair, rfl⟩
    · rintro ⟨keypair, held, rfl⟩
      cases prepared.keypair.symm.trans held
      rfl

end Answers

section Sample

theorem byte_mkem_laws : MkemLaws byteMkem where
  public_round_trip _ := rfl
  ephemeral _ _ _ := rfl
  decapsulates draw keys message i dek key found recipient := by
    have same : (keys.map byteDek)[i]? = some dek := found
    rw [List.getElem?_map, recipient, Option.map_some, Option.some_inj] at same
    subst same
    exact if_pos rfl
  decapsulates_only draw keys message i dek key plaintext found opened := by
    have same : (keys.map byteDek)[i]? = some dek := found
    rw [List.getElem?_map, Option.map_eq_some_iff] at same
    obtain ⟨recipient, present, rfl⟩ := same
    have named : List.replicate 60 recipient = List.replicate 60 key ∧ message = plaintext := by
      simpa [byteMkem, byteDek] using opened
    obtain ⟨named, rfl⟩ := named
    obtain rfl := (List.replicate_inj.mp named).2.resolve_left (by decide)
    exact ⟨present, rfl⟩
  reply_opens _ _ _ _ := if_pos ⟨rfl, rfl⟩
  reply_opens_only draw sender receiver message peer plaintext opened := by
    have named : sender = peer ∧ message = plaintext := by simpa [byteMkem] using opened
    obtain ⟨rfl, rfl⟩ := named
    exact ⟨rfl, rfl⟩
  nothing_opens _ _ := rfl

def sampleReplica (id key : UInt8) : ReplicaDescriptor :=
  ⟨[], id, 5, some [id], none, some ((∅ : GoMap UInt64 Bytes).insert 5 [key]), ∅⟩

def sampleDoc : Document :=
  { blankDocument with
    storageReplicas := [sampleReplica 1 25, sampleReplica 2 26, sampleReplica 3 27]
    configuredReplicaIdentityKeys := [[1], [2], [3]] }

def shardView : View UInt8 UInt8 := ⟨(∅ : GoMap UInt64 (EnvelopeKey UInt8 UInt8)).insert 5 ⟨25, 25⟩, 5, some sampleDoc⟩

def proxyView : View UInt8 UInt8 :=
  ⟨((∅ : GoMap UInt64 (EnvelopeKey UInt8 UInt8)).insert 4 ⟨17, 17⟩).insert 5 ⟨27, 27⟩, 5, some sampleDoc⟩

def sampleDraws : Drawn UInt8 := ⟨0, 77, 0⟩

def shardState : State := (handleReplicaWrite byteBoxes Wire.byteGeometry (newState 5) (wireCommandToTrunnelReplicaWrite (byteBox 7 7))).1

def boxRead : Wire.ReplicaInnerMessage := ⟨0, some ⟨zeroBoxID⟩, none⟩

def readFor (key : UInt8) : ReplicaMessage := ⟨[99], byteDek key, boxRead.bytes⟩

def sampleHash (msg : ReplicaMessage) : Digest := msg.envelopeHash frontHash

def proxiedRead : ReplicaMessage := ⟨[77], byteDek 25, boxRead.bytes⟩

def samplePending (key : UInt8) : ProxyRequest UInt8 UInt8 := ⟨.read, 77, 25, ⟨27, 27⟩, 99, sampleHash (readFor key), 3⟩

def boxReply : Wire.ReplicaMessageReplyInnerMessage :=
  ⟨0, some ⟨replicaSuccess, zeroBoxID, ⟨List.replicate 64 7, List.length_replicate⟩, 21, List.replicate 21 7⟩, none⟩

def sampleShardReply : ReplicaMessageReply :=
  encryptReply byteMkem (byteNode [1]) 0 25 77 boxReply replicaSuccess (sampleHash proxiedRead) 1

theorem read_for_asks (key : UInt8) (known : key = 17 ∨ key = 27) :
    (handleReplicaMessage byteMkem byteBoxes frontHash (byteNode [3]) (newState 5) proxyView proxyView sampleDraws
      (readFor key)).handling = .asks (frontHash [1]) proxiedRead (samplePending key) := by
  rcases known with rfl | rfl
  · decide +kernel
  · decide +kernel

theorem shard_replies :
    (handleReplicaMessage byteMkem byteBoxes frontHash (byteNode [1]) shardState shardView shardView sampleDraws proxiedRead).handling =
      .replied sampleShardReply := by decide +kernel

theorem read_for_sealed (key : UInt8) : Sealed byteMkem 99 [key] boxRead.bytes 0 (readFor key) := ⟨rfl, rfl, rfl⟩

theorem read_for_sender (key : UInt8) : (byteMkem.encapsulate 99 [key] boxRead.bytes).1 = 99 := rfl

theorem box_read_well_formed : boxRead.WellFormed := ⟨.inl ⟨rfl, rfl, rfl⟩, rfl⟩

theorem box_read_through_proxy :
    ∃ raw hops, Answered byteMkem byteBoxes frontHash (readFor 27)
        (finishProxy byteMkem (byteNode [3]) sampleDraws.reply (samplePending 27) (some sampleShardReply)) hops ∧
      byteMkem.decryptEnvelope 99 27
        (finishProxy byteMkem (byteNode [3]) sampleDraws.reply (samplePending 27) (some sampleShardReply)).envelopeReply = some raw ∧
      ∃ inner, Wire.parseReplicaMessageReplyInnerMessage raw = .ok inner ∧ ServedLast byteBoxes frontHash hops boxRead inner := by
  have opens : (byteMkem.decryptEnvelope 99 27
      (finishProxy byteMkem (byteNode [3]) sampleDraws.reply (samplePending 27) (some sampleShardReply)).envelopeReply).isSome = true := by
    decide +kernel
  obtain ⟨raw, opened⟩ := Option.isSome_iff_exists.mp opens
  have answered := Answered.proxied (byteNode [3]) (newState 5) proxyView proxyView sampleDraws (readFor 27) proxiedRead (frontHash [1])
    (samplePending 27) sampleShardReply _ (read_for_asks 27 (.inr rfl))
    (.replied (byteNode [1]) shardState shardView shardView sampleDraws proxiedRead sampleShardReply shard_replies)
  have served := opened_reply_served byte_mkem_laws _ _ answered (read_for_sealed 27) box_read_well_formed List.prefix_rfl 27 raw
  rw [read_for_sender] at served
  exact ⟨raw, _, answered, opened, served opened⟩

theorem proxied_under_other_key :
    (byteMkem.decryptEnvelope 99 27
      (finishProxy byteMkem (byteNode [3]) sampleDraws.reply (samplePending 17) (some sampleShardReply)).envelopeReply).isSome = true ∧
    byteMkem.decryptEnvelope 99 17
      (finishProxy byteMkem (byteNode [3]) sampleDraws.reply (samplePending 17) (some sampleShardReply)).envelopeReply = none := by
  have enveloped :
      (finishProxy byteMkem (byteNode [3]) sampleDraws.reply (samplePending 17) (some sampleShardReply)).envelopeReply ≠ [] := by
    decide +kernel
  have opens := (reply_keys byte_mkem_laws (read_for_sealed 17) box_read_well_formed List.prefix_rfl).2 (frontHash [1]) proxiedRead
    (samplePending 17) (some sampleShardReply) (read_for_asks 17 (.inl rfl)) enveloped
  rw [read_for_sender] at opens
  refine ⟨(opens 27).mpr ⟨⟨27, 27⟩, by decide +kernel, rfl⟩, Option.eq_none_iff_forall_not_mem.mpr fun raw opened => ?_⟩
  obtain ⟨keypair, held, same⟩ := (opens 17).mp (Option.isSome_iff_exists.mpr ⟨raw, opened⟩)
  have current : getKeypair proxyView.keys 5 = .ok (⟨27, 27⟩ : EnvelopeKey UInt8 UInt8) := by decide +kernel
  cases current.symm.trans held
  exact absurd same (by decide)

end Sample

end Katzenpost.Replica
