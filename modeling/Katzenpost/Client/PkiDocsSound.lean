import Katzenpost.Client.PkiDocs
import Katzenpost.Core.Reference

set_option autoImplicit false

namespace Katzenpost

open Go

section Signed

variable (cfg : PkiConfig)

def signedBy (env : Env) (c : Certificate) (verifier : PublicKey) : Bool :=
  c.signatures.toList.any fun entry =>
    entry.2.publicKeySum256 = keyHash env verifier && env.verifyWith verifier (message c) entry.2.payload

def PkiConfig.signers (c : Certificate) : Finset Digest :=
  ((cfg.verifiers.filter (signedBy cfg.env c)).map (keyHash cfg.env)).toFinset

def PkiConfig.ThresholdSigned (raw : Bytes) (d : Document) : Prop :=
  ∃ c certified, cfg.env.decodeCertificate raw = some c ∧ cfg.verifiers.length / 2 + 1 ≤ (cfg.signers c).card ∧
    cfg.env.decodeDocument c.certified = some certified ∧ d = { certified with signatures := ∅ }

variable {cfg}

theorem verified_signed (r : Range Digest Signature) (now : UInt64) (verifier : PublicKey) (raw data : Bytes)
    (accepted : verify cfg.env r now verifier raw = .ok data) :
    ∃ c, cfg.env.decodeCertificate raw = some c ∧ signedBy cfg.env c verifier = true := by
  obtain ⟨c, decoded, sane, same, slot, sig, stored, claims, valid⟩ := verify_ok cfg.env r now verifier raw data accepted
  refine ⟨c, decoded, List.any_eq_true.mpr ⟨(slot, sig), ?_, ?_⟩⟩
  · exact (order_mem ascending c.signatures slot sig).mpr stored
  · rw [Bool.and_eq_true, decide_eq_true_eq]
    exact ⟨claims, valid⟩

theorem threshold_signers (r : PublicKey → Range Digest Signature) (now : UInt64) (raw : Bytes)
    (accepted : (verifyThreshold cfg.env r now cfg.verifiers ((cfg.verifiers.length / 2 + 1 : Nat)) raw).err = none) :
    ∃ c, cfg.env.decodeCertificate raw = some c ∧ cfg.verifiers.length / 2 + 1 ≤ (cfg.signers c).card := by
  have enough : cfg.verifiers.length / 2 + 1 ≤ (goodHashes cfg.env r now raw cfg.verifiers).card :=
    Int.ofNat_le.mp ((verify_threshold_err cfg.env r now raw cfg.verifiers _).mp accepted).2
  have some_good : (goodHashes cfg.env r now raw cfg.verifiers).Nonempty := Finset.card_pos.mp (by omega)
  obtain ⟨id, good⟩ := some_good
  obtain ⟨v, member, hash, data, verified⟩ := (mem_good_hashes cfg.env r now raw cfg.verifiers id).mp good
  obtain ⟨c, decoded, signed⟩ := verified_signed (r v) now v raw data verified
  refine ⟨c, decoded, enough.trans (Finset.card_le_card fun other listed => ?_)⟩
  obtain ⟨w, known, here, result, passed⟩ := (mem_good_hashes cfg.env r now raw cfg.verifiers other).mp listed
  obtain ⟨c', again, signs⟩ := verified_signed (r w) now w raw result passed
  obtain rfl := Option.some.inj (decoded.symm.trans again)
  exact List.mem_toFinset.mpr (List.mem_map.mpr ⟨w, List.mem_filter.mpr ⟨known, signs⟩, here⟩)

theorem parsed_certified (r : Range Digest Signature) (now : UInt64) (raw : Bytes) (d : Document)
    (parsed : parseDocument cfg.env r now raw = .ok d) :
    ∃ c certified, cfg.env.decodeCertificate raw = some c ∧ cfg.env.decodeDocument c.certified = some certified ∧
      { d with signatures := ∅ } = { certified with signatures := (∅ : GoMap Digest Signature) } := by
  rw [parseDocument, unmarshalCertificate] at parsed
  split at parsed
  · cases parsed
  · rename_i data certifies
    split at parsed
    · cases parsed
    · split at parsed
      · cases parsed
      · split at parsed
        · cases parsed
        · rename_i certified decoded
          cases parsed
          rw [getCertified] at certifies
          cases sane : decodeSane cfg.env now raw .impossibleDecode with
          | error e =>
              rw [sane] at certifies
              cases certifies
          | ok c =>
              rw [sane] at certifies
              cases certifies
              exact ⟨c, certified, ((decode_sane_ok cfg.env now raw _ c).mp sane).1, decoded, rfl⟩

theorem deserialized_signed (now : UInt64) (fetched : Fetched) (raw : Bytes) (d : Document)
    (accepted : cfg.deserialize now fetched raw = some d) : cfg.ThresholdSigned raw { d with signatures := ∅ } := by
  rw [PkiConfig.deserialize] at accepted
  split at accepted
  · cases accepted
  · rename_i verified
    cases parsed : parseDocument cfg.env fetched.parse now raw with
    | error e =>
        rw [parsed] at accepted
        cases accepted
    | ok other =>
        rw [parsed] at accepted
        cases accepted
        obtain ⟨c, decoded, enough⟩ := threshold_signers fetched.verify now raw verified
        obtain ⟨c', certified, again, document, same⟩ := parsed_certified fetched.parse now raw d parsed
        obtain rfl := Option.some.inj (decoded.symm.trans again)
        exact ⟨c, certified, decoded, enough, document, same⟩

theorem got_signed (now : UInt64) (fetched : Fetched) (epoch : UInt64) (c : CachedDoc)
    (got : cfg.getDocument now fetched epoch = .ok c) : c.doc.epoch = epoch ∧ cfg.ThresholdSigned c.rawSignedBlob c.doc := by
  rw [PkiConfig.getDocument] at got
  split at got
  · cases got
  · rename_i resp answered
    split at got
    · cases got
    · split at got
      · cases got
      · split at got
        · cases got
        · split at got
          · cases got
          · split at got
            · cases got
            · rename_i d accepted
              split at got
              · cases got
              · rename_i right
                cases got
                exact ⟨not_ne_iff.mp right, deserialized_signed now fetched resp.payload d accepted⟩

end Signed

section Invariant

variable (cfg : PkiConfig)

def DocOk (epoch : UInt64) (v : DocValue) : Prop :=
  ∃ c, v = .cachedDoc c ∧ c.doc.epoch = epoch ∧ cfg.ThresholdSigned c.rawSignedBlob c.doc ∧ epoch.toNat ≤ 2 ^ 63

def DocsOk (docs : GoMap UInt64 DocValue) : Prop := ∀ (epoch : UInt64) v, docs[epoch]? = some v → DocOk cfg epoch v

def PkiWorker.epochs : PkiWorker → List UInt64
  | .fetching _ epochs _ => epochs
  | .asking _ epoch epochs _ => epoch :: epochs
  | _ => []

def ClientPki.inTime (p : ClientPki) : Bool :=
  (p.systemEpoch cfg).isSome && (p.skewedEpoch cfg).any fun present => p.worker.began.all fun now => now ≤ present

structure ClientPkiOk (p : ClientPki) : Prop where
  docs : DocsOk cfg p.docs
  inTime : p.inTime cfg = true
  epochs : ∀ epoch ∈ p.worker.epochs, epoch.toNat ≤ 2 ^ 63
  waiters : ∀ epoch attempt, DocWaiter.asking epoch attempt ∈ p.waiters → epoch.toNat ≤ 2 ^ 63
  calm : p.panicked = false

def ClientPki.steady (p : ClientPki) (event : ClientPkiEvent) : Bool :=
  match event with
  | .setTime unixTime => { p with unixTime := unixTime }.inTime cfg
  | .setClockSkew skew => { p with clockSkew := skew }.inTime cfg
  | _ => (p.asked event).all fun asked => (p.systemEpoch cfg).all fun now =>
      match cfg.getDocument now asked.2 asked.1 with
      | .error _ => true
      | .ok c => c.doc.sphinxGeometryHash = cfg.sphinxGeometryHash

variable {cfg}

theorem from_unix_bound (t : Int) (now : UInt64) (till : Int) (read : cfg.fromUnix t = some (now, till)) : now.toNat < 2 ^ 63 := by
  rw [PkiConfig.fromUnix] at read
  split at read
  · cases read
  · cases read
    have small : min ((t - cfg.epoch) * 1000000000).toNat (2 ^ 63 - 1) / cfg.period ≤ 2 ^ 63 - 1 :=
      (Nat.div_le_self _ _).trans (Nat.min_le_right _ _)
    rw [UInt64.toNat_ofNat_of_lt' (by simp only [UInt64.size]; omega)]
    omega

theorem system_epoch_bound (p : ClientPki) (epoch : UInt64) (read : p.systemEpoch cfg = some epoch) : epoch.toNat < 2 ^ 63 := by
  obtain ⟨⟨now, till⟩, found, rfl⟩ := Option.map_eq_some_iff.mp read
  exact from_unix_bound _ now till found

theorem in_time_iff (p : ClientPki) :
    p.inTime cfg = true ↔ (∃ system, p.systemEpoch cfg = some system) ∧
      ∃ present, p.skewedEpoch cfg = some present ∧ ∀ now, p.worker.began = some now → now ≤ present := by
  rw [ClientPki.inTime, Bool.and_eq_true, Option.isSome_iff_exists, Option.any_eq_true]
  simp only [Option.all_eq_true, decide_eq_true_eq]

theorem in_time_worker (p : ClientPki) (worker : PkiWorker) (inTime : p.inTime cfg = true)
    (kept : ∀ now, worker.began = some now → p.worker.began = some now ∨ p.skewedEpoch cfg = some now) :
    { p with worker := worker }.inTime cfg = true := by
  obtain ⟨system, present, read, behind⟩ := (in_time_iff p).mp inTime
  refine (in_time_iff _).mpr ⟨system, present, read, fun now began => ?_⟩
  cases kept now began with
  | inl before => exact behind now before
  | inr current =>
      rw [current] at read
      exact UInt64.le_of_eq (Option.some.inj read)

theorem in_time_goes_on (p : ClientPki) (before worker : PkiWorker) (at' : p.worker = before)
    (same : worker.began = before.began) (inTime : p.inTime cfg = true) : { p with worker := worker }.inTime cfg = true := by
  apply in_time_worker p worker inTime
  intro now began
  rw [at', ← same]
  exact .inl began

theorem in_time_rests (p : ClientPki) (worker : PkiWorker) (rests : worker.began = none) (inTime : p.inTime cfg = true) :
    { p with worker := worker }.inTime cfg = true := by
  apply in_time_worker p worker inTime
  intro now began
  cases rests.symm.trans began

theorem docs_ok_insert (docs : GoMap UInt64 DocValue) (now : UInt64) (fetched : Fetched) (epoch : UInt64) (c : CachedDoc)
    (ok : DocsOk cfg docs) (small : epoch.toNat ≤ 2 ^ 63) (got : cfg.getDocument now fetched epoch = .ok c) :
    DocsOk cfg (docs.insert epoch (.cachedDoc c)) := by
  obtain ⟨right, signed⟩ := got_signed now fetched epoch c got
  exact forall_insert docs epoch _ (fun other v stored _ => ok other v stored) ⟨c, rfl, right, signed, small⟩

theorem waiters_set (waiters : List DocWaiter) (i : Nat) (w : DocWaiter)
    (small : ∀ epoch attempt, DocWaiter.asking epoch attempt ∈ waiters → epoch.toNat ≤ 2 ^ 63)
    (new : ∀ epoch attempt, w = .asking epoch attempt → epoch.toNat ≤ 2 ^ 63) (epoch : UInt64) (attempt : Nat)
    (member : DocWaiter.asking epoch attempt ∈ waiters.set i w) : epoch.toNat ≤ 2 ^ 63 := by
  cases List.mem_or_eq_of_mem_set member with
  | inl old => exact small epoch attempt old
  | inr same => exact new epoch attempt same.symm

theorem client_pki_kept (p next : ClientPki) (event : ClientPkiEvent) (ok : ClientPkiOk cfg p)
    (steady : p.steady cfg event = true) (taken : p.step cfg event = some next) : ClientPkiOk cfg next := by
  obtain ⟨⟨system, readable⟩, present, read, behind⟩ := (in_time_iff p).mp ok.inTime
  cases client_pki_moves next event taken with
  | setTime unixTime => exact ⟨ok.docs, steady, ok.epochs, ok.waiters, ok.calm⟩
  | setClockSkew skew => exact ⟨ok.docs, steady, ok.epochs, ok.waiters, ok.calm⟩
  | unreadable event why =>
      cases why with
      | inl unread => exact absurd (readable.symm.trans unread) (by simp)
      | inr unread => exact absurd (read.symm.trans unread) (by simp)
  | asserted event epoch d bare =>
      obtain ⟨c, same, _⟩ := ok.docs epoch _ bare
      cases same
  | mismatched event epoch fetched system' c asked again got other =>
      exfalso
      have fits : ((p.asked event).all fun asked => (p.systemEpoch cfg).all fun now =>
          match cfg.getDocument now asked.2 asked.1 with
          | .error _ => true
          | .ok c => c.doc.sphinxGeometryHash = cfg.sphinxGeometryHash) = true := by
        cases event with
        | setTime unixTime => cases asked
        | setClockSkew skew => cases asked
        | _ => exact steady
      rw [asked, again] at fits
      simp only [Option.all_some, got, decide_eq_true_eq] at fits
      exact other fits
  | began now till at' start =>
      have small := from_unix_bound _ now till start
      refine ⟨ok.docs, in_time_worker p _ ok.inTime fun other began => .inr ?_, fun epoch listed => ?_, ok.waiters, ok.calm⟩
      · rw [← began, ClientPki.skewedEpoch, start]
        rfl
      · rcases List.mem_cons.mp listed with here | after
        · rw [here]
          omega
        · split at after
          · have one : (1 : UInt64).toNat = 1 := rfl
            rw [List.mem_singleton.mp after, UInt64.toNat_add, one]
            omega
          · cases after
  | skipped now epoch rest didUpdate at' =>
      refine ⟨ok.docs, in_time_goes_on p _ _ at' rfl ok.inTime, fun e listed => ok.epochs e ?_, ok.waiters, ok.calm⟩
      rw [at']
      exact List.mem_cons_of_mem _ listed
  | workerAsks now epoch rest didUpdate at' =>
      refine ⟨ok.docs, in_time_goes_on p _ _ at' rfl ok.inTime, fun e listed => ok.epochs e ?_, ok.waiters, ok.calm⟩
      rw [at']
      exact listed
  | noneFetched now at' =>
      exact ⟨ok.docs, in_time_goes_on (p.pruneFailures now) _ _ at' rfl ok.inTime, fun e listed => (by cases listed),
        ok.waiters, ok.calm⟩
  | workerStored fetched now epoch system' rest didUpdate c at' got =>
      have small : epoch.toNat ≤ 2 ^ 63 := ok.epochs epoch (by rw [at']; exact List.mem_cons_self)
      refine ⟨docs_ok_insert p.docs system' fetched epoch c ok.docs small got,
        in_time_goes_on { p with docs := _ } _ _ at' rfl ok.inTime, fun e listed => ok.epochs e ?_, ok.waiters, ok.calm⟩
      rw [at']
      exact List.mem_cons_of_mem _ listed
  | workerRefused fetched now epoch rest didUpdate failed at' =>
      refine ⟨ok.docs, in_time_goes_on { p with failedFetches := failed } _ _ at' rfl ok.inTime,
        fun e listed => ok.epochs e ?_, ok.waiters, ok.calm⟩
      rw [at']
      exact List.mem_cons_of_mem _ listed
  | workerReturned fetched =>
      exact ⟨ok.docs, in_time_rests p _ rfl ok.inTime, fun e listed => (by cases listed), ok.waiters, ok.calm⟩
  | pruneStarted r now at' =>
      exact ⟨ok.docs, in_time_goes_on (p.pruneFailures now) _ _ at' rfl ok.inTime, fun e listed => (by cases listed),
        ok.waiters, ok.calm⟩
  | pruned now epoch rest at' old =>
      exact ⟨fun e v stored => ok.docs e v (of_lookup_erase p.docs epoch e v stored).2,
        in_time_goes_on { p with docs := _ } _ _ at' rfl ok.inTime, fun e listed => (by cases listed), ok.waiters, ok.calm⟩
  | spared now epoch rest at' =>
      exact ⟨ok.docs, in_time_goes_on p _ _ at' rfl ok.inTime, fun e listed => (by cases listed), ok.waiters, ok.calm⟩
  | pruneEnded now at' =>
      exact ⟨ok.docs, in_time_goes_on p _ _ at' rfl ok.inTime, fun e listed => (by cases listed), ok.waiters, ok.calm⟩
  | called now last at' =>
      exact ⟨ok.docs, in_time_rests { p with lastCallbackEpoch := last } _ rfl ok.inTime, fun e listed => (by cases listed),
        ok.waiters, ok.calm⟩
  | found => exact ok
  | waiterAsks epoch start =>
      refine ⟨ok.docs, ok.inTime, ok.epochs, fun e attempt member => ?_, ok.calm⟩
      cases List.mem_append.mp member with
      | inl old => exact ok.waiters e attempt old
      | inr new =>
          cases List.mem_singleton.mp new
          exact Nat.le_of_lt (system_epoch_bound p epoch start)
  | waiterStored i fetched epoch system' attempt c at' got =>
      have small : epoch.toNat ≤ 2 ^ 63 := ok.waiters epoch attempt (List.mem_of_getElem? at')
      exact ⟨docs_ok_insert p.docs system' fetched epoch c ok.docs small got, ok.inTime, ok.epochs,
        fun e attempt member => ok.waiters e attempt (List.mem_of_mem_eraseIdx member), ok.calm⟩
  | waiterGaveUp i fetched =>
      exact ⟨ok.docs, ok.inTime, ok.epochs, fun e attempt member => ok.waiters e attempt (List.mem_of_mem_eraseIdx member), ok.calm⟩
  | waiterSleeps i fetched attempt =>
      exact ⟨ok.docs, ok.inTime, ok.epochs, waiters_set p.waiters i _ ok.waiters fun e n same => (by cases same), ok.calm⟩
  | waiterRetries i attempt epoch start =>
      refine ⟨ok.docs, ok.inTime, ok.epochs, waiters_set p.waiters i _ ok.waiters fun e n same => ?_, ok.calm⟩
      cases same
      exact Nat.le_of_lt (system_epoch_bound p epoch start)

end Invariant

section Sound

variable (cfg : PkiConfig)

def PkiConfig.Legitimate (d : Document) (raw : Bytes) : Prop := cfg.cachedDocument = some d ∨ cfg.ThresholdSigned raw d

structure CacheSound (p : ClientPki) : Prop where
  calm : p.panicked = false
  byEpoch : ∀ epoch, ∃ found, p.getDocumentByEpoch epoch = .returns found ∧
    ∀ d, found = some d → d.epoch = epoch ∧ ∃ raw, cfg.Legitimate d raw
  rawByEpoch : ∀ epoch, ∃ found, p.rawSignedDocumentByEpoch epoch = .returns found ∧
    ∀ raw, found = some raw → ∃ d, p.getDocumentByEpoch epoch = .returns (some d) ∧ cfg.Legitimate d raw
  current : ∃ now found, p.skewedEpoch cfg = some now ∧ p.currentDocument cfg = .returns found ∧
    ∀ blob d, found = some (blob, d) → (d.epoch = now ∨ d.epoch.toNat + 1 = now.toNat) ∧ ∃ raw, cfg.Legitimate d raw
  currentRaw : ∃ now found, p.skewedEpoch cfg = some now ∧ p.currentRawSignedDocument cfg = .returns (found, now) ∧
    ∀ raw, found = some raw → ∃ d, p.getDocumentByEpoch now = .returns (some d) ∧ cfg.Legitimate d raw
  kept : ∀ event next, p.step cfg event = some next → ∀ epoch : UInt64, epoch ∈ p.docs → epoch ∉ next.docs →
    ∀ now, p.skewedEpoch cfg = some now → epoch.toNat + 1 < now.toNat

variable {cfg}

theorem load_ok (p : ClientPki) (ok : DocsOk cfg p.docs) (epoch : UInt64) :
    ∃ found, p.load epoch = .returns found ∧ ∀ c, found = some c →
      c.doc.epoch = epoch ∧ cfg.ThresholdSigned c.rawSignedBlob c.doc ∧ epoch.toNat ≤ 2 ^ 63 := by
  cases stored : p.docs[epoch]? with
  | none => exact ⟨none, by rw [ClientPki.load, stored], fun c same => (by cases same)⟩
  | some v =>
      obtain ⟨c, rfl, good⟩ := ok epoch v stored
      refine ⟨some c, by rw [ClientPki.load, stored], fun other same => ?_⟩
      cases same
      exact good

theorem get_document_ok (p : ClientPki) (epoch : UInt64) (c : CachedDoc) (loaded : p.load epoch = .returns (some c)) :
    p.getDocumentByEpoch epoch = .returns (some c.doc) := by
  rw [ClientPki.getDocumentByEpoch, loaded]
  rfl

theorem current_ok (p : ClientPki) (ok : DocsOk cfg p.docs) (now : UInt64) (read : p.skewedEpoch cfg = some now) :
    ∃ found, p.currentDocument cfg = .returns found ∧ ∀ blob d, found = some (blob, d) →
      (d.epoch = now ∨ d.epoch.toNat + 1 = now.toNat) ∧ ∃ raw, cfg.Legitimate d raw := by
  obtain ⟨found, loaded, good⟩ := load_ok p ok now
  rw [ClientPki.currentDocument, ClientPki.currentDoc, ClientPki.now, read]
  simp only [returns_bind, loaded]
  cases found with
  | some c =>
      obtain ⟨right, signed, _⟩ := good c rfl
      refine ⟨some (c.blob, c.doc), rfl, fun blob d same => ?_⟩
      cases same
      exact ⟨.inl right, c.rawSignedBlob, .inr signed⟩
  | none =>
      obtain ⟨older, loaded', good'⟩ := load_ok p ok (now - 1)
      refine ⟨older.map fun c => (c.blob, c.doc), by rw [ClientPki.orPrevious, loaded']; rfl, fun blob d same => ?_⟩
      obtain ⟨c, rfl, same'⟩ := Option.map_eq_some_iff.mp same
      cases same'
      obtain ⟨right, signed, small⟩ := good' c rfl
      -- In the first epoch the previous one would be the last that there is.
      have positive : 1 ≤ now.toNat := by
        by_contra zero
        have first : now = 0 := UInt64.toNat.inj (by simp only [UInt64.toNat_zero]; omega)
        rw [first] at small
        exact absurd small (by decide)
      have back : (now - 1).toNat = now.toNat - 1 := UInt64.toNat_sub_of_le now 1 (UInt64.le_iff_toNat_le.mpr positive)
      refine ⟨.inr ?_, c.rawSignedBlob, .inr signed⟩
      rw [right, back]
      omega

theorem current_raw_ok (p : ClientPki) (ok : DocsOk cfg p.docs) (now : UInt64) (read : p.skewedEpoch cfg = some now) :
    ∃ found, p.currentRawSignedDocument cfg = .returns (found, now) ∧
      ∀ raw, found = some raw → ∃ d, p.getDocumentByEpoch now = .returns (some d) ∧ cfg.Legitimate d raw := by
  obtain ⟨found, loaded, good⟩ := load_ok p ok now
  rw [ClientPki.currentRawSignedDocument, ClientPki.now, read]
  simp only [returns_bind, loaded]
  cases found with
  | none => exact ⟨none, rfl, fun raw same => (by cases same)⟩
  | some c =>
      obtain ⟨right, signed, _⟩ := good c rfl
      refine ⟨some c.rawSignedBlob, by rw [← right]; rfl, fun raw same => ?_⟩
      cases same
      exact ⟨c.doc, get_document_ok p now c loaded, .inr signed⟩

theorem removed_old (p next : ClientPki) (event : ClientPkiEvent) (ok : ClientPkiOk cfg p) (taken : p.step cfg event = some next)
    (epoch : UInt64) (present : epoch ∈ p.docs) (gone : epoch ∉ next.docs) (now : UInt64) (read : p.skewedEpoch cfg = some now) :
    epoch.toNat + 1 < now.toNat := by
  cases client_pki_moves next event taken with
  | pruned began visited rest at' old =>
      obtain ⟨v, stored⟩ := (mem_iff_lookup p.docs epoch).mp present
      obtain ⟨c, _, _, _, small⟩ := ok.docs epoch v stored
      have here : visited = epoch := by
        by_contra other
        exact gone ((mem_iff_lookup _ epoch).mpr ⟨v, by rw [lookup_erase, if_neg other, stored]⟩)
      subst here
      obtain ⟨_, current, again, behind⟩ := (in_time_iff p).mp ok.inTime
      have notAhead := UInt64.le_iff_toNat_le.mp (behind began (by rw [at']; rfl))
      have older := UInt64.lt_iff_toNat_lt.mp old
      rw [UInt64.toNat_add] at older
      have one : (1 : UInt64).toNat = 1 := rfl
      rw [Option.some.inj (read.symm.trans again)]
      omega
  | workerStored fetched now' other system rest didUpdate c at' got =>
      exact absurd (Std.ExtTreeMap.mem_insert.mpr (.inr present)) gone
  | waiterStored i fetched other system attempt c at' got =>
      exact absurd (Std.ExtTreeMap.mem_insert.mpr (.inr present)) gone
  | _ => exact absurd present gone

theorem client_pki_sound (p : ClientPki) (ok : ClientPkiOk cfg p) : CacheSound cfg p := by
  obtain ⟨_, now, read, _⟩ := (in_time_iff p).mp ok.inTime
  obtain ⟨found, current, good⟩ := current_ok p ok.docs now read
  obtain ⟨raw, currentRaw, legitimate⟩ := current_raw_ok p ok.docs now read
  refine ⟨ok.calm, fun epoch => ?_, fun epoch => ?_, ⟨now, found, read, current, good⟩,
    ⟨now, raw, read, currentRaw, legitimate⟩, fun event next taken => removed_old p next event ok taken⟩
  · obtain ⟨found, loaded, good⟩ := load_ok p ok.docs epoch
    refine ⟨found.map CachedDoc.doc, by rw [ClientPki.getDocumentByEpoch, loaded]; rfl, fun d same => ?_⟩
    obtain ⟨c, rfl, rfl⟩ := Option.map_eq_some_iff.mp same
    obtain ⟨right, signed, _⟩ := good c rfl
    exact ⟨right, c.rawSignedBlob, .inr signed⟩
  · obtain ⟨found, loaded, good⟩ := load_ok p ok.docs epoch
    refine ⟨found.map CachedDoc.rawSignedBlob, by rw [ClientPki.rawSignedDocumentByEpoch, loaded]; rfl, fun raw same => ?_⟩
    obtain ⟨c, rfl, rfl⟩ := Option.map_eq_some_iff.mp same
    exact ⟨c.doc, get_document_ok p epoch c loaded, .inr (good c rfl).2.1⟩

/-- In a client without a configured document, from the start and as long as the clock can be
read, does not go back within a round of the worker, and the authorities agree with the client
about the geometry. -/
theorem client_documents_sound (uncached : cfg.cachedDocument = none) (unixTime : Int)
    (begun : (newPKI cfg unixTime).inTime cfg = true) (events : List ClientPkiEvent)
    (meets : Meets (ClientPki.step cfg) (fun p event => p.steady cfg event = true) (newPKI cfg unixTime) events) :
    Always (ClientPki.step cfg) (CacheSound cfg) (newPKI cfg unixTime) events := by
  refine always_of_invariant _ _ (ClientPkiOk cfg) _ (fun p event next => client_pki_kept p next event) client_pki_sound
    events _ ⟨fun epoch v stored => ?_, begun, fun epoch listed => (by cases listed), fun epoch attempt member => (by cases member),
      rfl⟩ meets
  rw [newPKI, uncached] at stored
  simp at stored

end Sound

def pkiKey : PublicKey := ⟨ed25519, [7]⟩

def signedDocument (epoch : UInt64) : Bytes :=
  referenceEnv.encodeCertificate (withSignature referenceEnv ⟨ed25519, [7]⟩ pkiKey
    (documentCertificate referenceEnv { blankDocument with epoch := epoch, pkiSignatureScheme := ed25519 }))

def smallPkiConfig (cachedDocument : Option Document) : PkiConfig :=
  ⟨referenceEnv, [pkiKey], true, cachedDocument, [], true, true, 1000000000, by decide, 0, 0⟩

def goodFetch (epoch : UInt64) : Fetched := ⟨.ok ⟨consensusOk, signedDocument epoch⟩, fun _ => ascending, ascending⟩

def fetchRound (epoch : UInt64) (skew : Int) : List ClientPkiEvent :=
  [.wake, .nextEpoch, .setClockSkew skew, .workerFetched (goodFetch epoch), .startPrune ascending]

def steadyRounds : List ClientPkiEvent :=
  fetchRound 5 0 ++ [.pruneNext, .pruneNext, .callback, .setTime 8] ++ fetchRound 8 1 ++ [.pruneNext, .pruneNext]

theorem steady_rounds_sound :
    ((run (ClientPki.step (smallPkiConfig none)) (newPKI (smallPkiConfig none) 5) steadyRounds).map
      fun p => p.docs.keys) = some [8] ∧
    Always (ClientPki.step (smallPkiConfig none)) (CacheSound (smallPkiConfig none)) (newPKI (smallPkiConfig none) 5)
      steadyRounds :=
  ⟨by decide +kernel, client_documents_sound rfl 5 (by decide +kernel) steadyRounds (by decide +kernel)⟩

/-- The configured document cannot be looked up. And a document is removed in its own epoch if the
skew puts the clock back while the worker fetches a later one. -/
theorem configured_document_panics :
    (newPKI (smallPkiConfig (some blankDocument)) 5).getDocumentByEpoch 0 = .panics ∧
    ((run (ClientPki.step (smallPkiConfig none)) (newPKI (smallPkiConfig none) 5)
      (fetchRound 5 0 ++ [.pruneNext, .pruneNext, .callback, .setTime 8] ++ fetchRound 8 (-3) ++ [.pruneNext])).map
        fun p => (p.skewedEpoch (smallPkiConfig none), p.docs.keys)) = some (some 5, [8]) := by
  decide +kernel

end Katzenpost
