import Katzenpost.Core.Reference
import Katzenpost.Authority.Commits

set_option autoImplicit false

namespace Katzenpost

open Go Std Relation

section Record

theorem record_value_spec (seen : GoMap Digest Bytes) (badnodes : List Digest) (pk2 : Digest) (value : Bytes) :
    (∀ x ∈ badnodes, x ∈ (recordValue seen badnodes pk2 value).2) ∧
    (∀ x ∈ (recordValue seen badnodes pk2 value).2, x ∈ badnodes ∨
      x = pk2 ∧ ∃ earlier, seen[pk2]? = some earlier ∧ value ≠ earlier) ∧
    (∀ (x : Digest) (kept : Bytes), seen[x]? = some kept → (recordValue seen badnodes pk2 value).1[x]? = some kept) ∧
    (∀ (x : Digest) (found : Bytes), (recordValue seen badnodes pk2 value).1[x]? = some found →
      seen[x]? = some found ∨ x = pk2 ∧ seen[pk2]? = none ∧ found = value) ∧
    (pk2 ∈ (recordValue seen badnodes pk2 value).2 ∨ (recordValue seen badnodes pk2 value).1[pk2]? = some value) := by
  unfold recordValue
  cases earlier : seen[pk2]? with
  | none =>
      refine ⟨fun _ member => member, fun _ member => .inl member, ?_, ?_, .inr (by simp)⟩
      · intro x kept stored
        have other : pk2 ≠ x := by
          rintro rfl
          simp [earlier] at stored
        simpa [lookup_insert, other] using stored
      · intro x found lookup
        by_cases same : pk2 = x
        · refine .inr ⟨same.symm, rfl, ?_⟩
          simpa [lookup_insert, same, eq_comm] using lookup
        · exact .inl (by simpa [lookup_insert, same] using lookup)
  | some before =>
      by_cases same : value = before
      · subst same
        simp [earlier]
      · simp only [if_neg same, List.mem_cons]
        refine ⟨fun _ => .inr, fun x member => ?_, fun _ _ stored => stored, fun _ _ lookup => .inl lookup, by simp⟩
        rcases member with rfl | old
        · exact .inr ⟨rfl, before, rfl, same⟩
        · exact .inl old

variable (st : CommitState) (pk2 : Digest) (signedCommit signedReveal : Bytes)

theorem record_bad_mono (x : Digest) (member : x ∈ st.badnodes) :
    x ∈ (recordEntry st pk2 signedCommit signedReveal).badnodes :=
  (record_value_spec _ _ pk2 signedReveal).1 x ((record_value_spec st.comitted _ pk2 signedCommit).1 x member)

theorem record_bad_new (x : Digest) (member : x ∈ (recordEntry st pk2 signedCommit signedReveal).badnodes) :
    x ∈ st.badnodes ∨ x = pk2 ∧ ((∃ earlier, st.comitted[pk2]? = some earlier ∧ signedCommit ≠ earlier) ∨
      ∃ earlier, st.revealed[pk2]? = some earlier ∧ signedReveal ≠ earlier) := by
  rcases (record_value_spec st.revealed _ pk2 signedReveal).2.1 x member with before | ⟨same, mismatch⟩
  · rcases (record_value_spec st.comitted st.badnodes pk2 signedCommit).2.1 x before with old | ⟨same, mismatch⟩
    · exact .inl old
    · exact .inr ⟨same, .inl mismatch⟩
  · exact .inr ⟨same, .inr mismatch⟩

theorem record_comitted_mono (x : Digest) (kept : Bytes) (stored : st.comitted[x]? = some kept) :
    (recordEntry st pk2 signedCommit signedReveal).comitted[x]? = some kept :=
  (record_value_spec st.comitted st.badnodes pk2 signedCommit).2.2.1 x kept stored

theorem record_revealed_mono (x : Digest) (kept : Bytes) (stored : st.revealed[x]? = some kept) :
    (recordEntry st pk2 signedCommit signedReveal).revealed[x]? = some kept :=
  (record_value_spec st.revealed _ pk2 signedReveal).2.2.1 x kept stored

theorem record_comitted_new (x : Digest) (found : Bytes)
    (lookup : (recordEntry st pk2 signedCommit signedReveal).comitted[x]? = some found) :
    st.comitted[x]? = some found ∨ x = pk2 ∧ st.comitted[pk2]? = none ∧ found = signedCommit :=
  (record_value_spec st.comitted st.badnodes pk2 signedCommit).2.2.2.1 x found lookup

theorem record_revealed_new (x : Digest) (found : Bytes)
    (lookup : (recordEntry st pk2 signedCommit signedReveal).revealed[x]? = some found) :
    st.revealed[x]? = some found ∨ x = pk2 ∧ st.revealed[pk2]? = none ∧ found = signedReveal :=
  (record_value_spec st.revealed _ pk2 signedReveal).2.2.2.1 x found lookup

theorem record_recorded :
    pk2 ∈ (recordEntry st pk2 signedCommit signedReveal).badnodes ∨
      ((recordEntry st pk2 signedCommit signedReveal).comitted[pk2]? = some signedCommit ∧
        (recordEntry st pk2 signedCommit signedReveal).revealed[pk2]? = some signedReveal) := by
  rcases (record_value_spec st.comitted st.badnodes pk2 signedCommit).2.2.2.2 with bad | commit
  · exact .inl ((record_value_spec st.revealed _ pk2 signedReveal).1 pk2 bad)
  · rcases (record_value_spec st.revealed _ pk2 signedReveal).2.2.2.2 with bad | reveal
    · exact .inl bad
    · exact .inr ⟨commit, reveal⟩

theorem record_absent :
    (st.comitted[pk2]? = none → (recordEntry st pk2 signedCommit signedReveal).comitted[pk2]? = some signedCommit) ∧
    (st.revealed[pk2]? = none → (recordEntry st pk2 signedCommit signedReveal).revealed[pk2]? = some signedReveal) := by
  constructor <;>
    · intro absent
      simp [recordEntry, recordValue, absent]

end Record

section Examine

variable (env : Env) (s : Server) (now epoch : UInt64) (verifyRanges : Digest → PairRanges)
  (certificates : GoMap Digest Document)

def Listed (pk pk2 : Digest) (signedCommit signedReveal : Bytes) : Prop :=
  ∃ certificate, certificates[pk]? = some certificate ∧
    certificate.sharedRandomCommit[pk2]? = some signedCommit ∧
    certificate.sharedRandomReveal[pk2]? = some signedReveal ∧
    checkEntry env s (verifyRanges pk) now epoch certificate pk2 signedCommit = .ok

def Judged (pk pk2 : Digest) (check : EntryCheck) : Prop :=
  ∃ certificate signedCommit, certificates[pk]? = some certificate ∧
    certificate.sharedRandomCommit[pk2]? = some signedCommit ∧
    checkEntry env s (verifyRanges pk) now epoch certificate pk2 signedCommit = check

inductive CommitStep : CommitState → CommitState → Prop where
  | record (st : CommitState) (pk pk2 : Digest) (signedCommit signedReveal : Bytes)
      (listed : Listed env s now epoch verifyRanges certificates pk pk2 signedCommit signedReveal) :
      CommitStep st (recordEntry st pk2 signedCommit signedReveal)
  | forwarder (st : CommitState) (pk pk2 : Digest)
      (judged : Judged env s now epoch verifyRanges certificates pk pk2 .forwarder) :
      CommitStep st { st with badnodes := pk :: st.badnodes }
  | both (st : CommitState) (pk pk2 : Digest)
      (judged : Judged env s now epoch verifyRanges certificates pk pk2 .both) :
      CommitStep st { st with badnodes := pk2 :: pk :: st.badnodes }

def Examined (st : CommitState) (pk : Digest) (certificate : Document) (entries : List (Digest × Bytes)) : Prop :=
  pk ∈ st.badnodes ∨ ∀ entry ∈ entries, entry.1 ∈ st.badnodes ∨
    ∃ signedReveal, certificate.sharedRandomReveal[entry.1]? = some signedReveal ∧
      checkEntry env s (verifyRanges pk) now epoch certificate entry.1 entry.2 = .ok ∧
      st.comitted[entry.1]? = some entry.2 ∧ st.revealed[entry.1]? = some signedReveal

structure Grows (st st' : CommitState) : Prop where
  badnodes : ∀ x ∈ st.badnodes, x ∈ st'.badnodes
  comitted : ∀ (x : Digest) (kept : Bytes), st.comitted[x]? = some kept → st'.comitted[x]? = some kept
  revealed : ∀ (x : Digest) (kept : Bytes), st.revealed[x]? = some kept → st'.revealed[x]? = some kept

theorem grows_refl (st : CommitState) : Grows st st := ⟨fun _ h => h, fun _ _ h => h, fun _ _ h => h⟩

theorem grows_trans (a b c : CommitState) (left : Grows a b) (right : Grows b c) : Grows a c :=
  ⟨fun x h => right.badnodes x (left.badnodes x h), fun x v h => right.comitted x v (left.comitted x v h),
    fun x v h => right.revealed x v (left.revealed x v h)⟩

variable {env s now epoch verifyRanges certificates}

theorem commit_step_grows (st st' : CommitState) (step : CommitStep env s now epoch verifyRanges certificates st st') :
    Grows st st' := by
  cases step with
  | record pk pk2 signedCommit signedReveal listed =>
      exact ⟨record_bad_mono st pk2 _ _, record_comitted_mono st pk2 _ _, record_revealed_mono st pk2 _ _⟩
  | forwarder pk pk2 judged => exact ⟨fun x h => List.mem_cons_of_mem _ h, fun _ _ h => h, fun _ _ h => h⟩
  | both pk pk2 judged =>
      exact ⟨fun x h => List.mem_cons_of_mem _ (List.mem_cons_of_mem _ h), fun _ _ h => h, fun _ _ h => h⟩

theorem commit_steps_grow (st st' : CommitState)
    (steps : ReflTransGen (CommitStep env s now epoch verifyRanges certificates) st st') : Grows st st' := by
  induction steps with
  | refl => exact grows_refl st
  | tail _ step ih => exact grows_trans _ _ _ ih (commit_step_grows _ _ step)

theorem check_entry_ok_reveal (r : PairRanges) (certificate : Document) (pk2 : Digest) (signedCommit : Bytes)
    (passes : checkEntry env s r now epoch certificate pk2 signedCommit = .ok) :
    ∃ signedReveal, certificate.sharedRandomReveal[pk2]? = some signedReveal := by
  unfold checkEntry at passes
  split at passes
  · cases passes
  · split at passes
    · cases passes
    · split at passes
      · cases passes
      · rename_i signedReveal found
        exact ⟨signedReveal, found⟩

theorem examined_mono (st st' : CommitState) (grows : Grows st st') (pk : Digest) (certificate : Document)
    (entries : List (Digest × Bytes))
    (examined : Examined env s now epoch verifyRanges st pk certificate entries) :
    Examined env s now epoch verifyRanges st' pk certificate entries := by
  rcases examined with bad | all
  · exact .inl (grows.badnodes pk bad)
  · refine .inr fun entry member => ?_
    rcases all entry member with bad | ⟨signedReveal, reveal, passes, commit, revealed⟩
    · exact .inl (grows.badnodes _ bad)
    · exact .inr ⟨signedReveal, reveal, passes, grows.comitted _ _ commit, grows.revealed _ _ revealed⟩

theorem verify_entries_spec (pk : Digest) (certificate : Document) (stored : certificates[pk]? = some certificate)
    (entries : List (Digest × Bytes))
    (carried : ∀ entry ∈ entries, certificate.sharedRandomCommit[entry.1]? = some entry.2) (st st' : CommitState)
    (verified : verifyEntries env s (verifyRanges pk) now epoch pk certificate st entries = some st') :
    ReflTransGen (CommitStep env s now epoch verifyRanges certificates) st st' ∧
      Examined env s now epoch verifyRanges st' pk certificate entries := by
  induction entries generalizing st with
  | nil =>
      obtain rfl := Option.some.inj verified
      exact ⟨.refl, .inr (by simp)⟩
  | cons entry rest ih =>
      obtain ⟨pk2, signedCommit⟩ := entry
      have carriedRest := fun other member => carried other (List.mem_cons_of_mem _ member)
      have here := carried (pk2, signedCommit) List.mem_cons_self
      rw [verifyEntries] at verified
      split at verified
      · -- a bad node is skipped
        rename_i bad
        obtain ⟨steps, examined⟩ := ih carriedRest st verified
        refine ⟨steps, examined.imp_right fun all other member => ?_⟩
        rcases List.mem_cons.mp member with rfl | later
        · exact .inl ((commit_steps_grow _ _ steps).badnodes pk2 bad)
        · exact all other later
      · cases check : checkEntry env s (verifyRanges pk) now epoch certificate pk2 signedCommit with
        | panic => simp [check] at verified
        | forwarder =>
            simp only [check, Option.some.injEq] at verified
            subst verified
            exact ⟨.single (.forwarder st pk pk2 ⟨certificate, signedCommit, stored, here, check⟩), .inl List.mem_cons_self⟩
        | both =>
            simp only [check, Option.some.injEq] at verified
            subst verified
            exact ⟨.single (.both st pk pk2 ⟨certificate, signedCommit, stored, here, check⟩), .inl (by simp)⟩
        | ok =>
            obtain ⟨signedReveal, reveal⟩ := check_entry_ok_reveal _ certificate pk2 signedCommit check
            simp only [check, reveal, Option.getD_some] at verified
            obtain ⟨steps, examined⟩ := ih carriedRest _ verified
            have grows := commit_steps_grow _ _ steps
            refine ⟨.head (.record st pk pk2 signedCommit signedReveal ⟨certificate, stored, here, reveal, check⟩) steps,
              examined.imp_right fun all other member => ?_⟩
            rcases List.mem_cons.mp member with rfl | later
            · rcases record_recorded st pk2 signedCommit signedReveal with bad | ⟨commit, revealed⟩
              · exact .inl (grows.badnodes _ bad)
              · exact .inr ⟨signedReveal, reveal, check, grows.comitted _ _ commit, grows.revealed _ _ revealed⟩
            · exact all other later

theorem verify_certificates_spec (r : CommitRanges) (ranges : r.verify = verifyRanges)
    (list : List (Digest × Document)) (carried : ∀ entry ∈ list, certificates[entry.1]? = some entry.2)
    (st st' : CommitState) (verified : verifyCertificates env s r now epoch st list = some st') :
    ReflTransGen (CommitStep env s now epoch verifyRanges certificates) st st' ∧
      ∀ entry ∈ list, Examined env s now epoch verifyRanges st' entry.1 entry.2
        ((r.commits entry.1).order entry.2.sharedRandomCommit) := by
  subst ranges
  induction list generalizing st with
  | nil =>
      obtain rfl := Option.some.inj verified
      exact ⟨.refl, by simp⟩
  | cons entry rest ih =>
      obtain ⟨pk, certificate⟩ := entry
      have carriedRest := fun other member => carried other (List.mem_cons_of_mem _ member)
      rw [verifyCertificates] at verified
      split at verified
      · rename_i bad
        obtain ⟨steps, examined⟩ := ih carriedRest st verified
        refine ⟨steps, fun other member => ?_⟩
        rcases List.mem_cons.mp member with rfl | later
        · exact .inl ((commit_steps_grow _ _ steps).badnodes pk bad)
        · exact examined other later
      · split at verified
        · cases verified
        · rename_i next inner
          obtain ⟨first, here⟩ := verify_entries_spec pk certificate (carried _ List.mem_cons_self) _
            (fun other member => (order_mem _ _ _ _).mp member) st next inner
          obtain ⟨steps, examined⟩ := ih carriedRest next verified
          refine ⟨first.trans steps, fun other member => ?_⟩
          rcases List.mem_cons.mp member with rfl | later
          · exact examined_mono next st' (commit_steps_grow _ _ steps) pk certificate _ here
          · exact examined other later

end Examine

section Result

variable (env : Env) (s : Server) (now epoch : UInt64) (verifyRanges : Digest → PairRanges)
  (certificates : GoMap Digest Document)

def PairValid (pk2 : Digest) (signedCommit signedReveal : Bytes) : Prop :=
  ∃ v commit reveal ofCommit ofReveal, (reverseHash env s)[pk2]? = some v ∧ keyHash env v = pk2 ∧
    verify env ofCommit now v signedCommit = .ok commit ∧ verify env ofReveal now v signedReveal = .ok reveal ∧
    uint64BE commit = epoch ∧ Reveals env commit reveal

theorem check_entry_ok_iff (r : PairRanges) (certificate : Document) (pk2 : Digest) (signedCommit : Bytes) :
    checkEntry env s r now epoch certificate pk2 signedCommit = .ok ↔
      ∃ v commit signedReveal reveal, (reverseHash env s)[pk2]? = some v ∧
        verify env (r.commit pk2) now v signedCommit = .ok commit ∧
        certificate.sharedRandomReveal[pk2]? = some signedReveal ∧
        verify env (r.reveal pk2) now v signedReveal = .ok reveal ∧
        uint64BE commit = epoch ∧ Reveals env commit reveal := by
  unfold checkEntry
  cases (reverseHash env s)[pk2]? with
  | none => simp
  | some v =>
      cases signed : verify env (r.commit pk2) now v signedCommit with
      | error e => simp [signed]
      | ok commit =>
          cases certificate.sharedRandomReveal[pk2]? with
          | none => simp [signed]
          | some signedReveal =>
              cases opened : verify env (r.reveal pk2) now v signedReveal with
              | error e => simp [signed, opened]
              | ok reveal =>
                  cases set : setCommit commit with
                  | none => simp [signed, opened, set, Reveals]
                  | some srv =>
                      have epochs : srv.epoch = uint64BE commit := by rw [((set_commit_some commit srv).mp set).2]
                      by_cases same : uint64BE commit = epoch <;> by_cases valid : srv.verify env reveal = true <;>
                        simp [signed, opened, set, Reveals, epochs, same, valid]

structure Paired (st : CommitState) : Prop where
  commit : ∀ (x : Digest) (c : Bytes), st.comitted[x]? = some c →
    ∃ pk r, st.revealed[x]? = some r ∧ Listed env s now epoch verifyRanges certificates pk x c r
  reveal : ∀ (x : Digest) (r : Bytes), st.revealed[x]? = some r → ∃ c, st.comitted[x]? = some c

structure Consistent (bad : Digest → Prop) : Prop where
  -- no commit is too short to be read
  noPanic : ∀ pk pk2, ¬ Judged env s now epoch verifyRanges certificates pk pk2 .panic
  -- the certificates of the others are free of faults
  clean : ∀ pk pk2 check, ¬ bad pk → Judged env s now epoch verifyRanges certificates pk pk2 check → check = .ok
  -- nobody carries a faulty pair of theirs
  unframed : ∀ pk pk2, ¬ bad pk2 → ¬ Judged env s now epoch verifyRanges certificates pk pk2 .both
  -- and all pairs of theirs that pass are the same
  agreed : ∀ pk pk' x c r c' r', ¬ bad x → Listed env s now epoch verifyRanges certificates pk x c r →
    Listed env s now epoch verifyRanges certificates pk' x c' r' → c = c' ∧ r = r'

-- Two certificates differ over the node, or its own has a fault; none of them is by a bad
-- node, or about one, other than itself.
def Exposed (bad : Digest → Prop) (b : Digest) : Prop :=
  (∃ pk pk' c r c' r', (¬ bad pk ∨ pk = b) ∧ (¬ bad pk' ∨ pk' = b) ∧ Listed env s now epoch verifyRanges certificates pk b c r ∧
    Listed env s now epoch verifyRanges certificates pk' b c' r' ∧ ¬ (c = c' ∧ r = r')) ∨
  ∃ x check, (¬ bad x ∨ x = b) ∧ Judged env s now epoch verifyRanges certificates b x check ∧ check ≠ .ok

def Idle (bad : Digest → Prop) (b : Digest) : Prop :=
  (∀ pk c r, ¬ Listed env s now epoch verifyRanges certificates pk b c r) ∧
    ∀ x check, ¬ bad x → ¬ Judged env s now epoch verifyRanges certificates b x check

-- A set of nodes of which every order of examination finds those bad that matter, and
-- nobody else.
structure Settled (bad : Digest → Prop) : Prop extends Consistent env s now epoch verifyRanges certificates bad where
  exposed : ∀ b, bad b → Exposed env s now epoch verifyRanges certificates bad b ∨ Idle env s now epoch verifyRanges certificates bad b
  -- what a bad node lists of the others, one of them lists too
  covered : ∀ b x c r, ¬ bad x → Listed env s now epoch verifyRanges certificates b x c r →
    ∃ pk c r, ¬ bad pk ∧ Listed env s now epoch verifyRanges certificates pk x c r
  -- a reveal without its commit is the one that is returned, if one is
  matched : ∀ (pk author x : Digest) (certificate : Document) (c rv rv' : Bytes),
    (bad pk → ¬ Exposed env s now epoch verifyRanges certificates bad pk) → ¬ bad author → ¬ bad x →
    Listed env s now epoch verifyRanges certificates author x c rv → certificates[pk]? = some certificate →
    certificate.sharedRandomCommit[x]? = none → certificate.sharedRandomReveal[x]? = some rv' → rv' = rv

def OneValue (st : CommitState) (commits reveals : GoMap Digest Bytes) : Prop :=
  ∀ (pk : Digest) (certificate : Document), certificates[pk]? = some certificate → pk ∉ st.badnodes →
    ∀ (x : Digest) (c rv : Bytes), commits[x]? = some c → reveals[x]? = some rv →
      (∀ c', certificate.sharedRandomCommit[x]? = some c' → c' = c) ∧
      (∀ rv', certificate.sharedRandomReveal[x]? = some rv' → rv' = rv)

def Independent (bad : Digest → Prop) (commits reveals : GoMap Digest Bytes) : Prop :=
  ∀ r : CommitRanges, r.verify = verifyRanges →
    ∃ st, examineCertificates env s r now epoch certificates = some st ∧ (∀ x ∈ st.badnodes, bad x) ∧
      verifyCommits env s r now epoch certificates = some (commits, reveals) ∧ OneValue certificates st commits reveals

variable {env s now epoch verifyRanges certificates}

theorem listed_valid (pk pk2 : Digest) (signedCommit signedReveal : Bytes)
    (listed : Listed env s now epoch verifyRanges certificates pk pk2 signedCommit signedReveal) :
    PairValid env s now epoch pk2 signedCommit signedReveal := by
  obtain ⟨certificate, _, _, found, passes⟩ := listed
  obtain ⟨v, commit, signedReveal', reveal, known, signed, found', opened, epochs, reveals⟩ :=
    (check_entry_ok_iff env s now epoch _ certificate pk2 signedCommit).mp passes
  obtain rfl := Option.some.inj (found'.symm.trans found)
  exact ⟨v, commit, reveal, _, _, known, reverse_hash_key env s pk2 v known, signed, opened, epochs, reveals⟩

theorem commit_step_paired (st st' : CommitState) (step : CommitStep env s now epoch verifyRanges certificates st st')
    (paired : Paired env s now epoch verifyRanges certificates st) :
    Paired env s now epoch verifyRanges certificates st' := by
  cases step with
  | forwarder pk pk2 judged => exact ⟨paired.commit, paired.reveal⟩
  | both pk pk2 judged => exact ⟨paired.commit, paired.reveal⟩
  | record pk pk2 signedCommit signedReveal listed =>
      constructor
      · intro x c found
        rcases record_comitted_new st pk2 _ _ x c found with before | ⟨rfl, absent, rfl⟩
        · obtain ⟨author, r, stored, fromAuthor⟩ := paired.commit x c before
          exact ⟨author, r, record_revealed_mono st pk2 _ _ x r stored, fromAuthor⟩
        · have none : st.revealed[x]? = none := by
            by_contra some
            obtain ⟨r, stored⟩ := Option.ne_none_iff_exists'.mp some
            obtain ⟨_, commit⟩ := paired.reveal x r stored
            simp [absent] at commit
          exact ⟨pk, signedReveal, (record_absent st x _ _).2 none, listed⟩
      · intro x r found
        have kept : ∀ c, st.comitted[x]? = some c → ∃ c, (recordEntry st pk2 signedCommit signedReveal).comitted[x]? = some c :=
          fun c stored => ⟨c, record_comitted_mono st pk2 _ _ x c stored⟩
        rcases record_revealed_new st pk2 _ _ x r found with before | ⟨rfl, -, rfl⟩
        · obtain ⟨c, stored⟩ := paired.reveal x r before
          exact kept c stored
        · cases stored : st.comitted[x]? with
          | none => exact ⟨_, (record_absent st x _ _).1 stored⟩
          | some c => exact kept c stored

theorem commit_steps_paired (st : CommitState)
    (steps : ReflTransGen (CommitStep env s now epoch verifyRanges certificates) ⟨[], ∅, ∅⟩ st) :
    Paired env s now epoch verifyRanges certificates st := by
  induction steps with
  | refl => exact ⟨by simp, by simp⟩
  | tail _ step ih => exact commit_step_paired _ _ step ih

theorem erase_all_lookup (m : GoMap Digest Bytes) (keys : List Digest) (x : Digest) :
    (eraseAll m keys)[x]? = if x ∈ keys then none else m[x]? := by
  induction keys generalizing m with
  | nil => simp [eraseAll]
  | cons key rest ih =>
      have unfolded : eraseAll m (key :: rest) = eraseAll (m.erase key) rest := rfl
      rw [unfolded, ih, lookup_erase]
      have swap : x = key ↔ key = x := eq_comm
      by_cases here : key = x <;> by_cases later : x ∈ rest <;> simp [here, later, swap]

theorem examine_spec (r : CommitRanges) (ranges : r.verify = verifyRanges) (st : CommitState)
    (examined : examineCertificates env s r now epoch certificates = some st) :
    ReflTransGen (CommitStep env s now epoch verifyRanges certificates) ⟨[], ∅, ∅⟩ st ∧
      ∀ (pk : Digest) (certificate : Document), certificates[pk]? = some certificate → pk ∉ st.badnodes →
        ∀ (x : Digest) (c : Bytes), certificate.sharedRandomCommit[x]? = some c → x ∉ st.badnodes →
          ∃ r, certificate.sharedRandomReveal[x]? = some r ∧
            checkEntry env s (verifyRanges pk) now epoch certificate x c = .ok ∧
            st.comitted[x]? = some c ∧ st.revealed[x]? = some r := by
  obtain ⟨steps, all⟩ := verify_certificates_spec r ranges _ (fun _ member => (order_mem _ _ _ _).mp member) _ st examined
  refine ⟨steps, fun pk certificate stored valid x c carried good => ?_⟩
  have here := all (pk, certificate) ((order_mem _ _ _ _).mpr stored)
  have entry := here.resolve_left valid (x, c) ((order_mem _ _ _ _).mpr carried)
  exact entry.resolve_left good

theorem verify_entries_returns (r : PairRanges) (pk : Digest) (certificate : Document) (entries : List (Digest × Bytes))
    (safe : ∀ entry ∈ entries, checkEntry env s r now epoch certificate entry.1 entry.2 ≠ .panic) (st : CommitState) :
    ∃ st', verifyEntries env s r now epoch pk certificate st entries = some st' := by
  induction entries generalizing st with
  | nil => exact ⟨st, rfl⟩
  | cons entry rest ih =>
      have safeRest := fun other member => safe other (List.mem_cons_of_mem _ member)
      have here := safe entry List.mem_cons_self
      rw [verifyEntries]
      split
      · exact ih safeRest st
      · split
        · rename_i panics
          exact absurd panics here
        · exact ⟨_, rfl⟩
        · exact ⟨_, rfl⟩
        · exact ih safeRest _

theorem examine_returns (r : CommitRanges)
    (safe : ∀ pk pk2, ¬ Judged env s now epoch r.verify certificates pk pk2 .panic) :
    ∃ st, examineCertificates env s r now epoch certificates = some st := by
  have all : ∀ (list : List (Digest × Document)) (st : CommitState),
      (∀ entry ∈ list, certificates[entry.1]? = some entry.2) →
        ∃ st', verifyCertificates env s r now epoch st list = some st' := by
    intro list
    induction list with
    | nil => exact fun st _ => ⟨st, rfl⟩
    | cons entry rest ih =>
        intro st carried
        have carriedRest := fun other member => carried other (List.mem_cons_of_mem _ member)
        rw [verifyCertificates]
        split
        · exact ih st carriedRest
        · obtain ⟨next, inner⟩ := verify_entries_returns (r.verify entry.1) entry.1 entry.2
            ((r.commits entry.1).order entry.2.sharedRandomCommit) (fun other member panics =>
              safe entry.1 other.1 ⟨entry.2, other.2, carried entry List.mem_cons_self,
                (order_mem _ _ _ _).mp member, panics⟩) st
          rw [inner]
          exact ih next carriedRest
  exact all _ _ fun _ member => (order_mem _ _ _ _).mp member

theorem commit_steps_consistent (bad : Digest → Prop) (consistent : Consistent env s now epoch verifyRanges certificates bad)
    (st : CommitState) (steps : ReflTransGen (CommitStep env s now epoch verifyRanges certificates) ⟨[], ∅, ∅⟩ st) :
    ∀ x ∈ st.badnodes, bad x := by
  induction steps with
  | refl => simp
  | tail before step ih =>
      have paired := commit_steps_paired _ before
      cases step with
      | forwarder pk pk2 judged =>
          intro x member
          rcases List.mem_cons.mp member with rfl | old
          · by_contra good
            exact absurd (consistent.clean x pk2 _ good judged) (by decide)
          · exact ih x old
      | both pk pk2 judged =>
          intro x member
          rcases List.mem_cons.mp member with rfl | later
          · by_contra good
            exact consistent.unframed pk x good judged
          · rcases List.mem_cons.mp later with rfl | old
            · by_contra good
              exact absurd (consistent.clean x pk2 _ good judged) (by decide)
            · exact ih x old
      | record pk pk2 signedCommit signedReveal listed =>
          rename_i mid
          intro x member
          rcases record_bad_new mid pk2 _ _ x member with old | ⟨rfl, mismatch⟩
          · exact ih x old
          · -- a second value of a node that is not bad would have to agree with the first
            by_contra good
            rcases mismatch with ⟨earlier, stored, differs⟩ | ⟨earlier, stored, differs⟩
            · obtain ⟨author, r, _, first⟩ := paired.commit x earlier stored
              exact differs (consistent.agreed pk author x _ _ _ _ good listed first).1
            · obtain ⟨c, commit⟩ := paired.reveal x earlier stored
              obtain ⟨author, r, revealed, first⟩ := paired.commit x c commit
              obtain rfl := Option.some.inj (revealed.symm.trans stored)
              exact differs (consistent.agreed pk author x _ _ _ _ good listed first).2

theorem examine_settled (bad : Digest → Prop) (settled : Settled env s now epoch verifyRanges certificates bad)
    (r : CommitRanges) (ranges : r.verify = verifyRanges) (st : CommitState)
    (examined : examineCertificates env s r now epoch certificates = some st) :
    (∀ x ∈ st.badnodes, bad x) ∧
      (∀ x, Exposed env s now epoch verifyRanges certificates bad x → x ∈ st.badnodes) ∧
      ∀ (x : Digest) (c rv : Bytes), ¬ bad x → (st.comitted[x]? = some c ∧ st.revealed[x]? = some rv ↔
        ∃ pk, ¬ bad pk ∧ Listed env s now epoch verifyRanges certificates pk x c rv) := by
  obtain ⟨steps, complete⟩ := examine_spec r ranges st examined
  have paired := commit_steps_paired st steps
  have only := commit_steps_consistent bad settled.toConsistent st steps
  have recorded : ∀ pk x c rv, pk ∉ st.badnodes → x ∉ st.badnodes → Listed env s now epoch verifyRanges certificates pk x c rv →
      st.comitted[x]? = some c ∧ st.revealed[x]? = some rv := by
    rintro pk x c rv valid unmarked ⟨certificate, stored, commit, reveal, _⟩
    obtain ⟨rv', reveal', _, comitted, revealed⟩ := complete pk certificate stored valid x c commit unmarked
    obtain rfl := Option.some.inj (reveal'.symm.trans reveal)
    exact ⟨comitted, revealed⟩
  refine ⟨only, fun x exposed => ?_, fun x c rv good => ⟨?_, ?_⟩⟩
  · by_contra unmarked
    have valid : ∀ pk, ¬ bad pk ∨ pk = x → pk ∉ st.badnodes := by
      rintro pk (good | rfl) marked
      · exact good (only pk marked)
      · exact unmarked marked
    rcases exposed with ⟨pk, pk', c, r, c', r', good, good', first, second, differ⟩ | ⟨y, check, good, judged, fault⟩
    · obtain ⟨commit, reveal⟩ := recorded pk x c r (valid pk good) unmarked first
      obtain ⟨commit', reveal'⟩ := recorded pk' x c' r' (valid pk' good') unmarked second
      exact differ ⟨Option.some.inj (commit.symm.trans commit'), Option.some.inj (reveal.symm.trans reveal')⟩
    · obtain ⟨certificate, c, stored, commit, classified⟩ := judged
      obtain ⟨_, _, passes, _⟩ := complete x certificate stored unmarked y c commit (valid y good)
      exact fault (classified.symm.trans passes)
  · rintro ⟨commit, reveal⟩
    obtain ⟨author, rv', revealed, listed⟩ := paired.commit x c commit
    obtain rfl := Option.some.inj (revealed.symm.trans reveal)
    obtain ⟨pk, c', r', goodAuthor, other⟩ := settled.covered author x c _ good listed
    obtain ⟨rfl, rfl⟩ := settled.agreed pk author x _ _ _ _ good other listed
    exact ⟨pk, goodAuthor, other⟩
  · rintro ⟨pk, goodAuthor, listed⟩
    exact recorded pk x c rv (fun marked => goodAuthor (only pk marked)) (fun marked => good (only x marked)) listed

theorem settled_result (bad : Digest → Prop) (settled : Settled env s now epoch verifyRanges certificates bad)
    (r : CommitRanges) (ranges : r.verify = verifyRanges) (st : CommitState)
    (examined : examineCertificates env s r now epoch certificates = some st) (x : Digest) (value : Bytes) :
    ((eraseAll st.comitted st.badnodes)[x]? = some value ↔
      ¬ bad x ∧ ∃ pk rv, ¬ bad pk ∧ Listed env s now epoch verifyRanges certificates pk x value rv) ∧
    ((eraseAll st.revealed st.badnodes)[x]? = some value ↔
      ¬ bad x ∧ ∃ pk c, ¬ bad pk ∧ Listed env s now epoch verifyRanges certificates pk x c value) := by
  obtain ⟨only, marked, recorded⟩ := examine_settled bad settled r ranges st examined
  have paired := commit_steps_paired st (examine_spec r ranges st examined).1
  rw [erase_all_lookup, erase_all_lookup]
  by_cases isBad : bad x
  · simp only [isBad, not_true_eq_false, false_and, iff_false]
    obtain exposed | ⟨unlisted, _⟩ := settled.exposed x isBad
    · simp [marked x exposed]
    · have absent : ∀ c, st.comitted[x]? ≠ some c := by
        intro c commit
        obtain ⟨pk, rv, _, listed⟩ := paired.commit x c commit
        exact unlisted pk c rv listed
      constructor
      · intro found
        split at found
        · cases found
        · exact absent value found
      · intro found
        split at found
        · cases found
        · obtain ⟨c, commit⟩ := paired.reveal x value found
          exact absent c commit
  · rw [if_neg (fun member => isBad (only x member)), if_neg (fun member => isBad (only x member))]
    simp only [isBad, not_false_eq_true, true_and]
    refine ⟨⟨fun commit => ?_, ?_⟩, ⟨fun reveal => ?_, ?_⟩⟩
    · obtain ⟨_, rv, reveal, _⟩ := paired.commit x value commit
      obtain ⟨pk, listed⟩ := (recorded x value rv isBad).mp ⟨commit, reveal⟩
      exact ⟨pk, rv, listed⟩
    · rintro ⟨pk, rv, listed⟩
      exact ((recorded x value rv isBad).mpr ⟨pk, listed⟩).1
    · obtain ⟨c, commit⟩ := paired.reveal x value reveal
      obtain ⟨pk, listed⟩ := (recorded x c value isBad).mp ⟨commit, reveal⟩
      exact ⟨pk, c, listed⟩
    · rintro ⟨pk, c, listed⟩
      exact ((recorded x c value isBad).mpr ⟨pk, listed⟩).2

theorem settled_one_value (bad : Digest → Prop) (settled : Settled env s now epoch verifyRanges certificates bad)
    (r : CommitRanges) (ranges : r.verify = verifyRanges) (st : CommitState)
    (examined : examineCertificates env s r now epoch certificates = some st) :
    OneValue certificates st (eraseAll st.comitted st.badnodes) (eraseAll st.revealed st.badnodes) := by
  intro pk certificate stored valid x c rv commit reveal
  have result := settled_result bad settled r ranges st examined x
  obtain ⟨_, marked, _⟩ := examine_settled bad settled r ranges st examined
  have complete := (examine_spec r ranges st examined).2 pk certificate stored valid
  obtain ⟨good, author, c₀, goodAuthor, listed⟩ := (result rv).2.mp reveal
  rw [erase_all_lookup] at commit reveal
  split at commit
  · cases commit
  · rename_i unmarked
    rw [if_neg unmarked] at reveal
    have same : ∀ c', certificate.sharedRandomCommit[x]? = some c' → c' = c ∧
        ∀ rv', certificate.sharedRandomReveal[x]? = some rv' → rv' = rv := by
      intro c' carried
      obtain ⟨rv'', carriedReveal, _, comitted, revealed⟩ := complete x c' carried unmarked
      refine ⟨Option.some.inj (comitted.symm.trans commit), fun rv' found => ?_⟩
      rw [found] at carriedReveal
      rw [Option.some.inj carriedReveal]
      exact Option.some.inj (revealed.symm.trans reveal)
    refine ⟨fun c' carried => (same c' carried).1, fun rv' carried => ?_⟩
    cases own : certificate.sharedRandomCommit[x]? with
    | some c' => exact (same c' own).2 rv' carried
    | none =>
        exact settled.matched pk author x certificate c₀ rv rv' (fun _ exposed => valid (marked pk exposed)) goodAuthor good listed
          stored own carried

theorem settled_independent (bad : Digest → Prop) (settled : Settled env s now epoch verifyRanges certificates bad) :
    ∃ commits reveals, Independent env s now epoch verifyRanges certificates bad commits reveals := by
  -- one order fixes the maps, every other one arrives at the same
  let first : CommitRanges := ⟨ascending, fun _ => ascending, verifyRanges⟩
  obtain ⟨base, examinedBase⟩ : ∃ st, examineCertificates env s first now epoch certificates = some st :=
    examine_returns first settled.noPanic
  have baseResult := settled_result bad settled first rfl base examinedBase
  refine ⟨eraseAll base.comitted base.badnodes, eraseAll base.revealed base.badnodes, fun r ranges => ?_⟩
  obtain ⟨st, examined⟩ : ∃ st, examineCertificates env s r now epoch certificates = some st :=
    examine_returns r (ranges ▸ settled.noPanic)
  have result := settled_result bad settled r ranges st examined
  have commits : eraseAll st.comitted st.badnodes = eraseAll base.comitted base.badnodes :=
    ExtTreeMap.ext_getElem? fun x => Option.ext fun c => ((result x c).1.trans (baseResult x c).1.symm)
  have reveals : eraseAll st.revealed st.badnodes = eraseAll base.revealed base.badnodes :=
    ExtTreeMap.ext_getElem? fun x => Option.ext fun rv => ((result x rv).2.trans (baseResult x rv).2.symm)
  refine ⟨st, examined, (examine_settled bad settled r ranges st examined).1, ?_, ?_⟩
  · rw [verifyCommits, examined, Option.map_some, commits, reveals]
  · rw [← commits, ← reveals]
    exact settled_one_value bad settled r ranges st examined

theorem verify_entries_first (pk : Digest) (certificate : Document) (stored : certificates[pk]? = some certificate)
    (entry : Digest × Bytes) (rest : List (Digest × Bytes))
    (carried : ∀ other ∈ entry :: rest, certificate.sharedRandomCommit[other.1]? = some other.2) (st st' : CommitState)
    (verified : verifyEntries env s (verifyRanges pk) now epoch pk certificate st (entry :: rest) = some st') :
    ∃ mid, verifyEntries env s (verifyRanges pk) now epoch pk certificate st [entry] = some mid ∧ Grows mid st' := by
  have grows (mid : CommitState) (later : verifyEntries env s (verifyRanges pk) now epoch pk certificate mid rest = some st') :
      Grows mid st' :=
    commit_steps_grow _ _ (verify_entries_spec pk certificate stored rest
      (fun other member => carried other (List.mem_cons_of_mem _ member)) mid st' later).1
  simp only [verifyEntries] at verified ⊢
  split at verified
  · rename_i bad
    rw [if_pos bad]
    exact ⟨st, rfl, grows st verified⟩
  · rename_i unmarked
    rw [if_neg unmarked]
    cases check : checkEntry env s (verifyRanges pk) now epoch certificate entry.1 entry.2 with
    | panic => simp [check] at verified
    | forwarder =>
        simp only [check] at verified
        exact ⟨_, verified, grows_refl _⟩
    | both =>
        simp only [check] at verified
        exact ⟨_, verified, grows_refl _⟩
    | ok =>
        simp only [check] at verified
        exact ⟨_, rfl, grows _ verified⟩

theorem examine_first (pk x : Digest) (certificate : Document) (c : Bytes) (stored : certificates[pk]? = some certificate)
    (carried : certificate.sharedRandomCommit[x]? = some c) :
    ∃ r : CommitRanges, r.verify = verifyRanges ∧ ∀ st, examineCertificates env s r now epoch certificates = some st →
      ∃ first, verifyEntries env s (verifyRanges pk) now epoch pk certificate ⟨[], ∅, ∅⟩ [(x, c)] = some first ∧ Grows first st := by
  obtain ⟨byAuthor, authors, certificatesOrder⟩ := range_first certificates pk certificate stored
  obtain ⟨byNode, nodes, commitsOrder⟩ := range_first certificate.sharedRandomCommit x c carried
  refine ⟨⟨byAuthor, fun _ => byNode, verifyRanges⟩, rfl, fun st examined => ?_⟩
  have listed : ∀ entry ∈ authors, certificates[entry.1]? = some entry.2 := fun entry member =>
    (order_mem byAuthor _ _ _).mp (certificatesOrder ▸ List.mem_cons_of_mem _ member)
  rw [examineCertificates, certificatesOrder, verifyCertificates, if_neg List.not_mem_nil, commitsOrder] at examined
  cases verified : verifyEntries env s (verifyRanges pk) now epoch pk certificate ⟨[], ∅, ∅⟩ ((x, c) :: nodes) with
  | none => simp [verified] at examined
  | some next =>
      rw [verified] at examined
      have later := commit_steps_grow _ _ (verify_certificates_spec _ rfl authors listed next st examined).1
      obtain ⟨first, here, grows⟩ := verify_entries_first pk certificate stored (x, c) nodes
        (fun entry member => (order_mem byNode _ _ _).mp (commitsOrder ▸ member)) _ next verified
      exact ⟨first, here, grows_trans _ _ _ grows later⟩

section Necessary

variable {bad : Digest → Prop} {commits reveals : GoMap Digest Bytes}
  (independent : Independent env s now epoch verifyRanges certificates bad commits reveals)

include independent in
theorem judged_first (pk x : Digest) (check : EntryCheck) (judged : Judged env s now epoch verifyRanges certificates pk x check) :
    check ≠ .panic ∧ (check ≠ .ok → bad pk) ∧ (check = .both → bad x) := by
  obtain ⟨certificate, c, stored, carried, rfl⟩ := judged
  obtain ⟨r, ranges, begins⟩ := examine_first pk x certificate c stored carried
  obtain ⟨st, examined, only, _⟩ := independent r ranges
  obtain ⟨first, here, grows⟩ := begins st examined
  rw [verifyEntries, if_neg List.not_mem_nil] at here
  cases check : checkEntry env s (verifyRanges pk) now epoch certificate x c with
  | panic => simp [check] at here
  | ok => simp
  | forwarder =>
      simp only [check, Option.some.injEq] at here
      subst here
      exact ⟨by simp, fun _ => only pk (grows.badnodes pk List.mem_cons_self), by simp⟩
  | both =>
      simp only [check, Option.some.injEq] at here
      subst here
      exact ⟨by simp, fun _ => only pk (grows.badnodes pk (by simp)), fun _ => only x (grows.badnodes x (by simp))⟩

include independent in
theorem listed_returned (pk x : Digest) (c rv : Bytes) (good : ¬ bad x)
    (listed : Listed env s now epoch verifyRanges certificates pk x c rv) : commits[x]? = some c ∧ reveals[x]? = some rv := by
  obtain ⟨certificate, stored, carried, reveal, passes⟩ := listed
  obtain ⟨r, ranges, begins⟩ := examine_first pk x certificate c stored carried
  obtain ⟨st, examined, only, returned, _⟩ := independent r ranges
  obtain ⟨first, here, grows⟩ := begins st examined
  rw [verifyEntries, if_neg List.not_mem_nil] at here
  simp only [passes, reveal, Option.getD_some, verifyEntries, Option.some.injEq] at here
  subst here
  rw [verifyCommits, examined, Option.map_some] at returned
  obtain ⟨rfl, rfl⟩ := Prod.mk.inj (Option.some.inj returned)
  rw [erase_all_lookup, erase_all_lookup, if_neg fun marked => good (only x marked), if_neg fun marked => good (only x marked)]
  have absent := record_absent ⟨[], ∅, ∅⟩ x c rv
  exact ⟨grows.comitted x c (absent.1 (by simp)), grows.revealed x rv (absent.2 (by simp))⟩

include independent in
theorem independent_consistent : Consistent env s now epoch verifyRanges certificates bad where
  noPanic pk x judged := (judged_first independent pk x .panic judged).1 rfl
  clean pk x check good judged := by
    by_contra fault
    exact good ((judged_first independent pk x check judged).2.1 fault)
  unframed pk x good judged := good ((judged_first independent pk x .both judged).2.2 rfl)
  agreed pk pk' x c r c' r' good first second := by
    obtain ⟨commit, reveal⟩ := listed_returned independent pk x c r good first
    obtain ⟨commit', reveal'⟩ := listed_returned independent pk' x c' r' good second
    exact ⟨Option.some.inj (commit.symm.trans commit'), Option.some.inj (reveal.symm.trans reveal')⟩

end Necessary

theorem faultless_settled (commits reveals : GoMap Digest Bytes)
    (independent : Independent env s now epoch verifyRanges certificates (fun _ => False) commits reveals) :
    Settled env s now epoch verifyRanges certificates fun _ => False where
  toConsistent := independent_consistent independent
  exposed _ isBad := isBad.elim
  covered b x c r _ listed := ⟨b, c, r, not_false, listed⟩
  matched pk author x certificate c rv rv' _ _ good listed stored _ carried := by
    obtain ⟨commit, reveal⟩ := listed_returned independent author x c rv good listed
    obtain ⟨st, _, only, _, one⟩ := independent ⟨ascending, fun _ => ascending, verifyRanges⟩ rfl
    exact (one pk certificate stored (only pk) x c rv commit reveal).2 rv' carried

end Result

def sampleSigned (n : UInt8) (data : Bytes) : Bytes :=
  referenceEnv.encodeCertificate
    (withSignature referenceEnv (samplePrivate n) (sampleKey n) (newCertificate (samplePrivate n) data 9))

def sampleCommit (n : UInt8) : Bytes := sampleSigned n (newCommit referenceEnv 9 [n]).commit

def sampleReveal (n : UInt8) : Bytes := sampleSigned n (newCommit referenceEnv 9 [n]).reveal

def sampleHash (n : UInt8) : Digest := keyHash referenceEnv (sampleKey n)

def samplePairRanges : PairRanges := ⟨fun _ => ascending, fun _ => ascending⟩

def soundCertificate : Document :=
  { blankDocument with
    sharedRandomCommit := ExtTreeMap.ofList [(sampleHash 2, sampleCommit 2)]
    sharedRandomReveal := ExtTreeMap.ofList [(sampleHash 2, sampleReveal 2)] }

def faultyCertificate : Document :=
  { soundCertificate with sharedRandomCommit := soundCertificate.sharedRandomCommit.insert (sampleHash 1) [0] }

theorem sound_certificate_settled :
    Settled referenceEnv (sampleServer 0) 8 9 (fun _ => samplePairRanges)
      (ExtTreeMap.ofList [(sampleHash 1, soundCertificate)]) (fun _ => False) := by
  have check : checkEntry referenceEnv (sampleServer 0) samplePairRanges 8 9 soundCertificate (sampleHash 2)
      (sampleCommit 2) = .ok := by decide +kernel
  have judged : ∀ pk pk2 check, Judged referenceEnv (sampleServer 0) 8 9 (fun _ => samplePairRanges)
      (ExtTreeMap.ofList [(sampleHash 1, soundCertificate)]) pk pk2 check → check = .ok := by
    rintro pk pk2 _ ⟨certificate, signedCommit, stored, commit, rfl⟩
    obtain ⟨-, rfl⟩ := (lookup_single _ _ _ _).mp stored
    obtain ⟨rfl, rfl⟩ := (lookup_single _ _ _ _).mp commit
    exact check
  refine ⟨⟨?_, fun pk pk2 check _ => judged pk pk2 check, ?_, ?_⟩, fun b => False.elim, ?_, ?_⟩
  · intro pk pk2 panics
    exact absurd (judged pk pk2 _ panics) (by decide)
  · intro pk pk2 _ framed
    exact absurd (judged pk pk2 _ framed) (by decide)
  · rintro pk pk' x c r c' r' - ⟨first, stored, commit, reveal, -⟩ ⟨second, stored', commit', reveal', -⟩
    obtain ⟨-, rfl⟩ := (lookup_single _ _ _ _).mp stored
    obtain ⟨-, rfl⟩ := (lookup_single _ _ _ _).mp stored'
    exact ⟨Option.some.inj (commit.symm.trans commit'), Option.some.inj (reveal.symm.trans reveal')⟩
  · exact fun b x c r _ listed => ⟨b, c, r, not_false, listed⟩
  · rintro pk author x certificate c rv rv' - - - ⟨listing, stored', _, reveal', _⟩ stored _ reveal
    obtain ⟨-, rfl⟩ := (lookup_single _ _ _ _).mp stored
    obtain ⟨-, rfl⟩ := (lookup_single _ _ _ _).mp stored'
    exact Option.some.inj (reveal.symm.trans reveal')

end Katzenpost
