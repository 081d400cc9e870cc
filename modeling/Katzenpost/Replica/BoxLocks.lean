import Katzenpost.Go.Block
import Katzenpost.Go.Census
import Katzenpost.Go.Run

set_option autoImplicit false

namespace Katzenpost.Replica

open Go

-- Where a goroutine is in an acquireBoxLock and the releaseBoxLock that goes with it:
-- each place is before the statement its comment names. A boxLock is told by its address.
inductive LockPlace where
  | idle
  -- s.locksMu.Lock()
  | entering (key : Fixed 32)
  -- bl, ok := s.boxLocks[key]
  | looking (key : Fixed 32)
  -- bl.refCount++
  | counting (key : Fixed 32) (bl : Nat)
  -- s.locksMu.Unlock()
  | leaving (key : Fixed 32) (bl : Nat)
  -- bl.mu.Lock()
  | waiting (key : Fixed 32) (bl : Nat)
  -- between acquire and release, up to bl.mu.Unlock()
  | holding (key : Fixed 32) (bl : Nat)
  -- s.locksMu.Lock()
  | returning (key : Fixed 32) (bl : Nat)
  -- the decrement of bl.refCount
  | dropping (key : Fixed 32) (bl : Nat)
  -- if bl.refCount == 0
  | checking (key : Fixed 32) (bl : Nat)
  -- s.locksMu.Unlock()
  | exiting
deriving DecidableEq

def LockPlace.inside : LockPlace → Bool
  | .looking _ => true
  | .counting _ _ => true
  | .leaving _ _ => true
  | .dropping _ _ => true
  | .checking _ _ => true
  | .exiting => true
  | _ => false

def LockPlace.counted (bl : Nat) : LockPlace → Bool
  | .leaving _ other => other = bl
  | .waiting _ other => other = bl
  | .holding _ other => other = bl
  | .returning _ other => other = bl
  | .dropping _ other => other = bl
  | _ => false

def LockPlace.holds (bl : Nat) : LockPlace → Bool
  | .holding _ other => other = bl
  | _ => false

def LockPlace.entry : LockPlace → Option (Fixed 32 × Nat)
  | .counting key bl => some (key, bl)
  | .leaving key bl => some (key, bl)
  | .waiting key bl => some (key, bl)
  | .holding key bl => some (key, bl)
  | .returning key bl => some (key, bl)
  | .dropping key bl => some (key, bl)
  | .checking key bl => some (key, bl)
  | _ => none

-- The state's locks: boxLocks by its lookups, and the boxLocks allocated so far, by
-- their addresses below next. A nil map has no entries, and is made before it is written.
structure BoxLocks (γ : Type) where
  locksMu : Bool
  boxLocks : Fixed 32 → Option Nat
  next : Nat
  refCount : Nat → Int
  mu : Nat → Bool
  place : γ → LockPlace

inductive LockEvent (γ : Type) where
  | acquire (g : γ) (key : Fixed 32)
  | advance (g : γ)

section Steps

variable {γ : Type} [DecidableEq γ]

def initialLocks : BoxLocks γ := ⟨false, fun _ => none, 0, fun _ => 0, fun _ => false, fun _ => .idle⟩

def BoxLocks.move (s : BoxLocks γ) (g : γ) (place : LockPlace) : BoxLocks γ :=
  { s with place := Function.update s.place g place }

def BoxLocks.allocate (s : BoxLocks γ) (key : Fixed 32) : BoxLocks γ :=
  { s with
    boxLocks := Function.update s.boxLocks key (some s.next)
    next := s.next + 1
    refCount := Function.update s.refCount s.next 0
    mu := Function.update s.mu s.next false }

def BoxLocks.advance (s : BoxLocks γ) (g : γ) : Option (BoxLocks γ) :=
  match s.place g with
  | .idle => none
  | .entering key => if s.locksMu then none else some ({ s with locksMu := true }.move g (.looking key))
  | .looking key =>
      match s.boxLocks key with
      | some bl => some (s.move g (.counting key bl))
      | none => some ((s.allocate key).move g (.counting key s.next))
  | .counting key bl =>
      some ({ s with refCount := Function.update s.refCount bl (s.refCount bl + 1) }.move g (.leaving key bl))
  | .leaving key bl => if s.locksMu then some ({ s with locksMu := false }.move g (.waiting key bl)) else none
  | .waiting key bl =>
      if s.mu bl then none else some ({ s with mu := Function.update s.mu bl true }.move g (.holding key bl))
  | .holding key bl =>
      if s.mu bl then some ({ s with mu := Function.update s.mu bl false }.move g (.returning key bl)) else none
  | .returning key bl => if s.locksMu then none else some ({ s with locksMu := true }.move g (.dropping key bl))
  | .dropping key bl =>
      some ({ s with refCount := Function.update s.refCount bl (s.refCount bl - 1) }.move g (.checking key bl))
  | .checking key bl =>
      if s.refCount bl = 0 then some ({ s with boxLocks := Function.update s.boxLocks key none }.move g .exiting)
      else some (s.move g .exiting)
  | .exiting => if s.locksMu then some ({ s with locksMu := false }.move g .idle) else none

def BoxLocks.step (s : BoxLocks γ) : LockEvent γ → Option (BoxLocks γ)
  | .acquire g key =>
      match s.place g with
      | .idle => some (s.move g (.entering key))
      | _ => none
  | .advance g => s.advance g

end Steps

section Entries

variable {γ : Type} [DecidableEq γ]

structure Mapped (s : BoxLocks γ) : Prop where
  found : ∀ g key bl, (s.place g).entry = some (key, bl) → s.boxLocks key = some bl
  used : ∀ key bl, s.boxLocks key = some bl → ∃ g, (s.place g).entry = some (key, bl)
  distinct : ∀ key other bl, s.boxLocks key = some bl → s.boxLocks other = some bl → key = other
  fresh : ∀ key bl, s.boxLocks key = some bl → bl < s.next

variable (s : BoxLocks γ) (g : γ)

theorem moved_entry (place : LockPlace) (other : γ) :
    (Function.update s.place g place other).entry = if other = g then place.entry else (s.place other).entry := by
  by_cases same : other = g
  · rw [if_pos same, same, Function.update_self]
  · rw [if_neg same, Function.update_of_ne same]

theorem mapped_move (mapped : Mapped s) (next : BoxLocks γ) (place : LockPlace) (moved : next.place = Function.update s.place g place)
    (same : place.entry = (s.place g).entry) (entries : next.boxLocks = s.boxLocks) (allocated : next.next = s.next) :
    Mapped next := by
  have unchanged : ∀ other, (next.place other).entry = (s.place other).entry := by
    intro other
    rw [moved, moved_entry]
    by_cases self : other = g
    · rw [if_pos self, same, self]
    · rw [if_neg self]
  refine ⟨fun other key bl uses => ?_, fun key bl present => ?_, entries ▸ mapped.distinct, entries ▸ allocated ▸ mapped.fresh⟩
  · rw [unchanged] at uses
    rw [entries]
    exact mapped.found other key bl uses
  · rw [entries] at present
    obtain ⟨other, uses⟩ := mapped.used key bl present
    exact ⟨other, (unchanged other).trans uses⟩

theorem mapped_find (mapped : Mapped s) (key : Fixed 32) (bl : Nat) (unused : (s.place g).entry = none)
    (present : s.boxLocks key = some bl) : Mapped (s.move g (.counting key bl)) := by
  refine ⟨fun other key' bl' uses => ?_, fun key' bl' there => ?_, mapped.distinct, mapped.fresh⟩
  · rw [BoxLocks.move, moved_entry] at uses
    by_cases self : other = g
    · rw [if_pos self] at uses
      cases uses
      exact present
    · rw [if_neg self] at uses
      exact mapped.found other key' bl' uses
  · obtain ⟨other, uses⟩ := mapped.used key' bl' there
    refine ⟨other, ?_⟩
    rw [BoxLocks.move, moved_entry, if_neg (fun self => ?_)]
    · exact uses
    · rw [self, unused] at uses
      cases uses

theorem mapped_allocate (mapped : Mapped s) (key : Fixed 32) (unused : (s.place g).entry = none) (absent : s.boxLocks key = none) :
    Mapped ((s.allocate key).move g (.counting key s.next)) := by
  have lookup : ∀ other, (s.allocate key).boxLocks other = if other = key then some s.next else s.boxLocks other :=
    fun other => Function.update_apply s.boxLocks key (some s.next) other
  have old : ∀ other bl, s.boxLocks other = some bl → other ≠ key := by
    rintro other bl present rfl
    rw [absent] at present
    cases present
  constructor
  · intro other key' bl' uses
    show (s.allocate key).boxLocks key' = some bl'
    rw [BoxLocks.move, BoxLocks.allocate, moved_entry] at uses
    rw [lookup]
    by_cases self : other = g
    · rw [if_pos self] at uses
      cases uses
      exact if_pos rfl
    · rw [if_neg self] at uses
      have present := mapped.found other key' bl' uses
      rw [if_neg (old key' bl' present)]
      exact present
  · intro key' bl' there
    change (s.allocate key).boxLocks key' = some bl' at there
    rw [lookup] at there
    by_cases new : key' = key
    · rw [if_pos new] at there
      refine ⟨g, ?_⟩
      rw [BoxLocks.move, BoxLocks.allocate, moved_entry, if_pos rfl, ← Option.some.inj there, new]
      rfl
    · rw [if_neg new] at there
      obtain ⟨other, uses⟩ := mapped.used key' bl' there
      refine ⟨other, ?_⟩
      rw [BoxLocks.move, BoxLocks.allocate, moved_entry, if_neg (fun self => ?_)]
      · exact uses
      · rw [self, unused] at uses
        cases uses
  · intro a b bl first second
    change (s.allocate key).boxLocks a = some bl at first
    change (s.allocate key).boxLocks b = some bl at second
    rw [lookup] at first second
    by_cases newA : a = key
    · by_cases newB : b = key
      · rw [newA, newB]
      · -- An older entry has an older address.
        rw [if_pos newA] at first
        rw [if_neg newB] at second
        have older := mapped.fresh b bl second
        cases first
        omega
    · rw [if_neg newA] at first
      by_cases newB : b = key
      · rw [if_pos newB] at second
        have older := mapped.fresh a bl first
        cases second
        omega
      · rw [if_neg newB] at second
        exact mapped.distinct a b bl first second
  · intro key' bl' there
    change (s.allocate key).boxLocks key' = some bl' at there
    show bl' < s.next + 1
    rw [lookup] at there
    by_cases new : key' = key
    · rw [if_pos new] at there
      cases there
      omega
    · rw [if_neg new] at there
      have older := mapped.fresh key' bl' there
      omega

end Entries

section Invariant

variable {γ : Type} [Fintype γ] [DecidableEq γ]

structure Counted (s : BoxLocks γ) : Prop where
  locks : census LockPlace.inside s.place = s.locksMu.toNat
  counts : ∀ bl, s.refCount bl = census (LockPlace.counted bl) s.place
  held : ∀ bl, census (LockPlace.holds bl) s.place = (s.mu bl).toNat

theorem counted_entry (place : LockPlace) (bl : Nat) (counted : place.counted bl = true) : ∃ key, place.entry = some (key, bl) := by
  cases place with
  | leaving key other => exact ⟨key, by rw [LockPlace.entry, decide_eq_true_eq.mp counted]⟩
  | waiting key other => exact ⟨key, by rw [LockPlace.entry, decide_eq_true_eq.mp counted]⟩
  | holding key other => exact ⟨key, by rw [LockPlace.entry, decide_eq_true_eq.mp counted]⟩
  | returning key other => exact ⟨key, by rw [LockPlace.entry, decide_eq_true_eq.mp counted]⟩
  | dropping key other => exact ⟨key, by rw [LockPlace.entry, decide_eq_true_eq.mp counted]⟩
  | idle => cases counted
  | entering key => cases counted
  | looking key => cases counted
  | counting key other => cases counted
  | checking key other => cases counted
  | exiting => cases counted

theorem entry_counted (place : LockPlace) (key : Fixed 32) (bl : Nat) (uses : place.entry = some (key, bl)) :
    place.counted bl = true ∨ place.inside = true := by
  cases place with
  | leaving _ other => exact .inr rfl
  | counting _ other => exact .inr rfl
  | dropping _ other => exact .inr rfl
  | checking _ other => exact .inr rfl
  | waiting _ other => cases uses; exact .inl (decide_eq_true rfl)
  | holding _ other => cases uses; exact .inl (decide_eq_true rfl)
  | returning _ other => cases uses; exact .inl (decide_eq_true rfl)
  | idle => cases uses
  | entering _ => cases uses
  | looking _ => cases uses
  | exiting => cases uses

theorem holds_counted (place : LockPlace) (bl : Nat) (holds : place.holds bl = true) : place.counted bl = true := by
  cases place with
  | holding key other => exact holds
  | _ => cases holds

variable (s : BoxLocks γ) (g : γ)

theorem counted_move (counted : Counted s) (next : BoxLocks γ) (place : LockPlace)
    (moved : next.place = Function.update s.place g place)
    (locks : next.locksMu.toNat + (s.place g).inside.toNat = s.locksMu.toNat + place.inside.toNat)
    (counts : ∀ bl, next.refCount bl + ((s.place g).counted bl).toNat = s.refCount bl + (place.counted bl).toNat)
    (held : ∀ bl, (next.mu bl).toNat + ((s.place g).holds bl).toNat = (s.mu bl).toNat + (place.holds bl).toNat) :
    Counted next := by
  constructor
  · have census := census_update LockPlace.inside s.place g place
    rw [counted.locks] at census
    rw [moved]
    omega
  · intro bl
    have census := census_update (LockPlace.counted bl) s.place g place
    have count := counted.counts bl
    have change := counts bl
    rw [moved]
    omega
  · intro bl
    have census := census_update (LockPlace.holds bl) s.place g place
    have count := counted.held bl
    have change := held bl
    rw [moved]
    omega

theorem mapped_keep (counted : Counted s) (mapped : Mapped s) (key : Fixed 32) (bl : Nat) (at' : s.place g = .checking key bl)
    (some : s.refCount bl ≠ 0) : Mapped (s.move g .exiting) := by
  refine ⟨fun other key' bl' uses => ?_, fun key' bl' there => ?_, mapped.distinct, mapped.fresh⟩
  · rw [BoxLocks.move, moved_entry] at uses
    by_cases self : other = g
    · rw [if_pos self] at uses
      cases uses
    · rw [if_neg self] at uses
      exact mapped.found other key' bl' uses
  · obtain ⟨user, uses⟩ := mapped.used key' bl' there
    by_cases self : user = g
    · -- Its own entry: someone else is counted, and for the same key.
      rw [self, at'] at uses
      cases uses
      have positive : 0 < census (LockPlace.counted bl) s.place := by
        have count := counted.counts bl
        omega
      obtain ⟨other, there'⟩ := (census_pos_iff _ _).mp positive
      obtain ⟨otherKey, otherUses⟩ := counted_entry _ _ there'
      have differs : other ≠ g := by
        rintro rfl
        rw [at'] at there'
        cases there'
      refine ⟨other, ?_⟩
      rw [BoxLocks.move, moved_entry, if_neg differs, otherUses,
        mapped.distinct otherKey key bl (mapped.found other otherKey bl otherUses) there]
    · exact ⟨user, by rw [BoxLocks.move, moved_entry, if_neg self, uses]⟩

theorem checked_alone (counted : Counted s) (key : Fixed 32) (bl : Nat) (at' : s.place g = .checking key bl)
    (zero : s.refCount bl = 0) (other : γ) (key' : Fixed 32) (uses : (s.place other).entry = some (key', bl)) : other = g := by
  obtain counts | locked := entry_counted _ _ _ uses
  · have positive := (census_pos_iff _ _).mpr ⟨other, counts⟩
    have count := counted.counts bl
    omega
  · have one : census LockPlace.inside s.place ≤ 1 := by
      rw [counted.locks]
      exact Bool.toNat_le _
    exact census_unique _ _ one other g locked (by rw [at']; rfl)

theorem mapped_delete (counted : Counted s) (mapped : Mapped s) (key : Fixed 32) (bl : Nat) (at' : s.place g = .checking key bl)
    (zero : s.refCount bl = 0) : Mapped ({ s with boxLocks := Function.update s.boxLocks key none }.move g .exiting) := by
  have own : s.boxLocks key = some bl := mapped.found g key bl (by rw [at']; rfl)
  have kept : ∀ key' bl', Function.update s.boxLocks key none key' = some bl' → key' ≠ key ∧ s.boxLocks key' = some bl' := by
    intro key' bl' there
    rw [Function.update_apply] at there
    by_cases deleted : key' = key
    · rw [if_pos deleted] at there
      cases there
    · rw [if_neg deleted] at there
      exact ⟨deleted, there⟩
  constructor
  · intro other key' bl' uses
    rw [BoxLocks.move, moved_entry] at uses
    by_cases self : other = g
    · rw [if_pos self] at uses
      cases uses
    · rw [if_neg self] at uses
      have there := mapped.found other key' bl' uses
      have differs : key' ≠ key := by
        rintro rfl
        rw [own] at there
        cases there
        exact self (checked_alone s g counted key' bl at' zero other key' uses)
      exact (Function.update_of_ne differs _ _).trans there
  · intro key' bl' there
    obtain ⟨differs, present⟩ := kept key' bl' there
    obtain ⟨other, uses⟩ := mapped.used key' bl' present
    refine ⟨other, ?_⟩
    rw [BoxLocks.move, moved_entry, if_neg (fun self => ?_)]
    · exact uses
    · rw [self, at'] at uses
      cases uses
      exact differs rfl
  · intro a b bl' first second
    exact mapped.distinct a b bl' (kept a bl' first).2 (kept b bl' second).2
  · intro key' bl' there
    exact mapped.fresh key' bl' (kept key' bl' there).2

structure LocksSound (s : BoxLocks γ) : Prop where
  counted : Counted s
  mapped : Mapped s

theorem sound_move (sound : LocksSound s) (old place : LockPlace) (at' : s.place g = old) (next : BoxLocks γ)
    (moved : next.place = Function.update s.place g place)
    (locks : next.locksMu.toNat + old.inside.toNat = s.locksMu.toNat + place.inside.toNat)
    (counts : ∀ bl, next.refCount bl + (old.counted bl).toNat = s.refCount bl + (place.counted bl).toNat)
    (held : ∀ bl, (next.mu bl).toNat + (old.holds bl).toNat = (s.mu bl).toNat + (place.holds bl).toNat)
    (same : place.entry = old.entry) (entries : next.boxLocks = s.boxLocks) (allocated : next.next = s.next) : LocksSound next := by
  subst at'
  exact ⟨counted_move s g sound.counted next place moved locks counts held,
    mapped_move s g sound.mapped next place moved same entries allocated⟩

omit [DecidableEq γ] in
theorem initial_locks_sound : LocksSound (initialLocks : BoxLocks γ) := by
  refine ⟨⟨?_, fun bl => ?_, fun bl => ?_⟩, ⟨fun g key bl uses => ?_, fun key bl there => ?_, fun key other bl there => ?_,
    fun key bl there => ?_⟩⟩
  · exact (census_zero_iff _ _).mpr fun _ => rfl
  · exact congrArg Nat.cast ((census_zero_iff (LockPlace.counted bl) _).mpr fun _ => rfl).symm
  · exact (census_zero_iff _ _).mpr fun _ => rfl
  · cases uses
  · cases there
  · cases there
  · cases there

omit [DecidableEq γ] in
theorem unallocated (sound : LocksSound s) (place : γ) (bl : Nat) (beyond : s.next ≤ bl) : (s.place place).counted bl = false := by
  by_contra counted
  obtain ⟨key, uses⟩ := counted_entry _ _ (Bool.not_eq_false _ ▸ counted)
  have below := sound.mapped.fresh key bl (sound.mapped.found place key bl uses)
  omega

theorem sound_allocate (sound : LocksSound s) (key : Fixed 32) (at' : s.place g = .looking key) (absent : s.boxLocks key = none) :
    LocksSound ((s.allocate key).move g (.counting key s.next)) := by
  have uncounted : s.refCount s.next = 0 := by
    rw [sound.counted.counts, (census_zero_iff _ _).mpr fun other => unallocated s sound other s.next (le_refl _)]
    rfl
  have unlocked : s.mu s.next = false := by
    have count := sound.counted.held s.next
    rw [(census_zero_iff _ _).mpr] at count
    · cases value : s.mu s.next with
      | false => rfl
      | true =>
          rw [value] at count
          cases count
    · intro other
      have none := unallocated s sound other s.next (le_refl _)
      by_contra holds
      rw [holds_counted _ _ (Bool.not_eq_false _ ▸ holds)] at none
      cases none
  have counts : (s.allocate key).refCount = s.refCount := by
    rw [BoxLocks.allocate, ← uncounted, Function.update_eq_self]
  have mutexes : (s.allocate key).mu = s.mu := by
    rw [BoxLocks.allocate, ← unlocked, Function.update_eq_self]
  refine ⟨counted_move s g sound.counted _ (.counting key s.next) rfl ?_ (fun bl => ?_) fun bl => ?_,
    mapped_allocate s g sound.mapped key (by rw [at']; rfl) absent⟩
  · rw [at']
    rfl
  · rw [at']
    exact congrArg (fun count => count bl + 0) counts
  · rw [at']
    exact congrArg (fun mu => (mu bl).toNat + 0) mutexes

omit [Fintype γ] [DecidableEq γ] in
theorem tally_follows {α M : Type} [AddMonoidWithOne M] (value : α → M) (tally : Nat → α) (bl : Nat) (new : α)
    (before after : Nat → Bool) (own : value new + (before bl).toNat = value (tally bl) + (after bl).toNat)
    (others : ∀ other, other ≠ bl → before other = false ∧ after other = false) (other : Nat) :
    value (Function.update tally bl new other) + (before other).toNat = value (tally other) + (after other).toNat := by
  by_cases same : other = bl
  · rw [same, Function.update_self]
    exact own
  · rw [Function.update_of_ne same, (others other same).1, (others other same).2]

theorem sound_advance (sound : LocksSound s) (next : BoxLocks γ) (taken : s.advance g = some next) : LocksSound next := by
  unfold BoxLocks.advance at taken
  cases at' : s.place g with
  | idle => simp [at'] at taken
  | entering key =>
      simp only [at', Option.ite_none_left_eq_some, Option.some.injEq, Bool.not_eq_true] at taken
      obtain ⟨free, rfl⟩ := taken
      exact sound_move s g sound _ (.looking key) at' _ rfl (by rw [free]; rfl) (fun _ => rfl) (fun _ => rfl) rfl rfl rfl
  | looking key =>
      cases lookup : s.boxLocks key with
      | some bl =>
          simp only [at', lookup, Option.some.injEq] at taken
          subst taken
          refine ⟨counted_move s g sound.counted _ (.counting key bl) rfl ?_ (fun other => ?_) fun other => ?_,
            mapped_find s g sound.mapped key bl (by rw [at']; rfl) lookup⟩
          · rw [at']
            rfl
          · rw [at']
            rfl
          · rw [at']
            rfl
      | none =>
          simp only [at', lookup, Option.some.injEq] at taken
          subst taken
          exact sound_allocate s g sound key at' lookup
  | counting key bl =>
      simp only [at', Option.some.injEq] at taken
      subst taken
      refine sound_move s g sound _ (.leaving key bl) at' _ rfl rfl (tally_follows id s.refCount bl _ _ _ ?_ fun other differs => ?_)
        (fun _ => rfl) rfl rfl rfl
      · simp [LockPlace.counted]
      · exact ⟨rfl, decide_eq_false differs.symm⟩
  | leaving key bl =>
      simp only [at', Option.ite_none_right_eq_some, Option.some.injEq] at taken
      obtain ⟨locked, rfl⟩ := taken
      exact sound_move s g sound _ (.waiting key bl) at' _ rfl (by rw [locked]; rfl) (fun _ => rfl) (fun _ => rfl) rfl rfl rfl
  | waiting key bl =>
      simp only [at', Option.ite_none_left_eq_some, Option.some.injEq, Bool.not_eq_true] at taken
      obtain ⟨free, rfl⟩ := taken
      refine sound_move s g sound _ (.holding key bl) at' _ rfl rfl (fun _ => rfl)
        (tally_follows Bool.toNat s.mu bl _ _ _ ?_ fun other differs => ?_) rfl rfl rfl
      · simp [LockPlace.holds, free]
      · exact ⟨rfl, decide_eq_false differs.symm⟩
  | holding key bl =>
      simp only [at', Option.ite_none_right_eq_some, Option.some.injEq] at taken
      obtain ⟨locked, rfl⟩ := taken
      refine sound_move s g sound _ (.returning key bl) at' _ rfl rfl (fun _ => rfl)
        (tally_follows Bool.toNat s.mu bl _ _ _ ?_ fun other differs => ?_) rfl rfl rfl
      · simp [LockPlace.holds, locked]
      · exact ⟨decide_eq_false differs.symm, rfl⟩
  | returning key bl =>
      simp only [at', Option.ite_none_left_eq_some, Option.some.injEq, Bool.not_eq_true] at taken
      obtain ⟨free, rfl⟩ := taken
      exact sound_move s g sound _ (.dropping key bl) at' _ rfl (by rw [free]; rfl) (fun _ => rfl) (fun _ => rfl) rfl rfl rfl
  | dropping key bl =>
      simp only [at', Option.some.injEq] at taken
      subst taken
      refine sound_move s g sound _ (.checking key bl) at' _ rfl rfl (tally_follows id s.refCount bl _ _ _ ?_ fun other differs => ?_)
        (fun _ => rfl) rfl rfl rfl
      · simp [LockPlace.counted]
      · exact ⟨decide_eq_false differs.symm, rfl⟩
  | checking key bl =>
      have stays : ∀ state : BoxLocks γ, state.place = s.place → state.locksMu = s.locksMu → state.refCount = s.refCount →
          state.mu = s.mu → Counted (state.move g .exiting) := by
        intro state place locks counts mutexes
        refine counted_move s g sound.counted _ .exiting (by rw [BoxLocks.move, place]) ?_ (fun other => ?_) fun other => ?_
        · rw [at', BoxLocks.move, locks]
          rfl
        · rw [at', BoxLocks.move, counts]
          rfl
        · rw [at', BoxLocks.move, mutexes]
          rfl
      by_cases zero : s.refCount bl = 0
      · simp only [at', if_pos zero, Option.some.injEq] at taken
        subst taken
        exact ⟨stays _ rfl rfl rfl rfl, mapped_delete s g sound.counted sound.mapped key bl at' zero⟩
      · simp only [at', if_neg zero, Option.some.injEq] at taken
        subst taken
        exact ⟨stays _ rfl rfl rfl rfl, mapped_keep s g sound.counted sound.mapped key bl at' zero⟩
  | exiting =>
      simp only [at', Option.ite_none_right_eq_some, Option.some.injEq] at taken
      obtain ⟨locked, rfl⟩ := taken
      exact sound_move s g sound _ .idle at' _ rfl (by rw [locked]; rfl) (fun _ => rfl) (fun _ => rfl) rfl rfl rfl

theorem locks_sound_step (event : LockEvent γ) (next : BoxLocks γ) (sound : LocksSound s)
    (taken : s.step event = some next) : LocksSound next := by
  cases event with
  | advance g => exact sound_advance s g sound next taken
  | acquire g key =>
      rw [BoxLocks.step] at taken
      cases at' : s.place g with
      | idle =>
          simp only [at', Option.some.injEq] at taken
          subst taken
          exact sound_move s g sound _ (.entering key) at' _ rfl rfl (fun _ => rfl) (fun _ => rfl) rfl rfl rfl
      | _ => simp [at'] at taken

omit [DecidableEq γ] in
/-- Every Unlock is that of a locked mutex. -/
theorem unlocks_locked (sound : LocksSound s) :
    ((s.place g).inside = true → s.locksMu = true) ∧ ∀ bl, (s.place g).holds bl = true → s.mu bl = true := by
  have locked : ∀ (p : LockPlace → Bool) (mutex : Bool), census p s.place = mutex.toNat → p (s.place g) = true → mutex = true := by
    intro p mutex count there
    have positive := (census_pos_iff p s.place).mpr ⟨g, there⟩
    cases mutex with
    | false => exact absurd count (Nat.ne_of_gt positive)
    | true => rfl
  exact ⟨locked _ _ sound.counted.locks, fun bl => locked _ _ (sound.counted.held bl)⟩

omit [DecidableEq γ] in
theorem holder_unique (sound : LocksSound s) (key : Fixed 32) (g g' : γ) (bl bl' : Nat) (first : s.place g = .holding key bl)
    (second : s.place g' = .holding key bl') : g = g' := by
  have one := sound.mapped.found g key bl (by rw [first]; rfl)
  have other := sound.mapped.found g' key bl' (by rw [second]; rfl)
  rw [one, Option.some.injEq] at other
  subst other
  have most : census (LockPlace.holds bl) s.place ≤ 1 := by
    rw [sound.counted.held]
    exact Bool.toNat_le _
  exact census_unique _ _ most g g' (by rw [first]; exact decide_eq_true rfl) (by rw [second]; exact decide_eq_true rfl)

omit [Fintype γ] in
theorem entry_stays (event : LockEvent γ) (next : BoxLocks γ) (taken : s.step event = some next) (key : Fixed 32) (bl : Nat)
    (present : s.boxLocks key = some bl) (gone : next.boxLocks key ≠ some bl) : next.boxLocks key = none := by
  have unchanged : next.boxLocks = s.boxLocks → next.boxLocks key = none := fun same => absurd (same ▸ present) gone
  cases event with
  | acquire g key' =>
      rw [BoxLocks.step] at taken
      cases at' : s.place g with
      | idle =>
          simp only [at', Option.some.injEq] at taken
          exact unchanged (taken ▸ rfl)
      | _ => simp [at'] at taken
  | advance g =>
      rw [BoxLocks.step, BoxLocks.advance] at taken
      cases at' : s.place g with
      | idle => simp [at'] at taken
      | looking key' =>
          cases lookup : s.boxLocks key' with
          | some other =>
              simp only [at', lookup, Option.some.injEq] at taken
              exact unchanged (taken ▸ rfl)
          | none =>
              simp only [at', lookup, Option.some.injEq] at taken
              subst taken
              have differs : key ≠ key' := by
                rintro rfl
                rw [present] at lookup
                cases lookup
              exact absurd ((Function.update_of_ne differs _ _).trans present) gone
      | checking key' other =>
          by_cases zero : s.refCount other = 0
          · simp only [at', if_pos zero, Option.some.injEq] at taken
            subst taken
            by_cases same : key = key'
            · rw [same]
              exact Function.update_self _ _ _
            · exact absurd ((Function.update_of_ne same _ _).trans present) gone
          · simp only [at', if_neg zero, Option.some.injEq] at taken
            exact unchanged (taken ▸ rfl)
      | counting key' other =>
          simp only [at', Option.some.injEq] at taken
          exact unchanged (taken ▸ rfl)
      | dropping key' other =>
          simp only [at', Option.some.injEq] at taken
          exact unchanged (taken ▸ rfl)
      | _ =>
          simp only [at', Option.ite_none_left_eq_some, Option.ite_none_right_eq_some, Option.some.injEq] at taken
          exact unchanged (taken.2 ▸ rfl)

end Invariant

/-- At most one goroutine is between acquire and release for a box, an entry is deleted only when
nobody holds or waits for it, and none is left when all have released. -/
theorem box_locks_exclusive {γ : Type} [Fintype γ] [DecidableEq γ] (events : List (LockEvent γ)) (s : BoxLocks γ)
    (reached : run BoxLocks.step initialLocks events = some s) :
    (∀ key g g' bl bl', s.place g = .holding key bl → s.place g' = .holding key bl' → g = g') ∧
    (∀ event next key bl, s.step event = some next → s.boxLocks key = some bl → next.boxLocks key ≠ some bl →
      next.boxLocks key = none ∧ ∀ g other, (next.place g).entry ≠ some (key, other)) ∧
    ((∀ g, s.place g = .idle) → ∀ key, s.boxLocks key = none) := by
  have sound : LocksSound s := run_preserves BoxLocks.step LocksSound (fun _ _ => True)
    (fun state event next holds _ taken => locks_sound_step state event next holds taken) events initialLocks s initial_locks_sound
    (meets_always _ _ (fun _ _ => trivial) _ _) reached
  refine ⟨holder_unique s sound, fun event next key bl taken present gone => ?_, fun idle key => ?_⟩
  · have deleted := entry_stays s event next taken key bl present gone
    refine ⟨deleted, fun g other uses => ?_⟩
    have there := (locks_sound_step s event next sound taken).mapped.found g key other uses
    rw [deleted] at there
    cases there
  · cases lookup : s.boxLocks key with
    | none => rfl
    | some bl =>
        obtain ⟨g, uses⟩ := sound.mapped.used key bl lookup
        rw [idle g] at uses
        cases uses

def contendedBox : Fixed 32 := Fixed.copy 32 [1]

def contention : List (LockEvent Bool) :=
  .acquire false contendedBox :: List.replicate 5 (.advance false) ++ .acquire true contendedBox :: List.replicate 4 (.advance true)

theorem contended_box_exclusive :
    ∃ s, run BoxLocks.step initialLocks contention = some s ∧ s.place false = .holding contendedBox 0 ∧
      s.place true = .waiting contendedBox 0 ∧
      ∀ key g g' bl bl', s.place g = .holding key bl → s.place g' = .holding key bl' → g = g' :=
  ⟨_, rfl, rfl, rfl, (box_locks_exclusive contention _ rfl).1⟩

end Katzenpost.Replica
