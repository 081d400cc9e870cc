import Katzenpost.Core.Types

set_option autoImplicit false

namespace Katzenpost

open Go Std

def sharedRandomLength : Nat := 40

structure SharedRandom where
  epoch : UInt64
  commit : Bytes
  reveal : Bytes

-- Commit, for the 32 random bytes rn that the system reader delivered.
-- COMMIT = Uint64(epoch) || H(REVEAL), REVEAL = Uint64(epoch) || H(RN)
def newCommit (env : Env) (epoch : UInt64) (rn : Bytes) : SharedRandom :=
  let reveal := putUint64BE epoch ++ (env.blake2b rn).bytes
  ⟨epoch, putUint64BE epoch ++ (env.blake2b reveal).bytes, reveal⟩

-- Slicing the first eight bytes of a shorter value panics, modelled as none.
def setCommit (rawCommit : Bytes) : Option SharedRandom :=
  if rawCommit.length < 8 then none else some ⟨uint64BE rawCommit, rawCommit, []⟩

def SharedRandom.verify (env : Env) (s : SharedRandom) (reveal : Bytes) : Bool :=
  if reveal.length ≠ sharedRandomLength then false
  else if uint64BE reveal = s.epoch then s.commit.drop 8 = (env.blake2b reveal).bytes
  else false

def Reveals (env : Env) (commit reveal : Bytes) : Prop :=
  ∃ s, setCommit commit = some s ∧ s.verify env reveal = true

instance (env : Env) (commit reveal : Bytes) : Decidable (Reveals env commit reveal) :=
  match found : setCommit commit with
  | none => isFalse (by rintro ⟨s, set, -⟩; simp [found] at set)
  | some s => decidable_of_iff (s.verify env reveal = true) ⟨fun ok => ⟨s, found, ok⟩, by
      rintro ⟨s', set, ok⟩
      rw [found, Option.some.injEq] at set
      rwa [set]⟩

theorem new_commit_lengths (env : Env) (epoch : UInt64) (rn : Bytes) :
    (newCommit env epoch rn).commit.length = sharedRandomLength ∧
      (newCommit env epoch rn).reveal.length = sharedRandomLength := by
  simp [newCommit, putUint64BE, big_endian_length, Digest.size, sharedRandomLength]

theorem new_commit_epochs (env : Env) (epoch : UInt64) (rn : Bytes) :
    uint64BE (newCommit env epoch rn).commit = epoch ∧ uint64BE (newCommit env epoch rn).reveal = epoch := by
  simp [newCommit, uint64BE_put]

theorem set_commit_some (raw : Bytes) (s : SharedRandom) :
    setCommit raw = some s ↔ 8 ≤ raw.length ∧ s = ⟨uint64BE raw, raw, []⟩ := by
  unfold setCommit
  split
  · rename_i short
    constructor
    · simp
    · rintro ⟨long, -⟩
      omega
  · rename_i long
    rw [Option.some.injEq, eq_comm]
    exact ⟨fun same => ⟨by omega, same⟩, And.right⟩

theorem reveals_iff (env : Env) (commit reveal : Bytes) :
    Reveals env commit reveal ↔ 8 ≤ commit.length ∧ reveal.length = sharedRandomLength ∧
      uint64BE reveal = uint64BE commit ∧ commit.drop 8 = (env.blake2b reveal).bytes := by
  constructor
  · rintro ⟨s, set, valid⟩
    obtain ⟨long, rfl⟩ := (set_commit_some commit s).mp set
    simp only [SharedRandom.verify] at valid
    split at valid
    · cases valid
    · split at valid
      · rename_i full epochs
        exact ⟨long, not_not.mp full, epochs, of_decide_eq_true valid⟩
      · cases valid
  · rintro ⟨long, full, epochs, digest⟩
    refine ⟨_, (set_commit_some commit _).mpr ⟨long, rfl⟩, ?_⟩
    simp [SharedRandom.verify, full, epochs, digest]

theorem new_commit_reveals (env : Env) (epoch : UInt64) (rn : Bytes) :
    Reveals env (newCommit env epoch rn).commit (newCommit env epoch rn).reveal := by
  obtain ⟨commits, reveals⟩ := new_commit_lengths env epoch rn
  obtain ⟨left, right⟩ := new_commit_epochs env epoch rn
  refine (reveals_iff env _ _).mpr ⟨by rw [commits]; decide, reveals, right.trans left.symm, ?_⟩
  have width : (putUint64BE epoch).length = 8 := big_endian_length 8 _
  simp only [newCommit, List.drop_left' width]

end Katzenpost
