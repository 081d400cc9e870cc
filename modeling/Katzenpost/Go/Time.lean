import Mathlib

set_option autoImplicit false

namespace Go

def maxInt64Duration : Int := 2 ^ 63 - 1

def minInt64Duration : Int := -2 ^ 63

def saturate (d : Int) : Int := max minInt64Duration (min maxInt64Duration d)

def unixEpoch : Int := 62135596800 * 1000000000

-- time.Time: the wall clock in nanoseconds since the zero Time, and the reading
-- of the monotonic clock that times have which come from Now.
structure Time where
  wall : Int
  mono : Option Int
deriving DecidableEq

namespace Time

def after (t u : Time) : Bool :=
  match t.mono, u.mono with
  | some a, some b => b < a
  | _, _ => u.wall < t.wall

def sub (t u : Time) : Int :=
  match t.mono, u.mono with
  | some a, some b => saturate (a - b)
  | _, _ => saturate (t.wall - u.wall)

def unix (nsec : Int) : Time := ⟨unixEpoch + nsec, none⟩

end Time

section Agree

def Agree (t u : Time) : Prop := ∀ a ∈ t.mono, ∀ b ∈ u.mono, a - b = t.wall - u.wall

variable {t u : Time}

theorem agree_unix (nsec : Int) : Agree (.unix nsec) u := nofun

theorem sub_wall (agree : Agree t u) : t.sub u = saturate (t.wall - u.wall) := by
  obtain ⟨wall, mono⟩ := t
  obtain ⟨wall', mono'⟩ := u
  cases mono with
  | none => rfl
  | some a =>
      cases mono' with
      | none => rfl
      | some b => exact congrArg saturate (agree a rfl b rfl)

theorem agree_symm (agree : Agree t u) : Agree u t := by
  intro a found b there
  have same := agree b there a found
  omega

end Agree

section Unix

theorem unix_wall (nsec : Int) : (Time.unix nsec).wall = unixEpoch + nsec := rfl

end Unix

end Go
