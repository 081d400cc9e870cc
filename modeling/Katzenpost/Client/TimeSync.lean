import Katzenpost.Client.PkiDocsSound
import Katzenpost.Go.Block
import Katzenpost.Go.Time

set_option autoImplicit false

namespace Katzenpost

open Go

def maxAdditionalDataLength : Nat := 255

def authLen : Nat := 1 + maxAdditionalDataLength + 4

structure AuthenticateMessage where
  ad : Bytes
  unixTime : UInt32
deriving DecidableEq

def AuthenticateMessage.toBytes (m : AuthenticateMessage) : Option Bytes :=
  if m.ad.length > maxAdditionalDataLength then none
  else some (UInt8.ofNat m.ad.length :: (m.ad ++ zeros (maxAdditionalDataLength - m.ad.length) ++ putUint32BE m.unixTime))

def authenticateMessageFromBytes (b : Bytes) : Option AuthenticateMessage :=
  if b.length ≠ authLen then none
  else
    match b with
    | [] => none
    | adLen :: rest => some ⟨rest.take adLen.toNat, uint32BE (rest.drop maxAdditionalDataLength)⟩

theorem authenticate_round_trip (m : AuthenticateMessage) (b : Bytes) (written : m.toBytes = some b) :
    authenticateMessageFromBytes b = some m := by
  rw [AuthenticateMessage.toBytes] at written
  split at written
  · cases written
  · rename_i short
    have small : m.ad.length ≤ 255 := Nat.le_of_not_lt short
    cases written
    have sized : (m.ad ++ zeros (maxAdditionalDataLength - m.ad.length)).length = maxAdditionalDataLength := by
      rw [List.length_append, zeros_length, maxAdditionalDataLength]
      omega
    have whole : (UInt8.ofNat m.ad.length ::
        (m.ad ++ zeros (maxAdditionalDataLength - m.ad.length) ++ putUint32BE m.unixTime)).length = authLen := by
      rw [List.length_cons, List.length_append, sized, put_uint32BE_length, authLen]
      omega
    have count : (UInt8.ofNat m.ad.length).toNat = m.ad.length := UInt8.toNat_ofNat_of_lt' (show m.ad.length < 256 by omega)
    rw [authenticateMessageFromBytes, if_neg (by rw [whole]; exact not_not_intro rfl)]
    simp only [count]
    rw [List.append_assoc, List.take_left, ← List.append_assoc, List.drop_left' sized]
    have read := uint32BE_put m.unixTime []
    rw [List.append_nil] at read
    rw [read]

section Sync

def unixSeconds (t : Time) : Int := (t.wall - unixEpoch) / 1000000000

def responderAuth (ad : Bytes) (now : Time) : AuthenticateMessage := ⟨ad, UInt32.ofNat (unixSeconds now % 2 ^ 32).toNat⟩

def sessionClockSkew (now : Time) (peerAuth : AuthenticateMessage) : Int :=
  now.sub (.unix (peerAuth.unixTime.toNat * 1000000000))

-- int64(d.Seconds()): the sum of the seconds and the part of a second is rounded to a
-- float64 before it is cut, which can give one second more, but not to less than one.
def CutsSeconds (seconds : Int → Int) : Prop :=
  ∀ d, seconds d = d.tdiv 1000000000 ∨ (1000000000 ≤ d ∨ d ≤ -1000000000) ∧ seconds d = d.tdiv 1000000000 + d.sign

variable (seconds : Int → Int)

def ClientPki.onHandshake (p : ClientPki) (now : Time) (peerAuth : AuthenticateMessage) : ClientPki :=
  { p with clockSkew := seconds (sessionClockSkew now peerAuth) }

def ClientPki.atTime (p : ClientPki) (now : Time) : ClientPki := { p with unixTime := unixSeconds now }

variable {seconds}

theorem cuts_below_second (cuts : CutsSeconds seconds) (d : Int) (low : -1000000000 < d) (high : d < 1000000000) : seconds d = 0 := by
  rcases cuts d with same | ⟨far, -⟩
  · rw [same]
    rcases Int.le_total 0 d with up | down
    · exact Int.tdiv_eq_zero_of_lt up high
    · rw [← Int.neg_neg d, Int.neg_tdiv, Int.tdiv_eq_zero_of_lt (by omega) (by omega)]
      rfl
  · omega

theorem cuts_ahead (cuts : CutsSeconds seconds) (d : Int) (ahead : 1000000000 ≤ d) : 1 ≤ seconds d := by
  have whole : 1 ≤ d.tdiv 1000000000 := by
    rw [Int.tdiv_eq_ediv_of_nonneg (by omega)]
    omega
  rcases cuts d with same | ⟨-, more⟩
  · omega
  · rw [more, Int.sign_eq_one_of_pos (by omega)]
    omega

theorem cuts_behind (cuts : CutsSeconds seconds) (d : Int) (behind : d ≤ -1000000000) : seconds d ≤ -1 := by
  have whole : d.tdiv 1000000000 ≤ -1 := by
    rw [← Int.neg_neg d, Int.neg_tdiv, Int.tdiv_eq_ediv_of_nonneg (by omega)]
    omega
  rcases cuts d with same | ⟨-, more⟩
  · omega
  · rw [more, Int.sign_eq_neg_one_of_neg (by omega)]
    omega

def SmallClock (t : Time) : Prop := 0 ≤ unixSeconds t ∧ unixSeconds t < 4294967296

theorem handshake_skew (ad : Bytes) (gateway client : Time) (offset : Int) (apart : client.wall = gateway.wall + offset)
    (small : SmallClock gateway) (small' : SmallClock client) :
    sessionClockSkew client (responderAuth ad gateway) = offset + (gateway.wall - unixEpoch) % 1000000000 := by
  obtain ⟨low, high⟩ := small
  obtain ⟨low', high'⟩ := small'
  have sent : ((responderAuth ad gateway).unixTime.toNat : Int) = unixSeconds gateway := by
    have fits : (unixSeconds gateway % 2 ^ 32).toNat < 2 ^ 32 := by omega
    rw [responderAuth, UInt32.toNat_ofNat_of_lt' fits]
    omega
  have agree : Go.Agree client (.unix ((responderAuth ad gateway).unixTime.toNat * 1000000000)) := agree_symm (agree_unix _)
  rw [sessionClockSkew, sub_wall agree, unix_wall, sent]
  rw [unixSeconds] at low high low' high' ⊢
  rw [apart] at low' high' ⊢
  have value : gateway.wall + offset - (unixEpoch + (gateway.wall - unixEpoch) / 1000000000 * 1000000000) =
      offset + (gateway.wall - unixEpoch) % 1000000000 := by omega
  rw [value, saturate, min_eq_right, max_eq_right]
  · rw [minInt64Duration]
    omega
  · rw [maxInt64Duration]
    omega

def InSync (cfg : PkiConfig) (p : ClientPki) (gateway offset : Int) : Prop :=
  ∀ later, gateway ≤ later → ∀ mono mono', |(p.atTime ⟨later + offset, mono⟩).skewedUnixTime cfg - unixSeconds ⟨later, mono'⟩| ≤ 1

theorem synced_time (cfg : PkiConfig) (sync : cfg.enableTimeSync = true) (p : ClientPki) (now : Time) :
    (p.atTime now).skewedUnixTime cfg = unixSeconds now + p.clockSkew := by
  rw [ClientPki.skewedUnixTime, sync]
  rfl

/-- The skew is added where it would have to be taken off: the clocks are in sync only if they
were so before, to a second. -/
theorem time_sync_iff (cfg : PkiConfig) (sync : cfg.enableTimeSync = true) (cuts : CutsSeconds seconds) (p : ClientPki) (ad : Bytes)
    (gateway client : Time) (offset : Int) (apart : client.wall = gateway.wall + offset) (small : SmallClock gateway)
    (small' : SmallClock client) :
    InSync cfg (p.onHandshake seconds client (responderAuth ad gateway)) gateway.wall offset ↔
      -1000000000 ≤ offset ∧ -1000000000 < offset + (gateway.wall - unixEpoch) % 1000000000 ∧
        offset + (gateway.wall - unixEpoch) % 1000000000 < 1000000000 := by
  have skew := handshake_skew ad gateway client offset apart small small'
  obtain ⟨w, measured⟩ : ∃ w, w = offset + (gateway.wall - unixEpoch) % 1000000000 := ⟨_, rfl⟩
  rw [← measured] at skew ⊢
  have value : ∀ later mono mono', (((p.onHandshake seconds client (responderAuth ad gateway)).atTime ⟨later + offset, mono⟩).skewedUnixTime cfg -
      unixSeconds ⟨later, mono'⟩) = (later + offset - unixEpoch) / 1000000000 + seconds w - (later - unixEpoch) / 1000000000 := by
    intro later mono mono'
    rw [synced_time cfg sync, ClientPki.onHandshake, skew]
    rfl
  constructor
  · intro near
    -- At the beginning of a second of the gateway, and just before its end.
    have first := near (unixEpoch + ((gateway.wall - unixEpoch) / 1000000000 + 1) * 1000000000) (by omega) none none
    have last := near (unixEpoch + ((gateway.wall - unixEpoch) / 1000000000 + 1) * 1000000000 + 999999999) (by omega) none none
    rw [value, abs_le] at first last
    have low : -1000000000 < w := by
      by_contra behind
      have cut := cuts_behind cuts w (by omega)
      omega
    have high : w < 1000000000 := by
      by_contra ahead
      have cut := cuts_ahead cuts w (by omega)
      omega
    rw [cuts_below_second cuts w low high] at first
    exact ⟨by omega, low, high⟩
  · rintro ⟨near, low, high⟩ later _ mono mono'
    rw [value, cuts_below_second cuts w low high, abs_le]
    omega

theorem half_second_in_sync :
    InSync (smallPkiConfig none)
      ((newPKI (smallPkiConfig none) 0).onHandshake (fun d => d.tdiv 1000000000) ⟨unixEpoch + 1000500000000, none⟩
        (responderAuth [] ⟨unixEpoch + 1000000000000, none⟩)) (unixEpoch + 1000000000000) 500000000 :=
  (time_sync_iff (smallPkiConfig none) rfl (fun _ => .inl rfl) (newPKI (smallPkiConfig none) 0) []
    ⟨unixEpoch + 1000000000000, none⟩ ⟨unixEpoch + 1000500000000, none⟩ 500000000 (by simp only; omega)
    ⟨by simp only [unixSeconds]; omega, by simp only [unixSeconds]; omega⟩
    ⟨by simp only [unixSeconds]; omega, by simp only [unixSeconds]; omega⟩).mpr
    ⟨by omega, by simp only; omega, by simp only; omega⟩

/-- A client ten seconds ahead of the gateway, or behind it, is twenty seconds off after the
handshake, and with epochs of a second in another epoch. -/
theorem offset_doubled :
    let ahead := (newPKI (smallPkiConfig none) 0).onHandshake (fun d => d.tdiv 1000000000) ⟨unixEpoch + 1010000000000, none⟩
      (responderAuth [] ⟨unixEpoch + 1000000000000, none⟩)
    let behind := (newPKI (smallPkiConfig none) 0).onHandshake (fun d => d.tdiv 1000000000) ⟨unixEpoch + 990000000000, none⟩
      (responderAuth [] ⟨unixEpoch + 1000000000000, none⟩)
    (ahead.atTime ⟨unixEpoch + 1010000000000, none⟩).skewedUnixTime (smallPkiConfig none) = 1020 ∧
    (behind.atTime ⟨unixEpoch + 990000000000, none⟩).skewedUnixTime (smallPkiConfig none) = 980 ∧
    (ahead.atTime ⟨unixEpoch + 1010000000000, none⟩).skewedEpoch (smallPkiConfig none) = some 1020 ∧
    unixSeconds ⟨unixEpoch + 1000000000000, none⟩ = 1000 := by
  decide +kernel

end Sync

end Katzenpost
