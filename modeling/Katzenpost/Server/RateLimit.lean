import Katzenpost.Server.Incoming
import Katzenpost.Go.TokenBucket
import Katzenpost.Go.Run

set_option autoImplicit false

namespace Katzenpost

open Go

structure IncomingPeer extends ServerConn where
  fromMix : Bool
  canSend : Bool
deriving DecidableEq

def newIncomingConn (now : Int) : IncomingPeer := ⟨⟨false, 0, 4, 0, now⟩, false, false⟩

-- What IsPeerValid learns from others: the answers of AuthenticateConnection
-- (canSend and isValid), which it asks twice for what is no client, and of
-- AuthenticateClient, and the limits of the listener. The duration is
-- uint64((1 / ratePerMin) * 60 * 1000).
structure PeerAnswers where
  isGateway : Bool
  asMix : Bool × Bool
  isClient : Bool
  disableRateLimit : Bool
  sendTokenDuration : UInt64
  sendBurst : UInt64
  asMixAgain : Bool × Bool
deriving DecidableEq

def tokenIncr (sendTokenDuration : UInt64) : Int := (sendTokenDuration.toNat * millisecond).bmod (2 ^ 64)

def ServerConn.updateLimits (c : ServerConn) (sendTokenDuration sendBurst : UInt64) (now : Int) : ServerConn :=
  let c :=
    if sendTokenDuration = UInt64.ofInt (c.sendTokenIncr.tdiv millisecond) then c
    else if sendTokenDuration = 0 then { c with sendTokenIncr := 0, sendTokens := 0, maxSendTokens := 0 }
    else c
  -- Without a previous limit it starts with one token.
  let c := if c.sendTokenIncr = 0 then { c with sendTokens := 1, sendTokenLast := now } else c
  let c := { c with sendTokenIncr := tokenIncr sendTokenDuration, maxSendTokens := sendBurst }
  if sendBurst = 0 then { c with sendTokenIncr := 0, sendTokens := 0, maxSendTokens := 0 } else c

def IncomingPeer.isPeerValid (c : IncomingPeer) (peer : PeerAnswers) (now : Int) : IncomingPeer × Bool :=
  if peer.isGateway = true ∧ peer.asMix.2 = true then
    ({ c with fromMix := true, fromClient := false, canSend := peer.asMix.1 }, true)
  else if peer.isGateway = true ∧ peer.isClient = false ∧ c.fromClient = true then
    ({ c with canSend := false }, false)
  else if peer.isGateway = true ∧ peer.isClient = true then
    let c := { c with fromClient := true, canSend := true }
    if peer.disableRateLimit then (c, true)
    else ({ c with toServerConn := c.updateLimits peer.sendTokenDuration peer.sendBurst now }, true)
  else
    ({ c with
      fromClient := false
      canSend := peer.asMixAgain.1
      fromMix := c.fromMix || peer.asMixAgain.2 }, peer.asMixAgain.2)

structure PeerLog where
  conn : IncomingPeer
  handed : List (Int × Packet)

def PeerLog.initial (now : Int) : PeerLog := ⟨newIncomingConn now, []⟩

inductive PeerEvent where
  | authenticate (now : Int) (peer : PeerAnswers)
  | sendPacket (now recvAt : Int) (id : UInt64) (raw : Bytes)

def PeerEvent.now : PeerEvent → Int
  | .authenticate now _ => now
  | .sendPacket now _ _ _ => now

def connStep (cfg : ServerConfig) (log : PeerLog) : PeerEvent → Option PeerLog
  | .authenticate now peer =>
      match log.conn.isPeerValid peer now with
      | (_, false) => none
      | (conn, true) => some { log with conn := conn }
  | .sendPacket now recvAt id raw =>
      if log.conn.canSend then
        match onSendPacket cfg log.conn.toServerConn id now recvAt raw with
        | ⟨_, _, some _⟩ => none
        | ⟨c, enqueued, none⟩ =>
            some ⟨{ log.conn with toServerConn := c }, log.handed ++ (enqueued.map fun pkt => (now, pkt)).toList⟩
      else some log

def PeerEvent.KeepsLimits (sendTokenDuration sendBurst : UInt64) : PeerEvent → Prop
  | .authenticate _ peer => peer.isGateway = true ∧ peer.asMix.2 = false ∧ peer.isClient = true ∧
      peer.disableRateLimit = false ∧ peer.sendTokenDuration = sendTokenDuration ∧ peer.sendBurst = sendBurst
  | .sendPacket _ _ _ _ => True

instance (sendTokenDuration sendBurst : UInt64) :
    ∀ event : PeerEvent, Decidable (event.KeepsLimits sendTokenDuration sendBurst)
  | .authenticate _ peer => inferInstanceAs (Decidable (peer.isGateway = true ∧ peer.asMix.2 = false ∧
      peer.isClient = true ∧ peer.disableRateLimit = false ∧ peer.sendTokenDuration = sendTokenDuration ∧
      peer.sendBurst = sendBurst))
  | .sendPacket .. => isTrue trivial

def ServerConn.bucket (c : ServerConn) : TokenBucket := ⟨c.sendTokens.toNat, c.sendTokenLast⟩

theorem time_sub_near (t u : Int) (past : u ≤ t) (near : t ≤ u + maxDuration) : timeSub t u = t - u := by
  rw [timeSub, min_eq_right (by omega), max_eq_right]
  rw [minDuration]
  omega

theorem refill_kept (c : ServerConn) (now : Int) :
    (c.refill now).fromClient = c.fromClient ∧ (c.refill now).maxSendTokens = c.maxSendTokens ∧
      (c.refill now).sendTokenIncr = c.sendTokenIncr := by
  simp only [ServerConn.refill]
  split
  · exact ⟨rfl, rfl, rfl⟩
  · exact ⟨rfl, rfl, rfl⟩

theorem refill_earns (c : ServerConn) (now : Int) (positive : 0 < c.sendTokenIncr)
    (sized : c.sendTokens.toNat ≤ c.maxSendTokens.toNat) (past : c.sendTokenLast ≤ now)
    (near : now ≤ c.sendTokenLast + maxDuration) :
    Earns c.sendTokenIncr c.maxSendTokens.toNat now c.bucket (c.refill now).bucket := by
  have idle : 0 ≤ now - c.sendTokenLast := by omega
  have count : 0 ≤ (now - c.sendTokenLast) / c.sendTokenIncr := Int.ediv_nonneg idle positive.le
  have short : (now - c.sendTokenLast) / c.sendTokenIncr ≤ now - c.sendTokenLast := Int.ediv_le_self _ idle
  obtain ⟨n, same⟩ := Int.eq_ofNat_of_zero_le count
  have small : n < 2 ^ 64 := by
    rw [maxDuration] at near
    omega
  have converted : (UInt64.ofInt (n : Int)).toNat = n := by
    rw [UInt64.ofInt, UInt64.toNat_ofNat']
    omega
  simp only [ServerConn.refill, time_sub_near now _ past near, Int.tdiv_eq_ediv_of_nonneg idle, same]
  split
  · refine ⟨?_, ?_, ?_⟩
    · simp only [ServerConn.bucket, same]
    · have added : (c.sendTokens + UInt64.ofInt (n : Int)).toNat ≤ c.sendTokens.toNat + n := by
        rw [UInt64.toNat_add, converted]
        exact Nat.mod_le _ _
      simp only [ServerConn.bucket, same]
      split
      · rename_i more
        have := UInt64.lt_iff_toNat_lt.mp more
        omega
      · omega
    · simp only [ServerConn.bucket]
      split
      · exact Nat.le_refl _
      · rename_i fits
        exact UInt64.le_iff_toNat_le.mp (UInt64.not_lt.mp fits)
  · rename_i none
    have zero : n = 0 := by
      have := UInt64.lt_iff_toNat_lt.not.mp none
      rw [converted] at this
      simpa using this
    refine ⟨?_, ?_, sized⟩
    · simp only [ServerConn.bucket, same, zero, Int.natCast_zero, mul_zero, add_zero]
    · simp only [ServerConn.bucket, same, zero, Int.natCast_zero, add_zero, le_refl]

theorem take_token_cases (c : ServerConn) (now : Int) (client : c.fromClient = true) (limiting : c.sendTokenIncr ≠ 0) :
    c.takeToken now = (c.refill now, false) ∨
      ∃ left : UInt64, (c.refill now).sendTokens.toNat = left.toNat + 1 ∧
        c.takeToken now = ({ c.refill now with sendTokens := left }, true) := by
  simp only [ServerConn.takeToken, if_pos (And.intro client limiting)]
  split
  · exact Or.inl rfl
  · rename_i some
    refine Or.inr ⟨_, ?_, rfl⟩
    have positive : 0 < (c.refill now).sendTokens.toNat := Nat.pos_of_ne_zero (UInt64.toNat_inj.not.mpr some)
    have enough : 1 ≤ (c.refill now).sendTokens := UInt64.le_iff_toNat_le.mpr positive
    rw [UInt64.toNat_sub_of_le _ _ enough]
    exact (Nat.sub_add_cancel positive).symm

theorem on_send_cases (cfg : ServerConfig) (c : ServerConn) (id : UInt64) (now recvAt : Int) (raw : Bytes) :
    (∃ e, (onSendPacket cfg c id now recvAt raw).refused = some e) ∨
      ∃ pkt, onSendPacket cfg c id now recvAt raw =
        ⟨(c.takeToken now).1, if (c.takeToken now).2 then some pkt else none, none⟩ := by
  simp only [onSendPacket]
  split
  · exact Or.inl ⟨_, rfl⟩
  · split
    · rename_i taken
      rw [taken]
      exact Or.inr ⟨blankPacket id raw, rfl⟩
    · rename_i taken
      rw [taken]
      exact Or.inr ⟨_, rfl⟩

theorem update_limits_first (c : ServerConn) (sendTokenDuration sendBurst : UInt64) (now : Int)
    (unlimited : c.sendTokenIncr = 0) (burst : sendBurst ≠ 0) :
    c.updateLimits sendTokenDuration sendBurst now =
      ⟨c.fromClient, 1, sendBurst, tokenIncr sendTokenDuration, now⟩ := by
  have same : (if sendTokenDuration = UInt64.ofInt (c.sendTokenIncr.tdiv millisecond) then c
      else if sendTokenDuration = 0 then { c with sendTokenIncr := 0, sendTokens := 0, maxSendTokens := 0 } else c) = c := by
    rw [unlimited, show UInt64.ofInt (Int.tdiv 0 millisecond) = 0 from rfl]
    split
    · rfl
    · rfl
  simp only [ServerConn.updateLimits, same, if_pos unlimited, if_neg burst]

theorem update_limits_again (c : ServerConn) (sendTokenDuration sendBurst : UInt64) (now : Int)
    (interval : c.sendTokenIncr = tokenIncr sendTokenDuration) (positive : 0 < tokenIncr sendTokenDuration)
    (size : c.maxSendTokens = sendBurst) (burst : sendBurst ≠ 0) :
    c.updateLimits sendTokenDuration sendBurst now = c := by
  have nonzero : sendTokenDuration ≠ 0 := by
    rintro rfl
    exact absurd positive (by decide)
  have limited : c.sendTokenIncr ≠ 0 := by omega
  subst size
  simp only [ServerConn.updateLimits, if_neg nonzero, ite_self, if_neg limited, if_neg burst, ← interval]

section Limited

variable (opened start stop : Int) (sendTokenDuration sendBurst : UInt64)

inductive Limited (now : Int) : PeerLog → Prop where
  | fresh (conn : IncomingPeer) (silent : conn.canSend = false) (unlimited : conn.sendTokenIncr = 0)
      (noTokens : conn.sendTokens = 0) : Limited now ⟨conn, []⟩
  | limited (log : PeerLog) (client : log.conn.fromClient = true)
      (interval : log.conn.sendTokenIncr = tokenIncr sendTokenDuration) (size : log.conn.maxSendTokens = sendBurst)
      (since : opened ≤ log.conn.sendTokenLast)
      (windowed : Windowed (tokenIncr sendTokenDuration) sendBurst.toNat start stop now log.conn.bucket
        (log.handed.map Prod.fst)) : Limited now log

variable {opened start stop sendTokenDuration sendBurst} {now : Int} {log : PeerLog}

theorem authenticate_limited (forward : start ≤ stop) (positive : 0 < tokenIncr sendTokenDuration) (burst : sendBurst ≠ 0)
    (limited : Limited opened start stop sendTokenDuration sendBurst now log) (next : Int) (later : now ≤ next)
    (since : opened ≤ next) (peer : PeerAnswers)
    (keeps : (PeerEvent.authenticate next peer).KeepsLimits sendTokenDuration sendBurst) :
    ∃ conn, log.conn.isPeerValid peer next = (conn, true) ∧
      Limited opened start stop sendTokenDuration sendBurst next { log with conn := conn } := by
  obtain ⟨gateway, noMix, client, limiting, rfl, rfl⟩ := keeps
  simp only [IncomingPeer.isPeerValid, gateway, noMix, client, limiting, Bool.false_eq_true, Bool.true_eq_false, and_false,
    and_true, false_and, if_false, if_true]
  refine ⟨_, rfl, ?_⟩
  cases limited with
  | fresh conn silent unlimited noTokens =>
      rw [update_limits_first { conn.toServerConn with fromClient := true } _ _ _ unlimited burst]
      have one : 1 ≤ peer.sendBurst.toNat := Nat.one_le_iff_ne_zero.mpr (UInt64.toNat_inj.not.mpr burst)
      have unused := unused_windowed positive forward ⟨1, next⟩ next (le_refl next) one
      exact Limited.limited _ rfl (by dsimp only) rfl since unused
  | limited _ _ interval size since windowed =>
      rw [update_limits_again { log.conn.toServerConn with fromClient := true } _ _ _ interval positive size burst]
      exact Limited.limited _ rfl interval size since (waits_windowed windowed later)

theorem send_limited (cfg : ServerConfig) (positive : 0 < tokenIncr sendTokenDuration)
    (limited : Limited opened start stop sendTokenDuration sendBurst now log) (next recvAt : Int) (later : now ≤ next)
    (clock : next ≤ opened + maxDuration) (id : UInt64) (raw : Bytes) (after : PeerLog)
    (step : connStep cfg log (.sendPacket next recvAt id raw) = some after) :
    Limited opened start stop sendTokenDuration sendBurst next after := by
  cases limited with
  | fresh conn silent unlimited noTokens =>
      simp only [connStep, silent, Bool.false_eq_true, if_false] at step
      cases step
      exact Limited.fresh conn silent unlimited noTokens
  | limited _ client interval size since windowed =>
      obtain ⟨conn, handed⟩ := log
      have earns : Earns (tokenIncr sendTokenDuration) sendBurst.toNat next conn.bucket
          (conn.toServerConn.refill next).bucket := by
        rw [← interval, ← size]
        refine refill_earns conn.toServerConn next (by rw [interval]; exact positive) ?_ (le_trans windowed.past later) ?_
        · rw [size]
          exact windowed.sized
        · dsimp only at since
          omega
      have passed : opened ≤ (conn.toServerConn.refill next).sendTokenLast := by
        have count := Int.ediv_nonneg (sub_nonneg.mpr (le_trans windowed.past later)) positive.le
        have gained := mul_nonneg positive.le count
        have last := earns.last
        simp only [ServerConn.bucket] at last gained
        rw [last]
        dsimp only at since
        omega
      obtain ⟨keptClient, keptSize, keptIncr⟩ := refill_kept conn.toServerConn next
      simp only [connStep] at step
      split at step
      · cases on_send_cases cfg conn.toServerConn id next recvAt raw with
        | inl refused =>
            obtain ⟨e, refused⟩ := refused
            split at step
            · cases step
            · rename_i effect
              rw [effect] at refused
              cases refused
        | inr taken =>
            obtain ⟨pkt, effect⟩ := taken
            rw [effect] at step
            cases take_token_cases conn.toServerConn next client (by rw [interval]; exact positive.ne') with
            | inl dropped =>
                rw [dropped] at step
                cases step
                refine Limited.limited _ (keptClient.trans client) (keptIncr.trans interval) (keptSize.trans size) passed ?_
                simp only [Bool.false_eq_true, if_false, Option.map_none, Option.toList_none, List.append_nil]
                exact earns_windowed positive windowed later earns
            | inr accepted =>
                obtain ⟨left, some, accepted⟩ := accepted
                rw [accepted] at step
                cases step
                refine Limited.limited _ (keptClient.trans client) (keptIncr.trans interval) (keptSize.trans size) passed ?_
                rw [List.map_append]
                exact takes_windowed positive windowed later earns left.toNat some
      · cases step
        exact Limited.limited _ client interval size since (waits_windowed windowed later)

theorem conn_step_limited (cfg : ServerConfig) (forward : start ≤ stop) (positive : 0 < tokenIncr sendTokenDuration)
    (burst : sendBurst ≠ 0) (limited : Limited opened start stop sendTokenDuration sendBurst now log) (event : PeerEvent)
    (later : now ≤ event.now) (since : opened ≤ event.now) (clock : event.now ≤ opened + maxDuration)
    (keeps : event.KeepsLimits sendTokenDuration sendBurst) (after : PeerLog) (step : connStep cfg log event = some after) :
    Limited opened start stop sendTokenDuration sendBurst event.now after := by
  cases event with
  | authenticate next peer =>
      obtain ⟨conn, valid, limited'⟩ := authenticate_limited forward positive burst limited next later since peer keeps
      rw [connStep, valid] at step
      cases step
      exact limited'
  | sendPacket next recvAt id raw => exact send_limited cfg positive limited next recvAt later clock id raw after step

theorem conn_run_limited (cfg : ServerConfig) (forward : start ≤ stop) (positive : 0 < tokenIncr sendTokenDuration)
    (burst : sendBurst ≠ 0) (events : List PeerEvent) (now : Int) (log final : PeerLog) (since : opened ≤ now)
    (limited : Limited opened start stop sendTokenDuration sendBurst now log)
    (keeps : ∀ event ∈ events, event.KeepsLimits sendTokenDuration sendBurst)
    (ordered : (now :: events.map PeerEvent.now).Pairwise (· ≤ ·))
    (clock : ∀ event ∈ events, event.now ≤ opened + maxDuration) (reached : run (connStep cfg) log events = some final) :
    ∃ last, Limited opened start stop sendTokenDuration sendBurst last final := by
  induction events generalizing now log with
  | nil =>
      obtain rfl := Option.some.inj reached
      exact ⟨now, limited⟩
  | cons event rest ih =>
      rw [List.map_cons, List.pairwise_cons] at ordered
      have later : now ≤ event.now := ordered.1 _ (List.mem_cons_self ..)
      rw [run] at reached
      split at reached
      · cases reached
      · rename_i after step
        have limited' := conn_step_limited cfg forward positive burst limited event later (le_trans since later)
          (clock event (List.mem_cons_self ..)) (keeps event (List.mem_cons_self ..)) after step
        exact ih event.now after (le_trans since later) limited' (fun e member => keeps e (List.mem_cons_of_mem _ member))
          ordered.2 (fun e member => clock e (List.mem_cons_of_mem _ member)) reached

theorem limited_bounds (positive : 0 < tokenIncr sendTokenDuration) (forward : start ≤ stop)
    (limited : Limited opened start stop sendTokenDuration sendBurst now log) :
    log.conn.sendTokens ≤ sendBurst ∧
      (within start stop (log.handed.map Prod.fst) : Int) ≤
        sendBurst.toNat + (stop - start) / tokenIncr sendTokenDuration + 1 := by
  cases limited with
  | fresh conn silent unlimited noTokens =>
      have room := Int.ediv_nonneg (sub_nonneg.mpr forward) positive.le
      refine ⟨?_, ?_⟩
      · rw [noTokens]
        exact UInt64.zero_le
      · rw [show within start stop (List.map Prod.fst ([] : List (Int × Packet))) = 0 from rfl]
        omega
  | limited _ client interval size since windowed =>
      exact ⟨UInt64.le_iff_toNat_le.mpr windowed.sized, windowed.bounded⟩

end Limited

/-- A client gets the burst through at most, and one packet for each interval. -/
theorem client_rate_bounded (cfg : ServerConfig) (opened : Int) (sendTokenDuration sendBurst : UInt64)
    (events : List PeerEvent) (final : PeerLog) (interval : 0 < tokenIncr sendTokenDuration) (burst : 1 ≤ sendBurst)
    (keeps : ∀ event ∈ events, event.KeepsLimits sendTokenDuration sendBurst)
    (ordered : (opened :: events.map PeerEvent.now).Pairwise (· ≤ ·))
    (clock : ∀ event ∈ events, event.now ≤ opened + maxDuration)
    (reached : run (connStep cfg) (PeerLog.initial opened) events = some final) :
    final.conn.sendTokens ≤ sendBurst ∧
      ∀ start length : Int, 0 ≤ length →
        (within start (start + length) (final.handed.map Prod.fst) : Int) ≤
          sendBurst.toNat + length / tokenIncr sendTokenDuration + 1 := by
  have nonzero : sendBurst ≠ 0 := by
    rintro rfl
    exact absurd burst (by decide)
  have bounds : ∀ start stop : Int, start ≤ stop → final.conn.sendTokens ≤ sendBurst ∧
      (within start stop (final.handed.map Prod.fst) : Int) ≤
        sendBurst.toNat + (stop - start) / tokenIncr sendTokenDuration + 1 := by
    intro start stop forward
    have fresh : Limited opened start stop sendTokenDuration sendBurst opened (PeerLog.initial opened) :=
      Limited.fresh _ rfl rfl rfl
    obtain ⟨last, limited⟩ := conn_run_limited cfg forward interval nonzero events opened _ final (le_refl _) fresh keeps
      ordered clock reached
    exact limited_bounds interval forward limited
  refine ⟨(bounds 0 0 (le_refl 0)).1, fun start length nonneg => ?_⟩
  have bound := (bounds start (start + length) (le_add_of_nonneg_right nonneg)).2
  rwa [add_sub_cancel_left] at bound

def busyClient : List PeerEvent :=
  let peer : PeerAnswers := ⟨true, (false, false), true, false, 600, 4, (false, false)⟩
  [.authenticate 1 peer, .sendPacket 2 2 1 sizedRaw, .sendPacket 3 3 2 sizedRaw, .authenticate (millisecond * 900) peer,
    .sendPacket (millisecond * 1800) (millisecond * 1800) 3 sizedRaw,
    .sendPacket (millisecond * 1800) (millisecond * 1801) 4 sizedRaw]

theorem busy_client_bounded :
    ∃ final, run (connStep gatewayConfig) (PeerLog.initial 0) busyClient = some final ∧
      final.handed.map Prod.fst = [2, millisecond * 1800, millisecond * 1800] ∧ final.conn.sendTokens ≤ 4 ∧
      ∀ start length : Int, 0 ≤ length →
        (within start (start + length) (final.handed.map Prod.fst) : Int) ≤
          (4 : UInt64).toNat + length / tokenIncr 600 + 1 := by
  have handed : (run (connStep gatewayConfig) (PeerLog.initial 0) busyClient).map (fun final => final.handed.map Prod.fst) =
      some [2, millisecond * 1800, millisecond * 1800] := by decide +kernel
  obtain ⟨final, reached, times⟩ := Option.map_eq_some_iff.mp handed
  exact ⟨final, reached, times, client_rate_bounded gatewayConfig 0 600 4 busyClient final (by decide) (by decide)
    (by decide +kernel) (by decide +kernel) (by decide +kernel) reached⟩

end Katzenpost
