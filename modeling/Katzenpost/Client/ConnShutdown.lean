import Katzenpost.Client.ConnReaders

set_option autoImplicit false

namespace Katzenpost

open Go

inductive SendCheck where
  | connected
  | ready
deriving DecidableEq

inductive ShutdownStage where
  | running
  | flagged
  | halting
  | fetchClosed
  | sendClosed
deriving DecidableEq

def ShutdownStage.closes : ShutdownStage → Bool
  | .fetchClosed => true
  | .sendClosed => true
  | _ => false

-- The connection with the calls of sendPacket that have not come to their select, and
-- the client's own HaltCh, which ForceFetch looks at. A panic ends the process.
structure ClosingConn where
  conn : GatewayConn
  checks : List SendCheck
  stage : ShutdownStage
  clientHalted : Bool
  panicked : Bool

def newClosingConn : ClosingConn := ⟨newConnection, [], .running, false, false⟩

inductive ClosingEvent where
  | conn (event : GatewayEvent)
  | sendPacket
  | loadShutdown (i : Nat)
  | select (i : Nat) (halt : Bool)
  | forceFetch (halt : Bool)
  | storeShutdown
  | halt
  | closeFetch
  | closeSend
  | haltClient

def GatewayEvent.takenApart : GatewayEvent → Bool
  | .sendPacket => true
  | .forceFetch => true
  | .shutdown => true
  | .halt => true
  | _ => false

section Step

variable (cfg : ConnConfig) (s : ClosingConn)

-- A select that finds sendCh closed can pick it, and panics, or HaltCh, which is
-- closed as well. Otherwise the call waits in the select for the loop or for HaltCh.
def ClosingConn.select (i : Nat) (halt : Bool) : Option ClosingConn :=
  match s.checks[i]? with
  | some .ready =>
      let left := { s with checks := s.checks.eraseIdx i }
      if s.stage = .sendClosed then some (if halt then left else { s with panicked := true })
      else some { left with conn := { s.conn with callers := s.conn.callers ++ [.sendOffering] } }
  | _ => none

-- The send of ForceFetch to a channel that is closed counts as ready: the default
-- branch is not taken.
def ClosingConn.forceFetch (halt : Bool) : ClosingConn :=
  if s.clientHalted && halt then s
  else if s.stage.closes then { s with panicked := true }
  else { s with conn := { s.conn with fetchCh := true } }

def ClosingConn.loadShutdown (i : Nat) : Option ClosingConn :=
  match s.checks[i]? with
  | some .connected =>
      some (if s.conn.isShutdown then { s with checks := s.checks.eraseIdx i } else { s with checks := s.checks.set i .ready })
  | _ => none

def GatewayConn.stopped (conn : GatewayConn) : Bool := conn.phase = .exited && conn.readers.all (· = .closed)

def closingStep (event : ClosingEvent) : Option ClosingConn :=
  if s.panicked then none
  else
    match event with
    | .conn event => if event.takenApart then none else (s.conn.step cfg event).map fun next => { s with conn := next }
    | .sendPacket => some (if s.conn.isConnected then { s with checks := s.checks ++ [.connected] } else s)
    | .loadShutdown i => s.loadShutdown i
    | .select i halt => s.select i halt
    | .forceFetch halt => some (s.forceFetch halt)
    | .storeShutdown =>
        if s.stage = .running then some { s with stage := .flagged, conn := { s.conn with isShutdown := true } } else none
    | .halt => if s.stage = .flagged then some { s with stage := .halting, conn := { s.conn with halted := true } } else none
    | .closeFetch => if s.stage = .halting ∧ s.conn.stopped = true then some { s with stage := .fetchClosed } else none
    | .closeSend => if s.stage = .fetchClosed then some { s with stage := .sendClosed } else none
    | .haltClient => some { s with clientHalted := true }

structure ClosingConn.Safe : Prop where
  sends : s.panicked = false
  receives : s.stage.closes = true → s.conn.phase = .exited

def ClosingConn.quiet : ClosingEvent → Bool
  | .closeSend => s.checks.all (· ≠ .ready)
  | .forceFetch _ => !s.stage.closes
  | _ => true

end Step

section Safety

variable {cfg : ConnConfig} {s next : ClosingConn}

structure ClosingSound (s : ClosingConn) : Prop where
  safe : s.Safe
  flagged : s.stage ≠ .running → s.conn.isShutdown = true
  noneReady : s.stage = .sendClosed → ∀ check ∈ s.checks, check ≠ .ready

theorem exited_stays (conn after : GatewayConn) (event : GatewayEvent) (exited : conn.phase = .exited)
    (taken : conn.step cfg event = some after) : after.phase = .exited := by
  have outside : conn.phase.inLoop = true → after.phase = .exited := by
    rw [exited]
    exact nofun
  cases gateway_moves event taken with
  | aside phase => exact phase.trans exited
  | connects dialing =>
      rw [exited] at dialing
      cases dialing
  | reader _ _ _ phase => exact phase.trans exited
  | loops before => exact outside before
  | readError before => exact outside before
  | leaves before => exact outside before
  | outside running => exact absurd exited running

theorem closing_conn_step (event : GatewayEvent) (after : GatewayConn) (sound : ClosingSound s) (taken : s.conn.step cfg event = some after) :
    ClosingSound { s with conn := after } :=
  ⟨⟨sound.safe.sends, fun closes => exited_stays s.conn after event (sound.safe.receives closes) taken⟩,
    fun begun => (step_flags event taken).2 (sound.flagged begun), sound.noneReady⟩

theorem load_shutdown_sound (i : Nat) (sound : ClosingSound s) (taken : s.loadShutdown i = some next) : ClosingSound next := by
  rw [ClosingConn.loadShutdown] at taken
  split at taken
  · cases taken
    split
    · exact ⟨⟨sound.safe.sends, sound.safe.receives⟩, sound.flagged,
        fun closed check member => sound.noneReady closed check (List.mem_of_mem_eraseIdx member)⟩
    · rename_i unset
      refine ⟨⟨sound.safe.sends, sound.safe.receives⟩, sound.flagged, fun closed => ?_⟩
      exact absurd (sound.flagged (by rw [closed]; exact nofun)) unset
  · cases taken

theorem select_sound (i : Nat) (halt : Bool) (sound : ClosingSound s) (taken : s.select i halt = some next) : ClosingSound next := by
  rw [ClosingConn.select] at taken
  split at taken
  · rename_i found
    split at taken
    · rename_i closed
      exact absurd rfl (sound.noneReady closed .ready (List.mem_of_getElem? found))
    · cases taken
      exact ⟨⟨sound.safe.sends, sound.safe.receives⟩, sound.flagged,
        fun closed check member => sound.noneReady closed check (List.mem_of_mem_eraseIdx member)⟩
  · cases taken

theorem force_fetch_sound (halt : Bool) (sound : ClosingSound s) (quiet : s.quiet (.forceFetch halt) = true) :
    ClosingSound (s.forceFetch halt) := by
  rw [ClosingConn.forceFetch]
  split
  · exact sound
  · split
    · rename_i closes
      rw [ClosingConn.quiet, closes] at quiet
      cases quiet
    · exact ⟨⟨sound.safe.sends, sound.safe.receives⟩, sound.flagged, sound.noneReady⟩

theorem closing_step_sound (event : ClosingEvent) (sound : ClosingSound s) (quiet : s.quiet event = true)
    (taken : closingStep cfg s event = some next) : ClosingSound next := by
  unfold closingStep at taken
  rw [if_neg (by rw [sound.safe.sends]; decide)] at taken
  cases event with
  | conn event =>
      simp only at taken
      split at taken
      · cases taken
      · obtain ⟨after, stepped, rfl⟩ := Option.map_eq_some_iff.mp taken
        exact closing_conn_step event after sound stepped
  | sendPacket =>
      cases taken
      split
      · refine ⟨⟨sound.safe.sends, sound.safe.receives⟩, sound.flagged, fun closed check member => ?_⟩
        cases List.mem_append.mp member with
        | inl before => exact sound.noneReady closed check before
        | inr new =>
            cases List.mem_singleton.mp new
            exact nofun
      · exact sound
  | loadShutdown i => exact load_shutdown_sound i sound taken
  | select i halt => exact select_sound i halt sound taken
  | forceFetch halt => exact Option.some.inj taken ▸ force_fetch_sound halt sound quiet
  | storeShutdown =>
      simp only at taken
      split at taken <;> cases taken
      exact ⟨⟨sound.safe.sends, nofun⟩, fun _ => rfl, nofun⟩
  | halt =>
      simp only at taken
      split at taken
      · rename_i stage
        cases taken
        exact ⟨⟨sound.safe.sends, nofun⟩, fun _ => sound.flagged (by rw [stage]; exact nofun), nofun⟩
      · cases taken
  | closeFetch =>
      simp only at taken
      split at taken
      · rename_i ready
        cases taken
        refine ⟨⟨sound.safe.sends, fun _ => ?_⟩, fun _ => sound.flagged (by rw [ready.1]; exact nofun), nofun⟩
        have stopped := ready.2
        rw [GatewayConn.stopped, Bool.and_eq_true] at stopped
        exact of_decide_eq_true stopped.1
      · cases taken
  | closeSend =>
      simp only at taken
      split at taken
      · rename_i stage
        cases taken
        refine ⟨⟨sound.safe.sends, fun _ => sound.safe.receives (by rw [stage]; rfl)⟩,
          fun _ => sound.flagged (by rw [stage]; exact nofun), fun _ check member => ?_⟩
        exact of_decide_eq_true (List.all_eq_true.mp quiet check member)
      · cases taken
  | haltClient =>
      cases taken
      exact ⟨⟨sound.safe.sends, sound.safe.receives⟩, sound.flagged, sound.noneReady⟩

/-- As long as no call is between its checks and its select when sendCh is closed, and ForceFetch
is not called once fetchCh is closed, no closed channel is sent to, and none is received from as
if it had a request. -/
theorem shutdown_safe (cfg : ConnConfig) (events : List ClosingEvent)
    (met : Meets (closingStep cfg) (fun s event => s.quiet event = true) newClosingConn events) :
    Always (closingStep cfg) ClosingConn.Safe newClosingConn events :=
  always_of_invariant (closingStep cfg) ClosingConn.Safe ClosingSound (fun s event => s.quiet event = true)
    (fun _ event _ sound quiet taken => closing_step_sound event sound quiet taken) (fun _ sound => sound.safe) events newClosingConn
    ⟨⟨rfl, nofun⟩, fun begun => absurd rfl begun, nofun⟩ met

def shutdownAround (before after : List ClosingEvent) : List ClosingEvent :=
  [.conn .connect, .sendPacket, .loadShutdown 0] ++ before ++
    [.storeShutdown, .halt, .conn .seeHalt, .conn .stopDialing, .conn (.readerReceives 0 none), .conn (.readerHalts 0), .closeFetch,
     .closeSend] ++ after

theorem waiting_call_leaves :
    ((run (closingStep plainConn) newClosingConn (shutdownAround [.select 0 false] [.conn (.leave 0)])).map fun s =>
      (s.stage, s.conn.callers)) = some (.sendClosed, [.returned]) ∧
    Always (closingStep plainConn) ClosingConn.Safe newClosingConn (shutdownAround [.select 0 false] [.conn (.leave 0)]) :=
  ⟨by decide +kernel, shutdown_safe plainConn _ (by decide +kernel)⟩

/-- A call of sendPacket that comes to its select after Shutdown, and one of ForceFetch before the
client itself is halted, send on a closed channel. -/
theorem late_calls_panic :
    ((run (closingStep plainConn) newClosingConn (shutdownAround [] [.select 0 false])).map fun s => s.panicked) = some true ∧
    ((run (closingStep plainConn) newClosingConn (shutdownAround [] [.forceFetch true])).map fun s => (s.panicked, s.clientHalted)) =
      some (true, false) := by
  decide +kernel

end Safety

end Katzenpost
