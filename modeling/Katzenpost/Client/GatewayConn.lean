import Katzenpost.Go.Bytes
import Katzenpost.Go.Run

set_option autoImplicit false

namespace Katzenpost

open Go

inductive ConnCaller where
  | sendOffering
  | sendWaiting
  | consensusOffering
  | consensusWaiting
  | consensusReply
  | returned
deriving DecidableEq

inductive GatewayCommand where
  | noOp
  | disconnect
  | messageEmpty (sequence : UInt32)
  | message (sequence : UInt32)
  | messageACK (sequence : UInt32)
  | consensus
  | consensus2 (errorCode : UInt8) (chunkNum chunkTotal : Nat) (payload : Bytes)
  | other
deriving DecidableEq

inductive GatewayCheck where
  | unavailable
  | invalid
  | valid
deriving DecidableEq

structure Dechunker where
  chunkNum : Nat
  chunkTotal : Nat
  chunks : Bytes
  output : Bytes
deriving DecidableEq

def newDechunker : Dechunker := ⟨0, 0, [], []⟩

-- The callbacks that are set, and gzip: none if the header is not one, otherwise
-- what can be read.
structure ConnConfig where
  onACKFn : Bool
  gunzip : Bytes → Option Bytes

structure WireLoop where
  consensusCtx : Option Nat
  dechunker : Dechunker
  seq : UInt32
  nrReqs : Nat
  nrResps : Nat
deriving DecidableEq

def newWireLoop : WireLoop := ⟨none, newDechunker, 0, 0, 0⟩

-- The call of onConnStatusChange in the deferred function of onWireConn and the one
-- in doConnect after onNetConn has returned.
inductive StatusRound where
  | deferred
  | emitted
deriving DecidableEq

inductive Dispatched where
  | outstanding
  | sent
  | failed
deriving DecidableEq

-- Where the goroutine of connectWorker is. The hand-overs of results have the caller
-- they are for.
inductive GatewayPhase where
  | dialing
  | loop (l : WireLoop)
  | sendDone (caller : Nat) (l : WireLoop) (failed : Bool)
  | consensusDone (caller : Nat) (l : WireLoop) (result : Dispatched)
  | replying (caller : Nat) (l : WireLoop)
  | deferredReply (caller : Nat)
  | drainSend (round : StatusRound)
  | drainSendDone (caller : Nat) (round : StatusRound)
  | drainConsensus (round : StatusRound)
  | drainConsensusDone (caller : Nat) (round : StatusRound)
  | exited
deriving DecidableEq

inductive ConnReader where
  | receiving
  | offering (cmd : GatewayCommand)
  | failed
  | closed
deriving DecidableEq

-- getConsensusCh and fetchCh have room for one entry, sendCh has none.
structure GatewayConn where
  phase : GatewayPhase
  callers : List ConnCaller
  getConsensusCh : Option Nat
  fetchCh : Bool
  readers : List ConnReader
  isConnected : Bool
  isShutdown : Bool
  halted : Bool
deriving DecidableEq

inductive GatewayEvent where
  | sendPacket
  | getConsensus
  | put (i : Nat)
  | leave (i : Nat)
  | forceFetch
  | shutdown
  | halt
  | connect
  | stopDialing
  | fetch (sent : Bool)
  | takeSend (i : Nat) (sent : Bool)
  | takeConsensus (sent : Bool)
  | receive (check : GatewayCheck)
  | seeHalt
  | callbackError
  | handOver
  | deferredHalt
  | drain (i : Option Nat)
  | readerReceives (k : Nat) (cmd : Option GatewayCommand)
  | readerHalts (k : Nat)
deriving DecidableEq

def Dechunker.consume (cfg : ConnConfig) (d : Dechunker) (payload : Bytes) (num total : Nat) : Option Dechunker :=
  if d.chunkNum ≠ 0 ∧ total ≠ d.chunkTotal then none
  else
    let written := { d with chunks := d.chunks ++ payload }
    if num + 1 = d.chunkTotal then (cfg.gunzip written.chunks).map fun output => { written with output := output }
    else some written

inductive CommandHandled where
  | goesOn (l : WireLoop)
  | replies (caller : Nat) (l : WireLoop)
  | leaves
  | panics

def WireLoop.answered (l : WireLoop) : WireLoop := { l with consensusCtx := none, dechunker := newDechunker }

def WireLoop.consensus2 (cfg : ConnConfig) (l : WireLoop) (errorCode : UInt8) (chunkNum chunkTotal : Nat) (payload : Bytes) :
    CommandHandled :=
  match l.consensusCtx with
  | none => .leaves
  | some caller =>
      if errorCode ≠ 0 then .replies caller l.answered
      else
        let d := if l.dechunker.chunkNum = 0 then { l.dechunker with chunkNum := chunkNum, chunkTotal := chunkTotal }
          else l.dechunker
        match d.consume cfg payload chunkNum chunkTotal with
        | none => .leaves
        | some d =>
            if chunkNum + 1 = d.chunkTotal then
              if d.output = [] then .leaves else .replies caller l.answered
            else .goesOn { l with dechunker := d }

def WireLoop.handle (cfg : ConnConfig) (l : WireLoop) : GatewayCommand → CommandHandled
  | .noOp => .goesOn l
  | .disconnect => .leaves
  | .messageEmpty sequence => if l.seq ≠ sequence then .leaves else .goesOn { l with nrResps := l.nrResps + 1 }
  | .message sequence =>
      if l.seq ≠ sequence then .leaves else .goesOn { l with nrResps := l.nrResps + 1, seq := l.seq + 1 }
  | .messageACK sequence =>
      if l.seq ≠ sequence then .leaves
      else if !cfg.onACKFn then .panics
      else .goesOn { l with nrResps := l.nrResps + 1, seq := l.seq + 1 }
  | .consensus => .leaves
  | .consensus2 errorCode chunkNum chunkTotal payload => l.consensus2 cfg errorCode chunkNum chunkTotal payload
  | .other => .leaves

section Step

variable (cfg : ConnConfig) (s : GatewayConn)

def GatewayConn.lost : StatusRound → GatewayConn
  | .emitted =>
      if s.isShutdown then { s with phase := .dialing } else { s with isConnected := false, phase := .drainSend .emitted }
  | .deferred =>
      if s.isShutdown then { s with phase := .dialing } else { s with isConnected := false, phase := .drainSend .deferred }

def GatewayConn.drained : StatusRound → GatewayConn
  | .deferred => { s with fetchCh := false }.lost .emitted
  | .emitted => { s with fetchCh := false, phase := .dialing }

def GatewayConn.leaveLoop (l : WireLoop) : GatewayConn :=
  match l.consensusCtx with
  | some caller => { s with phase := .deferredReply caller }
  | none => s.lost .deferred

def GatewayConn.setCaller (i : Nat) (caller : ConnCaller) : GatewayConn := { s with callers := s.callers.set i caller }

def GatewayConn.setReader (k : Nat) (reader : ConnReader) : GatewayConn := { s with readers := s.readers.set k reader }

def GatewayConn.sendPacket : Option GatewayConn :=
  if s.isConnected && !s.isShutdown then some { s with callers := s.callers ++ [.sendOffering] } else none

def GatewayConn.getConsensus : Option GatewayConn :=
  if s.isConnected then some { s with callers := s.callers ++ [.consensusOffering] } else none

def GatewayConn.put (i : Nat) : Option GatewayConn :=
  match s.callers[i]?, s.getConsensusCh with
  | some .consensusOffering, none => some { s.setCaller i .consensusWaiting with getConsensusCh := some i }
  | _, _ => none

def GatewayConn.leave (i : Nat) : Option GatewayConn :=
  match s.callers[i]? with
  | some .sendOffering => if s.halted then some (s.setCaller i .returned) else none
  | some .sendWaiting => if s.halted then some (s.setCaller i .returned) else none
  | some .consensusOffering => some (s.setCaller i .returned)
  | some .consensusWaiting => some (s.setCaller i .returned)
  | some .consensusReply => some (s.setCaller i .returned)
  | _ => none

def GatewayConn.connect : Option GatewayConn :=
  match s.phase with
  | .dialing =>
      some { s with
        phase := .loop newWireLoop
        isConnected := s.isConnected || !s.isShutdown
        readers := s.readers ++ [.receiving] }
  | _ => none

def GatewayConn.stopDialing : Option GatewayConn :=
  match s.phase with
  | .dialing => if s.halted then some { s with phase := .exited } else none
  | _ => none

def GatewayConn.fetch (sent : Bool) : Option GatewayConn :=
  match s.phase with
  | .loop l =>
      if l.nrReqs ≠ l.nrResps then some { s with fetchCh := false }
      else if sent then some { s with fetchCh := false, phase := .loop { l with nrReqs := l.nrReqs + 1 } }
      else some ({ s with fetchCh := false }.leaveLoop l)
  | _ => none

def GatewayConn.takeSend (i : Nat) (sent : Bool) : Option GatewayConn :=
  match s.phase, s.callers[i]? with
  | .loop l, some .sendOffering => some { s.setCaller i .sendWaiting with phase := .sendDone i l (!sent) }
  | _, _ => none

def GatewayConn.takeConsensus (sent : Bool) : Option GatewayConn :=
  match s.phase, s.getConsensusCh with
  | .loop l, some i =>
      match l.consensusCtx with
      | some _ => some { s with getConsensusCh := none, phase := .consensusDone i l .outstanding }
      | none =>
          some { s with
            getConsensusCh := none
            phase := .consensusDone i { l with consensusCtx := some i } (if sent then .sent else .failed) }
  | _, _ => none

def GatewayConn.handled (l : WireLoop) : CommandHandled → Option GatewayConn
  | .goesOn next => some { s with phase := .loop next }
  | .replies caller next => some { s with phase := .replying caller next }
  | .leaves => some (s.leaveLoop l)
  | .panics => none

def GatewayConn.receive (check : GatewayCheck) : Option GatewayConn :=
  match s.phase, s.readers.getLast? with
  | .loop l, some (.offering cmd) =>
      let next := s.setReader (s.readers.length - 1) .receiving
      match check with
      | .unavailable => some next
      | .invalid => some (next.leaveLoop l)
      | .valid => next.handled l (l.handle cfg cmd)
  | .loop l, some .failed => some ((s.setReader (s.readers.length - 1) .closed).leaveLoop l)
  | .loop l, some .closed => some (s.leaveLoop l)
  | _, _ => none

def GatewayConn.quit : Option GatewayConn :=
  match s.phase with
  | .loop l => some (s.leaveLoop l)
  | _ => none

def GatewayConn.handOver : Option GatewayConn :=
  match s.phase with
  | .sendDone i l failed =>
      if s.callers[i]? = some .sendWaiting then
        let next := s.setCaller i .returned
        some (if failed then next.leaveLoop l else { next with phase := .loop l })
      else none
  | .consensusDone i l result =>
      if s.callers[i]? = some .consensusWaiting then
        match result with
        | .outstanding => some { s.setCaller i .returned with phase := .loop l }
        | .sent => some { s.setCaller i .consensusReply with phase := .loop l }
        | .failed => some ((s.setCaller i .returned).leaveLoop l)
      else none
  | .replying i l =>
      if s.callers[i]? = some .consensusReply then some { s.setCaller i .returned with phase := .loop l } else none
  | .deferredReply i =>
      if s.callers[i]? = some .consensusReply then some ((s.setCaller i .returned).lost .deferred) else none
  | .drainSendDone i round =>
      if s.callers[i]? = some .sendWaiting then some { s.setCaller i .returned with phase := .drainConsensus round } else none
  | .drainConsensusDone i round =>
      if s.callers[i]? = some .consensusWaiting then some ((s.setCaller i .returned).drained round) else none
  | _ => none

def GatewayConn.deferredHalt : Option GatewayConn :=
  match s.phase with
  | .deferredReply _ => if s.halted then some (s.lost .deferred) else none
  | _ => none

def GatewayConn.drain (i : Option Nat) : Option GatewayConn :=
  match s.phase, i with
  | .drainSend round, some i =>
      if s.callers[i]? = some .sendOffering then
        some { s.setCaller i .sendWaiting with phase := .drainSendDone i round }
      else none
  | .drainSend round, none => some { s with phase := .drainConsensus round }
  | .drainConsensus round, none =>
      match s.getConsensusCh with
      | some i => some { s with getConsensusCh := none, phase := .drainConsensusDone i round }
      | none => some (s.drained round)
  | _, _ => none

def GatewayConn.readerReceives (k : Nat) (cmd : Option GatewayCommand) : Option GatewayConn :=
  match s.readers[k]? with
  | some .receiving => some (s.setReader k (cmd.elim .failed .offering))
  | _ => none

def GatewayConn.readerHalts (k : Nat) : Option GatewayConn :=
  match s.readers[k]? with
  | some (.offering _) => if s.halted then some (s.setReader k .closed) else none
  | some .failed => if s.halted then some (s.setReader k .closed) else none
  | _ => none

def GatewayConn.step : GatewayEvent → Option GatewayConn
  | .sendPacket => s.sendPacket
  | .getConsensus => s.getConsensus
  | .put i => s.put i
  | .leave i => s.leave i
  | .forceFetch => some { s with fetchCh := true }
  | .shutdown => some { s with isShutdown := true }
  | .halt => some { s with halted := true }
  | .connect => s.connect
  | .stopDialing => s.stopDialing
  | .fetch sent => s.fetch sent
  | .takeSend i sent => s.takeSend i sent
  | .takeConsensus sent => s.takeConsensus sent
  | .receive check => s.receive cfg check
  | .seeHalt => if s.halted then s.quit else none
  | .callbackError => s.quit
  | .handOver => s.handOver
  | .deferredHalt => s.deferredHalt
  | .drain i => s.drain i
  | .readerReceives k cmd => s.readerReceives k cmd
  | .readerHalts k => s.readerHalts k

end Step

def newConnection : GatewayConn := ⟨.dialing, [], none, false, [], false, false, false⟩

end Katzenpost
