import Katzenpost.Go.Run
import Katzenpost.Wire.Commands

set_option autoImplicit false

namespace Katzenpost

open Go

def macLen : Nat := 16

-- The AEAD of a cipher state and the key update of Rekey. From the last nonce
-- on both directions of the AEAD fail.
structure NoiseCipher (Key : Type) where
  encrypt : Key → Nat → Bytes → Bytes
  decrypt : Key → Nat → Bytes → Option Bytes
  rekey : Key → Key
  maxNonce : Nat

structure NoiseLaws {Key : Type} (noise : NoiseCipher Key) : Prop where
  decrypt_encrypt : ∀ key nonce plaintext, noise.decrypt key nonce (noise.encrypt key nonce plaintext) = some plaintext

structure CipherState (Key : Type) where
  key : Key
  n : Nat
deriving DecidableEq

structure SealedPart (Key : Type) where
  key : Key
  nonce : Nat
  ct : Bytes
deriving DecidableEq

structure WrittenCommand (Key : Type) where
  pt : Bytes
  header : SealedPart Key
  body : SealedPart Key
deriving DecidableEq

inductive SendPhase (Key : Type) where
  | idle
  | checked (pt : Bytes)
  | header (pt : Bytes) (header : SealedPart Key)
  | body (cmd : WrittenCommand Key)
  | rekeyed (cmd : WrittenCommand Key)
deriving DecidableEq

inductive RecvPhase where
  | idle
  | started
  | header (ctLen : UInt32)
  | body (pt : Bytes)
  | rekeyed (pt : Bytes)
deriving DecidableEq

-- A session. The last six fields record what happened: the commands that were
-- handed to Write and the ones that RecvCommand returned, whether RecvCommand
-- has returned an error or a write has failed, whether the current calls began
-- after that, and whether such a call has succeeded.
structure SessionEnd (Key : Type) where
  established : Bool
  tx : CipherState Key
  rx : CipherState Key
  sending : SendPhase Key
  receiving : RecvPhase
  written : List (WrittenCommand Key)
  received : List WireCommand
  failed : Bool
  sendLate : Bool
  recvLate : Bool
  lateSuccess : Bool
deriving DecidableEq

-- One atomic part of a call. Reads bring what the network makes of them, or
-- fail; the parser gets the plaintext with some spare capacity behind it. The
-- parts of Close may come between any others.
inductive SessionOp where
  | send (pt : Bytes)
  | sealHeader
  | sealBody
  | rekeyTx
  | write (ok : Bool)
  | recv
  | readHeader (bytes : Option Bytes)
  | readBody (bytes : Option Bytes)
  | rekeyRx
  | parse (spare : Bytes)
  | closeTx
  | closeRx
  | closeState
deriving DecidableEq

structure EndConfig where
  commands : Commands
  maxMesgSize : Nat

section Step

variable {Key : Type} (noise : NoiseCipher Key) (cfg : EndConfig)

def CipherState.next (c : CipherState Key) : CipherState Key := ⟨c.key, c.n + 1⟩

def CipherState.rekeyed (c : CipherState Key) : CipherState Key := ⟨noise.rekey c.key, c.n⟩

def CipherState.seal (c : CipherState Key) (pt : Bytes) : Option (SealedPart Key) :=
  if c.n ≥ noise.maxNonce then none else some ⟨c.key, c.n, noise.encrypt c.key c.n pt⟩

def CipherState.open (c : CipherState Key) (ct : Bytes) : Option Bytes :=
  if c.n ≥ noise.maxNonce then none else noise.decrypt c.key c.n ct

def SessionEnd.recvFails (e : SessionEnd Key) : SessionEnd Key :=
  { e with receiving := .idle, established := false, failed := true }

def ctHeader (pt : Bytes) : Bytes := putUint32BE (UInt32.ofNat (macLen + pt.length))

def SessionEnd.send (e : SessionEnd Key) (pt : Bytes) : Option (SessionEnd Key) :=
  match e.sending with
  | .idle =>
      if !e.established then some e
      else if macLen + pt.length > cfg.maxMesgSize then some e
      else some { e with sending := .checked pt, sendLate := e.failed }
  | _ => none

def SessionEnd.sealHeader (e : SessionEnd Key) : Option (SessionEnd Key) :=
  match e.sending with
  | .checked pt =>
      match e.tx.seal noise (ctHeader pt) with
      | none => some { e with sending := .idle }
      | some header => some { e with sending := .header pt header, tx := e.tx.next }
  | _ => none

def SessionEnd.sealBody (e : SessionEnd Key) : Option (SessionEnd Key) :=
  match e.sending with
  | .header pt header =>
      match e.tx.seal noise pt with
      | none => some { e with sending := .idle }
      | some body => some { e with sending := .body ⟨pt, header, body⟩, tx := e.tx.next }
  | _ => none

def SessionEnd.rekeyTx (e : SessionEnd Key) : Option (SessionEnd Key) :=
  match e.sending with
  | .body cmd => some { e with sending := .rekeyed cmd, tx := e.tx.rekeyed noise }
  | _ => none

def SessionEnd.write (e : SessionEnd Key) (ok : Bool) : Option (SessionEnd Key) :=
  match e.sending with
  | .rekeyed cmd =>
      let after := { e with sending := .idle, written := e.written ++ [cmd] }
      if ok then some { after with lateSuccess := e.lateSuccess || e.sendLate }
      else some { after with established := false, failed := true }
  | _ => none

def SessionEnd.recv (e : SessionEnd Key) : Option (SessionEnd Key) :=
  match e.receiving with
  | .idle => if !e.established then some e.recvFails else some { e with receiving := .started, recvLate := e.failed }
  | _ => none

def SessionEnd.readHeader (e : SessionEnd Key) (bytes : Option Bytes) : Option (SessionEnd Key) :=
  match e.receiving, bytes with
  | .started, none => some e.recvFails
  | .started, some ctHdrCt =>
      if ctHdrCt.length ≠ macLen + 4 then none
      else
        match e.rx.open noise ctHdrCt with
        | none => some e.recvFails
        | some ctHdr =>
            let ctLen := uint32BE ctHdr
            if ctLen.toNat < macLen then some e.recvFails
            else if ctLen > UInt32.ofNat cfg.maxMesgSize then some e.recvFails
            else some { e with receiving := .header ctLen, rx := e.rx.next }
  | _, _ => none

def SessionEnd.readBody (e : SessionEnd Key) (bytes : Option Bytes) : Option (SessionEnd Key) :=
  match e.receiving, bytes with
  | .header _, none => some e.recvFails
  | .header ctLen, some ct =>
      if ct.length ≠ ctLen.toNat then none
      else
        match e.rx.open noise ct with
        | none => some e.recvFails
        | some pt => some { e with receiving := .body pt, rx := e.rx.next }
  | _, _ => none

def SessionEnd.rekeyRx (e : SessionEnd Key) : Option (SessionEnd Key) :=
  match e.receiving with
  | .body pt => some { e with receiving := .rekeyed pt, rx := e.rx.rekeyed noise }
  | _ => none

def spareSlice (pt spare : Bytes) : Slice := ⟨pt ++ spare, pt.length, by rw [List.length_append]; exact Nat.le_add_right _ _⟩

def SessionEnd.parse (e : SessionEnd Key) (spare : Bytes) : Option (SessionEnd Key) :=
  match e.receiving with
  | .rekeyed pt =>
      match (cfg.commands.fromBytes (spareSlice pt spare)).outcome with
      | none => none
      | some (.error _) => some e.recvFails
      | some (.ok cmd) =>
          some { e with receiving := .idle, received := e.received ++ [cmd], lateSuccess := e.lateSuccess || e.recvLate }
  | _ => none

def SessionEnd.step (e : SessionEnd Key) : SessionOp → Option (SessionEnd Key)
  | .send pt => e.send cfg pt
  | .sealHeader => e.sealHeader noise
  | .sealBody => e.sealBody noise
  | .rekeyTx => e.rekeyTx noise
  | .write ok => e.write ok
  | .recv => e.recv
  | .readHeader bytes => e.readHeader noise cfg bytes
  | .readBody bytes => e.readBody noise bytes
  | .rekeyRx => e.rekeyRx noise
  | .parse spare => e.parse cfg spare
  | .closeTx => some { e with tx := e.tx.rekeyed noise }
  | .closeRx => some { e with rx := e.rx.rekeyed noise }
  | .closeState => some { e with established := false }

end Step

inductive WireSide where
  | initiator
  | responder
deriving DecidableEq

structure SessionPair (Key : Type) where
  initiator : SessionEnd Key
  responder : SessionEnd Key
deriving DecidableEq

structure SessionEvent where
  side : WireSide
  op : SessionOp
deriving DecidableEq

section Pair

variable {Key : Type} (noise : NoiseCipher Key) (cfg : WireSide → EndConfig)

def SessionPair.step (p : SessionPair Key) (event : SessionEvent) : Option (SessionPair Key) :=
  match event.side with
  | .initiator => (p.initiator.step noise (cfg .initiator) event.op).map fun e => { p with initiator := e }
  | .responder => (p.responder.step noise (cfg .responder) event.op).map fun e => { p with responder := e }

def establishedEnd (tx rx : Key) : SessionEnd Key :=
  ⟨true, ⟨tx, 0⟩, ⟨rx, 0⟩, .idle, .idle, [], [], false, false, false, false⟩

def establishedPair (first second : Key) : SessionPair Key := ⟨establishedEnd first second, establishedEnd second first⟩

variable [DecidableEq Key]

def SessionEnd.authentic (e : SessionEnd Key) (peer : List (WrittenCommand Key)) (ct : Bytes) : Bool :=
  (e.rx.open noise ct).isNone || peer.any fun cmd => cmd.header = ⟨e.rx.key, e.rx.n, ct⟩ || cmd.body = ⟨e.rx.key, e.rx.n, ct⟩

def SessionEnd.unforged (e : SessionEnd Key) (peer : List (WrittenCommand Key)) : SessionOp → Bool
  | .readHeader (some ct) => e.authentic noise peer ct
  | .readBody (some ct) => e.authentic noise peer ct
  | _ => true

def SessionPair.unforged (p : SessionPair Key) (event : SessionEvent) : Bool :=
  match event.side with
  | .initiator => p.initiator.unforged noise p.responder.written event.op
  | .responder => p.responder.unforged noise p.initiator.written event.op

end Pair

def Decodes (c : Commands) (pt : Bytes) (cmd : WireCommand) : Prop :=
  ∃ b : Slice, b.bytes = pt ∧ (c.fromBytes b).outcome = .returns cmd

def DeliversInOrder {Key : Type} (c : Commands) (sender receiver : SessionEnd Key) : Prop :=
  List.Forall₂ (fun cmd (sent : WrittenCommand Key) => Decodes c sent.pt cmd) receiver.received
    (sender.written.take receiver.received.length)

end Katzenpost
