import Katzenpost.Spool.BoltSpool

set_option autoImplicit false

namespace Katzenpost

open Go

-- Times are nanoseconds since the zero Time, durations nanoseconds.
def zeroTime : Int := 0

def millisecond : Int := 1000000

def maxDuration : Int := 2 ^ 63 - 1

def minDuration : Int := -2 ^ 63

def timeSub (t u : Int) : Int := max minDuration (min maxDuration (t - u))

theorem time_sub_far (t u : Int) (far : maxDuration ≤ t - u) : timeSub t u = maxDuration := by
  rw [timeSub, min_eq_left far]
  decide

inductive RoutingCommand where
  | nextNodeHop (id : Digest) (mac : Bytes)
  | nodeDelay (delay : UInt32)
  | recipient (id : Digest)
  | surbReply (id : SurbId)
deriving DecidableEq

structure Packet where
  id : UInt64
  raw : Bytes
  payload : Option Bytes
  nextNodeHop : Option (Digest × Bytes)
  nodeDelay : Option UInt32
  recipient : Option Digest
  surbReply : Option SurbId
  delay : Int
  recvAt : Int
  dispatchAt : Int
  mustForward : Bool
  mustTerminate : Bool
deriving DecidableEq

inductive PacketError where
  | invalidSize (length : Nat)
  | redundantCommand (cmd : RoutingCommand)
  | oversizedResponse (length : Nat)
  | truncatedSURB
deriving DecidableEq

def blankPacket (id : UInt64) (raw : Bytes) : Packet :=
  ⟨id, raw, none, none, none, none, none, 0, zeroTime, zeroTime, false, false⟩

-- New with the next value of the ID counter. Dispose clears what it returns to
-- the pool, so that every field but the ID and the copied bytes is blank.
def newPacket (g : Geometry) (id : UInt64) (raw : Bytes) : Except PacketError Packet :=
  if raw.length ≠ g.packetLength then .error (.invalidSize raw.length) else .ok (blankPacket id raw)

def Packet.setCommand (pkt : Packet) : RoutingCommand → Except PacketError Packet
  | .nextNodeHop id mac =>
      if pkt.nextNodeHop.isSome then .error (.redundantCommand (.nextNodeHop id mac))
      else .ok { pkt with nextNodeHop := some (id, mac) }
  | .nodeDelay delay =>
      if pkt.nodeDelay.isSome then .error (.redundantCommand (.nodeDelay delay))
      else .ok { pkt with nodeDelay := some delay }
  | .recipient id =>
      if pkt.recipient.isSome then .error (.redundantCommand (.recipient id))
      else .ok { pkt with recipient := some id }
  | .surbReply id =>
      if pkt.surbReply.isSome then .error (.redundantCommand (.surbReply id))
      else .ok { pkt with surbReply := some id }

-- A packet that an error leaves partly set is disposed by every caller.
def Packet.splitCommands (pkt : Packet) : List RoutingCommand → Except PacketError Packet
  | [] => .ok pkt
  | cmd :: rest =>
      match pkt.setCommand cmd with
      | .error e => .error e
      | .ok pkt => pkt.splitCommands rest

def Packet.set (pkt : Packet) (payload : Option Bytes) (cmds : List RoutingCommand) : Except PacketError Packet :=
  { pkt with payload := payload }.splitCommands cmds

def Packet.isForward (pkt : Packet) : Bool :=
  pkt.nextNodeHop.isSome && pkt.nodeDelay.isSome && pkt.recipient.isNone && pkt.surbReply.isNone

def Packet.isSURBReply (pkt : Packet) : Bool :=
  pkt.nextNodeHop.isNone && pkt.nodeDelay.isNone && pkt.recipient.isSome && pkt.surbReply.isSome

theorem forward_commands (pkt : Packet) (forward : pkt.isForward = true) :
    (∃ hop, pkt.nextNodeHop = some hop) ∧ ∃ delay, pkt.nodeDelay = some delay := by
  simp only [Packet.isForward, Bool.and_eq_true, Option.isSome_iff_exists] at forward
  exact forward.1.1

theorem surb_reply_commands (pkt : Packet) (reply : pkt.isSURBReply = true) :
    (∃ recipient, pkt.recipient = some recipient) ∧ ∃ id, pkt.surbReply = some id := by
  simp only [Packet.isSURBReply, Bool.and_eq_true, Option.isSome_iff_exists] at reply
  exact ⟨reply.1.2, reply.2⟩

inductive CommandKind where
  | nextNodeHop
  | nodeDelay
  | recipient
  | surbReply
deriving DecidableEq

def RoutingCommand.kind : RoutingCommand → CommandKind
  | .nextNodeHop _ _ => .nextNodeHop
  | .nodeDelay _ => .nodeDelay
  | .recipient _ => .recipient
  | .surbReply _ => .surbReply

def Packet.has (pkt : Packet) : CommandKind → Bool
  | .nextNodeHop => pkt.nextNodeHop.isSome
  | .nodeDelay => pkt.nodeDelay.isSome
  | .recipient => pkt.recipient.isSome
  | .surbReply => pkt.surbReply.isSome

theorem is_forward_iff (pkt : Packet) :
    pkt.isForward = true ↔ pkt.has .nextNodeHop = true ∧ pkt.has .nodeDelay = true ∧ pkt.has .recipient = false ∧
      pkt.has .surbReply = false := by
  simp [Packet.isForward, Packet.has, and_assoc]

theorem is_surb_reply_iff (pkt : Packet) :
    pkt.isSURBReply = true ↔ pkt.has .nextNodeHop = false ∧ pkt.has .nodeDelay = false ∧ pkt.has .recipient = true ∧
      pkt.has .surbReply = true := by
  simp [Packet.isSURBReply, Packet.has, and_assoc]

structure Packet.Same (before after : Packet) : Prop where
  raw : after.raw = before.raw
  payload : after.payload = before.payload
  recvAt : after.recvAt = before.recvAt
  mustForward : after.mustForward = before.mustForward
  mustTerminate : after.mustTerminate = before.mustTerminate

theorem set_command_ok_iff (pkt : Packet) (cmd : RoutingCommand) :
    (∃ after, pkt.setCommand cmd = .ok after) ↔ pkt.has cmd.kind = false := by
  cases cmd <;> simp only [Packet.setCommand, RoutingCommand.kind, Packet.has] <;> split <;> simp_all

theorem set_command_spec (pkt after : Packet) (cmd : RoutingCommand) (set : pkt.setCommand cmd = .ok after) :
    pkt.Same after ∧ (∀ kind, after.has kind = (pkt.has kind || kind = cmd.kind)) ∧
      ∀ id, after.recipient = some id ↔ pkt.recipient = some id ∨ cmd = .recipient id := by
  have vacant : pkt.has cmd.kind = false := (set_command_ok_iff pkt cmd).mp ⟨after, set⟩
  cases cmd
  all_goals
    simp only [Packet.setCommand, RoutingCommand.kind, Packet.has] at set vacant
    rw [if_neg (by simp [vacant])] at set
    cases set
    refine ⟨⟨rfl, rfl, rfl, rfl, rfl⟩, fun kind => ?_, fun id => ?_⟩
    · cases kind <;> simp [Packet.has, RoutingCommand.kind]
    · simp_all

theorem same_trans (a b c : Packet) (first : a.Same b) (second : b.Same c) : a.Same c :=
  ⟨second.raw.trans first.raw, second.payload.trans first.payload, second.recvAt.trans first.recvAt,
    second.mustForward.trans first.mustForward, second.mustTerminate.trans first.mustTerminate⟩

theorem split_commands_ok_iff (pkt : Packet) (cmds : List RoutingCommand) :
    (∃ after, pkt.splitCommands cmds = .ok after) ↔
      (cmds.map RoutingCommand.kind).Nodup ∧ ∀ cmd ∈ cmds, pkt.has cmd.kind = false := by
  induction cmds generalizing pkt with
  | nil => exact ⟨fun _ => ⟨List.nodup_nil, fun _ member => nomatch member⟩, fun _ => ⟨pkt, rfl⟩⟩
  | cons cmd rest ih =>
      rw [Packet.splitCommands]
      cases set : pkt.setCommand cmd with
      | error e =>
          have taken : pkt.has cmd.kind ≠ false := by
            intro vacant
            obtain ⟨after, done⟩ := (set_command_ok_iff pkt cmd).mpr vacant
            rw [set] at done
            cases done
          constructor
          · intro ⟨after, impossible⟩
            cases impossible
          · intro ⟨_, lacking⟩
            exact absurd (lacking cmd List.mem_cons_self) taken
      | ok mid =>
          have vacant : pkt.has cmd.kind = false := (set_command_ok_iff pkt cmd).mp ⟨mid, set⟩
          have after := (set_command_spec pkt mid cmd set).2.1
          simp only [ih mid, after, List.map_cons, List.nodup_cons, List.mem_cons, forall_eq_or_imp, vacant, true_and,
            Bool.or_eq_false_iff, decide_eq_false_iff_not, List.mem_map, not_exists, not_and]
          constructor
          · intro ⟨distinct, lacking⟩
            exact ⟨⟨fun other member => (lacking other member).2, distinct⟩, fun other member => (lacking other member).1⟩
          · intro ⟨⟨differ, distinct⟩, lacking⟩
            exact ⟨distinct, fun other member => ⟨lacking other member, differ other member⟩⟩

theorem split_commands_spec (pkt after : Packet) (cmds : List RoutingCommand) (split : pkt.splitCommands cmds = .ok after) :
    pkt.Same after ∧ (∀ kind, after.has kind = (pkt.has kind || kind ∈ cmds.map RoutingCommand.kind)) ∧
      ∀ id, after.recipient = some id ↔ pkt.recipient = some id ∨ .recipient id ∈ cmds := by
  induction cmds generalizing pkt with
  | nil =>
      cases split
      exact ⟨⟨rfl, rfl, rfl, rfl, rfl⟩, fun kind => by simp, fun id => by simp⟩
  | cons cmd rest ih =>
      rw [Packet.splitCommands] at split
      cases set : pkt.setCommand cmd with
      | error e => simp [set] at split
      | ok mid =>
          rw [set] at split
          obtain ⟨same, has, found⟩ := set_command_spec pkt mid cmd set
          obtain ⟨same', has', found'⟩ := ih mid split
          refine ⟨same_trans pkt mid after same same', fun kind => ?_, fun id => ?_⟩
          · rw [has' kind, has kind, List.map_cons, Bool.or_assoc]
            simp [List.mem_cons, Bool.decide_or]
          · rw [found' id, found id, List.mem_cons, or_assoc, eq_comm (a := cmd)]

end Katzenpost
