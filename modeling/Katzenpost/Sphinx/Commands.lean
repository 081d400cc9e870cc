import Katzenpost.Go.Framing
import Katzenpost.Sphinx.Geometry

set_option autoImplicit false

namespace Katzenpost

open Go

inductive SphinxError where
  | invalidPath
  | invalidCommandsNextNodeHop
  | oversizedSerializedBlock
  | insufficientRemainingCapacity
  | invalidPayloadLength (length expected : Nat)
  | truncated
  | unknownVersion
  | failedElement
  | macMismatch
  | invalidCommand
  | moreThanOneNextNode
  | moreThanOneSURBReply
  | truncatedPayload
  | invalidTag
  | truncatedSURB
  | invalidSURBDecryptionKeys
deriving DecidableEq

inductive PerHopCommand where
  | nextNodeHop (id : Digest) (mac : Fixed macLength)
  | recipient (id : Digest)
  | surbReply (id : Fixed surbIDLength)
  | nodeDelay (delay : UInt32)
deriving DecidableEq

def nullID : UInt8 := 0x00
def nextNodeHopID : UInt8 := 0x01
def recipientID : UInt8 := 0x02
def surbReplyID : UInt8 := 0x03
def nodeDelayID : UInt8 := 0x80

def PerHopCommand.id : PerHopCommand → UInt8
  | .nextNodeHop _ _ => nextNodeHopID
  | .recipient _ => recipientID
  | .surbReply _ => surbReplyID
  | .nodeDelay _ => nodeDelayID

def PerHopCommand.body : PerHopCommand → Bytes
  | .nextNodeHop id mac => id.bytes ++ mac.bytes
  | .recipient id => id.bytes
  | .surbReply id => id.bytes
  | .nodeDelay delay => putUint32BE delay

def PerHopCommand.toBytes (cmd : PerHopCommand) : Bytes := cmd.id :: cmd.body

def serializeCommands (cmds : List PerHopCommand) : Bytes := cmds.flatMap PerHopCommand.toBytes

def Digest.copy (source : Bytes) : Digest := ⟨copied 32 source, copied_length 32 source⟩

theorem digest_copy_bytes (d : Digest) : Digest.copy d.bytes = d := by
  cases d with
  | mk bytes size =>
      have whole := copied_front 32 bytes [] size
      rw [List.append_nil] at whole
      simp only [Digest.copy, whole]

def bodyFromBytes (length : Nat) (read : Bytes → PerHopCommand) (b : Bytes) :
    Except SphinxError (Option (PerHopCommand × Bytes)) :=
  if b.length < length then .error .invalidCommand else .ok (some (read b, b.drop length))

def nextNodeHopFromBytes (g : Geometry) (b : Bytes) : Except SphinxError (Option (PerHopCommand × Bytes)) :=
  bodyFromBytes (g.nextNodeHopLength - 1)
    (fun b => .nextNodeHop (Digest.copy (b.take nodeIDLength)) (Fixed.copy macLength (b.drop nodeIDLength))) b

def recipientFromBytes (b : Bytes) : Except SphinxError (Option (PerHopCommand × Bytes)) :=
  bodyFromBytes recipientIDLength (fun b => .recipient (Digest.copy (b.take recipientIDLength))) b

def surbReplyFromBytes (b : Bytes) : Except SphinxError (Option (PerHopCommand × Bytes)) :=
  bodyFromBytes surbIDLength (fun b => .surbReply (Fixed.copy surbIDLength (b.take surbIDLength))) b

def nodeDelayFromBytes (b : Bytes) : Except SphinxError (Option (PerHopCommand × Bytes)) :=
  bodyFromBytes 4 (fun b => .nodeDelay (uint32BE (b.take 4))) b

def commandFromBytes (g : Geometry) : Bytes → Except SphinxError (Option (PerHopCommand × Bytes))
  | [] => .ok none
  | [id] => if id = nullID then .ok none else .error .invalidCommand
  | id :: b =>
      if id = nullID then if b.all (· = 0) then .ok none else .error .invalidCommand
      else if id = nextNodeHopID then nextNodeHopFromBytes g b
      else if id = recipientID then recipientFromBytes b
      else if id = surbReplyID then surbReplyFromBytes b
      else if id = nodeDelayID then nodeDelayFromBytes b
      else .error .invalidCommand

def PerHopCommand.isNextNodeHop : PerHopCommand → Bool
  | .nextNodeHop _ _ => true
  | _ => false

def PerHopCommand.isSURBReply : PerHopCommand → Bool
  | .surbReply _ => true
  | _ => false

def nextNode (cmds : List PerHopCommand) : Option (Digest × Fixed macLength) :=
  cmds.findSome? fun
    | .nextNodeHop id mac => some (id, mac)
    | _ => none

def acceptCommand (cmds : List PerHopCommand) (cmd : PerHopCommand) : Except SphinxError (List PerHopCommand) :=
  if cmd.isNextNodeHop && cmds.any PerHopCommand.isNextNodeHop then .error .moreThanOneNextNode
  else if cmd.isSURBReply && cmds.any PerHopCommand.isSURBReply then .error .moreThanOneSURBReply
  else .ok (cmds ++ [cmd])

-- The loop. Every turn takes at least a byte, so that the length is enough fuel.
def parseLoop (g : Geometry) : Nat → List PerHopCommand → Bytes → Call SphinxError (List PerHopCommand)
  | 0, _, _ => .panics
  | fuel + 1, cmds, cmdBuf =>
      match commandFromBytes g cmdBuf with
      | .error e => .fails e
      | .ok none => .returns cmds
      | .ok (some (cmd, rest)) =>
          match acceptCommand cmds cmd with
          | .error e => .fails e
          | .ok cmds => parseLoop g fuel cmds rest

def parseCommands (g : Geometry) (cmdBuf : Bytes) : Call SphinxError (List PerHopCommand) :=
  parseLoop g (cmdBuf.length + 1) [] cmdBuf

-- commandsToBytes. The buffer has the capacity of the per hop block, and its
-- length is known not to exceed it where the capacity is read.
def commandsToBytes (g : Geometry) (cmds : List PerHopCommand) (isTerminal : Bool) : Except SphinxError Bytes :=
  if cmds.any PerHopCommand.isNextNodeHop then .error .invalidCommandsNextNodeHop
  else
    let b := serializeCommands cmds
    if b.length > g.perHopRoutingInfoLength then .error .oversizedSerializedBlock
    else if !isTerminal && decide (g.perHopRoutingInfoLength - b.length < g.nextNodeHopLength) then
      .error .insufficientRemainingCapacity
    else .ok b

theorem commands_to_bytes_ok (g : Geometry) (cmds : List PerHopCommand) (isTerminal : Bool) (b : Bytes)
    (accepted : commandsToBytes g cmds isTerminal = .ok b) :
    cmds.any PerHopCommand.isNextNodeHop = false ∧ b = serializeCommands cmds ∧ b.length ≤ g.perHopRoutingInfoLength ∧
      (isTerminal = false → b.length + g.nextNodeHopLength ≤ g.perHopRoutingInfoLength) := by
  unfold commandsToBytes at accepted
  split at accepted
  · cases accepted
  · rename_i plain
    dsimp only at accepted
    split at accepted
    · cases accepted
    · rename_i fits
      split at accepted
      · cases accepted
      · rename_i room
        cases accepted
        refine ⟨by simpa using plain, rfl, Nat.le_of_not_lt fits, fun forwards => ?_⟩
        simp only [forwards, Bool.not_false, Bool.true_and, decide_eq_true_eq] at room
        omega

section Parsing

variable (g : Geometry) (laid : g.nextNodeHopLength = 65)

theorem body_from_bytes_append (length : Nat) (read : Bytes → PerHopCommand) (body rest : Bytes)
    (sized : body.length = length) :
    bodyFromBytes length read (body ++ rest) = .ok (some (read (body ++ rest), rest)) := by
  have covered : ¬ (body ++ rest).length < length := by
    rw [List.length_append]
    omega
  rw [bodyFromBytes, if_neg covered, List.drop_left' sized]

theorem body_from_bytes_ok (length : Nat) (read : Bytes → PerHopCommand) (b rest : Bytes) (cmd : PerHopCommand)
    (parsed : bodyFromBytes length read b = .ok (some (cmd, rest))) :
    cmd = read b ∧ b.length = length + rest.length := by
  unfold bodyFromBytes at parsed
  split at parsed
  · cases parsed
  · cases parsed
    rw [List.length_drop]
    exact ⟨rfl, by omega⟩

theorem command_body_length (cmd : PerHopCommand) :
    cmd.body.length = match cmd with
      | .nextNodeHop _ _ => 64
      | .recipient _ => 32
      | .surbReply _ => 16
      | .nodeDelay _ => 4 := by
  cases cmd with
  | nextNodeHop id mac =>
      rw [PerHopCommand.body, List.length_append, id.size, mac.size]
      rfl
  | recipient id => exact id.size
  | surbReply id => exact id.size
  | nodeDelay delay => exact put_uint32BE_length delay

theorem command_from_bytes_tag (cmd : PerHopCommand) (b : Bytes) (filled : b ≠ []) :
    commandFromBytes g (cmd.id :: b) = match cmd with
      | .nextNodeHop _ _ => nextNodeHopFromBytes g b
      | .recipient _ => recipientFromBytes b
      | .surbReply _ => surbReplyFromBytes b
      | .nodeDelay _ => nodeDelayFromBytes b := by
  cases b with
  | nil => exact absurd rfl filled
  | cons byte rest => cases cmd <;> rfl

include laid in
theorem command_from_to_bytes (cmd : PerHopCommand) (rest : Bytes) :
    commandFromBytes g (cmd.toBytes ++ rest) = .ok (some (cmd, rest)) := by
  have sized := command_body_length cmd
  have filled : cmd.body ++ rest ≠ [] := by
    intro empty
    have none := congrArg List.length empty
    rw [List.length_append, sized, List.length_nil] at none
    cases cmd <;> dsimp only at none <;> omega
  rw [PerHopCommand.toBytes, List.cons_append, command_from_bytes_tag g cmd _ filled]
  cases cmd with
  | nextNodeHop id mac =>
      have front : (id.bytes ++ mac.bytes ++ rest).take nodeIDLength = id.bytes := by
        rw [List.append_assoc]
        exact List.take_left' id.size
      have back : (id.bytes ++ mac.bytes ++ rest).drop nodeIDLength = mac.bytes ++ rest := by
        rw [List.append_assoc]
        exact List.drop_left' id.size
      dsimp only [nextNodeHopFromBytes]
      rw [laid]
      refine (body_from_bytes_append 64 _ _ _ sized).trans ?_
      dsimp only [PerHopCommand.body]
      rw [front, back, digest_copy_bytes, fixed_copy_front]
  | recipient id =>
      refine (body_from_bytes_append 32 _ _ _ sized).trans ?_
      have front : (id.bytes ++ rest).take recipientIDLength = id.bytes := List.take_left' id.size
      dsimp only [PerHopCommand.body]
      rw [front, digest_copy_bytes]
  | surbReply id =>
      refine (body_from_bytes_append 16 _ _ _ sized).trans ?_
      dsimp only [PerHopCommand.body]
      rw [List.take_left' id.size, fixed_copy_bytes]
  | nodeDelay delay =>
      have read := uint32BE_put delay []
      rw [List.append_nil] at read
      refine (body_from_bytes_append 4 _ _ _ sized).trans ?_
      dsimp only [PerHopCommand.body]
      rw [List.take_left' (put_uint32BE_length delay), read]

theorem copied_take (n : Nat) (b : Bytes) (covers : n ≤ b.length) : copied n b = b.take n := by
  rw [copied, Nat.sub_eq_zero_of_le covers, List.replicate_zero, List.append_nil]

include laid in
theorem command_from_bytes_exact (b rest : Bytes) (cmd : PerHopCommand)
    (parsed : commandFromBytes g b = .ok (some (cmd, rest))) : b = cmd.toBytes ++ rest := by
  have whole : ∀ (length : Nat) (read : Bytes → PerHopCommand) (id : UInt8) (body : Bytes),
      (length ≤ body.length → (read body).toBytes = id :: body.take length) →
        bodyFromBytes length read body = .ok (some (cmd, rest)) → id :: body = cmd.toBytes ++ rest := by
    intro length read id body written read_ok
    obtain ⟨rfl, sized⟩ := body_from_bytes_ok length read body rest cmd read_ok
    have behind : body.drop length = rest := by
      rw [bodyFromBytes, if_neg (by omega)] at read_ok
      exact (Prod.mk.inj (Option.some.inj (Except.ok.inj read_ok))).2
    rw [written (by omega), ← behind, List.cons_append, List.take_append_drop]
  unfold commandFromBytes at parsed
  split at parsed
  · cases parsed
  · split at parsed <;> cases parsed
  · split at parsed
    · split at parsed <;> cases parsed
    · split at parsed
      · rename_i tag
        rw [nextNodeHopFromBytes, laid] at parsed
        refine tag ▸ whole 64 _ nextNodeHopID _ (fun covers => ?_) parsed
        change nextNodeHopID :: (copied 32 (List.take 32 _) ++ copied 32 (List.drop 32 _)) = _
        rw [copied_take 32 _ (by rw [List.length_take]; omega), copied_take 32 _ (by rw [List.length_drop]; omega),
          List.take_take, Nat.min_self, ← List.take_add]
      · split at parsed
        · rename_i tag
          refine tag ▸ whole 32 _ recipientID _ (fun covers => ?_) parsed
          change recipientID :: copied 32 (List.take 32 _) = _
          rw [copied_take 32 _ (by rw [List.length_take]; omega), List.take_take, Nat.min_self]
        · split at parsed
          · rename_i tag
            refine tag ▸ whole 16 _ surbReplyID _ (fun covers => ?_) parsed
            change surbReplyID :: copied 16 (List.take 16 _) = _
            rw [copied_take 16 _ (by rw [List.length_take]; omega), List.take_take, Nat.min_self]
          · split at parsed
            · rename_i tag
              refine tag ▸ whole 4 _ nodeDelayID _ (fun covers => ?_) parsed
              change nodeDelayID :: putUint32BE (uint32BE (List.take 4 _)) = _
              rw [put_uint32BE_read _ (by rw [List.length_take]; omega), List.take_take, Nat.min_self]
            · cases parsed

theorem command_from_bytes_end (b : Bytes) (ended : commandFromBytes g b = .ok none) : b = zeros b.length := by
  have none_of_body : ∀ (length : Nat) (read : Bytes → PerHopCommand) (body : Bytes), bodyFromBytes length read body ≠ .ok none := by
    intro length read body ended
    unfold bodyFromBytes at ended
    split at ended <;> cases ended
  unfold commandFromBytes at ended
  split at ended
  · rfl
  · split at ended
    · rename_i null
      rw [null]
      rfl
    · cases ended
  · split at ended
    · rename_i null
      split at ended
      · rename_i blank
        rw [null]
        refine List.eq_replicate_iff.mpr ⟨rfl, fun byte member => ?_⟩
        cases List.mem_cons.mp member with
        | inl first => exact first
        | inr later => exact of_decide_eq_true (List.all_eq_true.mp blank byte later)
      · cases ended
    · split at ended
      · exact absurd ended (none_of_body _ _ _)
      · split at ended
        · exact absurd ended (none_of_body _ _ _)
        · split at ended
          · exact absurd ended (none_of_body _ _ _)
          · split at ended
            · exact absurd ended (none_of_body _ _ _)
            · cases ended

theorem command_from_zeros (n : Nat) : commandFromBytes g (zeros n) = .ok none := by
  match n with
  | 0 => rfl
  | 1 => rfl
  | n + 2 =>
      have blank : (zeros (n + 1)).all (· = 0) = true := by
        simp [zeros]
      exact if_pos blank

theorem serialize_append (first second : List PerHopCommand) :
    serializeCommands (first ++ second) = serializeCommands first ++ serializeCommands second := List.flatMap_append

theorem accept_command_ok (cmds next : List PerHopCommand) (cmd : PerHopCommand) (accepted : acceptCommand cmds cmd = .ok next) :
    next = cmds ++ [cmd] := by
  unfold acceptCommand at accepted
  split at accepted
  · cases accepted
  · split at accepted
    · cases accepted
    · cases accepted
      rfl

def Unrepeated (cmds : List PerHopCommand) : Prop :=
  cmds.countP PerHopCommand.isNextNodeHop ≤ 1 ∧ cmds.countP PerHopCommand.isSURBReply ≤ 1

theorem not_before (kind : PerHopCommand → Bool) (cmds later : List PerHopCommand) (cmd : PerHopCommand)
    (once : (cmds ++ cmd :: later).countP kind ≤ 1) : (kind cmd && cmds.any kind) = false := by
  cases found : cmds.any kind with
  | false => exact Bool.and_false _
  | true =>
      obtain ⟨other, member, is⟩ := List.any_eq_true.mp found
      have before : 0 < cmds.countP kind := List.countP_pos_iff.mpr ⟨other, member, is⟩
      rw [List.countP_append, List.countP_cons] at once
      cases now : kind cmd with
      | false => rfl
      | true =>
          rw [if_pos now] at once
          omega

theorem accept_command_unrepeated (cmds later : List PerHopCommand) (cmd : PerHopCommand)
    (once : Unrepeated (cmds ++ cmd :: later)) : acceptCommand cmds cmd = .ok (cmds ++ [cmd]) := by
  have hop := not_before _ cmds later cmd once.1
  have reply := not_before _ cmds later cmd once.2
  simp [acceptCommand, hop, reply]

include laid in
theorem parse_loop_serialized (cmds done : List PerHopCommand) (padding fuel : Nat) (enough : cmds.length < fuel)
    (once : Unrepeated (done ++ cmds)) :
    parseLoop g fuel done (serializeCommands cmds ++ zeros padding) = .returns (done ++ cmds) := by
  induction cmds generalizing done fuel with
  | nil =>
      cases fuel with
      | zero => exact absurd enough (Nat.not_lt_zero _)
      | succ fuel =>
          change parseLoop g (fuel + 1) done (zeros padding) = _
          rw [parseLoop, command_from_zeros, List.append_nil]
  | cons cmd rest ih =>
      cases fuel with
      | zero => exact absurd enough (Nat.not_lt_zero _)
      | succ fuel =>
          have whole : serializeCommands (cmd :: rest) ++ zeros padding =
              cmd.toBytes ++ (serializeCommands rest ++ zeros padding) := by
            rw [← List.append_assoc]
            rfl
          have assoc : done ++ [cmd] ++ rest = done ++ cmd :: rest := by
            rw [List.append_assoc]
            rfl
          rw [whole, parseLoop, command_from_to_bytes g laid]
          dsimp only
          rw [accept_command_unrepeated done rest cmd once]
          dsimp only
          rw [ih (done ++ [cmd]) fuel (Nat.lt_of_succ_lt_succ enough) (by rw [assoc]; exact once), assoc]

theorem length_le_serialized (cmds : List PerHopCommand) : cmds.length ≤ (serializeCommands cmds).length := by
  induction cmds with
  | nil => exact Nat.le_refl _
  | cons cmd rest ih =>
      change rest.length + 1 ≤ (cmd.toBytes ++ serializeCommands rest).length
      rw [List.length_append, PerHopCommand.toBytes, List.length_cons]
      omega

include laid in
theorem parse_commands_serialized (cmds : List PerHopCommand) (padding : Nat) (once : Unrepeated cmds) :
    parseCommands g (serializeCommands cmds ++ zeros padding) = .returns cmds := by
  have enough : cmds.length < (serializeCommands cmds ++ zeros padding).length + 1 := by
    have shorter := length_le_serialized cmds
    rw [List.length_append]
    omega
  exact parse_loop_serialized g laid cmds [] padding _ enough once

theorem accept_command_keeps (cmds next : List PerHopCommand) (cmd : PerHopCommand) (once : Unrepeated cmds)
    (accepted : acceptCommand cmds cmd = .ok next) : Unrepeated next := by
  have counted : ∀ kind : PerHopCommand → Bool, cmds.countP kind ≤ 1 → (kind cmd && cmds.any kind) = false →
      (cmds ++ [cmd]).countP kind ≤ 1 := by
    intro kind once fresh
    rw [List.countP_append, List.countP_singleton]
    cases now : kind cmd with
    | false => simpa using once
    | true =>
        rw [now, Bool.true_and, List.any_eq_false] at fresh
        rw [List.countP_eq_zero.mpr fresh]
        simp
  unfold acceptCommand at accepted
  split at accepted
  · cases accepted
  · rename_i hop
    split at accepted
    · cases accepted
    · rename_i reply
      cases accepted
      exact ⟨counted _ once.1 (Bool.eq_false_iff.mpr hop), counted _ once.2 (Bool.eq_false_iff.mpr reply)⟩

include laid in
theorem parse_loop_exact (fuel : Nat) (cmds done : List PerHopCommand) (b : Bytes) (once : Unrepeated done)
    (parsed : parseLoop g fuel done b = .returns cmds) :
    ∃ later padding, cmds = done ++ later ∧ b = serializeCommands later ++ zeros padding ∧ Unrepeated cmds := by
  induction fuel generalizing done b with
  | zero => exact absurd parsed (panics_ne_returns _)
  | succ fuel ih =>
      rw [parseLoop] at parsed
      cases read : commandFromBytes g b with
      | error e =>
          rw [read] at parsed
          exact absurd parsed (fails_ne_returns _ _)
      | ok found =>
          rw [read] at parsed
          cases found with
          | none =>
              obtain rfl := returns_inj _ _ parsed
              exact ⟨[], b.length, (List.append_nil _).symm, command_from_bytes_end g b read, once⟩
          | some found =>
              obtain ⟨cmd, rest⟩ := found
              dsimp only at parsed
              cases accepted : acceptCommand done cmd with
              | error e =>
                  rw [accepted] at parsed
                  exact absurd parsed (fails_ne_returns _ _)
              | ok next =>
                  rw [accepted] at parsed
                  obtain ⟨later, padding, whole, front, kept⟩ := ih next rest (accept_command_keeps done next cmd once accepted) parsed
                  refine ⟨cmd :: later, padding, ?_, ?_, kept⟩
                  · rw [whole, accept_command_ok done next cmd accepted, List.append_assoc]
                    rfl
                  · change b = (cmd.toBytes ++ serializeCommands later) ++ zeros padding
                    rw [command_from_bytes_exact g laid b rest cmd read, front, List.append_assoc]

include laid in
theorem parse_commands_exact (cmds : List PerHopCommand) (b : Bytes) (parsed : parseCommands g b = .returns cmds) :
    ∃ padding, b = serializeCommands cmds ++ zeros padding ∧ Unrepeated cmds := by
  obtain ⟨later, padding, rfl, front, once⟩ := parse_loop_exact g laid _ cmds [] b ⟨Nat.zero_le _, Nat.zero_le _⟩ parsed
  exact ⟨padding, front, once⟩

include laid in
theorem parse_commands_length (cmds : List PerHopCommand) (b : Bytes) (parsed : parseCommands g b = .returns cmds) :
    (serializeCommands cmds).length ≤ b.length := by
  obtain ⟨padding, rfl, _⟩ := parse_commands_exact g laid cmds b parsed
  rw [List.length_append]
  omega

include laid in
theorem parse_loop_ends (fuel : Nat) (done : List PerHopCommand) (b : Bytes) (enough : b.length < fuel) :
    parseLoop g fuel done b ≠ .panics := by
  induction fuel generalizing done b with
  | zero => exact absurd enough (Nat.not_lt_zero _)
  | succ fuel ih =>
      rw [parseLoop]
      cases read : commandFromBytes g b with
      | error e => exact fun same => nomatch same
      | ok found =>
          cases found with
          | none => exact fun same => nomatch same
          | some found =>
              obtain ⟨cmd, rest⟩ := found
              dsimp only
              cases acceptCommand done cmd with
              | error e => exact fun same => nomatch same
              | ok next =>
                  have size := congrArg List.length (command_from_bytes_exact g laid b rest cmd read)
                  rw [PerHopCommand.toBytes, List.cons_append, List.length_cons, List.length_append] at size
                  exact ih next rest (by omega)

end Parsing

/-- The loop over a buffer ends, and it returns the commands whose encodings are followed by zeros
there, if none is repeated that may not be. -/
theorem command_loop_exact (scheme : SphinxScheme) (user : Nat) (withSURB : Bool) (nrHops : Nat) (buf : Bytes) :
    parseCommands (geometryFromUserForwardPayloadLength scheme user withSURB nrHops) buf ≠ .panics ∧
    (∀ cmds, parseCommands (geometryFromUserForwardPayloadLength scheme user withSURB nrHops) buf = .returns cmds ↔
      (∃ padding, buf = serializeCommands cmds ++ zeros padding) ∧ Unrepeated cmds) ∧
    ∀ cmds other paddingA paddingB, buf = serializeCommands cmds ++ zeros paddingA → buf = serializeCommands other ++ zeros paddingB →
      Unrepeated cmds → Unrepeated other → cmds = other := by
  have accepts := parse_commands_serialized (geometryFromUserForwardPayloadLength scheme user withSURB nrHops) rfl
  refine ⟨parse_loop_ends _ rfl _ [] buf (Nat.lt_succ_self _), fun cmds => ⟨fun parsed => ?_, ?_⟩, ?_⟩
  · obtain ⟨padding, front, once⟩ := parse_commands_exact _ rfl cmds buf parsed
    exact ⟨⟨padding, front⟩, once⟩
  · rintro ⟨⟨padding, rfl⟩, once⟩
    exact accepts cmds padding once
  · intro cmds other paddingA paddingB first second onceA onceB
    have parsed := accepts cmds paddingA onceA
    rw [← first, second, accepts other paddingB onceB] at parsed
    exact (returns_inj _ _ parsed).symm

theorem delay_command_exact :
    parseCommands (geometryFromUserForwardPayloadLength (.nike 32) 4 true 1) (serializeCommands [.nodeDelay 7] ++ zeros 3) =
      .returns [.nodeDelay 7] :=
  ((command_loop_exact (.nike 32) 4 true 1 _).2.1 _).mpr ⟨⟨3, rfl⟩, by decide, by decide⟩

end Katzenpost
