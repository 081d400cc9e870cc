import Katzenpost.Thin.Dispatch
import Katzenpost.Go.Block
import Katzenpost.Go.Run

set_option autoImplicit false

namespace Katzenpost

open Go

def maxMessageSize : Nat := 16 * 1024 * 1024

def messagePrefixLen : Nat := 4

-- The errors readUntilDisconnect meets. closedConnection stands for the errors whose
-- text holds "use of closed network connection".
inductive ReadError where
  | eof
  | errClosedPipe
  | closedConnection
  | errUnexpectedEOF
  | frameTooLarge (prefixLen : UInt32)
  | other (text : String)
deriving DecidableEq

def ReadError.disconnects : ReadError → Bool
  | .eof => true
  | .errClosedPipe => true
  | .closedConnection => true
  | _ => false

structure Frame where
  body : Bytes
  fits : body.length < 2 ^ 32

def Frame.lengthBytes (frame : Frame) : Bytes := putUint32BE (UInt32.ofNat frame.body.length)

def Frame.writeResponse (frame : Frame) : Bytes := frame.lengthBytes ++ frame.body

def wireBytes (frames : List Frame) : Bytes := (frames.map Frame.writeResponse).flatten

def frameStart (frames : List Frame) (i : Nat) : Nat := (wireBytes (frames.take i)).length

def wholeFrames : List Frame → Nat → List Frame
  | [], _ => []
  | frame :: rest, cut =>
      if frame.writeResponse.length ≤ cut then frame :: wholeFrames rest (cut - frame.writeResponse.length) else []

section Reader

variable (unmarshal : Bytes → Except ReadError ThinResponse) (failure : ReadError)

def readFull (n : Nat) (unread : Bytes) : Except ReadError Bytes × Bytes :=
  if n ≤ unread.length then (.ok (unread.take n), unread.drop n)
  else (.error (if failure = .eof ∧ unread ≠ [] then .errUnexpectedEOF else failure), [])

def readMessage (unread : Bytes) : Except ReadError ThinResponse × Bytes :=
  match readFull failure messagePrefixLen unread with
  | (.error err, rest) => (.error err, rest)
  | (.ok lengthBytes, rest) =>
      let prefixLen := uint32BE lengthBytes
      -- The body of the frame stays unread.
      if maxMessageSize < prefixLen.toNat then (.error (.frameTooLarge prefixLen), rest)
      else
        match readFull failure prefixLen.toNat rest with
        | (.error err, rest) => (.error err, rest)
        | (.ok message, rest) => (unmarshal message, rest)

end Reader

-- The loop of readUntilDisconnect. returned is the error, nil after a halt, and
-- whether the shutdown was graceful. The last three fields are not in the source:
-- the bytes read so far, where four bytes were taken for a length, and what went
-- to dispatchMessage.
structure FrameReader where
  unread : Bytes
  graceful : Bool
  returned : Option (Option ReadError × Bool)
  consumed : Nat
  lengthsAt : List Nat
  dispatched : List ThinResponse

def newFrameReader (stream : Bytes) : FrameReader := ⟨stream, false, none, 0, [], []⟩

inductive ReaderEvent where
  | halt
  | pass (failure : ReadError) (halting : Bool)

section Loop

variable (unmarshal : Bytes → Except ReadError ThinResponse)

def FrameReader.receive (s : FrameReader) (failure : ReadError) : FrameReader :=
  let rest := (readMessage unmarshal failure s.unread).2
  { s with
    unread := rest
    consumed := s.consumed + (s.unread.length - rest.length)
    lengthsAt := if messagePrefixLen ≤ s.unread.length then s.lengthsAt ++ [s.consumed] else s.lengthsAt }

def FrameReader.handle (s : FrameReader) (halting : Bool) : Except ReadError ThinResponse → FrameReader
  | .error err =>
      if halting then { s with returned := some (none, false) }
      else if err.disconnects then { s with returned := some (some err, s.graceful) }
      else s
  | .ok .shutdownEvent => { s with graceful := true }
  | .ok m =>
      { s with
        dispatched := s.dispatched ++ [m]
        returned := if halting then some (none, false) else s.returned }

def readerStep (s : FrameReader) (event : ReaderEvent) : Option FrameReader :=
  if s.returned.isSome then none
  else
    match event with
    | .halt => some { s with returned := some (none, false) }
    | .pass failure halting =>
        some ((s.receive unmarshal failure).handle halting (readMessage unmarshal failure s.unread).1)

structure ReadsAligned (frames : List Frame) (cut : Nat) (s : FrameReader) : Prop where
  lengths : ∀ position ∈ s.lengthsAt, ∃ i, i < frames.length ∧ position = frameStart frames i
  messages : s.dispatched.Sublist ((wholeFrames frames cut).filterMap fun frame => (unmarshal frame.body).toOption)

def EndsReading (body : Bytes) : Prop := ∃ err, unmarshal body = .error err ∧ err.disconnects = true

end Loop

section Frames

theorem length_bytes_length (frame : Frame) : frame.lengthBytes.length = 4 := put_uint32BE_length _

theorem write_response_length (frame : Frame) : frame.writeResponse.length = 4 + frame.body.length := by
  rw [Frame.writeResponse, List.length_append, length_bytes_length]

theorem wire_bytes_append (first later : List Frame) : wireBytes (first ++ later) = wireBytes first ++ wireBytes later := by
  rw [wireBytes, List.map_append, List.flatten_append, wireBytes, wireBytes]

theorem wire_bytes_cons (frame : Frame) (rest : List Frame) : wireBytes (frame :: rest) = frame.writeResponse ++ wireBytes rest := rfl

theorem frame_start_succ (frames : List Frame) (i : Nat) (frame : Frame) (found : frames[i]? = some frame) :
    frameStart frames (i + 1) = frameStart frames i + (4 + frame.body.length) := by
  rw [frameStart, List.take_add_one, found, Option.toList_some, wire_bytes_append, List.length_append, wire_bytes_cons,
    List.length_append, write_response_length]
  rfl

theorem frame_start_mono (frames : List Frame) (i j : Nat) (before : i ≤ j) : frameStart frames i ≤ frameStart frames j := by
  have split := List.take_append_drop i (frames.take j)
  rw [List.take_take, Nat.min_eq_left before] at split
  rw [frameStart, frameStart, ← split, wire_bytes_append, List.length_append]
  omega

theorem whole_take (frames : List Frame) (i cut : Nat) (inside : frameStart frames i ≤ cut) :
    (frames.take i).Sublist (wholeFrames frames cut) := by
  induction frames generalizing i cut with
  | nil =>
      rw [List.take_nil]
      exact List.nil_sublist _
  | cons frame rest ih =>
      cases i with
      | zero => exact List.nil_sublist _
      | succ i =>
          rw [frameStart, List.take_succ_cons, wire_bytes_cons, List.length_append] at inside
          rw [wholeFrames, if_pos (by omega), List.take_succ_cons]
          exact (ih i _ (by rw [frameStart]; omega)).cons_cons frame

end Frames

section Reading

variable {unmarshal : Bytes → Except ReadError ThinResponse} {frames : List Frame} {cut : Nat} {s next : FrameReader}

theorem read_message_short (failure : ReadError) (unread : Bytes) (short : unread.length < 4) :
    ∃ err, readMessage unmarshal failure unread = (.error err, []) := by
  have none : ¬messagePrefixLen ≤ unread.length := by
    rw [messagePrefixLen]
    omega
  exact ⟨_, by rw [readMessage, readFull, if_neg none]⟩

theorem read_message_frame (failure : ReadError) (frame : Frame) (tail : Bytes) :
    (maxMessageSize < frame.body.length ∧
      readMessage unmarshal failure (frame.lengthBytes ++ tail) = (.error (.frameTooLarge (UInt32.ofNat frame.body.length)), tail)) ∨
    (frame.body.length ≤ maxMessageSize ∧ frame.body.length ≤ tail.length ∧
      readMessage unmarshal failure (frame.lengthBytes ++ tail) =
        (unmarshal (tail.take frame.body.length), tail.drop frame.body.length)) ∨
    (frame.body.length ≤ maxMessageSize ∧ tail.length < frame.body.length ∧
      ∃ err, readMessage unmarshal failure (frame.lengthBytes ++ tail) = (.error err, [])) := by
  have sized : frame.lengthBytes.length = messagePrefixLen := length_bytes_length frame
  have enough : messagePrefixLen ≤ (frame.lengthBytes ++ tail).length := by
    rw [List.length_append]
    omega
  have value : uint32BE frame.lengthBytes = UInt32.ofNat frame.body.length := by
    have read := uint32BE_put (UInt32.ofNat frame.body.length) []
    rwa [List.append_nil] at read
  have number : (UInt32.ofNat frame.body.length).toNat = frame.body.length := UInt32.toNat_ofNat_of_lt' frame.fits
  rw [readMessage, readFull, if_pos enough, List.take_left' sized, List.drop_left' sized]
  simp only [value, number]
  by_cases large : maxMessageSize < frame.body.length
  · exact .inl ⟨large, if_pos large⟩
  · rw [if_neg large, readFull]
    by_cases there : frame.body.length ≤ tail.length
    · exact .inr (.inl ⟨Nat.le_of_not_lt large, there, by rw [if_pos there]⟩)
    · exact .inr (.inr ⟨Nat.le_of_not_lt large, Nat.lt_of_not_le there, _, by rw [if_neg there]⟩)

structure ReadPassed (unmarshal : Bytes → Except ReadError ThinResponse) (failure : ReadError) (halting : Bool)
    (result : Except ReadError ThinResponse) (rest : Bytes) (s next : FrameReader) : Prop where
  read : readMessage unmarshal failure s.unread = (result, rest)
  unread : next.unread = rest
  consumed : next.consumed = s.consumed + (s.unread.length - rest.length)
  lengthsAt : next.lengthsAt = if messagePrefixLen ≤ s.unread.length then s.lengthsAt ++ [s.consumed] else s.lengthsAt
  dispatched : next.dispatched = s.dispatched ∨ ∃ m, result = .ok m ∧ next.dispatched = s.dispatched ++ [m]
  stays : next.returned = none → ∀ err, result = .error err → err.disconnects = false
  goes : halting = false → (∀ err, result = .error err → err.disconnects = false) → next.returned = none

variable (unmarshal) in
theorem reader_passed (failure : ReadError) (halting : Bool) (reading : s.returned = none) :
    ∃ next result rest, readerStep unmarshal s (.pass failure halting) = some next ∧
      ReadPassed unmarshal failure halting result rest s next := by
  obtain ⟨result, rest, read⟩ : ∃ result rest, readMessage unmarshal failure s.unread = (result, rest) := ⟨_, _, rfl⟩
  refine ⟨(s.receive unmarshal failure).handle halting result, result, rest, ?_, ?_⟩
  · rw [readerStep, reading, read]
    rfl
  · have received : s.receive unmarshal failure = { s with
        unread := rest
        consumed := s.consumed + (s.unread.length - rest.length)
        lengthsAt := if messagePrefixLen ≤ s.unread.length then s.lengthsAt ++ [s.consumed] else s.lengthsAt } := by
      rw [FrameReader.receive, read]
    rw [received]
    cases result with
    | error err =>
        rw [FrameReader.handle]
        by_cases halts : halting = true
        · rw [if_pos halts]
          exact ⟨read, rfl, rfl, rfl, .inl rfl, nofun, fun no => absurd halts (by rw [no]; decide)⟩
        · rw [if_neg halts]
          by_cases fatal : err.disconnects = true
          · rw [if_pos fatal]
            exact ⟨read, rfl, rfl, rfl, .inl rfl, nofun, fun _ none => absurd fatal (by rw [none err rfl]; decide)⟩
          · rw [if_neg fatal]
            refine ⟨read, rfl, rfl, rfl, .inl rfl, fun _ e same => ?_, fun _ _ => reading⟩
            cases same
            exact Bool.eq_false_iff.mpr fatal
    | ok m =>
        have kept : ∀ err : ReadError, Except.ok m = Except.error err → err.disconnects = false := nofun
        cases m with
        | shutdownEvent => exact ⟨read, rfl, rfl, rfl, .inl rfl, fun _ => kept, fun _ _ => reading⟩
        | _ =>
            refine ⟨read, rfl, rfl, rfl, .inr ⟨_, rfl, rfl⟩, fun _ => kept, fun no _ => ?_⟩
            rw [no]
            exact reading

structure AtFrame (unmarshal : Bytes → Except ReadError ThinResponse) (frames : List Frame) (cut i : Nat) (s : FrameReader) : Prop where
  inside : frameStart frames i ≤ cut
  unread : s.unread = (wireBytes (frames.drop i)).take (cut - frameStart frames i)
  consumed : s.consumed = frameStart frames i
  decoded : s.dispatched.Sublist ((frames.take i).filterMap fun frame => (unmarshal frame.body).toOption)
  readOn : ∀ j frame, j < i → frames[j]? = some frame → ¬EndsReading unmarshal frame.body

theorem new_reader_at : AtFrame unmarshal frames cut 0 (newFrameReader ((wireBytes frames).take cut)) :=
  ⟨Nat.zero_le _, by rw [frameStart, List.take_zero, List.drop_zero]; rfl, rfl, List.Sublist.refl _, 
    fun _ _ before => absurd before (Nat.not_lt_zero _)⟩

theorem at_frame_bytes (i : Nat) (frame : Frame) (placed : AtFrame unmarshal frames cut i s) (found : frames[i]? = some frame)
    (room : 4 ≤ cut - frameStart frames i) :
    s.unread = frame.lengthBytes ++ (frame.body ++ wireBytes (frames.drop (i + 1))).take (cut - frameStart frames i - 4) := by
  obtain ⟨inRange, same⟩ := List.getElem?_eq_some_iff.mp found
  rw [placed.unread, List.drop_eq_getElem_cons inRange, same, wire_bytes_cons, Frame.writeResponse, List.append_assoc,
    List.take_append, length_bytes_length, List.take_of_length_le (by rw [length_bytes_length]; exact room)]

theorem at_frame_enough (i : Nat) (placed : AtFrame unmarshal frames cut i s) (enough : 4 ≤ s.unread.length) :
    ∃ frame, frames[i]? = some frame ∧ 4 ≤ cut - frameStart frames i := by
  cases found : frames[i]? with
  | none =>
      have ended := List.drop_eq_nil_of_le (List.getElem?_eq_none_iff.mp found)
      rw [placed.unread, ended] at enough
      simp [wireBytes] at enough
  | some frame =>
      have short := List.length_take_le (cut - frameStart frames i) (wireBytes (frames.drop i))
      rw [← placed.unread] at short
      exact ⟨frame, rfl, by omega⟩

theorem at_next_frame (i : Nat) (frame : Frame) (placed : AtFrame unmarshal frames cut i s) (found : frames[i]? = some frame)
    (whole : 4 + frame.body.length ≤ cut - frameStart frames i) (small : frame.body.length ≤ maxMessageSize)
    (failure : ReadError) (halting : Bool) (result : Except ReadError ThinResponse) (rest : Bytes)
    (passed : ReadPassed unmarshal failure halting result rest s next) :
    result = unmarshal frame.body ∧ (¬EndsReading unmarshal frame.body → AtFrame unmarshal frames cut (i + 1) next) := by
  have bytes := at_frame_bytes i frame placed found (by omega)
  have tail : (frame.body ++ wireBytes (frames.drop (i + 1))).take (cut - frameStart frames i - 4) =
      frame.body ++ (wireBytes (frames.drop (i + 1))).take (cut - frameStart frames i - 4 - frame.body.length) := by
    rw [List.take_append, List.take_of_length_le (by omega)]
  rw [tail] at bytes
  have read := passed.read
  rw [bytes] at read
  rcases read_message_frame failure frame _ with ⟨large, -⟩ | ⟨-, -, decoded⟩ | ⟨-, missing, -⟩
  · omega
  · rw [decoded, List.take_left, List.drop_left] at read
    obtain ⟨rfl, rfl⟩ := Prod.mk.inj read
    refine ⟨rfl, fun readOn => ?_⟩
    have start := frame_start_succ frames i frame found
    have place := placed.inside
    refine ⟨by omega, ?_, ?_, ?_, ?_⟩
    · rw [passed.unread, start, Nat.sub_sub, Nat.sub_sub]
    · rw [passed.consumed, placed.consumed, start, bytes]
      simp only [List.length_append, length_bytes_length]
      omega
    · rw [List.take_add_one, found, Option.toList_some, List.filterMap_append]
      rcases passed.dispatched with same | ⟨m, decoded, more⟩
      · rw [same]
        exact placed.decoded.trans (List.sublist_append_left _ _)
      · rw [more]
        refine placed.decoded.append ?_
        rw [List.filterMap_cons, decoded]
        exact List.Sublist.refl _
    · intro j earlier before there
      cases Nat.lt_succ_iff_lt_or_eq.mp before with
      | inl before => exact placed.readOn j earlier before there
      | inr here =>
          rw [here, found] at there
          cases there
          exact readOn
  · rw [List.length_append] at missing
    omega

theorem passed_error (failure err : ReadError) (halting : Bool) (rest : Bytes)
    (passed : ReadPassed unmarshal failure halting (.error err) rest s next) : next.dispatched = s.dispatched := by
  rcases passed.dispatched with same | ⟨m, decoded, -⟩
  · exact same
  · cases decoded

def Tolerated (unmarshal : Bytes → Except ReadError ThinResponse) (frames : List Frame) (cut : Nat) : Prop :=
  ∀ i frame, frames[i]? = some frame → maxMessageSize < frame.body.length → frameStart frames i + 8 ≤ cut →
    ∃ j earlier, j < i ∧ frames[j]? = some earlier ∧ EndsReading unmarshal earlier.body

structure ReaderSound (unmarshal : Bytes → Except ReadError ThinResponse) (frames : List Frame) (cut : Nat) (s : FrameReader) : Prop where
  aligned : ReadsAligned unmarshal frames cut s
  place : s.returned = none → s.unread.length < 4 ∨ ∃ i, AtFrame unmarshal frames cut i s

theorem passed_short (sound : ReaderSound unmarshal frames cut s) (short : s.unread.length < 4) (failure : ReadError) (halting : Bool)
    (result : Except ReadError ThinResponse) (rest : Bytes) (passed : ReadPassed unmarshal failure halting result rest s next) :
    ReaderSound unmarshal frames cut next := by
  obtain ⟨err, read⟩ := read_message_short failure s.unread short
  rw [passed.read] at read
  obtain ⟨rfl, rfl⟩ := Prod.mk.inj read
  have few : ¬messagePrefixLen ≤ s.unread.length := Nat.not_le.mpr short
  have lengths := passed.lengthsAt
  rw [if_neg few] at lengths
  refine ⟨⟨lengths ▸ sound.aligned.lengths, passed_error failure err halting [] passed ▸ sound.aligned.messages⟩, fun _ => .inl ?_⟩
  rw [passed.unread]
  exact Nat.zero_lt_succ _

theorem passed_frame (tolerated : Tolerated unmarshal frames cut) (sound : ReaderSound unmarshal frames cut s) (i : Nat)
    (placed : AtFrame unmarshal frames cut i s) (enough : 4 ≤ s.unread.length) (failure : ReadError) (halting : Bool)
    (result : Except ReadError ThinResponse) (rest : Bytes) (passed : ReadPassed unmarshal failure halting result rest s next) :
    ReaderSound unmarshal frames cut next := by
  obtain ⟨frame, found, room⟩ := at_frame_enough i placed enough
  have lengths : ∀ position ∈ next.lengthsAt, ∃ i, i < frames.length ∧ position = frameStart frames i := by
    intro position member
    rw [passed.lengthsAt, if_pos (show messagePrefixLen ≤ s.unread.length from enough), List.mem_append] at member
    rcases member with old | new
    · exact sound.aligned.lengths position old
    · exact ⟨i, (List.getElem?_eq_some_iff.mp found).1, by rw [List.mem_singleton.mp new, placed.consumed]⟩
  by_cases whole : 4 + frame.body.length ≤ cut - frameStart frames i ∧ frame.body.length ≤ maxMessageSize
  · obtain ⟨rfl, following⟩ := at_next_frame i frame placed found whole.1 whole.2 failure halting result rest passed
    by_cases readOn : EndsReading unmarshal frame.body
    · obtain ⟨err, fails, fatal⟩ := readOn
      rw [fails] at passed
      refine ⟨⟨lengths, passed_error failure err halting rest passed ▸ sound.aligned.messages⟩, fun reading => ?_⟩
      have goesOn := passed.stays reading err rfl
      rw [fatal] at goesOn
      cases goesOn
    · have placed' := following readOn
      have messages := placed'.decoded.trans ((whole_take frames (i + 1) cut placed'.inside).filterMap _)
      exact ⟨⟨lengths, messages⟩, fun _ => .inr ⟨i + 1, placed'⟩⟩
  · -- The frame is too long, or the stream ends in it.
    have bytes := at_frame_bytes i frame placed found room
    have read := passed.read
    have short := List.length_take_le (cut - frameStart frames i - 4) (frame.body ++ wireBytes (frames.drop (i + 1)))
    have ended : ∃ err, result = .error err ∧ rest.length < 4 := by
      rw [bytes] at read
      rcases read_message_frame failure frame _ with ⟨large, skipped⟩ | ⟨small, there, -⟩ | ⟨-, -, err, cutOff⟩
      · rw [skipped] at read
        obtain ⟨rfl, rfl⟩ := Prod.mk.inj read
        refine ⟨_, rfl, ?_⟩
        by_contra more
        obtain ⟨j, earlier, before, other, ends⟩ := tolerated i frame found large (by omega)
        exact placed.readOn j earlier before other ends
      · exact absurd ⟨by omega, small⟩ whole
      · rw [cutOff] at read
        obtain ⟨rfl, rfl⟩ := Prod.mk.inj read
        exact ⟨err, rfl, Nat.zero_lt_succ _⟩
    obtain ⟨err, rfl, few⟩ := ended
    exact ⟨⟨lengths, passed_error failure err halting rest passed ▸ sound.aligned.messages⟩, fun _ => .inl (passed.unread ▸ few)⟩

theorem reader_step_sound (tolerated : Tolerated unmarshal frames cut) (sound : ReaderSound unmarshal frames cut s)
    (event : ReaderEvent) (stepped : readerStep unmarshal s event = some next) : ReaderSound unmarshal frames cut next := by
  have reading : s.returned = none := by
    cases returned : s.returned with
    | none => rfl
    | some outcome =>
        unfold readerStep at stepped
        rw [returned] at stepped
        cases stepped
  cases event with
  | halt =>
      rw [readerStep, reading] at stepped
      cases stepped
      exact ⟨⟨sound.aligned.lengths, sound.aligned.messages⟩, nofun⟩
  | pass failure halting =>
      obtain ⟨after, result, rest, same, passed⟩ := reader_passed unmarshal failure halting reading
      rw [stepped] at same
      cases same
      by_cases enough : 4 ≤ s.unread.length
      · rcases sound.place reading with short | ⟨i, placed⟩
        · omega
        · exact passed_frame tolerated sound i placed enough failure halting result rest passed
      · exact passed_short sound (Nat.lt_of_not_le enough) failure halting result rest passed

theorem reaches_frame (i : Nat) (inside : frameStart frames i ≤ cut) (inRange : i ≤ frames.length)
    (plain : ∀ j frame, j < i → frames[j]? = some frame → frame.body.length ≤ maxMessageSize ∧ ¬EndsReading unmarshal frame.body) :
    ∃ events s, run (readerStep unmarshal) (newFrameReader ((wireBytes frames).take cut)) events = some s ∧ s.returned = none ∧
      AtFrame unmarshal frames cut i s := by
  induction i with
  | zero => exact ⟨[], _, rfl, rfl, new_reader_at⟩
  | succ i ih =>
      have before := frame_start_mono frames i (i + 1) (Nat.le_succ i)
      obtain ⟨events, s, reached, reading, placed⟩ := ih (by omega) (by omega)
        (fun j frame earlier => plain j frame (Nat.lt_succ_of_lt earlier))
      obtain ⟨frame, found⟩ : ∃ frame, frames[i]? = some frame := ⟨_, List.getElem?_eq_getElem (by omega)⟩
      obtain ⟨small, readOn⟩ := plain i frame (Nat.lt_succ_self i) found
      have start := frame_start_succ frames i frame found
      obtain ⟨next, result, rest, stepped, passed⟩ := reader_passed unmarshal .eof false reading
      obtain ⟨rfl, following⟩ := at_next_frame i frame placed found (by omega) small .eof false result rest passed
      have goesOn : next.returned = none := by
        refine passed.goes rfl fun err fails => ?_
        by_contra fatal
        exact readOn ⟨err, fails, Bool.eq_true_of_not_eq_false fatal⟩
      refine ⟨events ++ [.pass .eof false], next, ?_, goesOn, following readOn⟩
      rw [run_append _ _ _ _ s reached, run, stepped]
      rfl

theorem body_taken_for_length (i : Nat) (frame : Frame) (found : frames[i]? = some frame) (large : maxMessageSize < frame.body.length)
    (there : frameStart frames i + 8 ≤ cut) (reading : s.returned = none) (placed : AtFrame unmarshal frames cut i s) :
    ∃ next, run (readerStep unmarshal) s [.pass .eof false, .pass .eof false] = some next ∧ frameStart frames i + 4 ∈ next.lengthsAt := by
  have bytes := at_frame_bytes i frame placed found (by omega)
  obtain ⟨skipped, result, rest, stepped, passed⟩ := reader_passed unmarshal .eof false reading
  have read := passed.read
  rw [bytes] at read
  rcases read_message_frame .eof frame _ with ⟨-, same⟩ | ⟨small, -, -⟩ | ⟨small, -, -⟩
  · rw [same] at read
    obtain ⟨rfl, rfl⟩ := Prod.mk.inj read
    have goesOn : skipped.returned = none := passed.goes rfl fun err fails => by cases fails; rfl
    have left : 4 ≤ skipped.unread.length := by
      rw [passed.unread, List.length_take, List.length_append]
      rw [maxMessageSize] at large
      omega
    have here : skipped.consumed = frameStart frames i + 4 := by
      rw [passed.consumed, placed.consumed, bytes, List.length_append, length_bytes_length]
      omega
    obtain ⟨next, result', rest', stepped', passed'⟩ := reader_passed unmarshal .eof false goesOn
    refine ⟨next, by simp only [run, stepped, stepped'], ?_⟩
    rw [passed'.lengthsAt, if_pos (show messagePrefixLen ≤ skipped.unread.length from left), here]
    exact List.mem_append_right _ (List.mem_singleton.mpr rfl)
  · omega
  · omega

/-- Reading keeps to the frames, however the stream is cut off and the reads fail, exactly when no
frame of more than MaxMessageSize bytes is come to whose body has four bytes in the stream. -/
theorem frames_aligned_iff (unmarshal : Bytes → Except ReadError ThinResponse) (frames : List Frame) (cut : Nat) :
    (∀ events s, run (readerStep unmarshal) (newFrameReader ((wireBytes frames).take cut)) events = some s →
      ReadsAligned unmarshal frames cut s) ↔ Tolerated unmarshal frames cut := by
  constructor
  · intro aligned i
    -- By induction on the frame: the first one that is too long is come to.
    induction i using Nat.strong_induction_on with
    | _ i ih =>
        intro frame found large there
        by_contra readOn
        have plain : ∀ j earlier, j < i → frames[j]? = some earlier →
            earlier.body.length ≤ maxMessageSize ∧ ¬EndsReading unmarshal earlier.body := by
          intro j earlier before other
          refine ⟨?_, fun ends => readOn ⟨j, earlier, before, other, ends⟩⟩
          by_contra long
          have after := frame_start_mono frames (j + 1) i before
          have start := frame_start_succ frames j earlier other
          rw [maxMessageSize] at long
          obtain ⟨k, first, sooner, its, ends⟩ := ih j before earlier other (by rw [maxMessageSize]; omega) (by omega)
          exact readOn ⟨k, first, Nat.lt_trans sooner before, its, ends⟩
        have inside : frameStart frames i ≤ cut := by omega
        have inRange := (List.getElem?_eq_some_iff.mp found).1
        obtain ⟨events, s, reached, reading, placed⟩ := reaches_frame i inside (Nat.le_of_lt inRange) plain
        obtain ⟨next, passes, taken⟩ := body_taken_for_length i frame found large there reading placed
        obtain ⟨k, -, same⟩ := (aligned _ next (by rw [run_append _ _ _ _ s reached]; exact passes)).lengths _ taken
        -- No frame begins four bytes after another.
        have start := frame_start_succ frames i frame found
        rw [maxMessageSize] at large
        rcases Nat.lt_or_ge i k with after | before
        · have later := frame_start_mono frames (i + 1) k after
          omega
        · have sooner := frame_start_mono frames k i before
          omega
  · intro tolerated events s reached
    have sound : ReaderSound unmarshal frames cut s := by
      refine run_preserves (readerStep unmarshal) (ReaderSound unmarshal frames cut) (fun _ _ => True) ?_ events _ s ?_
        (meets_always _ _ (fun _ _ => trivial) events _) reached
      · intro s event next sound _ stepped
        exact reader_step_sound tolerated sound event stepped
      · exact ⟨⟨nofun, List.nil_sublist _⟩, fun _ => .inr ⟨0, new_reader_at⟩⟩
    exact sound.aligned

end Reading

section Samples

def longBody : Bytes := [0, 0, 0, 1, 9] ++ zeros maxMessageSize

theorem long_body_length : longBody.length = 16777221 := by
  rw [longBody, List.length_append, zeros_length, maxMessageSize, List.length_cons, List.length_cons, List.length_cons,
    List.length_cons, List.length_singleton]

def longFrame : Frame := ⟨longBody, by rw [long_body_length]; norm_num⟩

def sampleUnmarshal (message : Bytes) : Except ReadError ThinResponse :=
  if message = [9] then .ok (.messageIDGarbageCollected [9]) else .error .errUnexpectedEOF

theorem long_frame_front : (wireBytes [longFrame]).take 9 = [1, 0, 0, 5, 0, 0, 0, 1, 9] := by
  have lengthBytes : longFrame.lengthBytes = [1, 0, 0, 5] := by
    rw [Frame.lengthBytes, show longFrame.body.length = 16777221 from long_body_length]
    decide +kernel
  have split : wireBytes [longFrame] = [1, 0, 0, 5, 0, 0, 0, 1, 9] ++ (zeros maxMessageSize ++ wireBytes []) := by
    rw [wire_bytes_cons, Frame.writeResponse, lengthBytes, show longFrame.body = [0, 0, 0, 1, 9] ++ zeros maxMessageSize from rfl]
    simp only [List.cons_append, List.nil_append]
  rw [split]
  exact List.take_left' rfl

/-- The reader dispatches a message it has found inside a frame that never came whole. -/
theorem inner_bytes_dispatched :
    ∃ s, run (readerStep sampleUnmarshal) (newFrameReader ((wireBytes [longFrame]).take 9)) [.pass .eof false, .pass .eof false] = some s ∧
      s.dispatched = [.messageIDGarbageCollected [9]] ∧ s.lengthsAt = [0, 4] ∧ ¬ReadsAligned sampleUnmarshal [longFrame] 9 s := by
  have sample : (run (readerStep sampleUnmarshal) (newFrameReader [1, 0, 0, 5, 0, 0, 0, 1, 9])
      [.pass .eof false, .pass .eof false]).any
      (fun s => s.dispatched = [.messageIDGarbageCollected [9]] ∧ s.lengthsAt = [0, 4]) = true := by
    decide +kernel
  obtain ⟨s, reached, seen⟩ := (Option.any_eq_true _ _).mp sample
  obtain ⟨dispatched, lengths⟩ := of_decide_eq_true seen
  refine ⟨s, long_frame_front ▸ reached, dispatched, lengths, fun aligned => ?_⟩
  have none : wholeFrames [longFrame] 9 = [] := by
    have long : ¬longFrame.writeResponse.length ≤ 9 := by
      rw [write_response_length, show longFrame.body.length = 16777221 from long_body_length]
      omega
    rw [wholeFrames, if_neg long]
  have messages := aligned.messages
  rw [none, dispatched] at messages
  cases messages

end Samples

end Katzenpost
