import Katzenpost.Thin.Dispatch
import Katzenpost.Go.Run

set_option autoImplicit false

namespace Katzenpost

open Go

structure StatusConfig where
  instanceToken : Bytes
  sphinxGeometry : Bytes
  pigeonholeGeometry : Bytes

def StatusConfig.status (cfg : StatusConfig) (ok : Bool) : ThinResponse :=
  .connectionStatusEvent ⟨ok, cfg.instanceToken, some cfg.sphinxGeometry, some cfg.pigeonholeGeometry⟩

-- Where onNewConn and then handleSessionToken are on the connection. A resumed
-- connection has been filed under its old app ID before the replies that were
-- queued go out, one by one, and then the answer to the token.
inductive Greeting where
  | listening
  | accepted (docBlob : Bytes)
  | registered (docBlob : Bytes)
  | statusSent (docBlob : Bytes)
  | serving
  | resuming (appID : AppId) (queuedReplies : List ThinResponse)
  | established
deriving DecidableEq

def Greeting.isRegistered : Greeting → Bool
  | .listening => false
  | .accepted _ => false
  | _ => true

def Greeting.isStarted : Greeting → Bool
  | .serving => true
  | .resuming _ _ => true
  | .established => true
  | _ => false

inductive DialPhase where
  | connectionStatus
  | pkiDocument
  | sessionTokenReply
  | connected
  | failed
  | panicked
deriving DecidableEq

section Client

variable (unmarshal : Bytes → Option Document) (redialing : Bool) (t : ThinClient)

def violation : DialPhase := if redialing then .failed else .panicked

def ThinClient.readConnectionStatus : ThinResponse → ThinClient × DialPhase
  | .connectionStatusEvent status =>
      if redialing then
        ({ t with
            isConnected := status.isConnected
            daemonInstanceToken := status.instanceToken
            sphinxGeo := status.sphinxGeometry.orElse fun _ => t.sphinxGeo
            pigeonGeo := status.pigeonholeGeometry.orElse fun _ => t.pigeonGeo }, .pkiDocument)
      else if status.sphinxGeometry.isNone || status.pigeonholeGeometry.isNone then (t, .failed)
      else
        ({ t with
            isConnected := status.isConnected
            daemonInstanceToken := status.instanceToken
            sphinxGeo := status.sphinxGeometry
            pigeonGeo := status.pigeonholeGeometry }, .pkiDocument)
  | _ => (t, violation redialing)

def ThinClient.readPKIDocument : ThinResponse → ThinClient × DialPhase
  | .newPKIDocumentEvent payload =>
      (if payload.length > 0 then (t.parsePKIDoc unmarshal payload).1 else t, .sessionTokenReply)
  | _ => (t, violation redialing)

def ThinClient.readSessionTokenReply : ThinResponse → ThinClient × DialPhase
  | .sessionTokenReply _ _ => (t, .connected)
  | _ => (t, violation redialing)

end Client

-- One connection of a thin client. wire is what the daemon has enqueued and the
-- client has not read: the send queue and the socket keep the order. The last
-- three fields are not in the source: all that was enqueued, what Dial or redial
-- has read, and what went to dispatchMessage.
structure ThinLink where
  greeting : Greeting
  connectionStatus : Bool
  wire : List ThinResponse
  client : ThinClient
  dial : DialPhase
  enqueued : List ThinResponse
  handshake : List ThinResponse
  dispatched : List ThinResponse

def newThinLink (client : ThinClient) : ThinLink where
  greeting := .listening
  connectionStatus := false
  wire := []
  client := client
  dial := .connectionStatus
  enqueued := []
  handshake := []
  dispatched := []

-- setStatus and broadcastStatus are doUpdateConnectionStatus, broadcastDocument is
-- doUpdateFromPKIDoc, reply another goroutine that answers the app on this
-- connection. sessionToken looks up the token: none for a new client, otherwise
-- its app ID and the replies queued for it.
inductive LinkEvent where
  | accept (docBlob : Bytes)
  | register
  | sendStatus
  | sendDocument
  | setStatus (ok : Bool)
  | broadcastStatus (ok : Bool)
  | broadcastDocument (docBlob : Bytes)
  | sessionToken (appID : AppId) (session : Option (List ThinResponse))
  | flush
  | answerToken
  | reply (r : ThinResponse)
  | read
deriving DecidableEq

section Steps

variable (cfg : StatusConfig) (unmarshal : Bytes → Option Document) (redialing : Bool) (s : ThinLink)

def ThinLink.sendResponse (r : ThinResponse) : ThinLink := { s with wire := s.wire ++ [r], enqueued := s.enqueued ++ [r] }

def ThinLink.consume (m : ThinResponse) : ThinLink :=
  match s.dial with
  | .connectionStatus =>
      let (client, dial) := s.client.readConnectionStatus redialing m
      { s with client := client, dial := dial, handshake := s.handshake ++ [m] }
  | .pkiDocument =>
      let (client, dial) := s.client.readPKIDocument unmarshal redialing m
      { s with client := client, dial := dial, handshake := s.handshake ++ [m] }
  | .sessionTokenReply =>
      let (client, dial) := s.client.readSessionTokenReply redialing m
      { s with client := client, dial := dial, handshake := s.handshake ++ [m] }
  | _ => { s with client := (s.client.dispatchMessage unmarshal m).1, dispatched := s.dispatched ++ [m] }

def DialPhase.reads : DialPhase → Bool
  | .failed => false
  | .panicked => false
  | _ => true

def ThinLink.step : LinkEvent → Option ThinLink
  | .accept docBlob => if s.greeting = .listening then some { s with greeting := .accepted docBlob } else none
  | .register =>
      match s.greeting with
      | .accepted docBlob => some { s with greeting := .registered docBlob }
      | _ => none
  | .sendStatus =>
      match s.greeting with
      | .registered docBlob => some ({ s with greeting := .statusSent docBlob }.sendResponse (cfg.status s.connectionStatus))
      | _ => none
  | .sendDocument =>
      match s.greeting with
      | .statusSent docBlob => some ({ s with greeting := .serving }.sendResponse (.newPKIDocumentEvent docBlob))
      | _ => none
  | .setStatus ok => some { s with connectionStatus := ok }
  | .broadcastStatus ok => some (if s.greeting.isRegistered then s.sendResponse (cfg.status ok) else s)
  | .broadcastDocument docBlob =>
      some (if s.greeting.isRegistered then s.sendResponse (.newPKIDocumentEvent docBlob) else s)
  | .sessionToken appID session =>
      -- The token has been sent when the client waits for the answer to it.
      if s.greeting = .serving ∧ s.dial = .sessionTokenReply then
        match session with
        | none => some ({ s with greeting := .established }.sendResponse (.sessionTokenReply appID false))
        | some queuedReplies => some { s with greeting := .resuming appID queuedReplies }
      else none
  | .flush =>
      match s.greeting with
      | .resuming appID (reply :: rest) => some ({ s with greeting := .resuming appID rest }.sendResponse reply)
      | _ => none
  | .answerToken =>
      match s.greeting with
      | .resuming appID [] => some ({ s with greeting := .established }.sendResponse (.sessionTokenReply appID true))
      | _ => none
  | .reply r =>
      match s.greeting with
      | .resuming _ _ => some (s.sendResponse r)
      | .established => some (s.sendResponse r)
      | _ => none
  | .read =>
      match s.wire with
      | m :: rest =>
          if s.greeting.isStarted && s.dial.reads then some ({ s with wire := rest }.consume unmarshal redialing m) else none
      | [] => none

def ThinLink.undisturbed : LinkEvent → Bool
  | .broadcastStatus _ => !s.greeting.isRegistered || s.greeting = .established
  | .broadcastDocument _ => !s.greeting.isRegistered || s.greeting = .established
  | .sessionToken _ session => session.getD [] = []
  | .reply _ => s.greeting = .established
  | _ => true

end Steps

def Fits : Nat → ThinResponse → Prop
  | 0, m => ∃ status, m = .connectionStatusEvent status ∧ status.sphinxGeometry.isSome ∧ status.pigeonholeGeometry.isSome
  | 1, m => ∃ payload, m = .newPKIDocumentEvent payload
  | 2, m => ∃ appID resumed, m = .sessionTokenReply appID resumed
  | _, _ => True

def GreetsInOrder (messages : List ThinResponse) : Prop := ∀ i m, messages[i]? = some m → Fits i m

theorem greets_in_order_append (messages : List ThinResponse) (m : ThinResponse) (order : GreetsInOrder messages)
    (fits : Fits messages.length m) : GreetsInOrder (messages ++ [m]) := by
  intro i found lookup
  rw [List.getElem?_append] at lookup
  by_cases before : i < messages.length
  · rw [if_pos before] at lookup
    exact order i found lookup
  · rw [if_neg before] at lookup
    obtain ⟨first, same⟩ : i - messages.length = 0 ∧ m = found := by
      cases rest : i - messages.length <;> simp [rest] at lookup ⊢
      exact lookup
    have last : i = messages.length := by omega
    exact same ▸ last ▸ fits

def Greeting.Sent (enqueued : Nat) : Greeting → Prop
  | .listening => enqueued = 0
  | .accepted _ => enqueued = 0
  | .registered _ => enqueued = 0
  | .statusSent _ => enqueued = 1
  | .serving => enqueued = 2
  | .resuming _ queuedReplies => enqueued = 2 ∧ queuedReplies = []
  | .established => 3 ≤ enqueued

def DialPhase.Has (handshake dispatched : Nat) : DialPhase → Prop
  | .connectionStatus => handshake = 0 ∧ dispatched = 0
  | .pkiDocument => handshake = 1 ∧ dispatched = 0
  | .sessionTokenReply => handshake = 2 ∧ dispatched = 0
  | .connected => handshake = 3
  | .failed => False
  | .panicked => False

structure Accounted (s : ThinLink) : Prop where
  order : GreetsInOrder s.enqueued
  sent : s.greeting.Sent s.enqueued.length
  has : s.dial.Has s.handshake.length s.dispatched.length
  all : s.enqueued = s.handshake ++ s.dispatched ++ s.wire

theorem send_accounted (s : ThinLink) (greeting : Greeting) (r : ThinResponse) (accounted : Accounted s)
    (fits : Fits s.enqueued.length r) (sent : greeting.Sent (s.enqueued.length + 1)) :
    Accounted ({ s with greeting := greeting }.sendResponse r) where
  order := greets_in_order_append s.enqueued r accounted.order fits
  sent := by simpa [ThinLink.sendResponse] using sent
  has := accounted.has
  all := by simp [ThinLink.sendResponse, accounted.all]

theorem send_established (s : ThinLink) (r : ThinResponse) (accounted : Accounted s) (established : s.greeting = .established) :
    Accounted (s.sendResponse r) := by
  have enough : 3 ≤ s.enqueued.length := by simpa [established, Greeting.Sent] using accounted.sent
  have fits : Fits s.enqueued.length r := by
    obtain ⟨more, length⟩ := Nat.exists_eq_add_of_le' enough
    rw [length]
    trivial
  exact send_accounted s s.greeting r accounted fits (by rw [established]; show 3 ≤ _; omega)

section Reading

variable (cfg : StatusConfig) (unmarshal : Bytes → Option Document) (redialing : Bool)

@[simp] theorem consume_greeting (s : ThinLink) (m : ThinResponse) :
    (s.consume unmarshal redialing m).greeting = s.greeting := by unfold ThinLink.consume; cases s.dial <;> rfl

@[simp] theorem consume_enqueued (s : ThinLink) (m : ThinResponse) :
    (s.consume unmarshal redialing m).enqueued = s.enqueued := by unfold ThinLink.consume; cases s.dial <;> rfl

@[simp] theorem consume_wire (s : ThinLink) (m : ThinResponse) :
    (s.consume unmarshal redialing m).wire = s.wire := by unfold ThinLink.consume; cases s.dial <;> rfl

theorem read_connection_status_fits (t : ThinClient) (m : ThinResponse) (fits : Fits 0 m) :
    (t.readConnectionStatus redialing m).2 = .pkiDocument := by
  obtain ⟨status, rfl, sphinx, pigeonhole⟩ := fits
  cases redialing with
  | true => rfl
  | false => simp [ThinClient.readConnectionStatus, Option.isNone_eq_false_iff.mpr sphinx, Option.isNone_eq_false_iff.mpr pigeonhole]

theorem consume_accounted (s : ThinLink) (m : ThinResponse) (rest : List ThinResponse) (accounted : Accounted s)
    (wire : s.wire = m :: rest) : Accounted ({ s with wire := rest }.consume unmarshal redialing m) := by
  have here : s.enqueued[s.handshake.length + s.dispatched.length]? = some m := by
    rw [accounted.all, wire, List.getElem?_append_right (by simp)]
    simp
  have fits := accounted.order _ m here
  have has := accounted.has
  have read : let next := { s with wire := rest }.consume unmarshal redialing m
      next.dial.Has next.handshake.length next.dispatched.length ∧
        next.handshake ++ next.dispatched = s.handshake ++ s.dispatched ++ [m] := by
    cases dial : s.dial with
    | connectionStatus =>
        obtain ⟨first, none⟩ : s.handshake = [] ∧ s.dispatched = [] := by simpa [dial, DialPhase.Has] using has
        simp only [first, none, List.length_nil] at fits
        simp [ThinLink.consume, read_connection_status_fits redialing s.client m fits, DialPhase.Has, first, none]
    | pkiDocument =>
        obtain ⟨second, none⟩ : s.handshake.length = 1 ∧ s.dispatched = [] := by simpa [dial, DialPhase.Has] using has
        simp only [second, none, List.length_nil] at fits
        obtain ⟨payload, rfl⟩ := fits
        simp [ThinLink.consume, ThinClient.readPKIDocument, DialPhase.Has, second, none]
    | sessionTokenReply =>
        obtain ⟨third, none⟩ : s.handshake.length = 2 ∧ s.dispatched = [] := by simpa [dial, DialPhase.Has] using has
        simp only [third, none, List.length_nil] at fits
        obtain ⟨appID, resumed, rfl⟩ := fits
        simp [ThinLink.consume, ThinClient.readSessionTokenReply, DialPhase.Has, third, none]
    | connected => simpa [ThinLink.consume, dial, DialPhase.Has] using has
    | failed => simp [dial, DialPhase.Has] at has
    | panicked => simp [dial, DialPhase.Has] at has
  refine ⟨by simpa using accounted.order, by simpa using accounted.sent, read.1, ?_⟩
  rw [read.2]
  simp [accounted.all, wire]

theorem step_accounted (s : ThinLink) (event : LinkEvent) (next : ThinLink) (accounted : Accounted s)
    (undisturbed : s.undisturbed event = true) (taken : s.step cfg unmarshal redialing event = some next) :
    Accounted next := by
  obtain ⟨order, sent, has, all⟩ := accounted
  cases event with
  | accept docBlob =>
      simp only [ThinLink.step, Option.ite_none_right_eq_some, Option.some.injEq] at taken
      obtain ⟨listening, rfl⟩ := taken
      exact ⟨order, by simpa [listening, Greeting.Sent] using sent, has, all⟩
  | register =>
      simp only [ThinLink.step] at taken
      split at taken
      · rename_i accepted
        obtain rfl := Option.some.inj taken
        exact ⟨order, by simpa [accepted, Greeting.Sent] using sent, has, all⟩
      · cases taken
  | sendStatus =>
      simp only [ThinLink.step] at taken
      split at taken
      · rename_i docBlob registered
        obtain rfl := Option.some.inj taken
        have empty : s.enqueued.length = 0 := by simpa [registered, Greeting.Sent] using sent
        exact send_accounted s (.statusSent docBlob) _ ⟨order, sent, has, all⟩ (empty ▸ ⟨_, rfl, rfl, rfl⟩)
          (by rw [empty]; rfl)
      · cases taken
  | sendDocument =>
      simp only [ThinLink.step] at taken
      split at taken
      · rename_i docBlob statusSent
        obtain rfl := Option.some.inj taken
        have one : s.enqueued.length = 1 := by simpa [statusSent, Greeting.Sent] using sent
        exact send_accounted s .serving _ ⟨order, sent, has, all⟩ (one ▸ ⟨docBlob, rfl⟩) (by rw [one]; rfl)
      · cases taken
  | setStatus ok =>
      obtain rfl := Option.some.inj taken
      exact ⟨order, sent, has, all⟩
  | broadcastStatus ok =>
      obtain rfl := Option.some.inj taken
      split
      · rename_i registered
        exact send_established s _ ⟨order, sent, has, all⟩ (by simpa [ThinLink.undisturbed, registered] using undisturbed)
      · exact ⟨order, sent, has, all⟩
  | broadcastDocument docBlob =>
      obtain rfl := Option.some.inj taken
      split
      · rename_i registered
        exact send_established s _ ⟨order, sent, has, all⟩ (by simpa [ThinLink.undisturbed, registered] using undisturbed)
      · exact ⟨order, sent, has, all⟩
  | sessionToken appID session =>
      simp only [ThinLink.step] at taken
      split at taken
      · rename_i now
        have two : s.enqueued.length = 2 := by simpa [now.1, Greeting.Sent] using sent
        cases session with
        | none =>
            obtain rfl := Option.some.inj taken
            exact send_accounted s .established _ ⟨order, sent, has, all⟩ (two ▸ ⟨appID, false, rfl⟩)
              (by rw [two]; exact le_refl 3)
        | some queuedReplies =>
            obtain rfl := Option.some.inj taken
            exact ⟨order, ⟨two, by simpa [ThinLink.undisturbed] using undisturbed⟩, has, all⟩
      · cases taken
  | flush =>
      simp only [ThinLink.step] at taken
      split at taken
      · rename_i resuming
        simp [resuming, Greeting.Sent] at sent
      · cases taken
  | answerToken =>
      simp only [ThinLink.step] at taken
      split at taken
      · rename_i appID resuming
        obtain rfl := Option.some.inj taken
        have two : s.enqueued.length = 2 := by simpa [resuming, Greeting.Sent] using sent
        exact send_accounted s .established _ ⟨order, sent, has, all⟩ (two ▸ ⟨appID, true, rfl⟩)
          (by rw [two]; exact le_refl 3)
      · cases taken
  | reply r =>
      have established : s.greeting = .established := by simpa [ThinLink.undisturbed] using undisturbed
      simp only [ThinLink.step, established, Option.some.injEq] at taken
      exact taken ▸ send_established s r ⟨order, sent, has, all⟩ established
  | read =>
      simp only [ThinLink.step] at taken
      split at taken
      · rename_i m rest wire
        split at taken
        · obtain rfl := Option.some.inj taken
          exact consume_accounted unmarshal redialing s m rest ⟨order, sent, has, all⟩ wire
        · cases taken
      · cases taken

theorem reads_all (wire : List ThinResponse) (s : ThinLink) (same : s.wire = wire) (accounted : Accounted s)
    (started : s.greeting.isStarted = true) :
    ∃ settled, Go.run (ThinLink.step cfg unmarshal redialing) s (List.replicate wire.length .read) = some settled ∧
      Accounted settled ∧ settled.wire = [] ∧ settled.enqueued = s.enqueued ∧ settled.greeting = s.greeting := by
  induction wire generalizing s with
  | nil => exact ⟨s, rfl, accounted, same, rfl, rfl⟩
  | cons m rest ih =>
      have reads : s.dial.reads = true := by
        have has := accounted.has
        cases dial : s.dial <;> simp [dial, DialPhase.Has] at has <;> rfl
      obtain ⟨settled, reached, rest⟩ := ih ({ s with wire := rest }.consume unmarshal redialing m) (by simp)
        (consume_accounted unmarshal redialing s m rest accounted same) (by simpa using started)
      refine ⟨settled, ?_, by simpa using rest⟩
      rw [List.length_cons, List.replicate_succ, Go.run]
      simpa [ThinLink.step, same, started, reads] using reached

structure Leads (s t : ThinLink) : Prop where
  accounted : Accounted t
  run : ∃ events, Go.run (ThinLink.step cfg unmarshal redialing) s events = some t
  grows : ∃ later, t.enqueued = s.enqueued ++ later

variable {cfg unmarshal redialing}

theorem Leads.trans {s t u : ThinLink} (first : Leads cfg unmarshal redialing s t) (second : Leads cfg unmarshal redialing t u) :
    Leads cfg unmarshal redialing s u := by
  obtain ⟨_, ⟨before, reached⟩, ⟨some, grown⟩⟩ := first
  obtain ⟨accounted, ⟨after, reached'⟩, ⟨more, grown'⟩⟩ := second
  refine ⟨accounted, ⟨before ++ after, ?_⟩, ⟨some ++ more, ?_⟩⟩
  · rw [run_append _ before after s t reached, reached']
  · rw [grown', grown, List.append_assoc]

theorem leads_step {s t : ThinLink} (event : LinkEvent) (accounted : Accounted s) (undisturbed : s.undisturbed event = true)
    (taken : s.step cfg unmarshal redialing event = some t) (grows : ∃ later, t.enqueued = s.enqueued ++ later) :
    Leads cfg unmarshal redialing s t :=
  ⟨step_accounted cfg unmarshal redialing s event t accounted undisturbed taken, ⟨[event], by simp [Go.run, taken]⟩, grows⟩

theorem leads_reads (s : ThinLink) (accounted : Accounted s) (started : s.greeting.isStarted = true) :
    ∃ settled, Leads cfg unmarshal redialing s settled ∧ settled.wire = [] ∧ settled.greeting = s.greeting := by
  obtain ⟨settled, reached, accounted', empty, same, greeting⟩ :=
    reads_all cfg unmarshal redialing s.wire s rfl accounted started
  exact ⟨settled, ⟨accounted', ⟨_, reached⟩, ⟨[], by simp [same]⟩⟩, empty, greeting⟩

theorem established_completes (s : ThinLink) (accounted : Accounted s) (established : s.greeting = .established) :
    ∃ settled, Leads cfg unmarshal redialing s settled ∧ settled.wire = [] ∧ settled.greeting = .established := by
  obtain ⟨settled, leads, empty, greeting⟩ := leads_reads s accounted (by rw [established]; rfl)
  exact ⟨settled, leads, empty, greeting.trans established⟩

theorem token_sent (s : ThinLink) (accounted : Accounted s) (serving : s.greeting = .serving) (empty : s.wire = []) :
    s.dial = .sessionTokenReply := by
  have two : s.handshake.length + s.dispatched.length = 2 := by
    have sent : s.enqueued.length = 2 := by simpa [serving, Greeting.Sent] using accounted.sent
    simpa [accounted.all, empty] using sent
  have has := accounted.has
  cases dial : s.dial <;> simp only [dial, DialPhase.Has] at has <;> first | rfl | omega

theorem serving_completes (s : ThinLink) (accounted : Accounted s) (serving : s.greeting = .serving) :
    ∃ settled, Leads cfg unmarshal redialing s settled ∧ settled.wire = [] ∧ settled.greeting = .established := by
  have reads : ∃ greeted, Leads cfg unmarshal redialing s greeted ∧ greeted.wire = [] ∧ greeted.greeting = s.greeting :=
    leads_reads s accounted (by rw [serving]; rfl)
  obtain ⟨greeted, leads, empty, greeting⟩ := reads
  rw [serving] at greeting
  have sent := token_sent greeted leads.accounted greeting empty
  have answered : Leads cfg unmarshal redialing greeted
      ({ greeted with greeting := .established }.sendResponse (.sessionTokenReply [] false)) :=
    leads_step (.sessionToken [] none) leads.accounted rfl (by simp [ThinLink.step, greeting, sent]) ⟨_, rfl⟩
  obtain ⟨settled, reads, done⟩ := established_completes _ answered.accounted rfl
  exact ⟨settled, leads.trans (answered.trans reads), done⟩

theorem status_sent_completes (s : ThinLink) (docBlob : Bytes) (accounted : Accounted s)
    (greeting : s.greeting = .statusSent docBlob) :
    ∃ settled, Leads cfg unmarshal redialing s settled ∧ settled.wire = [] ∧ settled.greeting = .established := by
  have sent : Leads cfg unmarshal redialing s ({ s with greeting := .serving }.sendResponse (.newPKIDocumentEvent docBlob)) :=
    leads_step .sendDocument accounted rfl (by simp [ThinLink.step, greeting]) ⟨_, rfl⟩
  obtain ⟨settled, leads, done⟩ := serving_completes _ sent.accounted rfl
  exact ⟨settled, sent.trans leads, done⟩

theorem registered_completes (s : ThinLink) (docBlob : Bytes) (accounted : Accounted s)
    (greeting : s.greeting = .registered docBlob) :
    ∃ settled, Leads cfg unmarshal redialing s settled ∧ settled.wire = [] ∧ settled.greeting = .established := by
  have sent : Leads cfg unmarshal redialing s
      ({ s with greeting := .statusSent docBlob }.sendResponse (cfg.status s.connectionStatus)) :=
    leads_step .sendStatus accounted rfl (by simp [ThinLink.step, greeting]) ⟨_, rfl⟩
  obtain ⟨settled, leads, done⟩ := status_sent_completes _ docBlob sent.accounted rfl
  exact ⟨settled, sent.trans leads, done⟩

theorem accepted_completes (s : ThinLink) (docBlob : Bytes) (accounted : Accounted s)
    (greeting : s.greeting = .accepted docBlob) :
    ∃ settled, Leads cfg unmarshal redialing s settled ∧ settled.wire = [] ∧ settled.greeting = .established := by
  have filed : Leads cfg unmarshal redialing s { s with greeting := .registered docBlob } :=
    leads_step .register accounted rfl (by simp [ThinLink.step, greeting]) ⟨[], by simp⟩
  obtain ⟨settled, leads, done⟩ := registered_completes _ docBlob filed.accounted rfl
  exact ⟨settled, filed.trans leads, done⟩

theorem completes (s : ThinLink) (accounted : Accounted s) :
    ∃ settled, Leads cfg unmarshal redialing s settled ∧ settled.wire = [] ∧ settled.greeting = .established := by
  cases greeting : s.greeting with
  | listening =>
      have accepted : Leads cfg unmarshal redialing s { s with greeting := .accepted [] } :=
        leads_step (.accept []) accounted rfl (by simp [ThinLink.step, greeting]) ⟨[], by simp⟩
      obtain ⟨settled, leads, done⟩ := accepted_completes _ [] accepted.accounted rfl
      exact ⟨settled, accepted.trans leads, done⟩
  | accepted docBlob => exact accepted_completes s docBlob accounted greeting
  | registered docBlob => exact registered_completes s docBlob accounted greeting
  | statusSent docBlob => exact status_sent_completes s docBlob accounted greeting
  | serving => exact serving_completes s accounted greeting
  | resuming appID queuedReplies =>
      obtain rfl : queuedReplies = [] := by
        have sent := accounted.sent
        simp only [greeting, Greeting.Sent] at sent
        exact sent.2
      have answered : Leads cfg unmarshal redialing s
          ({ s with greeting := .established }.sendResponse (.sessionTokenReply appID true)) :=
        leads_step .answerToken accounted rfl (by simp [ThinLink.step, greeting]) ⟨_, rfl⟩
      obtain ⟨settled, leads, done⟩ := established_completes _ answered.accounted rfl
      exact ⟨settled, answered.trans leads, done⟩
  | established => exact established_completes s accounted greeting

end Reading

/-- In every state the handshake has not failed and no response is lost, and from there the daemon
and the client can go on until the client is connected and all but the three messages of the
handshake have gone to dispatchMessage. -/
theorem handshake_agrees_undisturbed (cfg : StatusConfig) (unmarshal : Bytes → Option Document) (redialing : Bool)
    (client : ThinClient) (events : List LinkEvent) (final : ThinLink)
    (undisturbed : Meets (ThinLink.step cfg unmarshal redialing) (fun s event => s.undisturbed event = true)
      (newThinLink client) events)
    (reached : Go.run (ThinLink.step cfg unmarshal redialing) (newThinLink client) events = some final) :
    (final.dial ≠ .failed ∧ final.dial ≠ .panicked) ∧
      final.enqueued = final.handshake ++ final.dispatched ++ final.wire ∧
      ∃ more settled later, Go.run (ThinLink.step cfg unmarshal redialing) final more = some settled ∧
        settled.enqueued = final.enqueued ++ later ∧ settled.dial = .connected ∧ settled.handshake.length = 3 ∧
        settled.enqueued = settled.handshake ++ settled.dispatched := by
  have accounted : Accounted final :=
    run_preserves (ThinLink.step cfg unmarshal redialing) Accounted _ (step_accounted cfg unmarshal redialing) events
      (newThinLink client) final ⟨by simp [GreetsInOrder, newThinLink], rfl, ⟨rfl, rfl⟩, rfl⟩ undisturbed reached
  refine ⟨?_, accounted.all, ?_⟩
  · have has := accounted.has
    constructor <;> intro ended <;> simp [ended, DialPhase.Has] at has
  · have goes : ∃ settled, Leads cfg unmarshal redialing final settled ∧ settled.wire = [] ∧ settled.greeting = .established :=
      completes final accounted
    obtain ⟨settled, ⟨accounted', ⟨more, ran⟩, later, grown⟩, empty, established⟩ := goes
    have all : settled.enqueued = settled.handshake ++ settled.dispatched := by simpa [empty] using accounted'.all
    have enough : 3 ≤ settled.handshake.length + settled.dispatched.length := by
      have sent := accounted'.sent
      simpa only [established, Greeting.Sent, all, List.length_append] using sent
    have has := accounted'.has
    have connected : settled.dial = .connected := by
      cases dial : settled.dial <;> simp only [dial, DialPhase.Has] at has <;> first | rfl | omega
    rw [connected] at has
    exact ⟨more, settled, later, ran, grown, connected, has, all⟩

section Samples

def sampleStatus : StatusConfig := ⟨[1], [2], [3]⟩

def greetedLink : List LinkEvent := [.accept [], .register, .sendStatus, .sendDocument, .read, .read]

def newSession : List LinkEvent := greetedLink ++ [.sessionToken [4] none, .broadcastStatus true]

def sampleLink (redialing : Bool) (events : List LinkEvent) : Option ThinLink :=
  Go.run (ThinLink.step sampleStatus (fun _ => none) redialing) (newThinLink newThinClient) events

theorem new_session_handshake :
    ∃ final, sampleLink false newSession = some final ∧ (final.dial ≠ .failed ∧ final.dial ≠ .panicked) := by
  obtain ⟨final, reached⟩ := Option.isSome_iff_exists.mp (show (sampleLink false newSession).isSome = true by decide +kernel)
  exact ⟨final, reached, (handshake_agrees_undisturbed sampleStatus (fun _ => none) false newThinClient newSession final
    (by decide +kernel) reached).1⟩

def queuedReply : ThinResponse := .reply .encryptRead (some [5]) 0

/-- A session is resumed with one queued reply: Dial panics on it, and redial gives up the
connection and has lost the reply. A document is broadcast to a connection that has just been
registered, and Dial panics on that. -/
theorem queued_reply_breaks_handshake :
    (sampleLink false (greetedLink ++ [.sessionToken [4] (some [queuedReply]), .flush, .answerToken, .read])).map
        (fun s => s.dial) = some .panicked ∧
      (sampleLink true (greetedLink ++ [.sessionToken [4] (some [queuedReply]), .flush, .answerToken, .read])).map
        (fun s => (s.dial, s.handshake.contains queuedReply, s.dispatched)) = some (.failed, true, []) ∧
      (sampleLink false [.accept [], .register, .broadcastDocument [6], .sendStatus, .sendDocument, .read]).map
        (fun s => s.dial) = some .panicked := by
  decide +kernel

end Samples

end Katzenpost
