import Katzenpost.Thin.Dispatch
import Katzenpost.Go.Run

set_option autoImplicit false

namespace Katzenpost

open Go

abbrev Goroutine := Nat

abbrev SinkId := Nat

structure Sink where
  cap : Nat
  buffer : List ThinEvent
  reader : Goroutine
deriving DecidableEq

def Sink.hasRoom (sink : Sink) : Bool := sink.buffer.length < sink.cap

inductive Wanted where
  | reply (kind : ReplyKind) (queryID : QueryId)
  | surbReply (surbID : Bytes)
deriving DecidableEq

-- Whether the event ends the wait. A message reply with no SURB ID is a nil
-- pointer, and reading it panics.
def Wanted.ends : Wanted → ThinEvent → Option Bool
  | .reply kind queryID, .message (.reply kind' queryID' _) => some (kind' = kind ∧ queryID' = some queryID)
  | .surbReply _, .message (.connectionStatusEvent status) => some (!status.isConnected)
  | .surbReply surbID, .message (.messageReplyEvent _ surbID' _ _) => surbID'.map fun given => given = surbID
  | _, _ => some false

inductive Caller where
  | running
  | inEventSink (sink : SinkId) (call : Option Wanted)
  | writing (sink : SinkId) (wanted : Wanted)
  | awaiting (sink : SinkId) (wanted : Wanted)
  | returning (sink : SinkId)
  | inStopEventSink (sink : SinkId)
deriving DecidableEq

def Caller.waits : Caller → Bool
  | .inEventSink _ _ => true
  | .inStopEventSink _ => true
  | _ => false

inductive Fanout where
  | selecting
  | delivering (event : ThinEvent) (drains : List SinkId)
deriving DecidableEq

def Fanout.pending : Fanout → List SinkId
  | .selecting => []
  | .delivering _ drains => drains

def Fanout.next (event : ThinEvent) : List SinkId → Fanout
  | [] => .selecting
  | drains => .delivering event drains

@[simp] theorem pending_next (event : ThinEvent) (drains : List SinkId) : (Fanout.next event drains).pending = drains := by
  cases drains <;> rfl

def eventSinkCap : Nat := 2

structure EventSinks where
  client : ThinClient
  eventSink : List ThinEvent
  worker : Fanout
  drains : GoMap SinkId Unit
  sinks : GoMap SinkId Sink
  callers : Goroutine → Caller
  made : Nat

def newEventSinks (client : ThinClient) : EventSinks where
  client := client
  eventSink := []
  worker := .selecting
  drains := ∅
  sinks := ∅
  callers := fun _ => .running
  made := 0

-- dispatch and disconnected are the client's own worker, take and deliver the
-- fan-out worker, add and remove a caller together with the fan-out worker.
inductive SinkEvent where
  | eventSink (g : Goroutine) (call : Option Wanted)
  | add (g : Goroutine)
  | write (g : Goroutine) (ok : Bool)
  | receive (g : Goroutine) (sink : SinkId)
  | cancel (g : Goroutine)
  | deferred (g : Goroutine)
  | stopEventSink (g : Goroutine) (sink : SinkId)
  | remove (g : Goroutine)
  | handOver (g : Goroutine) (sink : SinkId) (other : Goroutine)
  | dispatch (m : ThinResponse)
  | disconnected (graceful : Bool)
  | take (r : Range SinkId Unit)
  | deliver

section Steps

variable (unmarshal : Bytes → Option Document) (s : EventSinks)

def EventSinks.setCaller (g : Goroutine) (caller : Caller) : EventSinks :=
  { s with callers := Function.update s.callers g caller }

def EventSinks.setSink (id : SinkId) (sink : Sink) : EventSinks := { s with sinks := s.sinks.insert id sink }

def EventSinks.makeSink (g : Goroutine) (call : Option Wanted) : EventSinks :=
  { (s.setSink s.made ⟨1, [], g⟩).setCaller g (.inEventSink s.made call) with made := s.made + 1 }

def EventSinks.post (event : ThinEvent) : Option EventSinks :=
  if s.eventSink.length < eventSinkCap then some { s with eventSink := s.eventSink ++ [event] } else none

def EventSinks.addDrain (id : SinkId) : EventSinks :=
  match s.sinks[id]? with
  | some sink => if sink.cap = 0 then s else { s with drains := s.drains.insert id () }
  | none => s

def EventSinks.receive (g : Goroutine) (id : SinkId) : Option EventSinks :=
  match s.sinks[id]? with
  | some ⟨cap, event :: rest, reader⟩ =>
      if reader = g then
        let taken := s.setSink id ⟨cap, rest, reader⟩
        match s.callers g with
        | .running => some taken
        | .awaiting own wanted =>
            if own = id then
              (wanted.ends event).map fun done => if done then taken.setCaller g (.returning id) else taken
            else none
        | _ => none
      else none
  | _ => none

def EventSinks.send : Option EventSinks :=
  match s.worker with
  | .delivering event (id :: rest) =>
      match s.sinks[id]? with
      | some sink =>
          if sink.hasRoom then
            some { s.setSink id { sink with buffer := sink.buffer ++ [event] } with worker := .next event rest }
          else none
      | none => none
  | _ => none

def EventSinks.step : SinkEvent → Option EventSinks
  | .eventSink g call => if s.callers g = .running then some (s.makeSink g call) else none
  | .add g =>
      match s.worker, s.callers g with
      | .selecting, .inEventSink id none => some ((s.addDrain id).setCaller g .running)
      | .selecting, .inEventSink id (some wanted) => some ((s.addDrain id).setCaller g (.writing id wanted))
      | _, _ => none
  | .write g ok =>
      match s.callers g with
      | .writing id wanted => some (s.setCaller g (if ok then .awaiting id wanted else .returning id))
      | _ => none
  | .receive g id => s.receive g id
  | .cancel g =>
      match s.callers g with
      | .awaiting id (.surbReply _) => some (s.setCaller g (.returning id))
      | _ => none
  | .deferred g =>
      match s.callers g with
      | .returning id => some (s.setCaller g (.inStopEventSink id))
      | _ => none
  | .stopEventSink g id => if s.callers g = .running then some (s.setCaller g (.inStopEventSink id)) else none
  | .remove g =>
      match s.worker, s.callers g with
      | .selecting, .inStopEventSink id => some ({ s with drains := s.drains.erase id }.setCaller g .running)
      | _, _ => none
  | .handOver g id other =>
      match s.callers g, s.sinks[id]? with
      | .running, some sink => if sink.reader = g then some (s.setSink id { sink with reader := other }) else none
      | _, _ => none
  | .dispatch m =>
      match s.client.dispatchMessage unmarshal m with
      | (client, .eventSink event) => { s with client := client }.post event
      | (client, _) => some { s with client := client }
  | .disconnected graceful =>
      { s with client := { s.client with isConnected := false } }.post (.daemonDisconnected graceful)
  | .take r =>
      match s.worker, s.eventSink with
      | .selecting, event :: rest =>
          some { s with eventSink := rest, worker := .next event ((r.order s.drains).map Prod.fst) }
      | _, _ => none
  | .deliver => s.send

def EventSinks.served (id : SinkId) : Bool :=
  s.sinks[id]?.all fun sink => !(s.callers sink.reader).waits || sink.hasRoom

def EventSinks.stalled : Bool :=
  match s.worker with
  | .delivering _ (id :: _) => !s.served id
  | _ => false

def EventSinks.leavesRoom (g : Goroutine) (id : SinkId) : Bool :=
  s.sinks[id]?.all fun sink => decide (sink.reader ≠ g) || sink.hasRoom

def EventSinks.drained : SinkEvent → Bool
  | .take _ => s.drains.toList.all fun entry => s.served entry.1
  | .eventSink g _ => s.worker.pending.all (s.leavesRoom g)
  | .deferred g => s.worker.pending.all (s.leavesRoom g)
  | .stopEventSink g _ => s.worker.pending.all (s.leavesRoom g)
  | .handOver _ id other => !(s.callers other).waits || s.worker.pending.all fun pending =>
      decide (pending ≠ id) || s.sinks[id]?.all Sink.hasRoom
  | _ => true

end Steps

structure Flowing (s : EventSinks) : Prop where
  distinct : s.worker.pending.Nodup
  served : ∀ id ∈ s.worker.pending, s.served id = true

theorem not_stalled_of_flowing (s : EventSinks) (flowing : Flowing s) : s.stalled = false := by
  unfold EventSinks.stalled
  cases worker : s.worker with
  | selecting => rfl
  | delivering event drains =>
      cases drains with
      | nil => rfl
      | cons id rest =>
          have first := flowing.served id (by simp [worker, Fanout.pending])
          simp [first]

theorem served_iff (s : EventSinks) (id : SinkId) :
    s.served id = true ↔
      ∀ sink, s.sinks[id]? = some sink → (s.callers sink.reader).waits = true → sink.hasRoom = true := by
  cases found : s.sinks[id]? with
  | none => simp [EventSinks.served, found]
  | some sink => cases waits : (s.callers sink.reader).waits <;> simp [EventSinks.served, found, waits]

theorem leaves_room_iff (s : EventSinks) (g : Goroutine) (id : SinkId) :
    s.leavesRoom g id = true ↔ ∀ sink, s.sinks[id]? = some sink → sink.reader = g → sink.hasRoom = true := by
  cases found : s.sinks[id]? with
  | none => simp [EventSinks.leavesRoom, found]
  | some sink => by_cases own : sink.reader = g <;> simp [EventSinks.leavesRoom, found, own]

theorem set_caller_flowing (s : EventSinks) (g : Goroutine) (caller : Caller) (flowing : Flowing s)
    (room : caller.waits = true → ∀ id ∈ s.worker.pending, s.leavesRoom g id = true) : Flowing (s.setCaller g caller) := by
  refine ⟨flowing.distinct, fun id pending => ?_⟩
  rw [served_iff]
  intro sink found waits
  by_cases same : sink.reader = g
  · simp only [EventSinks.setCaller, same, Function.update_self] at waits
    exact (leaves_room_iff s g id).mp (room waits id pending) sink found same
  · simp only [EventSinks.setCaller, Function.update_of_ne same] at waits
    exact (served_iff s id).mp (flowing.served id pending) sink found waits

theorem set_sink_flowing (s : EventSinks) (changed : SinkId) (sink : Sink) (flowing : Flowing s)
    (room : changed ∈ s.worker.pending → (s.callers sink.reader).waits = true → sink.hasRoom = true) :
    Flowing (s.setSink changed sink) := by
  refine ⟨flowing.distinct, fun id pending => ?_⟩
  rw [served_iff]
  intro found lookup waits
  simp only [EventSinks.setSink, lookup_insert] at lookup waits
  by_cases hit : changed = id
  · rw [if_pos hit, Option.some.injEq] at lookup
    subst hit lookup
    exact room pending waits
  · rw [if_neg hit] at lookup
    exact (served_iff s id).mp (flowing.served id pending) found lookup waits

theorem receive_cases (s next : EventSinks) (g : Goroutine) (id : SinkId) (taken : s.receive g id = some next) :
    ∃ cap event rest, s.sinks[id]? = some ⟨cap, event :: rest, g⟩ ∧ (s.callers g).waits = false ∧
      (next = s.setSink id ⟨cap, rest, g⟩ ∨ next = (s.setSink id ⟨cap, rest, g⟩).setCaller g (.returning id)) := by
  unfold EventSinks.receive at taken
  split at taken
  · rename_i cap event rest reader found
    split at taken
    · rename_i own
      subst own
      refine ⟨cap, event, rest, found, ?_⟩
      split at taken
      · rename_i running
        exact ⟨by rw [running]; rfl, .inl (Option.some.inj taken).symm⟩
      · rename_i own wanted awaiting
        refine ⟨by rw [awaiting]; rfl, ?_⟩
        split at taken
        · obtain ⟨done, _, rfl⟩ := Option.map_eq_some_iff.mp taken
          cases done with
          | true => exact .inr rfl
          | false => exact .inl rfl
        · cases taken
      · cases taken
    · cases taken
  · cases taken

theorem receive_flowing (s next : EventSinks) (g : Goroutine) (id : SinkId) (flowing : Flowing s)
    (taken : s.receive g id = some next) : Flowing next := by
  obtain ⟨cap, event, rest, found, free, outcome⟩ := receive_cases s next g id taken
  have fewer : Flowing (s.setSink id ⟨cap, rest, g⟩) := set_sink_flowing s id _ flowing (by simp [free])
  cases outcome with
  | inl stays => exact stays ▸ fewer
  | inr returns => exact returns ▸ set_caller_flowing _ g _ fewer nofun

theorem send_cases (s next : EventSinks) (sent : s.send = some next) :
    ∃ event id rest sink, s.worker = .delivering event (id :: rest) ∧ s.sinks[id]? = some sink ∧ sink.hasRoom = true ∧
      next = { s.setSink id { sink with buffer := sink.buffer ++ [event] } with worker := .next event rest } := by
  unfold EventSinks.send at sent
  split at sent
  · rename_i event id rest delivering
    split at sent
    · rename_i sink found
      split at sent
      · rename_i room
        exact ⟨event, id, rest, sink, delivering, found, room, (Option.some.inj sent).symm⟩
      · cases sent
    · cases sent
  · cases sent

theorem send_flowing (s next : EventSinks) (flowing : Flowing s) (sent : s.send = some next) : Flowing next := by
  obtain ⟨event, id, rest, sink, delivering, found, room, rfl⟩ := send_cases s next sent
  have distinct : (id :: rest).Nodup := by simpa [delivering, Fanout.pending] using flowing.distinct
  constructor
  · rw [pending_next]
    exact (List.nodup_cons.mp distinct).2
  · rw [pending_next]
    intro other pending
    have differs : id ≠ other := fun same => (List.nodup_cons.mp distinct).1 (same ▸ pending)
    have served := flowing.served other (by simp [delivering, Fanout.pending, pending])
    rw [served_iff] at served ⊢
    intro reached lookup waits
    simp only [EventSinks.setSink, lookup_insert, if_neg differs] at lookup waits
    exact served reached lookup waits

theorem take_flowing (s : EventSinks) (event : ThinEvent) (rest : List ThinEvent) (r : Range SinkId Unit)
    (drained : s.drained (.take r) = true) :
    Flowing { s with eventSink := rest, worker := .next event ((r.order s.drains).map Prod.fst) } := by
  constructor
  · rw [pending_next]
    exact order_keys_nodup r s.drains
  · rw [pending_next]
    intro id listed
    obtain ⟨entry, member, rfl⟩ := List.mem_map.mp listed
    exact List.all_eq_true.mp drained entry ((r.perm s.drains).mem_iff.mp member)

theorem post_flowing (s next : EventSinks) (event : ThinEvent) (flowing : Flowing s) (posted : s.post event = some next) :
    Flowing next := by
  unfold EventSinks.post at posted
  split at posted
  · obtain rfl := Option.some.inj posted
    exact ⟨flowing.distinct, flowing.served⟩
  · cases posted

theorem make_sink_flowing (s : EventSinks) (g : Goroutine) (call : Option Wanted) (flowing : Flowing s)
    (room : ∀ id ∈ s.worker.pending, s.leavesRoom g id = true) : Flowing (s.makeSink g call) := by
  have made : Flowing (s.setSink s.made ⟨1, [], g⟩) := set_sink_flowing s s.made _ flowing fun _ _ => rfl
  have called := set_caller_flowing _ g (.inEventSink s.made call) made fun _ id pending => by
    rw [leaves_room_iff]
    intro sink found own
    simp only [EventSinks.setSink, lookup_insert] at found
    by_cases new : s.made = id
    · rw [if_pos new, Option.some.injEq] at found
      exact found ▸ rfl
    · rw [if_neg new] at found
      exact (leaves_room_iff s g id).mp (room id pending) sink found own
  exact ⟨called.distinct, called.served⟩

theorem hand_over_flowing (s : EventSinks) (g other : Goroutine) (id : SinkId) (sink : Sink) (found : s.sinks[id]? = some sink)
    (drained : s.drained (.handOver g id other) = true) (flowing : Flowing s) :
    Flowing (s.setSink id { sink with reader := other }) := by
  apply set_sink_flowing s id _ flowing
  intro pending waits
  simp only [EventSinks.drained, waits, found, Bool.not_true, Bool.false_or, List.all_eq_true] at drained
  have room : sink.hasRoom = true := by simpa using drained id pending
  exact room

theorem add_drain_flowing (s : EventSinks) (id : SinkId) (flowing : Flowing s) : Flowing (s.addDrain id) := by
  unfold EventSinks.addDrain
  split
  · split
    · exact flowing
    · exact ⟨flowing.distinct, flowing.served⟩
  · exact flowing

theorem step_flowing (unmarshal : Bytes → Option Document) (s : EventSinks) (event : SinkEvent) (next : EventSinks)
    (flowing : Flowing s) (drained : s.drained event = true) (taken : s.step unmarshal event = some next) : Flowing next := by
  cases event with
  | eventSink g call =>
      simp only [EventSinks.step, Option.ite_none_right_eq_some, Option.some.injEq] at taken
      obtain ⟨_, rfl⟩ := taken
      exact make_sink_flowing s g call flowing (List.all_eq_true.mp drained)
  | add g =>
      simp only [EventSinks.step] at taken
      split at taken
      · obtain rfl := Option.some.inj taken
        exact set_caller_flowing _ g _ (add_drain_flowing s _ flowing) nofun
      · obtain rfl := Option.some.inj taken
        exact set_caller_flowing _ g _ (add_drain_flowing s _ flowing) nofun
      · cases taken
  | write g ok =>
      simp only [EventSinks.step] at taken
      split at taken
      · obtain rfl := Option.some.inj taken
        cases ok <;> exact set_caller_flowing s g _ flowing nofun
      · cases taken
  | receive g id => exact receive_flowing s next g id flowing taken
  | cancel g =>
      simp only [EventSinks.step] at taken
      split at taken
      · obtain rfl := Option.some.inj taken
        exact set_caller_flowing s g _ flowing nofun
      · cases taken
  | deferred g =>
      simp only [EventSinks.step] at taken
      split at taken
      · obtain rfl := Option.some.inj taken
        exact set_caller_flowing s g _ flowing fun _ => List.all_eq_true.mp drained
      · cases taken
  | stopEventSink g id =>
      simp only [EventSinks.step, Option.ite_none_right_eq_some, Option.some.injEq] at taken
      obtain ⟨_, rfl⟩ := taken
      exact set_caller_flowing s g _ flowing fun _ => List.all_eq_true.mp drained
  | remove g =>
      simp only [EventSinks.step] at taken
      split at taken
      · obtain rfl := Option.some.inj taken
        exact set_caller_flowing _ g _ ⟨flowing.distinct, flowing.served⟩ nofun
      · cases taken
  | handOver g id other =>
      simp only [EventSinks.step] at taken
      split at taken
      · rename_i sink _ found
        simp only [Option.ite_none_right_eq_some, Option.some.injEq] at taken
        obtain ⟨_, rfl⟩ := taken
        exact hand_over_flowing s g other id sink found drained flowing
      · cases taken
  | dispatch m =>
      simp only [EventSinks.step] at taken
      split at taken
      · rename_i client event _
        exact post_flowing { s with client := client } next event ⟨flowing.distinct, flowing.served⟩ taken
      · obtain rfl := Option.some.inj taken
        exact ⟨flowing.distinct, flowing.served⟩
  | disconnected graceful =>
      exact post_flowing { s with client := { s.client with isConnected := false } } next _
        ⟨flowing.distinct, flowing.served⟩ taken
  | take r =>
      simp only [EventSinks.step] at taken
      split at taken
      · obtain rfl := Option.some.inj taken
        exact take_flowing s _ _ r drained
      · cases taken
  | deliver => exact send_flowing s next flowing taken

/-- Whatever the callers, the subscribers and the daemon do, nobody is left waiting for a worker
that waits for them. -/
theorem unsubscribing_never_stalls (unmarshal : Bytes → Option Document) (client : ThinClient) (events : List SinkEvent)
    (drained : Meets (EventSinks.step unmarshal) (fun s event => s.drained event = true) (newEventSinks client) events) :
    Always (EventSinks.step unmarshal) (fun s => s.stalled = false) (newEventSinks client) events :=
  always_of_invariant (EventSinks.step unmarshal) _ Flowing _ (step_flowing unmarshal) not_stalled_of_flowing events _
    ⟨List.nodup_nil, nofun⟩ drained

def answeredCall : List SinkEvent :=
  [.eventSink 0 (some (.reply .startResendingEncryptedMessage [7])), .add 0, .write 0 true,
    .dispatch (.reply .startResendingEncryptedMessage (some [7]) 0), .take ascending, .deliver, .receive 0 0]

theorem answered_call_unsubscribes :
    Always (EventSinks.step fun _ => none) (fun s => s.stalled = false) (newEventSinks newThinClient)
      (answeredCall ++ [.deferred 0, .remove 0]) :=
  unsubscribing_never_stalls (fun _ => none) newThinClient _ (by decide +kernel)

def lateEvents : List SinkEvent :=
  [.dispatch (.messageIDGarbageCollected []), .take ascending, .deliver,
    .dispatch (.messageIDGarbageCollected []), .take ascending, .deferred 0]

/-- Two more events come before the call unsubscribes: the first fills its channel and the worker
is stuck on the second. -/
theorem late_events_stall_the_call :
    ∃ s, Go.run (EventSinks.step fun _ => none) (newEventSinks newThinClient) (answeredCall ++ lateEvents) = some s ∧
      s.callers 0 = .inStopEventSink 0 ∧ s.stalled = true := by
  have evaluated : (Go.run (EventSinks.step fun _ => none) (newEventSinks newThinClient) (answeredCall ++ lateEvents)).map
      (fun s => (s.callers 0, s.stalled)) = some (.inStopEventSink 0, true) := by decide +kernel
  obtain ⟨s, reached, same⟩ := Option.map_eq_some_iff.mp evaluated
  obtain ⟨caller, stalled⟩ := Prod.mk.inj same
  exact ⟨s, reached, caller, stalled⟩

end Katzenpost
