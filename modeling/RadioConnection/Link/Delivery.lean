import RadioConnection.Link.Moves

/-!
# Delivery to the responder's application

A responder answers every request that it accepts, and reports it to the
application through a queue of eight events.  The two are independent: when the
queue is full the event is dropped and the response goes out all the same.

* `Run.fifo`: the event queue never loses or reorders an event that it stored,
  and it refuses one exactly when eight are waiting.
* `Run.responding`: every response that goes to the radio answers the request
  that was accepted last.
* `accepted_request_delivered`: the two together.
* `accepted_request_dropped`: a responder that answers a request which its
  application never sees.
-/

namespace RadioConnection

namespace DuplexLinkService

open Interaction LinkProg RingBuffer
open Interaction.Prog

/-! ## The event queue -/

def queueOps (h : List HistoryEntry) : List (Op DuplexLinkEvent) :=
  h.filterMap fun
    | .action ⟨.published event stored, _⟩ => some (.push event stored)
    | .taken event => some (.pop event)
    | _ => none

def storedEvents (h : List HistoryEntry) : List DuplexLinkEvent := RingBuffer.pushed (queueOps h)
def takenEvents (h : List HistoryEntry) : List DuplexLinkEvent := RingBuffer.popped (queueOps h)

theorem queueOps_append (h h' : List HistoryEntry) :
    queueOps (h ++ h') = queueOps h ++ queueOps h' := List.filterMap_append

abbrev traceOps (tr : List LinkAction) : List (Op DuplexLinkEvent) :=
  queueOps (tr.map .action)

theorem traceOps_append (tr tr' : List LinkAction) :
    traceOps (tr ++ tr') = traceOps tr ++ traceOps tr' := by
  rw [traceOps, List.map_append, queueOps_append]

/-- The queue of `s` leads to the queue of `s'` along the trace. -/
def QueueStep (s : DuplexLinkService) (tr : List LinkAction) (s' : DuplexLinkService) : Prop :=
  Fifo duplexLinkEventCapacity s.events.toList (traceOps tr) s'.events.toList

theorem QueueStep.cons_push {s s' : DuplexLinkService} {event : DuplexLinkEvent}
    {tr : List LinkAction} (h : QueueStep (s.pushed event) tr s') :
    QueueStep s (atPush s event :: tr) s' :=
  fifo_append_iff.mpr ⟨_, fifo_push s.events event, h⟩

theorem QueueStep.of_eq {s s' : DuplexLinkService} {tr : List LinkAction}
    (htr : traceOps tr = []) (he : s'.events = s.events) : QueueStep s tr s' := by
  rw [QueueStep, htr, he]
  rfl

theorem RetryOrFail.queueStep {s s' : DuplexLinkService} {tr : List LinkAction}
    (h : RetryOrFail s tr s') : QueueStep s tr s' := by
  cases h with
  | fail now => exact fifo_push s.events s.failedEvent
  | _ => exact .of_eq rfl rfl

theorem DeviceErrorHandled.queueStep {s s' : DuplexLinkService} {errorCode : UInt16}
    {tr : List LinkAction} (h : DeviceErrorHandled s errorCode tr s') : QueueStep s tr s' := by
  cases h with
  | active _ _ h => exact @QueueStep.cons_push s _ (s.deviceErrorEvent errorCode) _ h.queueStep
  | _ => exact fifo_push s.events (s.deviceErrorEvent errorCode)

theorem RequestHandled.queueStep {s s' : DuplexLinkService} {frame : PacketRadioRxFrame}
    {tr : List LinkAction} (h : RequestHandled s frame tr s') : QueueStep s tr s' := by
  cases h with
  | unbuilt _ _ _ h => exact .cons_push (s := s) h.queueStep
  | _ => exact fifo_push s.events _

theorem ResponseHandled.queueStep {s s' : DuplexLinkService} {frame : PacketRadioRxFrame}
    {tr : List LinkAction} (h : ResponseHandled s frame tr s') : QueueStep s tr s' := by
  cases h with
  | rejected _ h => exact .cons_push (s := s) h.queueStep
  | succeeded => exact fifo_push s.events _

theorem EventStep.queueStep {s s' : DuplexLinkService} {event : PacketRadioEvent}
    {tr : List LinkAction} (h : EventStep s event tr s') : QueueStep s tr s' := by
  cases h with
  | unreadResponder => exact fifo_push s.events _
  | unreadInitiator _ _ h => exact .cons_push (s := s) h.queueStep
  | request _ _ _ h => exact h.queueStep
  | response _ _ _ _ h => exact h.queueStep
  | stray => exact fifo_push s.events _
  | timeoutRetry _ _ _ h => exact h.queueStep
  | crcRetry _ _ _ h => exact h.queueStep
  | deviceError _ h => exact h.queueStep
  | _ => exact .of_eq rfl rfl

theorem TimeoutStep.queueStep {s s' : DuplexLinkService} {tr : List LinkAction}
    (h : TimeoutStep s tr s') : QueueStep s tr s' := by
  cases h with
  | none h => exact .of_eq (by cases h <;> rfl) rfl
  | response _ _ _ h => exact h.queueStep
  | requestTx _ _ _ h => exact h.queueStep
  | responseTx => exact .of_eq rfl rfl
  | _ => exact fifo_push s.events _

theorem StartRefused.traceOps {s : DuplexLinkService} {tr rest : List LinkAction}
    (h : StartRefused s tr) : traceOps (tr ++ rest) = DuplexLinkService.traceOps rest := by
  rw [traceOps_append]
  cases h <;> rfl

theorem ActionStep.queueStep {s s' : DuplexLinkService} {tr : List LinkAction}
    (h : ActionStep s tr s') : QueueStep s tr s' := by
  cases h with
  | refused _ hr => exact .of_eq (hr.traceOps.trans rfl) rfl
  | requestLost => exact fifo_push s.events _
  | lost _ _ hr =>
    rw [QueueStep, hr.traceOps]
    exact fifo_push s.events _
  | responseRxRetry _ _ _ h => exact h.queueStep
  | responseGivenUp _ _ _ hr => exact .of_eq (hr.traceOps.trans rfl) rfl
  | _ => exact .of_eq rfl rfl

theorem PartStep.queueStep {s s' : DuplexLinkService} {tr : List LinkAction}
    (h : PartStep s tr s') : QueueStep s tr s' := by
  cases h with
  | event h => exact h.queueStep
  | timeout h => exact h.queueStep
  | action h => exact h.queueStep

/-! ## Histories -/

/-- The environment that writes the history down. -/
def record : Env LinkOp LinkOp.Ans (List HistoryEntry) :=
  fun o h x h' => h' = h ++ [.action ⟨o, x⟩]

theorem path_record_iff {h h' : List HistoryEntry} {tr : List LinkAction} :
    record.Path h tr h' ↔ h' = h ++ tr.map .action := by
  induction tr generalizing h with
  | nil => simp
  | cons x tr ih =>
    rw [List.map_cons, List.append_cons, ← ih]
    constructor
    · rintro ⟨_, rfl, h⟩
      exact h
    · intro h
      exact ⟨_, rfl, h⟩

theorem Processed.keeps_history {I : DuplexLinkService → List HistoryEntry → Prop}
    (hprocess : ∀ s h, I s h → I s (h ++ [.action atRadioProcess]))
    (htake : ∀ s h event, I s h → I s (h ++ [.action (atTake event)]))
    (hpart : ∀ s h tr s', PartStep s tr s' → I s h → I s' (h ++ tr.map .action))
    {s s' : DuplexLinkService} {h : List HistoryEntry} {tr : List LinkAction}
    (hp : Processed s tr s') (hI : I s h) : I s' (h ++ tr.map .action) := by
  have hpath : record.Path h tr (h ++ tr.map .action) := path_record_iff.mpr rfl
  refine hp.keeps ?_ ?_ ?_ hpath hI
  · rintro s h _ rfl hI
    exact hprocess s h hI
  · rintro s e h _ rfl hI
    exact htake s h e hI
  · rintro s tr s' h h' _ hps hpath hI
    obtain rfl := path_record_iff.mp hpath
    exact hpart s h tr s' hps hI

/-- **The event queue of a run is a bounded queue.** -/
theorem Run.fifo {config : DuplexLinkConfig} {h : List HistoryEntry} {s : DuplexLinkService}
    (hrun : Run config h s) :
    Fifo duplexLinkEventCapacity [] (queueOps h) s.events.toList := by
  induction hrun with
  | init h =>
    obtain ⟨-, now, rfl, rfl⟩ := trace_init h
    rfl
  | process _ h ih =>
    refine (trace_process h).keeps_history
      (I := fun s h => Fifo duplexLinkEventCapacity [] (queueOps h) s.events.toList) ?_ ?_ ?_ ih
    · intro s h hI
      rw [queueOps_append]
      exact fifo_append_iff.mpr ⟨_, hI, rfl⟩
    · intro s h event hI
      rw [queueOps_append]
      exact fifo_append_iff.mpr ⟨_, hI, rfl⟩
    · intro s h tr s' hps hI
      rw [queueOps_append]
      exact fifo_append_iff.mpr ⟨_, hI, hps.queueStep⟩
  | start _ h ih =>
    rw [queueOps_append]
    refine fifo_append_iff.mpr ⟨_, ih, ?_⟩
    rcases trace_prepareRequest h with ⟨-, rfl, rfl⟩ | ⟨-, -, now, rfl, rfl⟩ <;> rfl
  | @setResponsePayload h s payload _ ih =>
    obtain ⟨buffer, length, he⟩ := setResponsePayload_fields s payload
    rw [he]
    exact ih
  | takeEvent _ h ih =>
    obtain ⟨events, hp, rfl⟩ := takeEvent_eq_some h
    rw [queueOps_append]
    exact fifo_append_iff.mpr ⟨_, ih, fifo_pop hp⟩

/-! ## Responses -/

/-- The entry reports a request that was accepted as new. -/
def Accepts : HistoryEntry → Prop
  | .action ⟨.published event _, _⟩ => event.type = .requestReceived
  | _ => False

/-- `frame` is a response to the request that was accepted last, which was reported by an
event that was stored or not. -/
structure Answers (h : List HistoryEntry) (frame : LinkFrame) (before : List HistoryEntry)
    (event : DuplexLinkEvent) (stored : Bool) : Prop where
  accepted : event.type = .requestReceived
  last : ∃ between, h = before ++ .action (atPublished event stored) :: between ∧
    ∀ e ∈ between, ¬ Accepts e
  response : ∃ response : LinkPacket, frame = response.frame ∧
    response.acknowledgedSequence = event.packet.sequence

theorem Answers.append {h : List HistoryEntry} {frame : LinkFrame} {before : List HistoryEntry}
    {event : DuplexLinkEvent} {stored : Bool} (ha : Answers h frame before event stored)
    {h' : List HistoryEntry} (hq : ∀ e ∈ h', ¬ Accepts e) :
    Answers (h ++ h') frame before event stored := by
  obtain ⟨between, rfl, hb⟩ := ha.last
  refine ⟨ha.accepted, ⟨between ++ h', by simp, ?_⟩, ha.response⟩
  intro e he
  rcases List.mem_append.mp he with he | he
  · exact hb e he
  · exact hq e he

abbrev txEntry (data : List UInt8) (started : Bool) : HistoryEntry :=
  .action ⟨.tryStartTx data, started⟩

/-- Everything that was handed to the radio was a response to the request accepted last. -/
def AllAnswered (h : List HistoryEntry) : Prop :=
  ∀ pre data started, pre ++ [txEntry data started] <+: h →
    ∃ frame before event stored, data = frame.toList ∧ Answers pre frame before event stored

theorem AllAnswered.concat {h : List HistoryEntry} (ha : AllAnswered h) {e : HistoryEntry}
    (he : ∀ data started, e = txEntry data started →
      ∃ frame before event stored, data = frame.toList ∧ Answers h frame before event stored) :
    AllAnswered (h ++ [e]) := by
  intro pre data started hpre
  rcases List.prefix_concat_iff.mp hpre with hpre | hpre
  · obtain ⟨rfl, hlast⟩ := List.append_inj' hpre rfl
    exact he data started (List.singleton_inj.mp hlast).symm
  · exact ha pre data started hpre

/-- An entry that is neither a transmission nor an accepted request. -/
structure Passive (e : HistoryEntry) : Prop where
  not_accepts : ¬ Accepts e
  not_tx : ∀ data started, e ≠ txEntry data started

theorem Quiet.passive {a : LinkAction} (h : Quiet a) : Passive (.action a) := by
  obtain ⟨o, x⟩ := a
  refine ⟨?_, ?_⟩
  · cases o with
    | published event stored =>
      intro hacc
      exact h (by rw [show event.type = .requestReceived from hacc]; simp)
    | _ => exact id
  · rintro data started he
    cases he
    exact h

structure Responding (s : DuplexLinkService) (h : List HistoryEntry) : Prop where
  role : s.config.role = .responder
  consistent : Consistent s
  payload : PayloadReady s
  cached : s.hasCachedResponse = true →
    ∃ before event stored, Answers h s.cachedResponseFrame before event stored
  answered : AllAnswered h

namespace Responding

variable {s s' : DuplexLinkService} {h : List HistoryEntry} {tr : List LinkAction}

theorem of_memory (hs : Responding s h) (hc : Consistent s') (hm : s'.memory = s.memory) :
    Responding s' h := by
  have hconfig : s'.config = s.config := congrArg LinkMemory.config hm
  have hlength : s'.responsePayloadLength = s.responsePayloadLength :=
    congrArg LinkMemory.responsePayloadLength hm
  have hcached : s'.hasCachedResponse = s.hasCachedResponse :=
    congrArg LinkMemory.hasCachedResponse hm
  have hframe : s'.cachedResponseFrame = s.cachedResponseFrame :=
    congrArg LinkMemory.cachedResponseFrame hm
  refine ⟨by rw [hconfig]; exact hs.role, hc, ?_, by rw [hcached, hframe]; exact hs.cached,
    hs.answered⟩
  rw [PayloadReady, hlength]
  exact hs.payload

theorem concat_passive (hs : Responding s h) {e : HistoryEntry} (he : Passive e) :
    Responding s (h ++ [e]) where
  role := hs.role
  consistent := hs.consistent
  payload := hs.payload
  cached hcached := by
    obtain ⟨before, event, stored, ha⟩ := hs.cached hcached
    exact ⟨before, event, stored, ha.append (by simpa using he.not_accepts)⟩
  answered := hs.answered.concat fun data started h => absurd h (he.not_tx data started)

theorem append_passive (hs : Responding s h) {h' : List HistoryEntry} (hp : ∀ e ∈ h', Passive e) :
    Responding s (h ++ h') := by
  induction h' generalizing h with
  | nil => simpa using hs
  | cons e h' ih =>
    rw [List.append_cons]
    exact ih (hs.concat_passive (hp e (.head h'))) fun e' he' => hp e' (.tail e he')

theorem append_quiet (hs : Responding s h) (hq : ∀ a ∈ tr, Quiet a) :
    Responding s (h ++ tr.map .action) := by
  refine hs.append_passive fun e he => ?_
  obtain ⟨a, ha, rfl⟩ := List.mem_map.mp he
  exact (hq a ha).passive

theorem concat_tx (hs : Responding s h) (hcached : s.hasCachedResponse = true) (started : Bool) :
    Responding s (h ++ [txEntry s.cachedResponseFrame.toList started]) where
  role := hs.role
  consistent := hs.consistent
  payload := hs.payload
  cached hcached := by
    obtain ⟨before, event, stored, ha⟩ := hs.cached hcached
    exact ⟨before, event, stored, ha.append (by simp [Accepts])⟩
  answered := by
    refine hs.answered.concat fun data started he => ?_
    cases he
    obtain ⟨before, event, stored, ha⟩ := hs.cached hcached
    exact ⟨_, before, event, stored, rfl, ha⟩

theorem concat_accepted (hs : Responding s h) {request : LinkPacket} (hc : Consistent s')
    (hm : s'.memory = s.memory.accepted request (s.response request).frame)
    (frame : PacketRadioRxFrame) (stored : Bool) :
    Responding s' (h ++ [.action (atPublished (requestEvent request frame) stored)]) where
  role := by
    rw [show s'.config = s.config from congrArg LinkMemory.config hm]
    exact hs.role
  consistent := hc
  payload := by
    rw [PayloadReady, show s'.responsePayloadLength = s.responsePayloadLength from
      congrArg LinkMemory.responsePayloadLength hm]
    exact hs.payload
  cached _ := by
    rw [show s'.cachedResponseFrame = (s.response request).frame from
      congrArg LinkMemory.cachedResponseFrame hm]
    exact ⟨h, requestEvent request frame, stored, rfl, ⟨[], rfl, by simp⟩, _, rfl, rfl⟩
  answered := hs.answered.concat fun data started he => by cases he

theorem partStep (hps : PartStep s tr s') (hs : Responding s h) :
    Responding s' (h ++ tr.map .action) := by
  have hc := hps.consistent hs.consistent
  cases hps.move hs.payload with
  | quiet hq hm => exact (hs.of_memory hc hm).append_quiet hq
  | requestTx hst =>
    have := (hs.consistent.busy (by simp [hst])).1
    rw [hs.role] at this
    cases this
  | @responseTx started tr _ _ hcached hq hm =>
    rw [List.map_cons, List.append_cons]
    exact ((hs.concat_tx hcached started).of_memory hc hm).append_quiet hq
  | @received frame request now _ _ _ _ hm =>
    have hread := hs.concat_passive (Quiet.passive (a := atRead (some frame)) trivial)
    have haccepted := hread.concat_accepted hc hm frame (!s.events.isFull)
    have hnow := haccepted.concat_passive (Quiet.passive (a := atNow now) trivial)
    simpa using hnow
  | @duplicate frame request now _ _ _ _ hm =>
    have hread := hs.concat_passive (Quiet.passive (a := atRead (some frame)) trivial)
    have hpush := hread.concat_passive (e := .action (atPush s (duplicateEvent request frame)))
      ⟨by simp [Accepts, duplicateEvent], by simp⟩
    have hnow := hpush.concat_passive (Quiet.passive (a := atNow now) trivial)
    simpa using hnow.of_memory hc hm
  | succeeded hr =>
    rw [hs.role] at hr
    cases hr

end Responding

/-- **A run of a responder**: every response answers the request accepted last. -/
theorem Run.responding {config : DuplexLinkConfig} {h : List HistoryEntry} {s : DuplexLinkService}
    (hrun : Run config h s) (hrole : config.role = .responder) : Responding s h := by
  induction hrun with
  | init h =>
    obtain ⟨-, now, rfl, rfl⟩ := trace_init h
    have hnil : Responding (initial config now) [] :=
      ⟨hrole, consistent_initial _ now, rfl, fun h => (by cases h),
        fun pre data started hpre => (by simp at hpre)⟩
    exact hnil.concat_passive (Quiet.passive (a := atNow now) trivial)
  | process _ h ih =>
    exact (trace_process h).keeps_history
      (fun s h hI => hI.concat_passive (Quiet.passive (a := atRadioProcess) trivial))
      (fun s h event hI => hI.concat_passive (Quiet.passive (a := atTake event) trivial))
      (fun s h tr s' hps hI => hI.partStep hps) ih
  | start _ h ih =>
    rcases trace_prepareRequest h with ⟨-, rfl, rfl⟩ | ⟨-, hc, now, rfl, rfl⟩
    · simpa using ih
    · have := hc.role
      rw [ih.role] at this
      cases this
  | @setResponsePayload h s payload _ ih =>
    rcases setResponsePayload_eq s payload with he | ⟨hl, he⟩ <;> rw [he]
    · exact ih
    · generalize payloadBuffer payload = buffer
      exact ⟨ih.role, ih.consistent, payloadLengthIsValid_toUInt8 hl, ih.cached, ih.answered⟩
  | @takeEvent h s s' event _ htake ih =>
    obtain ⟨events, hp, rfl⟩ := takeEvent_eq_some htake
    have hs : Responding { s with events := events } h := ih.of_memory ih.consistent rfl
    exact hs.concat_passive (e := .taken event) ⟨id, by simp⟩

/-! ## What the application gets -/

/-- The events that `n` calls of `duplex_link_service_take_event` in a row return. -/
def takeAll : Nat → DuplexLinkService → List DuplexLinkEvent
  | 0, _ => []
  | n + 1, s =>
    match s.takeEvent with
    | none => []
    | some (event, s') => event :: takeAll n s'

theorem takeAll_eq {n : Nat} {s : DuplexLinkService} (h : s.events.toList.length ≤ n) :
    takeAll n s = s.events.toList := by
  induction n generalizing s with
  | zero => rw [takeAll, List.length_eq_zero_iff.mp (Nat.le_zero.mp h)]
  | succ n ih =>
    rw [takeAll]
    cases hl : s.events.toList with
    | nil => simp [takeEvent, pop_eq_none_iff.mpr hl]
    | cons event l =>
      obtain ⟨events, hp, rfl⟩ := pop_eq_some_of_toList hl
      have htake : s.takeEvent = some (event, { s with events := events }) := by
        rw [takeEvent, hp]
        rfl
      rw [hl, List.length_cons] at h
      simp only [htake]
      rw [ih (s := { s with events := events }) (Nat.le_of_succ_le_succ h)]

theorem takeAll_capacity (s : DuplexLinkService) :
    takeAll duplexLinkEventCapacity s = s.events.toList :=
  takeAll_eq (by rw [toList_length]; exact s.events.count_le)

/-- An event that was stored is taken, or waits, at its place in the order of the stores, and
one is refused exactly when eight wait. -/
theorem Run.published {config : DuplexLinkConfig} {h before after : List HistoryEntry}
    {s : DuplexLinkService} {event : DuplexLinkEvent} {stored : Bool} (hrun : Run config h s)
    (hh : h = before ++ .action (atPublished event stored) :: after) :
    (stored = true → (takenEvents h ++ takeAll duplexLinkEventCapacity s)[
      (storedEvents before).length]? = some event) ∧
    (stored = false ↔ (storedEvents before).length =
      (takenEvents before).length + duplexLinkEventCapacity) := by
  have hops : queueOps h = queueOps before ++ .push event stored :: queueOps after := by
    rw [hh, queueOps_append]
    rfl
  have hfifo := hrun.fifo
  have heq := hfifo.pushed_eq
  rw [hops] at hfifo
  obtain ⟨q, hbefore, hstored, -⟩ := fifo_append_iff.mp hfifo
  have hq := hbefore.pushed_eq
  have hlength := hbefore.length_le (Nat.zero_le _)
  rw [List.nil_append] at heq hq
  constructor
  · rintro rfl
    rw [takeAll_capacity, takenEvents, ← heq, hops, RingBuffer.pushed_append]
    change (storedEvents before ++ event :: _)[_]? = _
    rw [List.getElem?_append_right le_rfl, Nat.sub_self, List.getElem?_cons_zero]
  · rw [hstored, decide_eq_false_iff_not, storedEvents, takenEvents, hq, List.length_append]
    omega

/-- **Delivery**: a response that goes to the radio answers the request that was accepted as
new last.  Its event has been stored, and further calls of `take_event` return it in its turn,
unless eight events were waiting when the request was accepted. -/
theorem accepted_request_delivered {config : DuplexLinkConfig} {h : List HistoryEntry}
    {s : DuplexLinkService} (hrun : Run config h s) (hrole : config.role = .responder)
    {pre : List HistoryEntry} {data : List UInt8} {started : Bool}
    (hpre : pre ++ [txEntry data started] <+: h) :
    ∃ frame before event stored, data = frame.toList ∧ Answers pre frame before event stored ∧
      (stored = true → (takenEvents h ++ takeAll duplexLinkEventCapacity s)[
        (storedEvents before).length]? = some event) ∧
      (stored = false ↔ (storedEvents before).length =
        (takenEvents before).length + duplexLinkEventCapacity) := by
  obtain ⟨frame, before, event, stored, rfl, ha⟩ :=
    (hrun.responding hrole).answered pre data started hpre
  obtain ⟨between, rfl, -⟩ := ha.last
  obtain ⟨after, rfl⟩ := hpre
  have hsplit : before ++ .action (atPublished event stored) :: between ++
      [txEntry frame.toList started] ++ after =
      before ++ .action (atPublished event stored) ::
        (between ++ ([txEntry frame.toList started] ++ after)) := by simp
  exact ⟨frame, before, event, stored, rfl, ha, hrun.published hsplit⟩

/-! ## A responder with room and one without -/

def answererConfig : DuplexLinkConfig where
  role := .responder
  localNodeId := 2
  peerNodeId := 1
  initialSequence := 0
  responseTimeoutMs := 100
  operationTimeoutMs := 100
  maxRetries := 0

def answerer : DuplexLinkService := initial answererConfig 0

theorem answerer_run : Run answererConfig [.action (atNow 0)] answerer :=
  .init (trace_init_of rfl 0)

def answererPing : LinkPacket where
  messageType := .ping
  sourceId := 1
  destinationId := 2
  sequence := 0
  acknowledgedSequence := 0
  payloadLength := 10
  flags := 0
  payload := Vector.replicate _ 0

def answererPingFrame : PacketRadioRxFrame := ⟨answererPing.frame.toList, 0, 0⟩

theorem checkRequest_answererPing {s : DuplexLinkService} (hc : s.config = answererConfig) :
    s.checkRequest answererPingFrame = .accept answererPing := by
  refine (@checkRequest_frame s answererPing answererPingFrame rfl ?_ ?_ rfl rfl).trans rfl <;>
    rw [hc] <;> rfl

def readyAnswerer : DuplexLinkService := answerer.goto .responderRx 0

theorem readyAnswerer_run : ∃ h, Run answererConfig h readyAnswerer :=
  ⟨_, .process answerer_run (trace_process_of (by decide) (by decide) (trace_pollEvents_nil 0 _)
    (by decide) (by decide) (trace_responderRx rfl 0))⟩

theorem accepted_request_delivered_answerer :
    ∃ h s pre data, Run answererConfig h s ∧ pre ++ [txEntry data true] <+: h ∧
      ∃ frame before event stored, data = frame.toList ∧ Answers pre frame before event stored ∧
        (stored = true → (takenEvents h ++ takeAll duplexLinkEventCapacity s)[
          (storedEvents before).length]? = some event) ∧
        (stored = false ↔ (storedEvents before).length =
          (takenEvents before).length + duplexLinkEventCapacity) := by
  obtain ⟨h, hready⟩ := readyAnswerer_run
  have hrun := hready.process (trace_accepting rfl rfl (rfl : readyAnswerer.PayloadReady)
    (checkRequest_answererPing rfl) (by decide) 0)
  refine ⟨_, _, h ++ (atRadioProcess :: atTake (some rxDone) :: atRead (some answererPingFrame) ::
    [atPush readyAnswerer (requestEvent answererPing answererPingFrame), atNow 0,
      atTake none]).map .action, (readyAnswerer.response answererPing).frame.toList, hrun, ?_, ?_⟩
  · exact ⟨[.action (atNow 0)], by simp⟩
  · refine accepted_request_delivered hrun rfl (?_ : _ ++ [txEntry _ true] <+: _)
    exact ⟨[.action (atNow 0)], by simp⟩

/-- The responder after a reception that it could not read. -/
def unread (s : DuplexLinkService) : DuplexLinkService :=
  (s.refused .rxFrame .invalidArgument none none).goto .startResponderRx 0

theorem trace_unread_iterate (n : Nat) {s : DuplexLinkService} (hr : s.config.role = .responder)
    (he : s.state = .startResponderRx) :
    ∃ tr, Trace (pollEvents (n + 1) s) tr (some (unread^[n] s)) ∧ ∀ a ∈ tr, Quiet a := by
  induction n generalizing s with
  | zero => exact ⟨_, trace_pollEvents_nil 0 s, by simp [Quiet]⟩
  | succ n ih =>
    obtain ⟨tr, htr, hq⟩ := ih (s := unread s) hr rfl
    refine ⟨_, trace_pollEvents_cons (trace_unread hr 0) (by simp) htr, ?_⟩
    simpa [Quiet, invalidEvent] using hq

/-- The responder in reception, with eight events that nobody took. -/
def fullAnswerer : DuplexLinkService := (unread^[8] answerer).goto .responderRx 0

/-- **A request that is answered and never delivered**: the queue was full when it came. -/
theorem accepted_request_dropped : ¬ ∀ config h s, Run config h s → config.role = .responder →
    ∀ pre data started, pre ++ [txEntry data started] <+: h →
      ∃ frame before event, data = frame.toList ∧ Answers pre frame before event true := by
  intro hclaim
  obtain ⟨tr, hunread, hq⟩ := trace_unread_iterate 8 (s := answerer) rfl rfl
  have hfull : Run answererConfig _ fullAnswerer := .process answerer_run (trace_process_of
    (by decide) (by decide) hunread (by decide) (by decide) (trace_responderRx rfl 0))
  have hanswered := hfull.process (trace_accepting rfl rfl (rfl : fullAnswerer.PayloadReady)
    (checkRequest_answererPing rfl) (by decide) 0)
  -- everything before the transmission
  let pre : List HistoryEntry := [.action (atNow 0)] ++
    (atRadioProcess :: (tr ++ [atRx 0 true, atNow 0])).map .action ++
    (atRadioProcess :: atTake (some rxDone) :: atRead (some answererPingFrame) ::
      [atPush fullAnswerer (requestEvent answererPing answererPingFrame), atNow 0,
        atTake none]).map .action
  obtain ⟨frame, before, event, -, ha⟩ := hclaim _ _ _ hanswered rfl pre
    (fullAnswerer.response answererPing).frame.toList true ⟨[.action (atNow 0)], by simp [pre]⟩
  obtain ⟨between, hlast, -⟩ := ha.last
  have hmem : .action (atPublished event true) ∈ pre := by
    rw [hlast]
    simp
  have hfullQueue : fullAnswerer.events.isFull = true := by decide
  simp [pre, hfullQueue] at hmem
  have hquiet := hq _ hmem
  exact hquiet (by rw [ha.accepted]; simp)

end DuplexLinkService

end RadioConnection
