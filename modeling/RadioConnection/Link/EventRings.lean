import RadioConnection.Lib.BoundedQueue
import RadioConnection.Link.Steps
import RadioConnection.Link.Sx128xPacketRadio

/-!
# The event rings

The event queues of the link service and of the radio adapter as the sources
keep them: an array, a head and a count, with nothing said about the two, and
the index arithmetic of each access.  A call on such a ring comes with the
operations that it was for a queue, made of what the functions returned.

* `ofRing`: the rings of the models are these rings, with the bounds as fields;
  `push_ofRing` and `take_ofRing` are the refinement.
* `ServiceRing.Models`, `AdapterRing.Models`: the functions of the models do to
  their rings what the functions here do, and return the same.
* `event_rings_bounded_fifo`: every sequence of calls is one of a bounded
  first-in-first-out queue.
-/

namespace RadioConnection

open Interaction

/-! ## Rings -/

/-- The fields of a ring in its record. -/
structure EventRing (α : Type) (capacity : ℕ) where
  events : Vector α capacity
  eventHead : ℕ
  eventCount : ℕ
  deriving DecidableEq

namespace EventRing

variable {α : Type} {capacity : ℕ}

/-- `memset`; `event` is the event of zeros. -/
def zero (event : α) : EventRing α capacity := ⟨Vector.replicate capacity event, 0, 0⟩

def push (ring : EventRing α capacity) (event : α) : Bool × EventRing α capacity :=
  if capacity ≤ ring.eventCount then (false, ring)
  else
    let index := (ring.eventHead + ring.eventCount) % capacity
    (true, { ring with
      events := ring.events.setIfInBounds index event
      eventCount := ring.eventCount + 1 })

/-- `none` when no event waits, and for a head outside the array. -/
def take (ring : EventRing α capacity) : Option α × EventRing α capacity :=
  if ring.eventCount = 0 then (none, ring)
  else (ring.events[ring.eventHead]?, { ring with
    eventHead := (ring.eventHead + 1) % capacity
    eventCount := ring.eventCount - 1 })

def flush (ring : EventRing α capacity) : EventRing α capacity :=
  { ring with eventHead := 0, eventCount := 0 }

def waiting (ring : EventRing α capacity) : List α :=
  (List.range ring.eventCount).filterMap fun i => ring.events[(ring.eventHead + i) % capacity]?

/-! ### Rings with their bounds -/

/-- The fields of a ring of the models. -/
def ofRing (r : RingBuffer α capacity) : EventRing α capacity := ⟨r.slots, r.head, r.count⟩

theorem setIfInBounds_eq_set (events : Vector α capacity) {i : ℕ} (hi : i < capacity) (event : α) :
    events.setIfInBounds i event = events.set i event hi := by
  ext j hj
  rw [Vector.getElem_setIfInBounds hj, Vector.getElem_set]

theorem push_ofRing (r : RingBuffer α capacity) (event : α) :
    (ofRing r).push event = (!r.isFull, ofRing (r.push event)) := by
  by_cases hfull : capacity ≤ r.count
  · have hisFull : r.isFull = true := decide_eq_true hfull
    rw [RingBuffer.push_of_isFull hisFull, hisFull]
    exact if_pos hfull
  · have hisFull : r.isFull = false := decide_eq_false hfull
    have hroom : r.count < capacity := Nat.not_le.mp hfull
    have hindex : (r.head + r.count) % capacity < capacity :=
      Nat.mod_lt _ (Nat.zero_lt_of_lt r.head_lt)
    have hpush : ofRing (r.push event) =
        ⟨r.slots.set ((r.head + r.count) % capacity) event hindex, r.head, r.count + 1⟩ := by
      rw [RingBuffer.push, dif_pos hroom]
      rfl
    rw [hisFull, hpush, ← setIfInBounds_eq_set]
    exact if_neg hfull

theorem take_ofRing (r : RingBuffer α capacity) :
    (ofRing r).take = match r.pop with
      | none => (none, ofRing r)
      | some (event, r') => (some event, ofRing r') := by
  by_cases hempty : r.count = 0
  · rw [RingBuffer.pop, if_neg (Nat.not_lt.mpr hempty.le)]
    exact if_pos hempty
  · have hslot : r.slots[r.head]? = some (r.slot 0) := by
      rw [Vector.getElem?_eq_getElem r.head_lt, RingBuffer.slot, Vector.get_eq_getElem]
      simp only [Nat.add_zero, Nat.mod_eq_of_lt r.head_lt]
    rw [RingBuffer.pop, if_pos (Nat.pos_of_ne_zero hempty)]
    dsimp only
    rw [← hslot]
    exact if_neg hempty

theorem waiting_ofRing (r : RingBuffer α capacity) : (ofRing r).waiting = r.toList := by
  have hslot : ∀ i, r.slots[(r.head + i) % capacity]? = some (r.slot i) := fun i =>
    Vector.getElem?_eq_getElem (Nat.mod_lt _ (Nat.zero_lt_of_lt r.head_lt))
  show (List.range r.count).filterMap (fun i => r.slots[(r.head + i) % capacity]?) = _
  rw [funext hslot, List.filterMap_eq_map']
  rfl

/-! ### Calls -/

/-- The calls one after the other, with the operations that they were. -/
def run {Call : Type} (call : EventRing α capacity → Call →
    List (BoundedQueue.Op α) × EventRing α capacity) (ring : EventRing α capacity) :
    List Call → List (BoundedQueue.Op α) × EventRing α capacity
  | [] => ([], ring)
  | c :: calls =>
    let (ops, ring) := call ring c
    let (ops', ring) := run call ring calls
    (ops ++ ops', ring)

end EventRing

/-! ## The queue of the link service -/

abbrev ServiceRing : Type := EventRing DuplexLinkEvent duplexLinkEventCapacity

/-- `duplex_link_push_event`. -/
def duplexLinkPushEvent (service : ServiceRing) (event : DuplexLinkEvent) : Bool × ServiceRing :=
  service.push event

/-- `duplex_link_service_take_event`. -/
def duplexLinkServiceTakeEvent (service : ServiceRing) : Option DuplexLinkEvent × ServiceRing :=
  service.take

inductive ServiceRingCall
  | pushEvent (event : DuplexLinkEvent)
  | takeEvent

def ServiceRing.call (service : ServiceRing) :
    ServiceRingCall → List (BoundedQueue.Op DuplexLinkEvent) × ServiceRing
  | .pushEvent event =>
    let (pushed, service) := duplexLinkPushEvent service event
    ([.push event pushed], service)
  | .takeEvent =>
    let (taken, service) := duplexLinkServiceTakeEvent service
    ([.take taken], service)

def ServiceRing.init : ServiceRing := .zero {}

/-! ## The queue of the radio adapter -/

abbrev AdapterRing : Type := EventRing PacketRadioEvent sx128xPacketRadioEventCapacity

/-- `sx128x_packet_radio_push_event`. -/
def sx128xPacketRadioPushEvent (adapter : AdapterRing) (type : PacketRadioEventType)
    (deviceErrorCode : UInt16) : Bool × AdapterRing :=
  adapter.push ⟨type, deviceErrorCode⟩

/-- What `sx128x_packet_radio_enter_error` does to the queue, with what its pushes returned. -/
def sx128xPacketRadioEnterError (adapter : AdapterRing) (errorCode : UInt16) :
    List (BoundedQueue.Op PacketRadioEvent) × AdapterRing :=
  let (pushed, adapter) := sx128xPacketRadioPushEvent adapter .deviceError errorCode
  if pushed then ([.push ⟨.deviceError, errorCode⟩ pushed], adapter)
  else
    let (pushedAgain, adapter) := sx128xPacketRadioPushEvent adapter.flush .deviceError
      sx128xPacketRadioErrorEventQueueFull
    ([.push ⟨.deviceError, errorCode⟩ pushed, .flush,
      .push ⟨.deviceError, sx128xPacketRadioErrorEventQueueFull⟩ pushedAgain], adapter)

/-- `sx128x_packet_radio_take_event_impl`. -/
def sx128xPacketRadioTakeEvent (adapter : AdapterRing) : Option PacketRadioEvent × AdapterRing :=
  adapter.take

/-- What `sx128x_packet_radio_recover_impl` does to the queue; `result` is what the commands of
the driver return. -/
def sx128xPacketRadioRecover (adapter : AdapterRing) (result : Sx128xResult) :
    List (BoundedQueue.Op PacketRadioEvent) × AdapterRing :=
  let adapter := adapter.flush
  if result ≠ .ok then
    let (ops, adapter) := sx128xPacketRadioEnterError adapter (Sx128xPacketRadio.driverError result)
    (.flush :: ops, adapter)
  else ([.flush], adapter)

inductive AdapterRingCall
  | pushEvent (type : PacketRadioEventType) (deviceErrorCode : UInt16)
  | enterError (errorCode : UInt16)
  | takeEvent
  | recover (result : Sx128xResult)

def AdapterRing.call (adapter : AdapterRing) :
    AdapterRingCall → List (BoundedQueue.Op PacketRadioEvent) × AdapterRing
  | .pushEvent type deviceErrorCode =>
    let (pushed, adapter) := sx128xPacketRadioPushEvent adapter type deviceErrorCode
    ([.push ⟨type, deviceErrorCode⟩ pushed], adapter)
  | .enterError errorCode => sx128xPacketRadioEnterError adapter errorCode
  | .takeEvent =>
    let (taken, adapter) := sx128xPacketRadioTakeEvent adapter
    ([.take taken], adapter)
  | .recover result => sx128xPacketRadioRecover adapter result

def AdapterRing.init : AdapterRing := .zero ⟨.none, 0⟩

/-! ## The queues of the models -/

section Models

open EventRing DuplexLinkService Prog

variable {s s' : DuplexLinkService} {a a' : Sx128xPacketRadio}

/-- The calls on the ring and on the service of the model do the same. -/
structure ServiceRing.Models (service : ServiceRing) (s : DuplexLinkService) : Prop where
  pushEvent : ∀ event tr s', Trace (DuplexLinkService.pushEvent s event) tr s' →
    tr = [atPublished event (duplexLinkPushEvent service event).1] ∧
      (duplexLinkPushEvent service event).2 = ofRing s'.events
  takeEvent : (duplexLinkServiceTakeEvent service).1 = (DuplexLinkService.takeEvent s).map Prod.fst ∧
    (duplexLinkServiceTakeEvent service).2 =
      ofRing (((DuplexLinkService.takeEvent s).map Prod.snd).getD s).events

theorem ServiceRing.models (s : DuplexLinkService) : ServiceRing.Models (ofRing s.events) s := by
  constructor
  · intro event tr s' ht
    obtain ⟨rfl, rfl⟩ := trace_pushEvent.mp ht
    rw [duplexLinkPushEvent, push_ofRing]
    exact ⟨rfl, rfl⟩
  · rw [duplexLinkServiceTakeEvent, take_ofRing, DuplexLinkService.takeEvent]
    cases s.events.pop with
    | none => exact ⟨rfl, rfl⟩
    | some popped => exact ⟨rfl, rfl⟩

theorem trace_adapterPushEvent {type : PacketRadioEventType} {deviceErrorCode : UInt16}
    {tr : List DriverAction} {stored : Bool}
    (ht : Trace (a.pushEvent type deviceErrorCode) tr (stored, a')) :
    stored = (!a.events.isFull) ∧
      a' = { a with events := a.events.push ⟨type, deviceErrorCode⟩ } := by
  rw [Sx128xPacketRadio.pushEvent] at ht
  cases hfull : a.events.isFull with
  | true =>
    rw [if_pos hfull, trace_bind_iff] at ht
    obtain ⟨_, _, _, -, ht, -⟩ := ht
    obtain ⟨rfl, rfl⟩ := Prod.mk.inj (trace_pure_iff.mp ht).2
    rw [RingBuffer.push_of_isFull hfull]
    exact ⟨rfl, rfl⟩
  | false =>
    rw [if_neg (by simp [hfull])] at ht
    obtain ⟨rfl, rfl⟩ := Prod.mk.inj (trace_pure_iff.mp ht).2
    exact ⟨rfl, rfl⟩

theorem sx128xPacketRadioPushEvent_model {type : PacketRadioEventType} {deviceErrorCode : UInt16}
    {tr : List DriverAction} {stored : Bool}
    (ht : Trace (a.pushEvent type deviceErrorCode) tr (stored, a')) :
    sx128xPacketRadioPushEvent (ofRing a.events) type deviceErrorCode =
      (stored, ofRing a'.events) := by
  obtain ⟨rfl, rfl⟩ := trace_adapterPushEvent ht
  rw [sx128xPacketRadioPushEvent, push_ofRing]

theorem sx128xPacketRadioEnterError_model {errorCode : UInt16} {tr : List DriverAction}
    (ht : Trace (a.enterError errorCode) tr a') :
    (sx128xPacketRadioEnterError (ofRing a.events) errorCode).2 = ofRing a'.events := by
  rw [Sx128xPacketRadio.enterError, trace_bind_iff] at ht
  obtain ⟨⟨stored, a₁⟩, t₁, t₂, h₁, ht, rfl⟩ := ht
  have hpush := sx128xPacketRadioPushEvent_model h₁
  rw [sx128xPacketRadioEnterError]
  dsimp only at ht hpush ⊢
  rw [hpush]
  cases stored with
  | true =>
    obtain ⟨rfl, rfl⟩ := trace_pure_iff.mp ht
    rfl
  | false =>
    rw [if_neg (by decide), trace_bind_iff] at ht
    obtain ⟨⟨stored, a₂⟩, t₃, t₄, h₂, ht, -⟩ := ht
    obtain ⟨-, rfl⟩ := trace_pure_iff.mp ht
    exact congrArg Prod.snd (sx128xPacketRadioPushEvent_model h₂)

/-- The calls on the ring and on the adapter of the model do the same; `result` is what the
commands of a recovery returned. -/
structure AdapterRing.Models (adapter : AdapterRing) (a : Sx128xPacketRadio) : Prop where
  pushEvent : ∀ type deviceErrorCode tr stored a',
    Trace (a.pushEvent type deviceErrorCode) tr (stored, a') →
      sx128xPacketRadioPushEvent adapter type deviceErrorCode = (stored, ofRing a'.events)
  enterError : ∀ errorCode tr a', Trace (a.enterError errorCode) tr a' →
    (sx128xPacketRadioEnterError adapter errorCode).2 = ofRing a'.events
  takeEvent : a.initialized = true →
    sx128xPacketRadioTakeEvent adapter = (a.takeEvent.1, ofRing a.takeEvent.2.events)
  recover : a.initialized = true → ∀ tr recovered a', Trace a.recover tr (recovered, a') →
    ∃ result, (recovered = true ↔ result = .ok) ∧
      (sx128xPacketRadioRecover adapter result).2 = ofRing a'.events

theorem AdapterRing.models (a : Sx128xPacketRadio) : AdapterRing.Models (ofRing a.events) a := by
  refine ⟨fun _ _ _ _ _ => sx128xPacketRadioPushEvent_model,
    fun _ _ _ => sx128xPacketRadioEnterError_model, fun hinit => ?_, fun hinit => ?_⟩
  · rw [sx128xPacketRadioTakeEvent, take_ofRing, Sx128xPacketRadio.takeEvent,
      if_neg (by simp [hinit])]
    cases a.events.pop with
    | none => rfl
    | some popped => rfl
  · intro tr recovered a' ht
    rw [Sx128xPacketRadio.recover, if_neg (by simp [hinit]), trace_bind_iff] at ht
    obtain ⟨result, t₁, t₂, -, ht, rfl⟩ := ht
    refine ⟨result, ?_⟩
    rw [sx128xPacketRadioRecover]
    by_cases hok : result = .ok
    · rw [if_neg (not_not.mpr hok)] at ht ⊢
      obtain ⟨rfl, rfl⟩ := Prod.mk.inj (trace_pure_iff.mp ht).2
      exact ⟨by simp [hok], rfl⟩
    · rw [if_pos hok, trace_bind_iff] at ht
      rw [if_pos hok]
      obtain ⟨a₁, t₃, t₄, h₁, ht, rfl⟩ := ht
      obtain ⟨rfl, rfl⟩ := Prod.mk.inj (trace_pure_iff.mp ht).2
      exact ⟨by simp [hok], sx128xPacketRadioEnterError_model h₁⟩

end Models

/-! ## Every sequence of calls -/

namespace EventRing

variable {α : Type} {capacity : ℕ} {r r' r'' : RingBuffer α capacity}
  {ops ops' : List (BoundedQueue.Op α)}

/-- What was done is what a bounded queue does, and leaves the ring within its bounds. -/
structure Goes (r : RingBuffer α capacity)
    (result : List (BoundedQueue.Op α) × EventRing α capacity) (r' : RingBuffer α capacity) :
    Prop where
  ring_eq : result.2 = ofRing r'
  ops : BoundedQueue.Run capacity r.toList result.1 r'.toList

theorem Goes.append (h : Goes r (ops, ofRing r') r')
    {result : List (BoundedQueue.Op α) × EventRing α capacity} (h' : Goes r' result r'') :
    Goes r (ops ++ result.1, result.2) r'' := ⟨h'.ring_eq, h.ops.append h'.ops⟩

theorem goes_push (r : RingBuffer α capacity) (event : α) :
    Goes r ([.push event ((ofRing r).push event).1], ((ofRing r).push event).2) (r.push event) := by
  rw [push_ofRing]
  refine ⟨rfl, .snoc .nil ?_⟩
  cases hfull : r.isFull with
  | true =>
    have hcount := (RingBuffer.isFull_iff r).mp hfull
    rw [RingBuffer.push_of_isFull hfull]
    exact ⟨by simp [hcount], rfl⟩
  | false =>
    have hcount := (RingBuffer.not_isFull_iff r).mp hfull
    rw [RingBuffer.toList_push hfull]
    exact ⟨by simp [hcount], rfl⟩

theorem goes_take (r : RingBuffer α capacity) :
    ∃ r', Goes r ([.take (ofRing r).take.1], (ofRing r).take.2) r' := by
  rw [take_ofRing]
  cases hpop : r.pop with
  | none =>
    have hnil := RingBuffer.pop_eq_none_iff.mp hpop
    refine ⟨r, rfl, .snoc .nil ?_⟩
    rw [hnil]
    exact ⟨rfl, rfl⟩
  | some popped =>
    obtain ⟨event, r'⟩ := popped
    have hcons := RingBuffer.toList_pop hpop
    refine ⟨r', rfl, .snoc .nil ?_⟩
    rw [hcons]
    exact ⟨rfl, rfl⟩

theorem goes_flush (r : RingBuffer α capacity) : Goes r ([.flush], ofRing r.clear) r.clear :=
  ⟨rfl, .snoc .nil rfl⟩

theorem goes_run {Call : Type} {call : EventRing α capacity → Call →
    List (BoundedQueue.Op α) × EventRing α capacity}
    (hcall : ∀ r c, ∃ r', Goes r (call (ofRing r) c) r') (r : RingBuffer α capacity)
    (calls : List Call) : ∃ r', Goes r (run call (ofRing r) calls) r' := by
  induction calls generalizing r with
  | nil => exact ⟨r, rfl, .nil⟩
  | cons c calls ih =>
    obtain ⟨m, hm⟩ := hcall r c
    obtain ⟨r', hr'⟩ := ih m
    rw [run]
    generalize call (ofRing r) c = result at hm
    obtain ⟨ops, ring⟩ := result
    obtain rfl : ring = ofRing m := hm.ring_eq
    exact ⟨r', hm.append hr'⟩

/-- The ring is a bounded first-in-first-out queue, of which `ops` are the operations. -/
structure BoundedFifo (ops : List (BoundedQueue.Op α)) (ring : EventRing α capacity)
    (push : EventRing α capacity → α → Bool × EventRing α capacity) : Prop where
  head_lt : ring.eventHead < capacity
  count_le : ring.eventCount ≤ capacity
  fifo : BoundedQueue.Run capacity [] ops ring.waiting
  -- since the last flush no accepted event is lost, doubled or reordered
  in_order : BoundedQueue.accepted (BoundedQueue.sinceFlush ops) =
    BoundedQueue.taken (BoundedQueue.sinceFlush ops) ++ ring.waiting
  -- nor is one doubled or reordered over a flush
  once : (BoundedQueue.taken ops ++ ring.waiting).Sublist (BoundedQueue.accepted ops)
  refused_iff : ∀ event, (push ring event).1 = false ↔ ring.waiting.length = capacity
  refused_same : ∀ event, (push ring event).1 = false → (push ring event).2 = ring

theorem Goes.boundedFifo {result : List (BoundedQueue.Op α) × EventRing α capacity}
    (h : Goes r result r') (hr : r.toList = []) : BoundedFifo result.1 result.2 push := by
  have hfifo : BoundedQueue.Run capacity [] result.1 (ofRing r').waiting := by
    rw [waiting_ofRing, ← hr]
    exact h.ops
  rw [h.ring_eq]
  refine ⟨r'.head_lt, r'.count_le, hfifo, hfifo.accepted_sinceFlush, hfifo.sublist, ?_, ?_⟩
  · intro event
    rw [push_ofRing, waiting_ofRing, RingBuffer.toList_length, Bool.not_eq_false']
    exact RingBuffer.isFull_iff r'
  · intro event hrefused
    rw [push_ofRing, Bool.not_eq_false'] at hrefused
    rw [push_ofRing, RingBuffer.push_of_isFull hrefused]

end EventRing

open EventRing

theorem ServiceRing.goes_call (r : RingBuffer _ _) (c : ServiceRingCall) :
    ∃ r', Goes r (ServiceRing.call (ofRing r) c) r' := by
  cases c with
  | pushEvent event => exact ⟨_, goes_push r event⟩
  | takeEvent => exact goes_take r

theorem ServiceRing.not_flushed (service : ServiceRing) (calls : List ServiceRingCall) :
    .flush ∉ (EventRing.run ServiceRing.call service calls).1 := by
  induction calls generalizing service with
  | nil => exact List.not_mem_nil
  | cons c calls ih =>
    rw [EventRing.run]
    refine fun hmem => (List.mem_append.mp hmem).elim (fun hmem => ?_) (ih _)
    cases c with
    | pushEvent event => exact absurd (List.mem_singleton.mp hmem) (by simp)
    | takeEvent => exact absurd (List.mem_singleton.mp hmem) (by simp)

theorem sx128xPacketRadioEnterError_goes (r : RingBuffer _ _) (errorCode : UInt16) :
    ∃ r', Goes r (sx128xPacketRadioEnterError (ofRing r) errorCode) r' ∧
      r'.toList = if r.isFull then [⟨.deviceError, sx128xPacketRadioErrorEventQueueFull⟩]
        else r.toList ++ [⟨.deviceError, errorCode⟩] := by
  have hpush := goes_push r ⟨.deviceError, errorCode⟩
  rw [sx128xPacketRadioEnterError, sx128xPacketRadioPushEvent]
  rw [push_ofRing] at hpush ⊢
  cases hfull : r.isFull with
  | false =>
    rw [hfull] at hpush
    exact ⟨_, hpush, RingBuffer.toList_push hfull _⟩
  | true =>
    rw [hfull, RingBuffer.push_of_isFull hfull] at hpush
    rw [RingBuffer.push_of_isFull hfull]
    have hagain := goes_push r.clear ⟨.deviceError, sx128xPacketRadioErrorEventQueueFull⟩
    refine ⟨_, hpush.append ((goes_flush r).append hagain), ?_⟩
    rw [RingBuffer.toList_push rfl, RingBuffer.toList_clear]
    rfl

theorem AdapterRing.goes_call (r : RingBuffer _ _) (c : AdapterRingCall) :
    ∃ r', Goes r (AdapterRing.call (ofRing r) c) r' := by
  cases c with
  | pushEvent type deviceErrorCode => exact ⟨_, goes_push r ⟨type, deviceErrorCode⟩⟩
  | enterError errorCode =>
    obtain ⟨r', hr', -⟩ := sx128xPacketRadioEnterError_goes r errorCode
    exact ⟨r', hr'⟩
  | takeEvent => exact goes_take r
  | recover result =>
    rw [AdapterRing.call, sx128xPacketRadioRecover]
    by_cases hok : result = .ok
    · rw [if_neg (not_not.mpr hok)]
      exact ⟨_, goes_flush r⟩
    · rw [if_pos hok]
      obtain ⟨r', hr', -⟩ := sx128xPacketRadioEnterError_goes r.clear
        (Sx128xPacketRadio.driverError result)
      exact ⟨r', (goes_flush r).append hr'⟩

/-- **Both event rings are bounded first-in-first-out queues**, by what their functions return, and
after `sx128x_packet_radio_enter_error` the newest event of the adapter's is a device error.  They
are the queues of the models. -/
theorem event_rings_bounded_fifo :
    (∀ calls, let run := EventRing.run ServiceRing.call ServiceRing.init calls
      BoundedFifo run.1 run.2 duplexLinkPushEvent ∧
        BoundedQueue.accepted run.1 = BoundedQueue.taken run.1 ++ run.2.waiting) ∧
    (∀ calls, let run := EventRing.run AdapterRing.call AdapterRing.init calls
      BoundedFifo run.1 run.2
        (fun adapter event =>
          sx128xPacketRadioPushEvent adapter event.type event.deviceErrorCode) ∧
        ∀ errorCode, ∃ earlier event,
          (sx128xPacketRadioEnterError run.2 errorCode).2.waiting = earlier ++ [event] ∧
            event.type = .deviceError) ∧
    (∀ s : DuplexLinkService, ServiceRing.Models (ofRing s.events) s) ∧
    ∀ a : Sx128xPacketRadio, AdapterRing.Models (ofRing a.events) a := by
  refine ⟨fun calls => ?_, fun calls => ?_, ServiceRing.models, AdapterRing.models⟩
  · obtain ⟨r, hr⟩ := goes_run ServiceRing.goes_call (.empty {} (by decide)) calls
    have hfifo := hr.boundedFifo rfl
    have horder := hfifo.in_order
    rw [BoundedQueue.sinceFlush_eq (ServiceRing.not_flushed _ calls)] at horder
    exact ⟨hfifo, horder⟩
  · obtain ⟨r, hr⟩ := goes_run AdapterRing.goes_call (.empty ⟨.none, 0⟩ (by decide)) calls
    refine ⟨hr.boundedFifo rfl, fun errorCode => ?_⟩
    obtain ⟨r', hr', hlist⟩ := sx128xPacketRadioEnterError_goes r errorCode
    have hring : (EventRing.run AdapterRing.call AdapterRing.init calls).2 = ofRing r := hr.ring_eq
    rw [hring, hr'.ring_eq, waiting_ofRing, hlist]
    cases r.isFull with
    | true => exact ⟨[], _, rfl, rfl⟩
    | false => exact ⟨r.toList, _, rfl, rfl⟩

end RadioConnection
