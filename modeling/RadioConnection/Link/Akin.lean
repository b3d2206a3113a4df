import RadioConnection.Lib.Lockstep
import RadioConnection.Link.ClockShift
import RadioConnection.Link.Session

/-!
# What the link service does not read

The service fills its event queue and its statistics, but decides nothing by
them, and while it waits in `RESPONDER_RX` it does not read the start of its
state.  Two services that are alike in everything else make the same calls.

* `QueuePairs`: the calls that the two make in pairs; an event may be stored by
  one and dropped by the other.
* `Akin`: the relation of the two services.
* `Akin.setState`, `Akin.pushEvent`, ..., `Akin.prepareRequest`: each
  function of the service keeps the relation, in lockstep.
* `Turn`: a call of the application, or the next part of a call of
  `duplex_link_service_process`; `Akin.turn` puts the functions together.
-/

namespace RadioConnection

open Interaction

/-- The same calls with the same answers, whatever has become of an event. -/
inductive QueuePairs : Pairs LinkOp LinkOp.Ans
  | same (o : LinkOp) : QueuePairs o o (· = ·)
  | published (event : DuplexLinkEvent) (stored stored' : Bool) :
      QueuePairs (.published event stored) (.published event stored') fun _ _ => True

namespace DuplexLinkService

open LinkProg
open Interaction.Prog

@[simps] def aside (events : RingBuffer DuplexLinkEvent duplexLinkEventCapacity)
    (stats : DuplexLinkStats) (started : UInt32) (s : DuplexLinkService) : DuplexLinkService :=
  { s with events := events, stats := stats, stateStartedMs := started }

/-- **The relation of the two services**: all fields are the same, apart from those that are not
read. -/
def Akin (s t : DuplexLinkService) : Prop :=
  ∃ events stats started, (s.state ≠ .responderRx → started = s.stateStartedMs) ∧
    t = s.aside events stats started

variable {s t : DuplexLinkService}

/-! ## Helpers -/

theorem Akin.refl (s : DuplexLinkService) : Akin s s :=
  ⟨s.events, s.stats, s.stateStartedMs, fun _ => rfl, rfl⟩

theorem Akin.count (h : Akin s t) (f : DuplexLinkStats → DuplexLinkStats) :
    Akin (s.count f) (t.count f) := by
  obtain ⟨events, stats, started, hs, rfl⟩ := h
  exact ⟨events, f stats, started, hs, rfl⟩

theorem akin_ask (o : LinkOp) :
    Lockstep QueuePairs (· = ·) (Prog.ask o : LinkProg o.Ans) (Prog.ask o) := .ask (.same o)

theorem Akin.setState (h : Akin s t) (state : DuplexLinkState) :
    Lockstep QueuePairs Akin (s.setState state) (t.setState state) := by
  obtain ⟨events, stats, started, -, rfl⟩ := h
  refine (akin_ask .nowMs).bind ?_
  rintro now _ rfl
  exact .pure ⟨events, stats, now, fun _ => rfl, rfl⟩

theorem pushEvent_eq (s : DuplexLinkService) (event : DuplexLinkEvent) :
    s.pushEvent event = published event (!s.events.isFull) >>= fun _ => pure (s.pushed event) := by
  rw [DuplexLinkService.pushEvent]
  cases hfull : s.events.isFull with
  | true =>
    rw [if_pos rfl, pushed, RingBuffer.push_of_isFull hfull]
    rfl
  | false => rfl

theorem Akin.pushEvent (h : Akin s t) (event : DuplexLinkEvent) :
    Lockstep QueuePairs Akin (s.pushEvent event) (t.pushEvent event) := by
  obtain ⟨events, stats, started, hs, rfl⟩ := h
  rw [pushEvent_eq, pushEvent_eq]
  refine (Lockstep.ask (.published event _ _)).bind fun _ _ _ => ?_
  exact .pure ⟨events.push event, stats, started, hs, rfl⟩

theorem Akin.publishInvalid (h : Akin s t) (reason : DuplexLinkInvalidReason)
    (status : LinkPacketStatus) (packet : Option LinkPacket)
    (frame : Option PacketRadioRxFrame) :
    Lockstep QueuePairs Akin (s.publishInvalid reason status packet frame)
      (t.publishInvalid reason status packet frame) :=
  (h.count countInvalid).pushEvent (invalidEvent reason status packet frame)

theorem Akin.finishFailedExchange (h : Akin s t) :
    Lockstep QueuePairs Akin s.finishFailedExchange t.finishFailedExchange := by
  obtain ⟨events, stats, started, hs, rfl⟩ := h
  have hgaveUp : Akin s.gaveUp (s.aside events stats started).gaveUp :=
    ⟨events, _, started, hs, rfl⟩
  exact (hgaveUp.setState .idle).bind fun u u' hu => hu.pushEvent s.failedEvent

theorem Akin.retryOrFail (h : Akin s t) :
    Lockstep QueuePairs Akin s.retryOrFail t.retryOrFail := by
  have hfail := h.finishFailedExchange
  have hidle := h.setState .idle
  obtain ⟨events, stats, started, hs, rfl⟩ := h
  have hretried : Akin s.retried (s.aside events stats started).retried :=
    ⟨events, _, started, hs, rfl⟩
  rw [DuplexLinkService.retryOrFail, DuplexLinkService.retryOrFail]
  simp only [aside_requestActive, aside_retryCount, aside_config]
  split
  · exact hidle
  · split
    · refine (hretried.setState .startRequestTx).bind fun u u' hu => ?_
      obtain ⟨events, stats, started, hs, rfl⟩ := hu
      exact (akin_ask _).bind fun _ _ _ => .pure ⟨events, stats, started, hs, rfl⟩
    · exact hfail

def AkinResult {α : Type} (x x' : α × DuplexLinkService) : Prop := x.1 = x'.1 ∧ Akin x.2 x'.2

theorem Akin.recoverRadio (h : Akin s t) (errorCode : UInt16) :
    Lockstep QueuePairs AkinResult (s.recoverRadio errorCode) (t.recoverRadio errorCode) := by
  refine (akin_ask .recover).bind ?_
  rintro recovered _ rfl
  cases recovered with
  | true => exact .pure ⟨rfl, h⟩
  | false =>
    refine ((h.count countDeviceError).setState .error).bind fun u u' hu => ?_
    exact (hu.pushEvent (recoveryEvent errorCode)).bind fun v v' hv => .pure ⟨rfl, hv⟩

theorem Akin.config_eq (h : Akin s t) : t.config = s.config := by
  obtain ⟨events, stats, started, -, rfl⟩ := h
  rfl

theorem Akin.state_eq (h : Akin s t) : t.state = s.state := by
  obtain ⟨events, stats, started, -, rfl⟩ := h
  rfl

theorem Akin.handleDeviceError (h : Akin s t) (errorCode : UInt16) :
    Lockstep QueuePairs Akin (s.handleDeviceError errorCode) (t.handleDeviceError errorCode) := by
  have hpush := (h.count countDeviceError).pushEvent (s.deviceErrorEvent errorCode)
  obtain ⟨events, stats, started, -, rfl⟩ := h
  refine hpush.bind fun u u' hu => ?_
  refine (akin_ask .recover).bind ?_
  rintro recovered _ rfl
  have hactive : u'.requestActive = u.requestActive := by
    obtain ⟨events, stats, started, -, rfl⟩ := hu
    rfl
  cases recovered with
  | true =>
    simp only [if_true, hu.config_eq, hactive]
    split
    · exact hu.setState .startResponderRx
    · split
      · exact hu.retryOrFail
      · exact hu.setState .idle
  | false => exact hu.setState .error

/-! ## Received frames -/

theorem Akin.handleResponderFrame (h : Akin s t) (frame : PacketRadioRxFrame) :
    Lockstep QueuePairs Akin (s.handleResponderFrame frame) (t.handleResponderFrame frame) := by
  have hheard : Akin (s.heard frame) (t.heard frame) := by
    rw [heard, heard, h.config_eq]
    exact h.count _
  have hcheck : t.checkRequest frame = s.checkRequest frame := by
    rw [checkRequest, checkRequest, h.config_eq]
  have hduplicate : ∀ request, t.IsDuplicate request ↔ s.IsDuplicate request := fun request => by
    obtain ⟨events, stats, started, -, rfl⟩ := h
    exact Iff.rfl
  rw [handleResponderFrame_eq, handleResponderFrame_eq, hcheck]
  cases s.checkRequest frame with
  | reject reason status packet =>
    exact (hheard.publishInvalid reason status packet frame).bind fun u u' hu =>
      hu.setState .startResponderRx
  | accept request =>
    simp only [hduplicate request]
    split
    · refine ((hheard.count countDuplicate).pushEvent _).bind fun u u' hu => ?_
      have hcached : u'.hasCachedResponse = u.hasCachedResponse := by
        obtain ⟨events, stats, started, -, rfl⟩ := hu
        rfl
      rw [hcached]
      split
      · exact hu.setState .startResponseTx
      · exact hu.setState .startResponderRx
    · have hremembered : Akin ((s.heard frame).remembered request)
          ((t.heard frame).remembered request) := by
        obtain ⟨events, stats, started, hs, heq⟩ := hheard
        exact ⟨events, stats, started, hs, congrArg (remembered · request) heq⟩
      refine (hremembered.pushEvent (requestEvent request frame)).bind fun u u' hu => ?_
      have hfailed := hu.handleDeviceError duplexLinkInternalError
      have hresponse : u'.response request = u.response request := by
        obtain ⟨events, stats, started, -, rfl⟩ := hu
        rfl
      rw [buildResponse, buildResponse, hresponse]
      cases (u.response request).encode linkPacketEncodedSize with
      | error status => exact hfailed
      | ok response =>
        have hanswered : Akin (u.answered response) (u'.answered response) := by
          obtain ⟨events, stats, started, hs, heq⟩ := hu
          exact ⟨events, stats, started, hs, congrArg (answered · response) heq⟩
        exact hanswered.setState .startResponseTx

theorem Akin.handleInitiatorFrame (h : Akin s t) (frame : PacketRadioRxFrame) :
    Lockstep QueuePairs Akin (s.handleInitiatorFrame frame) (t.handleInitiatorFrame frame) := by
  have hheard : Akin (s.heard frame) (t.heard frame) := by
    rw [heard, heard, h.config_eq]
    exact h.count _
  have hcheck : t.checkResponse frame = s.checkResponse frame := by
    obtain ⟨events, stats, started, -, rfl⟩ := h
    rfl
  rw [handleInitiatorFrame_eq, handleInitiatorFrame_eq, hcheck]
  cases s.checkResponse frame with
  | reject reason status packet =>
    exact (hheard.publishInvalid reason status packet frame).bind fun u u' hu => hu.retryOrFail
  | accept response =>
    have hcompleted : Akin (s.heard frame).completed (t.heard frame).completed := by
      obtain ⟨events, stats, started, hs, heq⟩ := hheard
      exact ⟨events, _, started, hs, congrArg completed heq⟩
    obtain ⟨events, stats, started, -, rfl⟩ := h
    refine (akin_ask (.elapsedMs s.attemptStartedMs)).bind ?_
    rintro rttMs _ rfl
    exact (hcompleted.setState .idle).bind fun u u' hu =>
      hu.pushEvent (s.successEvent response frame rttMs)

theorem Akin.handleRxDone (h : Akin s t) :
    Lockstep QueuePairs Akin s.handleRxDone t.handleRxDone := by
  refine (akin_ask .readRxFrame).bind ?_
  rintro received _ rfl
  cases received with
  | none =>
    refine (h.publishInvalid .rxFrame .invalidArgument none none).bind fun u u' hu => ?_
    rw [hu.config_eq]
    split
    · exact hu.setState .startResponderRx
    · exact hu.retryOrFail
  | some frame =>
    have hactive : t.requestActive = s.requestActive := by
      obtain ⟨events, stats, started, -, rfl⟩ := h
      rfl
    simp only [h.config_eq, h.state_eq, hactive]
    split
    · exact h.handleResponderFrame frame
    · split
      · exact h.handleInitiatorFrame frame
      · exact h.publishInvalid .rxFrame .invalidArgument none frame

theorem Akin.handleRadioEvent (h : Akin s t) (event : PacketRadioEvent) :
    Lockstep QueuePairs Akin (s.handleRadioEvent event) (t.handleRadioEvent event) := by
  rw [DuplexLinkService.handleRadioEvent, DuplexLinkService.handleRadioEvent]
  cases event.type with
  | none => exact .pure h
  | txDone =>
    simp only [h.state_eq]
    split
    · exact h.setState .startResponseRx
    · split
      · exact h.setState .startResponderRx
      · exact .pure h
  | rxDone => exact h.handleRxDone
  | rxTimeout =>
    have hcounted := h.count countTimeout
    obtain ⟨events, stats, started, -, rfl⟩ := h
    simp only [aside_state, aside_config]
    split
    · exact hcounted.retryOrFail
    · split
      · exact hcounted.setState .startResponderRx
      · exact .pure hcounted
  | crcError =>
    have hcounted := h.count countCrcError
    obtain ⟨events, stats, started, -, rfl⟩ := h
    simp only [aside_requestActive, aside_config]
    split
    · exact hcounted.retryOrFail
    · split
      · exact hcounted.setState .startResponderRx
      · exact .pure hcounted
  | deviceError => exact h.handleDeviceError event.deviceErrorCode

/-! ## Time-outs and actions -/

theorem Akin.responseTimedOut_eq (h : Akin s t) : t.responseTimedOut = s.responseTimedOut := by
  obtain ⟨events, stats, started, -, rfl⟩ := h
  rfl

theorem Akin.transmissionTimedOut_eq (h : Akin s t) :
    t.transmissionTimedOut = s.transmissionTimedOut := by
  obtain ⟨events, stats, started, hs, rfl⟩ := h
  by_cases hstate : s.state = .responderRx
  · rw [transmissionTimedOut, transmissionTimedOut, aside_state, hstate]
    rfl
  · rw [hs hstate]
    rfl

theorem Akin.operationTimedOut_eq (h : Akin s t) (hstate : s.state ≠ .responderRx) :
    t.operationTimedOut = s.operationTimedOut := by
  obtain ⟨events, stats, started, hs, rfl⟩ := h
  rw [hs hstate]
  rfl

theorem Akin.processTimeouts (h : Akin s t) :
    Lockstep QueuePairs Akin s.processTimeouts t.processTimeouts := by
  have hrecover := (h.count countTimeout).recoverRadio duplexLinkInternalError
  rw [DuplexLinkService.processTimeouts, DuplexLinkService.processTimeouts, h.responseTimedOut_eq,
    h.transmissionTimedOut_eq]
  refine (Lockstep.refl QueuePairs.same _).bind ?_
  rintro late _ rfl
  cases late with
  | true =>
    refine hrecover.bind ?_
    rintro ⟨recovered, u⟩ ⟨_, u'⟩ ⟨rfl, hu⟩
    cases recovered with
    | true => exact hu.retryOrFail
    | false => exact .pure hu
  | false =>
    refine (Lockstep.refl QueuePairs.same _).bind ?_
    rintro late _ rfl
    cases late with
    | true =>
      refine hrecover.bind ?_
      rintro ⟨recovered, u⟩ ⟨_, u'⟩ ⟨rfl, hu⟩
      cases recovered with
      | true =>
        have hstate : u'.state = u.state := hu.state_eq
        simp only [not_true_eq_false, if_false, hstate]
        split
        · exact hu.retryOrFail
        · exact hu.setState .startResponderRx
      | false => exact .pure hu
    | false => exact .pure h

theorem Akin.refused (h : Akin s t) (hstate : s.state ≠ .responderRx)
    (k : Bool × DuplexLinkService → LinkProg DuplexLinkService)
    (hk : ∀ recovered u u', Akin u u' →
      Lockstep QueuePairs Akin (k (recovered, u)) (k (recovered, u'))) :
    Lockstep QueuePairs Akin
      (s.operationTimedOut >>= fun late =>
        if late then s.recoverRadio duplexLinkInternalError >>= k else pure s)
      (t.operationTimedOut >>= fun late =>
        if late then t.recoverRadio duplexLinkInternalError >>= k else pure t) := by
  rw [h.operationTimedOut_eq hstate]
  refine (Lockstep.refl QueuePairs.same _).bind ?_
  rintro late _ rfl
  cases late with
  | true =>
    refine (h.recoverRadio duplexLinkInternalError).bind ?_
    rintro ⟨recovered, u⟩ ⟨_, u'⟩ ⟨rfl, hu⟩
    exact hk recovered u u' hu
  | false => exact .pure h

theorem Akin.restart (h : Akin s t) :
    Lockstep QueuePairs Akin (nowMs >>= fun now => pure (s.restarted now))
      (nowMs >>= fun now => pure (t.restarted now)) := by
  obtain ⟨events, stats, started, -, rfl⟩ := h
  refine (akin_ask .nowMs).bind ?_
  rintro now _ rfl
  exact .pure ⟨events, stats, now, fun _ => rfl, rfl⟩

theorem Akin.processStateAction (h : Akin s t) :
    Lockstep QueuePairs Akin s.processStateAction t.processStateAction := by
  rw [DuplexLinkService.processStateAction, DuplexLinkService.processStateAction, h.state_eq]
  cases hstate : s.state with
  | startRequestTx =>
    have hrefused := h.refused (by simp [hstate])
      (fun r => nowMs >>= fun now => pure (r.2.restarted now)) fun _ u u' hu => hu.restart
    obtain ⟨events, stats, started, hs, rfl⟩ := h
    refine (akin_ask (.tryStartTx _)).bind ?_
    rintro started' _ rfl
    cases started' with
    | true =>
      refine (akin_ask .nowMs).bind ?_
      rintro now _ rfl
      have hattempted : Akin (s.attempted now) ((s.aside events stats started).attempted now) :=
        ⟨events, _, started, hs, rfl⟩
      exact hattempted.setState .waitRequestTxDone
    | false => exact hrefused
  | startResponseRx =>
    have hrefused := h.refused (by simp [hstate])
      (fun r => if r.1 then r.2.retryOrFail else pure r.2) fun recovered u u' hu => by
        cases recovered with
        | true => exact hu.retryOrFail
        | false => exact .pure hu
    obtain ⟨events, stats, started, hs, rfl⟩ := h
    refine (akin_ask (.tryStartRx _)).bind ?_
    rintro started' _ rfl
    cases started' with
    | true =>
      refine (akin_ask .nowMs).bind ?_
      rintro now _ rfl
      have hwaiting : Akin (s.waitingSince now)
          ((s.aside events stats started).waitingSince now) := ⟨events, stats, started, hs, rfl⟩
      exact hwaiting.setState .waitResponse
    | false => exact hrefused
  | startResponderRx =>
    have hrefused := h.refused (by simp [hstate])
      (fun r => if r.1 then nowMs >>= fun now => pure (r.2.restarted now) else pure r.2)
      fun recovered u u' hu => by
        cases recovered with
        | true => exact hu.restart
        | false => exact .pure hu
    refine (akin_ask (.tryStartRx 0)).bind ?_
    rintro started' _ rfl
    cases started' with
    | true => exact h.setState .responderRx
    | false => exact hrefused
  | startResponseTx =>
    have hrefused := h.refused (by simp [hstate])
      (fun r => if r.1 then r.2.setState .startResponderRx else pure r.2)
      fun recovered u u' hu => by
        cases recovered with
        | true => exact hu.setState .startResponderRx
        | false => exact .pure hu
    have hsent := (h.count countTx).setState .waitResponseTxDone
    obtain ⟨events, stats, started, hs, rfl⟩ := h
    simp only [aside_hasCachedResponse, aside_cachedResponseFrame]
    split
    · refine (akin_ask (.tryStartTx _)).bind ?_
      rintro started' _ rfl
      cases started' with
      | true => exact hsent
      | false => exact hrefused
    · exact hrefused
  | _ => exact .pure h

/-! ## The calls of the application -/

theorem Akin.prepareRequest (h : Akin s t) (messageType : LinkMessageType)
    (payload : List UInt8) :
    Lockstep QueuePairs AkinResult (s.prepareRequest messageType payload)
      (t.prepareRequest messageType payload) := by
  obtain ⟨events, stats, started, hs, rfl⟩ := h
  rw [DuplexLinkService.prepareRequest, DuplexLinkService.prepareRequest]
  simp only [aside_config, aside_state, aside_requestActive, aside_nextSequence]
  split
  · exact .pure ⟨rfl, events, stats, started, hs, rfl⟩
  · split
    · exact .pure ⟨rfl, events, stats, started, hs, rfl⟩
    · refine (akin_ask .nowMs).bind ?_
      rintro now _ rfl
      exact .pure ⟨rfl, events, stats, now, fun _ => rfl, rfl⟩

theorem Akin.setResponsePayload (h : Akin s t) (payload : List UInt8) :
    Akin (s.setResponsePayload payload).2 (t.setResponsePayload payload).2 := by
  obtain ⟨events, stats, started, hs, rfl⟩ := h
  rw [DuplexLinkService.setResponsePayload, DuplexLinkService.setResponsePayload, aside_config]
  split
  · exact ⟨events, stats, started, hs, rfl⟩
  · exact ⟨events, stats, started, hs, rfl⟩

/-! ## Turns -/

/-- The service after `duplex_link_service_take_event`. -/
def afterTake (s : DuplexLinkService) : DuplexLinkService := (s.takeEvent.map Prod.snd).getD s

theorem afterTake_eq (s : DuplexLinkService) :
    ∃ events, s.afterTake = { s with events := events } := by
  cases htake : s.takeEvent with
  | none =>
    refine ⟨s.events, ?_⟩
    rw [afterTake, htake]
    rfl
  | some taken =>
    obtain ⟨events, -, heq⟩ := takeEvent_eq_some htake
    refine ⟨events, ?_⟩
    rw [afterTake, htake]
    exact heq

theorem Akin.afterTake (h : Akin s t) : Akin s.afterTake t.afterTake := by
  obtain ⟨events, stats, started, hs, rfl⟩ := h
  obtain ⟨events₁, h₁⟩ := afterTake_eq s
  obtain ⟨events₂, h₂⟩ := afterTake_eq (s.aside events stats started)
  rw [h₁, h₂]
  exact ⟨events₂, stats, started, hs, rfl⟩

/-- A call of the application; one of `duplex_link_service_process` up to its event loop. -/
def begin (s : DuplexLinkService) : LinkCall → LinkProg (CallPoint × DuplexLinkService)
  | .setResponsePayload payload => pure (.outside, (s.setResponsePayload payload).2)
  | .startData payload => do
    let (_, s) ← s.startData payload
    pure (.outside, s)
  | .startPing payload => do
    let (_, s) ← s.startPing payload
    pure (.outside, s)
  | .process =>
    if s.state = .uninitialized ∨ s.state = .error then pure (.outside, s)
    else do
      LinkProg.radioProcess
      pure (.polling, s)
  | .takeEvent => pure (.outside, s.afterTake)
  | .getState => pure (.outside, s)
  | .isBusy => pure (.outside, s)
  | .getStats => pure (.outside, s)

/-- The next part of the call of `duplex_link_service_process` that is running. -/
def goOn (s : DuplexLinkService) : CallPoint → LinkProg (CallPoint × DuplexLinkService)
  | .outside => pure (.outside, s)
  | .polling => do
    match ← LinkProg.takeEvent with
    | none => pure (.timeouts, s)
    | some event =>
      let s ← s.handleRadioEvent event
      pure (.unlessError .polling s, s)
  | .timeouts => do
    let s ← s.processTimeouts
    pure (.unlessError .action s, s)
  | .action => do
    let s ← s.processStateAction
    pure (.outside, s)

/-- A call of the application, or the next part of the call that is running. -/
inductive Turn
  | call (call : LinkCall)
  | next
  deriving DecidableEq, Repr

/-- A call begins outside of the functions, a part inside of one. -/
def Turn.At : Turn → CallPoint → Prop
  | .call _, point => point = .outside
  | .next, point => point ≠ .outside

def Turn.run (point : CallPoint) (s : DuplexLinkService) :
    Turn → LinkProg (CallPoint × DuplexLinkService)
  | .call start => s.begin start
  | .next => s.goOn point

theorem Akin.unlessError_eq (h : Akin s t) (point : CallPoint) :
    CallPoint.unlessError point t = CallPoint.unlessError point s := by
  rw [CallPoint.unlessError, CallPoint.unlessError, h.state_eq]

theorem Akin.begin (h : Akin s t) (call : LinkCall) :
    Lockstep QueuePairs AkinResult (s.begin call) (t.begin call) := by
  cases call with
  | setResponsePayload payload => exact .pure ⟨rfl, h.setResponsePayload payload⟩
  | startData payload =>
    refine (h.prepareRequest .data payload).bind ?_
    rintro ⟨started, u⟩ ⟨_, u'⟩ ⟨rfl, hu⟩
    exact .pure ⟨rfl, hu⟩
  | startPing payload =>
    refine (h.prepareRequest .ping payload).bind ?_
    rintro ⟨started, u⟩ ⟨_, u'⟩ ⟨rfl, hu⟩
    exact .pure ⟨rfl, hu⟩
  | process =>
    rw [DuplexLinkService.begin, DuplexLinkService.begin, h.state_eq]
    split
    · exact .pure ⟨rfl, h⟩
    · exact (akin_ask .radioProcess).bind fun _ _ _ => .pure ⟨rfl, h⟩
  | takeEvent => exact .pure ⟨rfl, h.afterTake⟩
  | getState => exact .pure ⟨rfl, h⟩
  | isBusy => exact .pure ⟨rfl, h⟩
  | getStats => exact .pure ⟨rfl, h⟩

theorem Akin.goOn (h : Akin s t) (point : CallPoint) :
    Lockstep QueuePairs AkinResult (s.goOn point) (t.goOn point) := by
  cases point with
  | outside => exact .pure ⟨rfl, h⟩
  | polling =>
    refine (akin_ask .takeEvent).bind ?_
    rintro event _ rfl
    cases event with
    | none => exact .pure ⟨rfl, h⟩
    | some event =>
      exact (h.handleRadioEvent event).bind fun u u' hu => .pure ⟨(hu.unlessError_eq _).symm, hu⟩
  | timeouts =>
    exact h.processTimeouts.bind fun u u' hu => .pure ⟨(hu.unlessError_eq _).symm, hu⟩
  | action => exact h.processStateAction.bind fun u u' hu => .pure ⟨rfl, hu⟩

/-- **A turn of two services that are akin.** -/
theorem Akin.turn (h : Akin s t) (turn : Turn) (point : CallPoint) :
    Lockstep QueuePairs AkinResult (turn.run point s) (turn.run point t) := by
  cases turn with
  | call start => exact h.begin start
  | next => exact h.goOn point

end DuplexLinkService

end RadioConnection
