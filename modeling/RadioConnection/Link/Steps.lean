import RadioConnection.Link.Service

/-!
# What each function of the link service can do

The traces of every function of `Service.lean`, written out once: which calls
it makes, with which answers, and the service it returns.  The relations of
this file have a constructor for each way through the code, and the `trace_`
theorems say that every trace is one of them; everything later is derived from
these and unfolds no function of the service.

* `trace_setState`, `trace_pushEvent`, `trace_recoverRadio` and so on for the
  helpers, `RetryOrFail` and `DeviceErrorHandled` for the two that branch.
* `checkRequest` and `checkResponse` are the checks on a received frame as one
  function each; `RequestHandled` and `ResponseHandled` act on their verdict.
* `EventStep`, `TimeoutStep` and `ActionStep` are the three parts of a round of
  `duplex_link_service_process`, and `Processed` a whole call.
-/

namespace RadioConnection

namespace DuplexLinkService

open Interaction LinkProg
open Interaction.Prog

/-! ## Updates of the service -/

@[simps] def goto (s : DuplexLinkService) (state : DuplexLinkState) (now : UInt32) :
    DuplexLinkService := { s with state := state, stateStartedMs := now }

@[simps] def pushed (s : DuplexLinkService) (event : DuplexLinkEvent) : DuplexLinkService :=
  { s with events := s.events.push event }

@[simps] def count (s : DuplexLinkService) (f : DuplexLinkStats → DuplexLinkStats) :
    DuplexLinkService := { s with stats := f s.stats }

@[simps] def retried (s : DuplexLinkService) : DuplexLinkService :=
  { s with
    retryCount := s.retryCount + 1
    stats.retries := s.stats.retries + 1 }

@[simps] def gaveUp (s : DuplexLinkService) : DuplexLinkService :=
  { s with
    stats.failedExchanges := s.stats.failedExchanges + 1
    requestActive := false }

@[simps] def completed (s : DuplexLinkService) : DuplexLinkService :=
  { s with
    stats.completedExchanges := s.stats.completedExchanges + 1
    requestActive := false }

/-- The responder remembers `request` as the last new one. -/
@[simps] def remembered (s : DuplexLinkService) (request : LinkPacket) : DuplexLinkService :=
  { s with
    hasLastRemoteSequence := true
    lastRemoteSequence := request.sequence
    lastRemoteMessageType := request.messageType }

/-- The responder caches `frame` as its response. -/
@[simps] def answered (s : DuplexLinkService) (frame : LinkFrame) : DuplexLinkService :=
  { s with
    cachedResponseFrame := frame
    nextSequence := s.nextSequence + 1
    hasCachedResponse := true }

@[simps] def requested (s : DuplexLinkService) (packet : LinkPacket) : DuplexLinkService :=
  { s with
    pendingRequestFrame := packet.frame
    pendingRequest := packet
    nextSequence := s.nextSequence + 1
    requestActive := true
    retryCount := 0
    attemptCount := 0 }

@[simps] def attempted (s : DuplexLinkService) (now : UInt32) : DuplexLinkService :=
  { s with
    attemptCount := s.attemptCount + 1
    stats.txPackets := s.stats.txPackets + 1
    attemptStartedMs := now }

@[simps] def waitingSince (s : DuplexLinkService) (now : UInt32) : DuplexLinkService :=
  { s with responseWaitStartedMs := now }

@[simps] def restarted (s : DuplexLinkService) (now : UInt32) : DuplexLinkService :=
  { s with stateStartedMs := now }

/-! ## Calls as trace entries -/

abbrev atNow (now : UInt32) : LinkAction := ⟨.nowMs, now⟩
abbrev atElapsed (since elapsed : UInt32) : LinkAction := ⟨.elapsedMs since, elapsed⟩
abbrev atRecover (recovered : Bool) : LinkAction := ⟨.recover, recovered⟩
abbrev atPublished (event : DuplexLinkEvent) (stored : Bool) : LinkAction :=
  ⟨.published event stored, ()⟩
abbrev atRetry (s : DuplexLinkService) : LinkAction :=
  ⟨.logRetry s.pendingRequest.sequence s.retryCount s.config.maxRetries, ()⟩
abbrev atPush (s : DuplexLinkService) (event : DuplexLinkEvent) : LinkAction :=
  atPublished event (!s.events.isFull)

/-! ## Helpers -/

theorem trace_setState {s s' : DuplexLinkService} {state : DuplexLinkState} {tr : List LinkAction} :
    Trace (setState s state) tr s' ↔ ∃ now, tr = [atNow now] ∧ s' = s.goto state now := by
  simp only [setState, nowMs, trace_bind_iff, trace_ask_iff, trace_pure_iff]
  constructor
  · rintro ⟨now, _, _, rfl, ⟨rfl, rfl⟩, rfl⟩
    exact ⟨now, rfl, rfl⟩
  · rintro ⟨now, rfl, rfl⟩
    exact ⟨now, _, _, rfl, ⟨rfl, rfl⟩, rfl⟩

theorem trace_pushEvent {s s' : DuplexLinkService} {event : DuplexLinkEvent}
    {tr : List LinkAction} :
    Trace (pushEvent s event) tr s' ↔ tr = [atPush s event] ∧ s' = s.pushed event := by
  have hpushed (h : s.events.isFull = true) : s.pushed event = s := by
    rw [pushed, RingBuffer.push_of_isFull h]
  have hpush (stored : Bool) (h : s.events.isFull = !stored) :
      atPush s event = atPublished event stored := by
    rw [atPush, h, Bool.not_not]
  cases h : s.events.isFull with
  | true =>
    rw [hpush false h, hpushed h, pushEvent, if_pos h]
    simp only [published, trace_bind_iff, trace_ask_iff, trace_pure_iff]
    constructor
    · rintro ⟨_, _, _, rfl, ⟨rfl, rfl⟩, rfl⟩
      exact ⟨rfl, rfl⟩
    · rintro ⟨rfl, rfl⟩
      exact ⟨(), _, _, rfl, ⟨rfl, rfl⟩, rfl⟩
  | false =>
    rw [hpush true h, pushEvent, if_neg (by simp [h])]
    simp only [published, trace_bind_iff, trace_ask_iff, trace_pure_iff]
    constructor
    · rintro ⟨_, _, _, rfl, ⟨rfl, rfl⟩, rfl⟩
      exact ⟨rfl, rfl⟩
    · rintro ⟨rfl, rfl⟩
      exact ⟨(), _, _, rfl, ⟨rfl, rfl⟩, rfl⟩

def invalidEvent (reason : DuplexLinkInvalidReason) (packetStatus : LinkPacketStatus)
    (packet : Option LinkPacket) (frame : Option PacketRadioRxFrame) : DuplexLinkEvent :=
  { type := .invalidPacket
    invalidReason := reason
    packetStatus := packetStatus
    packet := packet.getD .zero
    rssiDbmX2 := (frame.map (·.rssiDbmX2)).getD 0
    snrDbX4 := (frame.map (·.snrDbX4)).getD 0 }

def countInvalid (stats : DuplexLinkStats) : DuplexLinkStats :=
  { stats with invalidPackets := stats.invalidPackets + 1 }

def countDeviceError (stats : DuplexLinkStats) : DuplexLinkStats :=
  { stats with deviceErrors := stats.deviceErrors + 1 }

def countTimeout (stats : DuplexLinkStats) : DuplexLinkStats :=
  { stats with timeouts := stats.timeouts + 1 }

theorem trace_publishInvalid {s s' : DuplexLinkService} {reason : DuplexLinkInvalidReason}
    {packetStatus : LinkPacketStatus} {packet : Option LinkPacket}
    {frame : Option PacketRadioRxFrame} {tr : List LinkAction} :
    Trace (publishInvalid s reason packetStatus packet frame) tr s' ↔
      tr = [atPush s (invalidEvent reason packetStatus packet frame)] ∧
        s' = (s.count countInvalid).pushed (invalidEvent reason packetStatus packet frame) := by
  rw [publishInvalid, trace_pushEvent]
  rfl

def failedEvent (s : DuplexLinkService) : DuplexLinkEvent :=
  { type := .exchangeFailed, packet := s.pendingRequest, attempts := s.attemptCount }

theorem trace_finishFailedExchange {s s' : DuplexLinkService} {tr : List LinkAction} :
    Trace (finishFailedExchange s) tr s' ↔ ∃ now, tr = [atNow now, atPush s s.failedEvent] ∧
      s' = (s.gaveUp.goto .idle now).pushed s.failedEvent := by
  simp only [finishFailedExchange, trace_bind_iff, trace_setState, trace_pushEvent]
  constructor
  · rintro ⟨_, _, _, ⟨now, rfl, rfl⟩, ⟨rfl, rfl⟩, rfl⟩
    exact ⟨now, rfl, rfl⟩
  · rintro ⟨now, rfl, rfl⟩
    exact ⟨_, _, _, ⟨now, rfl, rfl⟩, ⟨rfl, rfl⟩, rfl⟩

/-- The ways through `duplex_link_retry_or_fail`. -/
inductive RetryOrFail (s : DuplexLinkService) : List LinkAction → DuplexLinkService → Prop
  | inactive (now : UInt32) : s.requestActive = false →
      RetryOrFail s [atNow now] (s.goto .idle now)
  | retry (now : UInt32) : s.requestActive = true → s.retryCount < s.config.maxRetries →
      RetryOrFail s [atNow now, atRetry s.retried] (s.retried.goto .startRequestTx now)
  | fail (now : UInt32) : s.requestActive = true → ¬ s.retryCount < s.config.maxRetries →
      RetryOrFail s [atNow now, atPush s s.failedEvent]
        ((s.gaveUp.goto .idle now).pushed s.failedEvent)

theorem trace_retryOrFail {s s' : DuplexLinkService} {tr : List LinkAction}
    (h : Trace (retryOrFail s) tr s') : RetryOrFail s tr s' := by
  unfold retryOrFail at h
  split at h
  · rename_i ha
    obtain ⟨now, rfl, rfl⟩ := trace_setState.mp h
    exact .inactive now (by simpa using ha)
  · rename_i ha
    split at h
    · rename_i hr
      obtain ⟨service, t₁, t₂, hset, hlog, rfl⟩ := trace_bind_iff.mp h
      obtain ⟨now, rfl, rfl⟩ := trace_setState.mp hset
      obtain ⟨⟨⟩, t₃, t₄, hretry, hreturn, rfl⟩ := trace_bind_iff.mp hlog
      obtain rfl := trace_ask_iff.mp hretry
      obtain ⟨rfl, rfl⟩ := trace_pure_iff.mp hreturn
      exact .retry now (by simpa using ha) hr
    · rename_i hr
      obtain ⟨now, rfl, rfl⟩ := trace_finishFailedExchange.mp h
      exact .fail now (by simpa using ha) hr

def recoveryEvent (errorCode : UInt16) : DuplexLinkEvent :=
  { type := .deviceError, deviceErrorCode := errorCode }

@[simps!] def lost (s : DuplexLinkService) (now : UInt32) (errorCode : UInt16) :
    DuplexLinkService :=
  ((s.count countDeviceError).goto .error now).pushed (recoveryEvent errorCode)

theorem trace_recoverRadio {s s' : DuplexLinkService} {errorCode : UInt16} {recovered : Bool}
    {tr : List LinkAction} :
    Trace (recoverRadio s errorCode) tr (recovered, s') ↔
      (recovered = true ∧ tr = [atRecover true] ∧ s' = s) ∨
      (recovered = false ∧ ∃ now,
        tr = [atRecover false, atNow now, atPush s (recoveryEvent errorCode)] ∧
          s' = s.lost now errorCode) := by
  simp only [recoverRadio, LinkProg.recover, trace_bind_iff, trace_ask_iff]
  constructor
  · rintro ⟨ok, _, t, rfl, h, rfl⟩
    cases ok with
    | true =>
      simp only [if_true, trace_pure_iff] at h
      obtain ⟨rfl, h⟩ := h
      obtain ⟨rfl, rfl⟩ := Prod.mk.inj h
      exact .inl ⟨rfl, rfl, rfl⟩
    | false =>
      simp only [Bool.false_eq_true, if_false, trace_bind_iff, trace_setState, trace_pushEvent,
        trace_pure_iff] at h
      obtain ⟨_, _, _, ⟨now, rfl, rfl⟩, ⟨_, _, _, ⟨rfl, rfl⟩, ⟨rfl, h⟩, rfl⟩, rfl⟩ := h
      obtain ⟨rfl, rfl⟩ := Prod.mk.inj h
      exact .inr ⟨rfl, now, rfl, rfl⟩
  · rintro (⟨rfl, rfl, rfl⟩ | ⟨rfl, now, rfl, rfl⟩)
    · exact ⟨true, _, _, rfl, trace_pure_iff.mpr ⟨rfl, rfl⟩, rfl⟩
    · refine ⟨false, _, [atNow now, atPush s (recoveryEvent errorCode)], rfl, ?_, rfl⟩
      simp only [Bool.false_eq_true, if_false, trace_bind_iff, trace_setState, trace_pushEvent,
        trace_pure_iff]
      exact ⟨_, _, _, ⟨now, rfl, rfl⟩, ⟨_, _, _, ⟨rfl, rfl⟩, ⟨rfl, rfl⟩, rfl⟩, rfl⟩

def deviceErrorEvent (s : DuplexLinkService) (errorCode : UInt16) : DuplexLinkEvent :=
  { type := .deviceError, deviceErrorCode := errorCode, attempts := s.attemptCount }

@[simps!] def reported (s : DuplexLinkService) (errorCode : UInt16) : DuplexLinkService :=
  (s.count countDeviceError).pushed (s.deviceErrorEvent errorCode)

/-- The ways through `duplex_link_handle_device_error`. -/
inductive DeviceErrorHandled (s : DuplexLinkService) (errorCode : UInt16) :
    List LinkAction → DuplexLinkService → Prop
  | lost (now : UInt32) : DeviceErrorHandled s errorCode
      [atPush s (s.deviceErrorEvent errorCode), atRecover false, atNow now]
      ((s.reported errorCode).goto .error now)
  | responder (now : UInt32) : s.config.role = .responder → DeviceErrorHandled s errorCode
      [atPush s (s.deviceErrorEvent errorCode), atRecover true, atNow now]
      ((s.reported errorCode).goto .startResponderRx now)
  | active {tr : List LinkAction} {s' : DuplexLinkService} : s.config.role = .initiator →
      s.requestActive = true → RetryOrFail (s.reported errorCode) tr s' →
      DeviceErrorHandled s errorCode
        (atPush s (s.deviceErrorEvent errorCode) :: atRecover true :: tr) s'
  | idle (now : UInt32) : s.config.role = .initiator → s.requestActive = false →
      DeviceErrorHandled s errorCode
        [atPush s (s.deviceErrorEvent errorCode), atRecover true, atNow now]
        ((s.reported errorCode).goto .idle now)

theorem role_ne_responder {role : DuplexLinkRole} : role ≠ .responder ↔ role = .initiator := by
  cases role <;> simp

theorem trace_handleDeviceError {s s' : DuplexLinkService} {errorCode : UInt16}
    {tr : List LinkAction} (h : Trace (handleDeviceError s errorCode) tr s') :
    DeviceErrorHandled s errorCode tr s' := by
  simp only [handleDeviceError, LinkProg.recover, trace_bind_iff, trace_pushEvent,
    trace_ask_iff] at h
  obtain ⟨_, _, _, ⟨rfl, rfl⟩, ⟨ok, _, t, rfl, h, rfl⟩, rfl⟩ := h
  cases ok with
  | false =>
    obtain ⟨now, rfl, rfl⟩ := trace_setState.mp h
    exact .lost now
  | true =>
    simp only [if_true] at h
    split at h
    · rename_i hr
      obtain ⟨now, rfl, rfl⟩ := trace_setState.mp h
      exact .responder now hr
    · rename_i hr
      split at h
      · rename_i ha
        exact .active (role_ne_responder.mp hr) ha (trace_retryOrFail h)
      · rename_i ha
        obtain ⟨now, rfl, rfl⟩ := trace_setState.mp h
        exact .idle now (role_ne_responder.mp hr) (by simpa using ha)

/-! ## Received frames -/

/-- What the checks on a received frame say. -/
inductive Verdict
  | reject (reason : DuplexLinkInvalidReason) (packetStatus : LinkPacketStatus)
      (packet : Option LinkPacket)
  | accept (packet : LinkPacket)

/-- The checks of `duplex_link_handle_responder_frame`. -/
def checkRequest (s : DuplexLinkService) (frame : PacketRadioRxFrame) : Verdict :=
  match LinkPacket.decode frame.data s.config.localNodeId with
  | .error status => .reject .decode status none
  | .ok packet =>
    if packet.sourceId ≠ s.config.peerNodeId then .reject .source .ok packet
    else if ¬ requestTypeIsValid packet.messageType then .reject .messageType .ok packet
    else .accept packet

/-- The checks of `duplex_link_handle_initiator_frame`. -/
def checkResponse (s : DuplexLinkService) (frame : PacketRadioRxFrame) : Verdict :=
  match LinkPacket.decode frame.data s.config.localNodeId with
  | .error status => .reject .decode status none
  | .ok packet =>
    if packet.sourceId ≠ s.config.peerNodeId then .reject .source .ok packet
    else if packet.messageType ≠ expectedResponseType s.pendingRequest.messageType then
      .reject .messageType .ok packet
    else if packet.acknowledgedSequence ≠ s.pendingRequest.sequence then
      .reject .ackSequence .ok packet
    else .accept packet

def countRx (frame : PacketRadioRxFrame) (localNodeId : UInt8) (stats : DuplexLinkStats) :
    DuplexLinkStats :=
  match LinkPacket.decode frame.data localNodeId with
  | .error _ => stats
  | .ok _ => { stats with rxPackets := stats.rxPackets + 1 }

/-- The service that has read `frame`. -/
abbrev heard (s : DuplexLinkService) (frame : PacketRadioRxFrame) : DuplexLinkService :=
  s.count (countRx frame s.config.localNodeId)

@[simps!] def refused (s : DuplexLinkService) (reason : DuplexLinkInvalidReason)
    (packetStatus : LinkPacketStatus) (packet : Option LinkPacket)
    (frame : Option PacketRadioRxFrame) : DuplexLinkService :=
  (s.count countInvalid).pushed (invalidEvent reason packetStatus packet frame)

def countDuplicate (stats : DuplexLinkStats) : DuplexLinkStats :=
  { stats with duplicatePackets := stats.duplicatePackets + 1 }

def duplicateEvent (request : LinkPacket) (frame : PacketRadioRxFrame) : DuplexLinkEvent :=
  { type := .duplicateSuppressed, packet := request, rssiDbmX2 := frame.rssiDbmX2
    snrDbX4 := frame.snrDbX4 }

def requestEvent (request : LinkPacket) (frame : PacketRadioRxFrame) : DuplexLinkEvent :=
  { type := .requestReceived, packet := request, rssiDbmX2 := frame.rssiDbmX2
    snrDbX4 := frame.snrDbX4 }

def successEvent (s : DuplexLinkService) (response : LinkPacket) (frame : PacketRadioRxFrame)
    (rttMs : UInt32) : DuplexLinkEvent :=
  { type := .exchangeSucceeded, packet := response, attempts := s.attemptCount, rttMs := rttMs
    rssiDbmX2 := frame.rssiDbmX2, snrDbX4 := frame.snrDbX4 }

/-- `request` has the sequence number of the last new request. -/
abbrev IsDuplicate (s : DuplexLinkService) (request : LinkPacket) : Prop :=
  s.hasLastRemoteSequence = true ∧ request.sequence = s.lastRemoteSequence

/-- The ways through `duplex_link_handle_responder_frame`. -/
inductive RequestHandled (s : DuplexLinkService) (frame : PacketRadioRxFrame) :
    List LinkAction → DuplexLinkService → Prop
  | rejected {reason : DuplexLinkInvalidReason} {packetStatus : LinkPacketStatus}
      {packet : Option LinkPacket} (now : UInt32) :
      s.checkRequest frame = .reject reason packetStatus packet →
      RequestHandled s frame
        [atPush s (invalidEvent reason packetStatus packet frame), atNow now]
        (((s.heard frame).refused reason packetStatus packet frame).goto .startResponderRx now)
  | duplicate {request : LinkPacket} (now : UInt32) : s.checkRequest frame = .accept request →
      s.IsDuplicate request → s.hasCachedResponse = true →
      RequestHandled s frame [atPush s (duplicateEvent request frame), atNow now]
        ((((s.heard frame).count countDuplicate).pushed (duplicateEvent request frame)).goto
          .startResponseTx now)
  | unanswered {request : LinkPacket} (now : UInt32) : s.checkRequest frame = .accept request →
      s.IsDuplicate request → s.hasCachedResponse = false →
      RequestHandled s frame [atPush s (duplicateEvent request frame), atNow now]
        ((((s.heard frame).count countDuplicate).pushed (duplicateEvent request frame)).goto
          .startResponderRx now)
  | received {request : LinkPacket} {response : LinkFrame} (now : UInt32) :
      s.checkRequest frame = .accept request → ¬ s.IsDuplicate request →
      (s.response request).encode linkPacketEncodedSize = .ok response →
      RequestHandled s frame [atPush s (requestEvent request frame), atNow now]
        (((((s.heard frame).remembered request).pushed (requestEvent request frame)).answered
          response).goto .startResponseTx now)
  | unbuilt {request : LinkPacket} {status : LinkPacketStatus} {tr : List LinkAction}
      {s' : DuplexLinkService} :
      s.checkRequest frame = .accept request → ¬ s.IsDuplicate request →
      (s.response request).encode linkPacketEncodedSize = .error status →
      DeviceErrorHandled
        (((s.heard frame).remembered request).pushed (requestEvent request frame))
        duplexLinkInternalError tr s' →
      RequestHandled s frame (atPush s (requestEvent request frame) :: tr) s'

theorem handleResponderFrame_eq (s : DuplexLinkService) (frame : PacketRadioRxFrame) :
    handleResponderFrame s frame = (match s.checkRequest frame with
      | .reject reason packetStatus packet => do
        let s ← publishInvalid (s.heard frame) reason packetStatus packet frame
        setState s .startResponderRx
      | .accept request =>
        if s.IsDuplicate request then do
          let s ← pushEvent ((s.heard frame).count countDuplicate) (duplicateEvent request frame)
          if s.hasCachedResponse then setState s .startResponseTx
          else setState s .startResponderRx
        else do
          let s ← pushEvent ((s.heard frame).remembered request) (requestEvent request frame)
          match buildResponse s request with
          | none => handleDeviceError s duplexLinkInternalError
          | some s => setState s .startResponseTx) := by
  unfold handleResponderFrame checkRequest heard countRx
  cases LinkPacket.decode frame.data s.config.localNodeId with
  | error status => rfl
  | ok request =>
    dsimp only
    by_cases hp : request.sourceId ≠ s.config.peerNodeId
    · simp only [if_pos hp]
      rfl
    by_cases ht : ¬ requestTypeIsValid request.messageType = true
    · simp only [if_neg hp, if_pos ht]
      rfl
    · simp only [if_neg hp, if_neg ht]
      rfl

theorem trace_handleResponderFrame {s s' : DuplexLinkService} {frame : PacketRadioRxFrame}
    {tr : List LinkAction} (h : Trace (handleResponderFrame s frame) tr s') :
    RequestHandled s frame tr s' := by
  rw [handleResponderFrame_eq] at h
  cases hc : s.checkRequest frame with
  | reject reason packetStatus packet =>
    simp only [hc, trace_bind_iff, trace_publishInvalid, trace_setState] at h
    obtain ⟨_, _, _, ⟨rfl, rfl⟩, ⟨now, rfl, rfl⟩, rfl⟩ := h
    exact .rejected now hc
  | accept request =>
    simp only [hc] at h
    split at h
    · rename_i hdup
      simp only [trace_bind_iff, trace_pushEvent] at h
      obtain ⟨_, _, _, ⟨rfl, rfl⟩, h, rfl⟩ := h
      split at h
      · rename_i hcached
        obtain ⟨now, rfl, rfl⟩ := trace_setState.mp h
        exact .duplicate now hc hdup hcached
      · rename_i hcached
        obtain ⟨now, rfl, rfl⟩ := trace_setState.mp h
        exact .unanswered now hc hdup (by simpa using hcached)
    · rename_i hdup
      simp only [trace_bind_iff, trace_pushEvent] at h
      obtain ⟨_, _, _, ⟨rfl, rfl⟩, h, rfl⟩ := h
      -- the response does not depend on what was remembered and pushed
      have hresponse : (((s.heard frame).remembered request).pushed
          (requestEvent request frame)).response request = s.response request := rfl
      rw [buildResponse, hresponse] at h
      cases hr : (s.response request).encode linkPacketEncodedSize with
      | error status =>
        rw [hr] at h
        exact .unbuilt hc hdup hr (trace_handleDeviceError h)
      | ok response =>
        rw [hr] at h
        obtain ⟨now, rfl, rfl⟩ := trace_setState.mp h
        exact .received now hc hdup hr

/-- The ways through `duplex_link_handle_initiator_frame`. -/
inductive ResponseHandled (s : DuplexLinkService) (frame : PacketRadioRxFrame) :
    List LinkAction → DuplexLinkService → Prop
  | rejected {reason : DuplexLinkInvalidReason} {packetStatus : LinkPacketStatus}
      {packet : Option LinkPacket} {tr : List LinkAction} {s' : DuplexLinkService} :
      s.checkResponse frame = .reject reason packetStatus packet →
      RetryOrFail ((s.heard frame).refused reason packetStatus packet frame) tr s' →
      ResponseHandled s frame (atPush s (invalidEvent reason packetStatus packet frame) :: tr) s'
  | succeeded {response : LinkPacket} (rttMs now : UInt32) :
      s.checkResponse frame = .accept response →
      ResponseHandled s frame
        [atElapsed s.attemptStartedMs rttMs, atNow now,
          atPush s (s.successEvent response frame rttMs)]
        (((s.heard frame).completed.goto .idle now).pushed (s.successEvent response frame rttMs))

theorem handleInitiatorFrame_eq (s : DuplexLinkService) (frame : PacketRadioRxFrame) :
    handleInitiatorFrame s frame = (match s.checkResponse frame with
      | .reject reason packetStatus packet => do
        let s ← publishInvalid (s.heard frame) reason packetStatus packet frame
        retryOrFail s
      | .accept response => do
        let rttMs ← LinkProg.elapsedMs s.attemptStartedMs
        let s' ← setState (s.heard frame).completed .idle
        pushEvent s' (s.successEvent response frame rttMs)) := by
  unfold handleInitiatorFrame checkResponse heard countRx
  cases LinkPacket.decode frame.data s.config.localNodeId with
  | error status => rfl
  | ok response =>
    dsimp only
    by_cases hp : response.sourceId ≠ s.config.peerNodeId
    · simp only [if_pos hp]
      rfl
    by_cases ht : response.messageType ≠ expectedResponseType s.pendingRequest.messageType
    · simp only [if_neg hp, if_pos ht]
      rfl
    by_cases hq : response.acknowledgedSequence ≠ s.pendingRequest.sequence
    · simp only [if_neg hp, if_neg ht, if_pos hq]
      rfl
    · simp only [if_neg hp, if_neg ht, if_neg hq]
      rfl

theorem trace_handleInitiatorFrame {s s' : DuplexLinkService} {frame : PacketRadioRxFrame}
    {tr : List LinkAction} (h : Trace (handleInitiatorFrame s frame) tr s') :
    ResponseHandled s frame tr s' := by
  rw [handleInitiatorFrame_eq] at h
  cases hc : s.checkResponse frame with
  | reject reason packetStatus packet =>
    simp only [hc, trace_bind_iff, trace_publishInvalid] at h
    obtain ⟨_, _, _, ⟨rfl, rfl⟩, h, rfl⟩ := h
    exact .rejected hc (trace_retryOrFail h)
  | accept response =>
    simp only [hc, LinkProg.elapsedMs, trace_bind_iff, trace_ask_iff, trace_setState,
      trace_pushEvent] at h
    obtain ⟨rttMs, _, _, rfl, ⟨_, _, _, ⟨now, rfl, rfl⟩, ⟨rfl, rfl⟩, rfl⟩, rfl⟩ := h
    exact .succeeded rttMs now hc

/-! ## Radio events -/

abbrev atRead (frame : Option PacketRadioRxFrame) : LinkAction := ⟨.readRxFrame, frame⟩

def countCrcError (stats : DuplexLinkStats) : DuplexLinkStats :=
  { stats with radioCrcErrors := stats.radioCrcErrors + 1 }

/-- The ways through `duplex_link_handle_radio_event`. -/
inductive EventStep (s : DuplexLinkService) :
    PacketRadioEvent → List LinkAction → DuplexLinkService → Prop
  | none {event : PacketRadioEvent} : event.type = .none → EventStep s event [] s
  | requestSent {event : PacketRadioEvent} (now : UInt32) : event.type = .txDone →
      s.state = .waitRequestTxDone → EventStep s event [atNow now] (s.goto .startResponseRx now)
  | responseSent {event : PacketRadioEvent} (now : UInt32) : event.type = .txDone →
      s.state = .waitResponseTxDone → EventStep s event [atNow now] (s.goto .startResponderRx now)
  | txDoneIgnored {event : PacketRadioEvent} : event.type = .txDone →
      s.state ≠ .waitRequestTxDone → s.state ≠ .waitResponseTxDone → EventStep s event [] s
  | unreadResponder {event : PacketRadioEvent} (now : UInt32) : event.type = .rxDone →
      s.config.role = .responder →
      EventStep s event
        [atRead .none, atPush s (invalidEvent .rxFrame .invalidArgument .none .none), atNow now]
        ((s.refused .rxFrame .invalidArgument .none .none).goto .startResponderRx now)
  | unreadInitiator {event : PacketRadioEvent} {tr : List LinkAction} {s' : DuplexLinkService} :
      event.type = .rxDone → s.config.role = .initiator →
      RetryOrFail (s.refused .rxFrame .invalidArgument .none .none) tr s' →
      EventStep s event
        (atRead .none :: atPush s (invalidEvent .rxFrame .invalidArgument .none .none) :: tr) s'
  | request {event : PacketRadioEvent} {frame : PacketRadioRxFrame} {tr : List LinkAction}
      {s' : DuplexLinkService} : event.type = .rxDone → s.config.role = .responder →
      s.state = .responderRx → RequestHandled s frame tr s' →
      EventStep s event (atRead (some frame) :: tr) s'
  | response {event : PacketRadioEvent} {frame : PacketRadioRxFrame} {tr : List LinkAction}
      {s' : DuplexLinkService} : event.type = .rxDone → s.config.role = .initiator →
      s.state = .waitResponse → s.requestActive = true → ResponseHandled s frame tr s' →
      EventStep s event (atRead (some frame) :: tr) s'
  | stray {event : PacketRadioEvent} {frame : PacketRadioRxFrame} : event.type = .rxDone →
      ¬ (s.config.role = .responder ∧ s.state = .responderRx) →
      ¬ (s.config.role = .initiator ∧ s.state = .waitResponse ∧ s.requestActive = true) →
      EventStep s event
        [atRead (some frame), atPush s (invalidEvent .rxFrame .invalidArgument .none frame)]
        (s.refused .rxFrame .invalidArgument .none frame)
  | timeoutRetry {event : PacketRadioEvent} {tr : List LinkAction} {s' : DuplexLinkService} :
      event.type = .rxTimeout → s.config.role = .initiator → s.state = .waitResponse →
      RetryOrFail (s.count countTimeout) tr s' → EventStep s event tr s'
  | timeoutResponder {event : PacketRadioEvent} (now : UInt32) : event.type = .rxTimeout →
      s.config.role = .responder →
      EventStep s event [atNow now] ((s.count countTimeout).goto .startResponderRx now)
  | timeoutIgnored {event : PacketRadioEvent} : event.type = .rxTimeout →
      s.config.role = .initiator → s.state ≠ .waitResponse →
      EventStep s event [] (s.count countTimeout)
  | crcRetry {event : PacketRadioEvent} {tr : List LinkAction} {s' : DuplexLinkService} :
      event.type = .crcError → s.config.role = .initiator → s.requestActive = true →
      RetryOrFail (s.count countCrcError) tr s' → EventStep s event tr s'
  | crcResponder {event : PacketRadioEvent} (now : UInt32) : event.type = .crcError →
      s.config.role = .responder →
      EventStep s event [atNow now] ((s.count countCrcError).goto .startResponderRx now)
  | crcIgnored {event : PacketRadioEvent} : event.type = .crcError →
      s.config.role = .initiator → s.requestActive = false →
      EventStep s event [] (s.count countCrcError)
  | deviceError {event : PacketRadioEvent} {tr : List LinkAction} {s' : DuplexLinkService} :
      event.type = .deviceError → DeviceErrorHandled s event.deviceErrorCode tr s' →
      EventStep s event tr s'

theorem trace_handleRxDone {s s' : DuplexLinkService} {event : PacketRadioEvent}
    {tr : List LinkAction} (he : event.type = .rxDone) (h : Trace (handleRxDone s) tr s') :
    EventStep s event tr s' := by
  simp only [handleRxDone, readRxFrame, trace_bind_iff, trace_ask_iff] at h
  obtain ⟨frame, _, t, rfl, h, rfl⟩ := h
  cases frame with
  | none =>
    simp only [trace_bind_iff, trace_publishInvalid] at h
    obtain ⟨_, _, t, ⟨rfl, rfl⟩, h, rfl⟩ := h
    split at h
    · rename_i hr
      obtain ⟨now, rfl, rfl⟩ := trace_setState.mp h
      exact .unreadResponder now he hr
    · rename_i hr
      exact .unreadInitiator he (role_ne_responder.mp hr) (trace_retryOrFail h)
  | some frame =>
    dsimp only at h
    split at h
    · rename_i hr
      exact .request he hr.1 hr.2 (trace_handleResponderFrame h)
    split at h
    · rename_i hi
      exact .response he hi.1 hi.2.1 hi.2.2 (trace_handleInitiatorFrame h)
    · rename_i hr hi
      obtain ⟨rfl, rfl⟩ := trace_publishInvalid.mp h
      exact .stray he hr hi

theorem trace_handleRadioEvent {s s' : DuplexLinkService} {event : PacketRadioEvent}
    {tr : List LinkAction} (h : Trace (handleRadioEvent s event) tr s') :
    EventStep s event tr s' := by
  unfold handleRadioEvent at h
  cases he : event.type with
  | none =>
    simp only [he, trace_pure_iff] at h
    obtain ⟨rfl, rfl⟩ := h
    exact .none he
  | txDone =>
    simp only [he] at h
    split at h
    · rename_i hw
      obtain ⟨now, rfl, rfl⟩ := trace_setState.mp h
      exact .requestSent now he hw
    split at h
    · rename_i hw
      obtain ⟨now, rfl, rfl⟩ := trace_setState.mp h
      exact .responseSent now he hw
    · rename_i hw hw'
      obtain ⟨rfl, rfl⟩ := trace_pure_iff.mp h
      exact .txDoneIgnored he hw hw'
  | rxDone =>
    simp only [he] at h
    exact trace_handleRxDone he h
  | rxTimeout =>
    simp only [he] at h
    split at h
    · rename_i hw
      exact .timeoutRetry he hw.1 hw.2 (trace_retryOrFail h)
    split at h
    · rename_i hr
      obtain ⟨now, rfl, rfl⟩ := trace_setState.mp h
      exact .timeoutResponder now he hr
    · rename_i hw hr
      obtain ⟨rfl, rfl⟩ := trace_pure_iff.mp h
      have hi := role_ne_responder.mp hr
      exact .timeoutIgnored he hi fun hs => hw ⟨hi, hs⟩
  | crcError =>
    simp only [he] at h
    split at h
    · rename_i hw
      exact .crcRetry he hw.1 hw.2 (trace_retryOrFail h)
    split at h
    · rename_i hr
      obtain ⟨now, rfl, rfl⟩ := trace_setState.mp h
      exact .crcResponder now he hr
    · rename_i hw hr
      obtain ⟨rfl, rfl⟩ := trace_pure_iff.mp h
      have hi := role_ne_responder.mp hr
      exact .crcIgnored he hi (Bool.eq_false_iff.mpr fun ha => hw ⟨hi, ha⟩)
  | deviceError =>
    simp only [he] at h
    exact .deviceError he (trace_handleDeviceError h)

/-! ## Time-outs -/

/-- The time-outs that `duplex_link_process_timeouts` looked at and found not elapsed. -/
inductive NotTimedOut (s : DuplexLinkService) : List LinkAction → Prop
  | response (elapsed : UInt32) : s.state = .waitResponse →
      ¬ s.config.responseTimeoutMs ≤ elapsed →
      NotTimedOut s [atElapsed s.responseWaitStartedMs elapsed]
  | transmission (elapsed : UInt32) : s.state = .waitRequestTxDone ∨ s.state = .waitResponseTxDone →
      ¬ s.config.operationTimeoutMs ≤ elapsed →
      NotTimedOut s [atElapsed s.stateStartedMs elapsed]
  | none : s.state ≠ .waitResponse → s.state ≠ .waitRequestTxDone →
      s.state ≠ .waitResponseTxDone → NotTimedOut s []

/-- The ways through `duplex_link_process_timeouts`. -/
inductive TimeoutStep (s : DuplexLinkService) : List LinkAction → DuplexLinkService → Prop
  | none {tr : List LinkAction} : NotTimedOut s tr → TimeoutStep s tr s
  | response {tr : List LinkAction} {s' : DuplexLinkService} (elapsed : UInt32) :
      s.state = .waitResponse → s.config.responseTimeoutMs ≤ elapsed →
      RetryOrFail (s.count countTimeout) tr s' →
      TimeoutStep s (atElapsed s.responseWaitStartedMs elapsed :: atRecover true :: tr) s'
  | responseLost (elapsed now : UInt32) : s.state = .waitResponse →
      s.config.responseTimeoutMs ≤ elapsed →
      TimeoutStep s
        [atElapsed s.responseWaitStartedMs elapsed, atRecover false, atNow now,
          atPush s (recoveryEvent duplexLinkInternalError)]
        ((s.count countTimeout).lost now duplexLinkInternalError)
  | requestTx {tr : List LinkAction} {s' : DuplexLinkService} (elapsed : UInt32) :
      s.state = .waitRequestTxDone → s.config.operationTimeoutMs ≤ elapsed →
      RetryOrFail (s.count countTimeout) tr s' →
      TimeoutStep s (atElapsed s.stateStartedMs elapsed :: atRecover true :: tr) s'
  | responseTx (elapsed now : UInt32) : s.state = .waitResponseTxDone →
      s.config.operationTimeoutMs ≤ elapsed →
      TimeoutStep s [atElapsed s.stateStartedMs elapsed, atRecover true, atNow now]
        ((s.count countTimeout).goto .startResponderRx now)
  | transmissionLost (elapsed now : UInt32) :
      s.state = .waitRequestTxDone ∨ s.state = .waitResponseTxDone →
      s.config.operationTimeoutMs ≤ elapsed →
      TimeoutStep s
        [atElapsed s.stateStartedMs elapsed, atRecover false, atNow now,
          atPush s (recoveryEvent duplexLinkInternalError)]
        ((s.count countTimeout).lost now duplexLinkInternalError)

theorem trace_responseTimedOut {s : DuplexLinkService} {tr : List LinkAction} {out : Bool}
    (h : Trace (responseTimedOut s) tr out) :
    (s.state = .waitResponse ∧ ∃ elapsed, tr = [atElapsed s.responseWaitStartedMs elapsed] ∧
      out = decide (s.config.responseTimeoutMs ≤ elapsed)) ∨
    (s.state ≠ .waitResponse ∧ tr = [] ∧ out = false) := by
  unfold responseTimedOut at h
  split at h
  · rename_i hw
    simp only [LinkProg.elapsedMs, trace_bind_iff, trace_ask_iff, trace_pure_iff] at h
    obtain ⟨elapsed, _, _, rfl, ⟨rfl, rfl⟩, rfl⟩ := h
    exact .inl ⟨hw, elapsed, rfl, rfl⟩
  · rename_i hw
    obtain ⟨rfl, rfl⟩ := trace_pure_iff.mp h
    exact .inr ⟨hw, rfl, rfl⟩

theorem trace_transmissionTimedOut {s : DuplexLinkService} {tr : List LinkAction} {out : Bool}
    (h : Trace (transmissionTimedOut s) tr out) :
    ((s.state = .waitRequestTxDone ∨ s.state = .waitResponseTxDone) ∧
      ∃ elapsed, tr = [atElapsed s.stateStartedMs elapsed] ∧
        out = decide (s.config.operationTimeoutMs ≤ elapsed)) ∨
    (s.state ≠ .waitRequestTxDone ∧ s.state ≠ .waitResponseTxDone ∧ tr = [] ∧ out = false) := by
  unfold transmissionTimedOut at h
  split at h
  · rename_i hw
    simp only [LinkProg.elapsedMs, trace_bind_iff, trace_ask_iff, trace_pure_iff] at h
    obtain ⟨elapsed, _, _, rfl, ⟨rfl, rfl⟩, rfl⟩ := h
    exact .inl ⟨hw, elapsed, rfl, rfl⟩
  · rename_i hw
    obtain ⟨rfl, rfl⟩ := trace_pure_iff.mp h
    exact .inr ⟨fun e => hw (.inl e), fun e => hw (.inr e), rfl, rfl⟩

theorem trace_processTimeouts {s s' : DuplexLinkService} {tr : List LinkAction}
    (h : Trace (processTimeouts s) tr s') : TimeoutStep s tr s' := by
  unfold processTimeouts at h
  rw [trace_bind_iff] at h
  obtain ⟨out, t₁, t₂, h₁, h, rfl⟩ := h
  cases out with
  | true =>
    rcases trace_responseTimedOut h₁ with ⟨hw, elapsed, rfl, ho⟩ | ⟨-, -, ho⟩
    swap
    · exact absurd ho (by simp)
    have ho := of_decide_eq_true ho.symm
    simp only [if_true, trace_bind_iff] at h
    obtain ⟨⟨recovered, s₁⟩, _, _, hr, h, rfl⟩ := h
    rcases trace_recoverRadio.mp hr with ⟨rfl, rfl, rfl⟩ | ⟨rfl, now, rfl, rfl⟩
    · exact .response elapsed hw ho (trace_retryOrFail h)
    · obtain ⟨rfl, rfl⟩ := trace_pure_iff.mp h
      exact .responseLost elapsed now hw ho
  | false =>
    simp only [Bool.false_eq_true, if_false, trace_bind_iff] at h
    obtain ⟨out, t₃, t₄, h₂, h, rfl⟩ := h
    cases out with
    | true =>
      rcases trace_transmissionTimedOut h₂ with ⟨hw, elapsed, rfl, ho⟩ | ⟨-, -, -, ho⟩
      swap
      · exact absurd ho (by simp)
      have ho := of_decide_eq_true ho.symm
      have hnone : t₁ = [] := by
        rcases trace_responseTimedOut h₁ with ⟨hw', -⟩ | ⟨-, rfl, -⟩
        · rcases hw with hw | hw <;> rw [hw] at hw' <;> cases hw'
        · rfl
      subst hnone
      simp only [if_true, trace_bind_iff] at h
      obtain ⟨⟨recovered, s₁⟩, _, _, hr, h, rfl⟩ := h
      rcases trace_recoverRadio.mp hr with ⟨rfl, rfl, rfl⟩ | ⟨rfl, now, rfl, rfl⟩
      · simp only [not_true_eq_false, if_false] at h
        split at h
        · rename_i hs
          exact .requestTx elapsed hs ho (trace_retryOrFail h)
        · rename_i hs
          obtain ⟨now, rfl, rfl⟩ := trace_setState.mp h
          exact .responseTx elapsed now (hw.resolve_left hs) ho
      · obtain ⟨rfl, rfl⟩ := trace_pure_iff.mp h
        exact .transmissionLost elapsed now hw ho
    | false =>
      obtain ⟨rfl, rfl⟩ := trace_pure_iff.mp h
      refine .none ?_
      rcases trace_responseTimedOut h₁ with ⟨hw, elapsed, rfl, ho⟩ | ⟨hw, rfl, -⟩
      · have hnone : t₃ = [] := by
          rcases trace_transmissionTimedOut h₂ with ⟨hw', -⟩ | ⟨-, -, rfl, -⟩
          · rcases hw' with hw' | hw' <;> rw [hw'] at hw <;> cases hw
          · rfl
        subst hnone
        exact .response elapsed hw (of_decide_eq_false ho.symm)
      · rcases trace_transmissionTimedOut h₂ with ⟨hw', elapsed, rfl, ho⟩ | ⟨hw₁, hw₂, rfl, -⟩
        · exact .transmission elapsed hw' (of_decide_eq_false ho.symm)
        · exact .none hw hw₁ hw₂

end DuplexLinkService

end RadioConnection
