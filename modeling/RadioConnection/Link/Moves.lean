import RadioConnection.Link.Invariant

/-!
# What a call does to the link

Most of what a call does is about the radio, timers and counters.  `memory` is
what the service remembers of the link itself: sequence numbers, the pending
request and the cached response.  `PartStep.move` says that a part of a call is
one of six moves on it: it is quiet, it hands a request or a response to the
radio, or it takes a received frame for a new request, a duplicate or the
response that was waited for.
-/

namespace RadioConnection

namespace DuplexLinkService

open Interaction LinkProg

@[ext] structure LinkMemory where
  config : DuplexLinkConfig
  nextSequence : UInt16
  pendingRequest : LinkPacket
  pendingRequestFrame : LinkFrame
  responsePayload : Vector UInt8 linkPacketPayloadSize
  responsePayloadLength : UInt8
  hasLastRemoteSequence : Bool
  lastRemoteSequence : UInt16
  cachedResponseFrame : LinkFrame
  hasCachedResponse : Bool

def memory (s : DuplexLinkService) : LinkMemory :=
  ⟨s.config, s.nextSequence, s.pendingRequest, s.pendingRequestFrame, s.responsePayload,
    s.responsePayloadLength, s.hasLastRemoteSequence, s.lastRemoteSequence, s.cachedResponseFrame,
    s.hasCachedResponse⟩

section

variable (s : DuplexLinkService)

@[simp] theorem memory_goto (state : DuplexLinkState) (now : UInt32) :
    (s.goto state now).memory = s.memory := rfl

@[simp] theorem memory_pushed (event : DuplexLinkEvent) : (s.pushed event).memory = s.memory := rfl

@[simp] theorem memory_count (f : DuplexLinkStats → DuplexLinkStats) :
    (s.count f).memory = s.memory := rfl

@[simp] theorem memory_refused (reason : DuplexLinkInvalidReason) (packetStatus : LinkPacketStatus)
    (packet : Option LinkPacket) (frame : Option PacketRadioRxFrame) :
    (s.refused reason packetStatus packet frame).memory = s.memory := rfl

end

/-- The memory of a responder that has accepted `request` and cached `response`. -/
def LinkMemory.accepted (m : LinkMemory) (request : LinkPacket) (response : LinkFrame) :
    LinkMemory :=
  { m with
    hasLastRemoteSequence := true
    lastRemoteSequence := request.sequence
    cachedResponseFrame := response
    nextSequence := m.nextSequence + 1
    hasCachedResponse := true }

theorem memory_accepted (s : DuplexLinkService) (frame : PacketRadioRxFrame) (request : LinkPacket)
    (event : DuplexLinkEvent) (response : LinkFrame) (state : DuplexLinkState) (now : UInt32) :
    (((((s.heard frame).remembered request).pushed event).answered response).goto state now).memory =
      s.memory.accepted request response := by
  have hremembered : ((s.heard frame).remembered request).memory = { s.memory with
      hasLastRemoteSequence := true
      lastRemoteSequence := request.sequence } := rfl
  have hanswered (t : DuplexLinkService) : (t.answered response).memory = { t.memory with
      cachedResponseFrame := response
      nextSequence := t.memory.nextSequence + 1
      hasCachedResponse := true } := rfl
  rw [memory_goto, hanswered, memory_pushed, hremembered]
  rfl

/-- The action hands nothing to the radio and publishes no event about a frame that was
taken for a request or a response. -/
def Quiet : LinkAction → Prop
  | ⟨.tryStartTx _, _⟩ => False
  | ⟨.published event _, _⟩ =>
    event.type ∉ [.requestReceived, .duplicateSuppressed, .exchangeSucceeded]
  | _ => True

/-- What a part of a call does to the link. -/
inductive Move (s : DuplexLinkService) : List LinkAction → DuplexLinkService → Prop
  | quiet {tr : List LinkAction} {s' : DuplexLinkService} : (∀ a ∈ tr, Quiet a) →
      s'.memory = s.memory → Move s tr s'
  | requestTx {started : Bool} {tr : List LinkAction} {s' : DuplexLinkService} :
      s.state = .startRequestTx → (∀ a ∈ tr, Quiet a) → s'.memory = s.memory →
      Move s (atTx s.pendingRequestFrame started :: tr) s'
  | responseTx {started : Bool} {tr : List LinkAction} {s' : DuplexLinkService} :
      s.state = .startResponseTx → s.hasCachedResponse = true → (∀ a ∈ tr, Quiet a) →
      s'.memory = s.memory → Move s (atTx s.cachedResponseFrame started :: tr) s'
  | received {frame : PacketRadioRxFrame} {request : LinkPacket} {now : UInt32}
      {s' : DuplexLinkService} : s.config.role = .responder →
      s.checkRequest frame = .accept request → ¬ s.IsDuplicate request →
      s'.memory = s.memory.accepted request (s.response request).frame →
      Move s [atRead (some frame), atPush s (requestEvent request frame), atNow now] s'
  | duplicate {frame : PacketRadioRxFrame} {request : LinkPacket} {now : UInt32}
      {s' : DuplexLinkService} : s.config.role = .responder →
      s.checkRequest frame = .accept request → s.IsDuplicate request → s'.memory = s.memory →
      Move s [atRead (some frame), atPush s (duplicateEvent request frame), atNow now] s'
  | succeeded {frame : PacketRadioRxFrame} {response : LinkPacket} {rttMs now : UInt32}
      {s' : DuplexLinkService} : s.config.role = .initiator → s.requestActive = true →
      s.checkResponse frame = .accept response → s'.memory = s.memory →
      Move s [atRead (some frame), atElapsed s.attemptStartedMs rttMs, atNow now,
        atPush s (s.successEvent response frame rttMs)] s'

theorem RetryOrFail.quiet {s s' : DuplexLinkService} {tr : List LinkAction}
    (h : RetryOrFail s tr s') : (∀ a ∈ tr, Quiet a) ∧ s'.memory = s.memory := by
  cases h <;> exact ⟨by simp [Quiet, failedEvent], rfl⟩

theorem DeviceErrorHandled.quiet {s s' : DuplexLinkService} {errorCode : UInt16}
    {tr : List LinkAction} (h : DeviceErrorHandled s errorCode tr s') :
    (∀ a ∈ tr, Quiet a) ∧ s'.memory = s.memory := by
  cases h with
  | active _ _ h =>
    obtain ⟨hq, hm⟩ := h.quiet
    exact ⟨by simpa [Quiet, deviceErrorEvent] using hq, hm⟩
  | _ => exact ⟨by simp [Quiet, deviceErrorEvent], rfl⟩

theorem StartRefused.quiet_of {s : DuplexLinkService} {tr rest : List LinkAction}
    (h : StartRefused s tr) (hrest : ∀ a ∈ rest, Quiet a) {s' : DuplexLinkService}
    (hm : s'.memory = s.memory) : Move s (tr ++ rest) s' := by
  cases h with
  | requestTx hs => exact .requestTx hs hrest hm
  | responseRx _ => exact .quiet (by simpa [Quiet] using hrest) hm
  | responderRx _ => exact .quiet (by simpa [Quiet] using hrest) hm
  | responseTx hs hc => exact .responseTx hs hc hrest hm
  | unanswered _ _ => exact .quiet hrest hm

theorem RequestHandled.move {s s' : DuplexLinkService} {frame : PacketRadioRxFrame}
    {tr : List LinkAction} (h : RequestHandled s frame tr s') (hr : s.config.role = .responder)
    (hp : PayloadReady s) : Move s (atRead (some frame) :: tr) s' := by
  cases h with
  | rejected now hc => exact .quiet (by simp [Quiet, invalidEvent]) (by simp)
  | duplicate now hc hd _ => exact .duplicate hr hc hd (by simp)
  | unanswered now hc hd _ => exact .duplicate hr hc hd (by simp)
  | received now hc hd he =>
    rw [response_encode hp] at he
    obtain rfl := Except.ok.inj he
    exact .received hr hc hd (memory_accepted ..)
  | unbuilt _ _ he =>
    rw [response_encode hp] at he
    cases he

theorem ResponseHandled.move {s s' : DuplexLinkService} {frame : PacketRadioRxFrame}
    {tr : List LinkAction} (h : ResponseHandled s frame tr s') (hr : s.config.role = .initiator)
    (ha : s.requestActive = true) : Move s (atRead (some frame) :: tr) s' := by
  cases h with
  | rejected _ h =>
    obtain ⟨hq, hm⟩ := h.quiet
    exact .quiet (by simpa [Quiet, invalidEvent] using hq) (by simpa using hm)
  | succeeded rttMs now hc => exact .succeeded hr ha hc rfl

theorem EventStep.move {s s' : DuplexLinkService} {event : PacketRadioEvent}
    {tr : List LinkAction} (h : EventStep s event tr s') (hp : PayloadReady s) : Move s tr s' := by
  cases h with
  | unreadResponder => exact .quiet (by simp [Quiet, invalidEvent]) rfl
  | unreadInitiator _ _ h =>
    obtain ⟨hq, hm⟩ := h.quiet
    exact .quiet (by simpa [Quiet, invalidEvent] using hq) hm
  | request _ hr _ h => exact h.move hr hp
  | response _ hr _ ha h => exact h.move hr ha
  | stray => exact .quiet (by simp [Quiet, invalidEvent]) rfl
  | timeoutRetry _ _ _ h => exact .quiet h.quiet.1 h.quiet.2
  | crcRetry _ _ _ h => exact .quiet h.quiet.1 h.quiet.2
  | deviceError _ h => exact .quiet h.quiet.1 h.quiet.2
  | _ => exact .quiet (by simp [Quiet]) rfl

theorem TimeoutStep.move {s s' : DuplexLinkService} {tr : List LinkAction}
    (h : TimeoutStep s tr s') : Move s tr s' := by
  cases h with
  | none h => exact .quiet (by cases h <;> simp [Quiet]) rfl
  | response _ _ _ h =>
    obtain ⟨hq, hm⟩ := h.quiet
    exact .quiet (by simpa [Quiet] using hq) hm
  | requestTx _ _ _ h =>
    obtain ⟨hq, hm⟩ := h.quiet
    exact .quiet (by simpa [Quiet] using hq) hm
  | _ => exact .quiet (by simp [Quiet, recoveryEvent]) rfl

theorem ActionStep.move {s s' : DuplexLinkService} {tr : List LinkAction}
    (h : ActionStep s tr s') : Move s tr s' := by
  cases h with
  | requestTx _ _ hs => exact .requestTx hs (by simp [Quiet]) rfl
  | responseTx _ hs hc => exact .responseTx hs hc (by simp [Quiet]) rfl
  | refused _ hr _ => exact hr.quiet_of (by simp [Quiet]) rfl
  | requestLost _ _ _ hs => exact .requestTx hs (by simp [Quiet, recoveryEvent]) rfl
  | requestRestarted _ _ hs => exact .requestTx hs (by simp [Quiet]) rfl
  | lost _ _ hr => exact hr.quiet_of (by simp [Quiet, recoveryEvent]) rfl
  | responseRxRetry _ _ _ h =>
    obtain ⟨hq, hm⟩ := h.quiet
    exact .quiet (by simpa [Quiet] using hq) hm
  | responseGivenUp _ _ _ hr => exact hr.quiet_of (by simp [Quiet]) rfl
  | _ => exact .quiet (by simp [Quiet]) rfl

/-- **What a part of a call does to the link.** -/
theorem PartStep.move {s s' : DuplexLinkService} {tr : List LinkAction} (h : PartStep s tr s')
    (hp : PayloadReady s) : Move s tr s' := by
  cases h with
  | event h => exact h.move hp
  | timeout h => exact h.move
  | action h => exact h.move

theorem Move.payloadReady {s s' : DuplexLinkService} {tr : List LinkAction} (h : Move s tr s')
    (hp : PayloadReady s) : PayloadReady s' := by
  have hlength : s'.responsePayloadLength = s.responsePayloadLength := by
    cases h with
    | quiet _ hm => exact congrArg LinkMemory.responsePayloadLength hm
    | requestTx _ _ hm => exact congrArg LinkMemory.responsePayloadLength hm
    | responseTx _ _ _ hm => exact congrArg LinkMemory.responsePayloadLength hm
    | received _ _ _ hm => exact congrArg LinkMemory.responsePayloadLength hm
    | duplicate _ _ _ hm => exact congrArg LinkMemory.responsePayloadLength hm
    | succeeded _ _ _ hm => exact congrArg LinkMemory.responsePayloadLength hm
  rw [PayloadReady, hlength]
  exact hp

end DuplexLinkService

end RadioConnection
