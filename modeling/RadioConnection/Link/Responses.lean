import RadioConnection.Link.Delivery
import RadioConnection.Link.Session

/-!
# The responses of a responder

A responder answers a new request with a response that it builds and caches, and a
repeated one with the cached response.

* `ReplyStep`: what a part of a call does to the cached response.
* `Session.cached_answers`: the cached response answers the request accepted last.
* `Session.response_matches_iff`: when the response to a request has the type that the
  request asks for.
-/

namespace RadioConnection

namespace DuplexLinkService

open Interaction LinkProg
open Interaction.Prog

/-! ## Parts of a call -/

structure Reply where
  responsePayload : Vector UInt8 linkPacketPayloadSize
  responsePayloadLength : UInt8
  hasLastRemoteSequence : Bool
  lastRemoteSequence : UInt16
  lastRemoteMessageType : LinkMessageType
  cachedResponseFrame : LinkFrame
  hasCachedResponse : Bool

def reply (s : DuplexLinkService) : Reply :=
  ⟨s.responsePayload, s.responsePayloadLength, s.hasLastRemoteSequence, s.lastRemoteSequence,
    s.lastRemoteMessageType, s.cachedResponseFrame, s.hasCachedResponse⟩

/-- The reply when `request` has been accepted as new. -/
def Reply.accepted (r : Reply) (request : LinkPacket) (response : LinkFrame) : Reply :=
  { r with
    hasLastRemoteSequence := true
    lastRemoteSequence := request.sequence
    lastRemoteMessageType := request.messageType
    cachedResponseFrame := response
    hasCachedResponse := true }

section

variable (s : DuplexLinkService)

@[simp] theorem reply_goto (state : DuplexLinkState) (now : UInt32) :
    (s.goto state now).reply = s.reply := rfl

@[simp] theorem reply_pushed (event : DuplexLinkEvent) : (s.pushed event).reply = s.reply := rfl

@[simp] theorem reply_count (f : DuplexLinkStats → DuplexLinkStats) :
    (s.count f).reply = s.reply := rfl

@[simp] theorem reply_refused (reason : DuplexLinkInvalidReason) (packetStatus : LinkPacketStatus)
    (packet : Option LinkPacket) (frame : Option PacketRadioRxFrame) :
    (s.refused reason packetStatus packet frame).reply = s.reply := rfl

end

/-- The states in which a response is on its way to the radio. -/
def replyStates : List DuplexLinkState := [.startResponseTx, .waitResponseTxDone]

/-- What a part of a call does to the reply of a responder. -/
inductive ReplyStep (s : DuplexLinkService) : List LinkAction → DuplexLinkService → Prop
  | kept {tr : List LinkAction} {s' : DuplexLinkService} : (∀ a ∈ tr, Quiet a) →
      s'.reply = s.reply → (s'.state ∈ replyStates → s.state ∈ replyStates) → ReplyStep s tr s'
  | transmitted {started : Bool} {rest : List LinkAction} {s' : DuplexLinkService} :
      s.state = .startResponseTx → (∀ a ∈ rest, Quiet a) → s'.reply = s.reply →
      ReplyStep s (atTx s.cachedResponseFrame started :: rest) s'
  | repeated {frame : PacketRadioRxFrame} {request : LinkPacket} {now : UInt32}
      {s' : DuplexLinkService} : s.checkRequest frame = .accept request → s.IsDuplicate request →
      s'.reply = s.reply →
      ReplyStep s [atRead (some frame), atPush s (duplicateEvent request frame), atNow now] s'
  | accepted {frame : PacketRadioRxFrame} {request : LinkPacket} {now : UInt32}
      {s' : DuplexLinkService} : s.checkRequest frame = .accept request →
      s'.reply = s.reply.accepted request (s.response request).frame →
      ReplyStep s [atRead (some frame), atPush s (requestEvent request frame), atNow now] s'

section

variable {s s' : DuplexLinkService} {tr : List LinkAction}

theorem DeviceErrorHandled.replyStep {errorCode : UInt16} (h : DeviceErrorHandled s errorCode tr s')
    (hr : s.config.role = .responder) : ReplyStep s tr s' := by
  cases h with
  | active hi _ _ => exact absurd (hr.symm.trans hi) (by decide)
  | _ => exact .kept (by simp [Quiet, deviceErrorEvent]) rfl (by simp [replyStates])

theorem RequestHandled.replyStep {frame : PacketRadioRxFrame} (h : RequestHandled s frame tr s')
    (hp : PayloadReady s) : ReplyStep s (atRead (some frame) :: tr) s' := by
  cases h with
  | rejected now _ =>
    exact .kept (by simp [Quiet, invalidEvent]) (by simp) (by simp [replyStates])
  | duplicate now hc hd _ => exact .repeated hc hd (by simp)
  | unanswered now hc hd _ => exact .repeated hc hd (by simp)
  | received now hc hd he =>
    rw [response_encode hp] at he
    obtain rfl := Except.ok.inj he
    exact .accepted hc rfl
  | unbuilt _ _ he =>
    rw [response_encode hp] at he
    cases he

theorem EventStep.replyStep {event : PacketRadioEvent} (h : EventStep s event tr s')
    (hp : PayloadReady s) (hr : s.config.role = .responder) : ReplyStep s tr s' := by
  cases h with
  | unreadResponder =>
    exact .kept (by simp [Quiet, invalidEvent]) rfl (by simp [replyStates])
  | unreadInitiator _ hi _ => exact absurd (hr.symm.trans hi) (by decide)
  | request _ _ _ h => exact h.replyStep hp
  | response _ hi _ _ _ => exact absurd (hr.symm.trans hi) (by decide)
  | stray => exact .kept (by simp [Quiet, invalidEvent]) rfl id
  | timeoutRetry _ hi _ _ => exact absurd (hr.symm.trans hi) (by decide)
  | crcRetry _ hi _ _ => exact absurd (hr.symm.trans hi) (by decide)
  | deviceError _ h => exact h.replyStep hr
  | none | txDoneIgnored | timeoutIgnored | crcIgnored => exact .kept (by simp) rfl id
  | _ => exact .kept (by simp [Quiet]) rfl (by simp [replyStates])

theorem TimeoutStep.replyStep (h : TimeoutStep s tr s') (hc : Consistent s)
    (hr : s.config.role = .responder) : ReplyStep s tr s' := by
  cases h with
  | none h =>
    refine .kept ?_ rfl id
    cases h <;> simp [Quiet]
  | response _ hw _ _ =>
    exact absurd (hr.symm.trans (hc.busy (by simp [hw])).1) (by decide)
  | requestTx _ hw _ _ =>
    exact absurd (hr.symm.trans (hc.busy (by simp [hw])).1) (by decide)
  | _ => exact .kept (by simp [Quiet, recoveryEvent]) rfl (by simp [replyStates])

theorem StartRefused.replyStep {rest : List LinkAction} (h : StartRefused s tr) (hc : Consistent s)
    (hr : s.config.role = .responder) (hrest : ∀ a ∈ rest, Quiet a) (hs : s'.reply = s.reply)
    (hstate : s'.state ∈ replyStates → s.state ∈ replyStates) : ReplyStep s (tr ++ rest) s' := by
  cases h with
  | requestTx hw => exact absurd (hr.symm.trans (hc.busy (by simp [hw])).1) (by decide)
  | responseRx _ => exact .kept (by simpa [Quiet] using hrest) hs hstate
  | responderRx _ => exact .kept (by simpa [Quiet] using hrest) hs hstate
  | responseTx hw _ => exact .transmitted hw hrest hs
  | unanswered _ _ => exact .kept hrest hs hstate

theorem ActionStep.replyStep (h : ActionStep s tr s') (hc : Consistent s)
    (hr : s.config.role = .responder) : ReplyStep s tr s' := by
  have hbusy : s.state ∉ [.startRequestTx, .waitRequestTxDone, .startResponseRx, .waitResponse] := by
    intro hw
    exact absurd (hr.symm.trans (hc.busy hw).1) (by decide)
  cases h with
  | none => exact .kept (by simp) rfl id
  | requestTx _ _ hw => exact absurd hw (by rintro hw; simp [hw] at hbusy)
  | responseTx _ hw _ => exact .transmitted hw (by simp [Quiet]) rfl
  | refused _ h _ => exact h.replyStep hc hr (by simp [Quiet]) rfl id
  | requestLost _ _ _ hw => exact absurd hw (by rintro hw; simp [hw] at hbusy)
  | requestRestarted _ _ hw => exact absurd hw (by rintro hw; simp [hw] at hbusy)
  | lost _ _ h =>
    exact h.replyStep hc hr (by simp [Quiet, recoveryEvent]) rfl (by simp [replyStates])
  | responseRxRetry _ hw _ _ => exact absurd hw (by rintro hw; simp [hw] at hbusy)
  | responderRestarted => exact .kept (by simp [Quiet]) rfl id
  | responseGivenUp _ _ _ h => exact h.replyStep hc hr (by simp [Quiet]) rfl (by simp [replyStates])
  | _ => exact .kept (by simp [Quiet]) rfl (by simp [replyStates])

/-- **What a part of a call does to the reply of a responder.** -/
theorem PartStep.replyStep (h : PartStep s tr s') (hc : Consistent s) (hp : PayloadReady s)
    (hr : s.config.role = .responder) : ReplyStep s tr s' := by
  cases h with
  | event h => exact h.replyStep hp hr
  | timeout h => exact h.replyStep hc hr
  | action h => exact h.replyStep hc hr

end

theorem checkRequest_valid {s : DuplexLinkService} {frame : PacketRadioRxFrame}
    {request : LinkPacket} (h : s.checkRequest frame = .accept request) :
    requestTypeIsValid request.messageType = true := by
  unfold checkRequest at h
  split at h
  · cases h
  · split_ifs at h with hs ht
    cases h
    exact ht

/-! ## The request accepted last -/

/-- The payload that was configured last, or the 16 zeros of the start. -/
def configuredPayload (log : List LogEntry) : List UInt8 :=
  log.foldl (fun payload entry => match entry with | .configured payload => payload | _ => payload)
    (List.replicate linkPacketPayloadSize 0)

/-- The entry reports a request that was accepted as new. -/
def ReportsNew : LogEntry → Prop
  | .action ⟨.published event _, _⟩ => event.type = .requestReceived
  | _ => False

theorem configuredPayload_append (log entries : List LogEntry)
    (h : ∀ payload, LogEntry.configured payload ∉ entries) :
    configuredPayload (log ++ entries) = configuredPayload log := by
  induction entries generalizing log with
  | nil => rw [List.append_nil]
  | cons entry entries ih =>
    rw [List.append_cons, ih _ fun payload hm => h payload (.tail entry hm), configuredPayload,
      List.foldl_append]
    cases entry with
    | configured payload => exact absurd (.head _) (h payload)
    | _ => rfl

theorem configured_not_mem (tr : List LinkAction) (payload : List UInt8) :
    LogEntry.configured payload ∉ tr.map LogEntry.action := by
  intro hm
  obtain ⟨a, -, heq⟩ := List.mem_map.mp hm
  cases heq

/-- The cached response answers `request`, with the payload that was configured at the end of
`before`. -/
structure AnswersLast (config : DuplexLinkConfig) (before : List LogEntry) (request : LinkPacket)
    (r : Reply) (response : LinkPacket) : Prop where
  valid : requestTypeIsValid request.messageType = true
  cached : r.hasCachedResponse = true
  sequence : r.lastRemoteSequence = request.sequence
  type : r.lastRemoteMessageType = request.messageType
  decodes : LinkPacket.decode r.cachedResponseFrame.toList config.peerNodeId = .ok response
  source : response.sourceId = config.localNodeId
  acknowledges : response.acknowledgedSequence = r.lastRemoteSequence
  answers : response.messageType = expectedResponseType r.lastRemoteMessageType
  payloadLength : response.payloadLength.toNat = (configuredPayload before).length
  payload : response.payload = payloadBuffer (configuredPayload before)

theorem AnswersLast.configured {config : DuplexLinkConfig} {before : List LogEntry}
    {request response : LinkPacket} {r : Reply} (h : AnswersLast config before request r response)
    (payload : Vector UInt8 linkPacketPayloadSize) (length : UInt8) :
    AnswersLast config before request
      { r with responsePayload := payload, responsePayloadLength := length } response :=
  ⟨h.valid, h.cached, h.sequence, h.type, h.decodes, h.source, h.acknowledges, h.answers,
    h.payloadLength, h.payload⟩

/-- The last report of a new request in the log is about the request that the cached response
answers. -/
def LastAnswered (config : DuplexLinkConfig) (log : List LogEntry) (r : Reply) : Prop :=
  ∃ before event stored after response,
    log = before ++ .action (atPublished event stored) :: after ∧ event.type = .requestReceived ∧
    (∀ e ∈ after, ¬ ReportsNew e) ∧ AnswersLast config before event.packet r response

theorem LastAnswered.append {config : DuplexLinkConfig} {log entries : List LogEntry} {r : Reply}
    (h : LastAnswered config log r) (he : ∀ e ∈ entries, ¬ ReportsNew e) :
    LastAnswered config (log ++ entries) r := by
  obtain ⟨before, event, stored, after, response, rfl, htype, hafter, hanswers⟩ := h
  refine ⟨before, event, stored, after ++ entries, response, by simp, htype, ?_, hanswers⟩
  intro e hm
  rcases List.mem_append.mp hm with hm | hm
  · exact hafter e hm
  · exact he e hm

/-- What a responder keeps, in the terms of the log. -/
structure Answered (config : DuplexLinkConfig) (log : List LogEntry) (s : DuplexLinkService) :
    Prop where
  config_eq : s.config = config
  consistent : Consistent s
  length : payloadLengthIsValid (configuredPayload log).length = true
  payload : s.reply.responsePayload = payloadBuffer (configuredPayload log)
  payloadLength : s.reply.responsePayloadLength = (configuredPayload log).length.toUInt8
  last : s.reply.hasLastRemoteSequence = true → LastAnswered config log s.reply
  waiting : s.state ∈ replyStates → s.reply.hasLastRemoteSequence = true

namespace Answered

variable {config : DuplexLinkConfig} {log entries : List LogEntry} {s s' : DuplexLinkService}

theorem payloadReady (h : Answered config log s) : PayloadReady s := by
  have hlength : s.responsePayloadLength = (configuredPayload log).length.toUInt8 := h.payloadLength
  rw [PayloadReady, hlength]
  exact payloadLengthIsValid_toUInt8 h.length

theorem of_reply (h : Answered config log s) (hconfig : s'.config = s.config)
    (hc : Consistent s') (hreply : s'.reply = s.reply)
    (hstate : s'.state ∈ replyStates → s'.reply.hasLastRemoteSequence = true)
    (hp : ∀ payload, LogEntry.configured payload ∉ entries) (he : ∀ e ∈ entries, ¬ ReportsNew e) :
    Answered config (log ++ entries) s' := by
  have hconfigured := configuredPayload_append log entries hp
  refine ⟨hconfig.trans h.config_eq, hc, ?_, ?_, ?_, ?_, hstate⟩
  · rw [hconfigured]
    exact h.length
  · rw [hconfigured, hreply]
    exact h.payload
  · rw [hconfigured, hreply]
    exact h.payloadLength
  · rw [hreply]
    intro hl
    exact (h.last hl).append he

theorem answersLast (h : Answered config log s) {request : LinkPacket}
    (hvalid : requestTypeIsValid request.messageType = true) :
    AnswersLast config log request (s.reply.accepted request (s.response request).frame)
      (s.response request).cleared := by
  have hp := h.payloadReady
  have hlength : s.responsePayloadLength = (configuredPayload log).length.toUInt8 := h.payloadLength
  have hpayload : s.responsePayload = payloadBuffer (configuredPayload log) := h.payload
  have hle := h.length
  simp only [payloadLengthIsValid, linkPacketPayloadSize, Bool.and_eq_true, decide_eq_true_eq] at hle
  have htype : LinkPacket.messageTypeIsValid (s.response request).messageType.code = true := by
    show LinkPacket.messageTypeIsValid (expectedResponseType request.messageType).code = true
    rw [expectedResponseType]
    split <;> rfl
  refine ⟨hvalid, rfl, rfl, rfl, ?_, ?_, rfl, rfl, ?_, ?_⟩
  · rw [← h.config_eq]
    exact LinkPacket.decode_frame htype hp
  · rw [← h.config_eq]
    rfl
  · show s.responsePayloadLength.toNat = _
    rw [hlength, Nat.toUInt8_eq, UInt8.toNat_ofNat', Nat.mod_eq_of_lt (by omega)]
  · show LinkPacket.copyPayload (LinkPacket.copyPayload s.responsePayload
      s.responsePayloadLength.toNat) s.responsePayloadLength.toNat = _
    rw [copyPayload_copyPayload, hpayload, hlength]
    exact payloadBuffer_cleared h.length

theorem accepted (h : Answered config log s) {request : LinkPacket}
    (hvalid : requestTypeIsValid request.messageType = true) (hconfig : s'.config = s.config)
    (hc : Consistent s') (hreply : s'.reply = s.reply.accepted request (s.response request).frame)
    {event : DuplexLinkEvent} (htype : event.type = .requestReceived)
    (hpacket : event.packet = request) (stored : Bool) (now : UInt32) :
    Answered config (log ++ [.action (atPublished event stored), .action (atNow now)]) s' := by
  have hconfigured := configuredPayload_append log
    [.action (atPublished event stored), .action (atNow now)] (by simp)
  refine ⟨hconfig.trans h.config_eq, hc, ?_, ?_, ?_, ?_, ?_⟩
  · rw [hconfigured]
    exact h.length
  · rw [hconfigured, hreply]
    exact h.payload
  · rw [hconfigured, hreply]
    exact h.payloadLength
  · intro _
    refine ⟨log, event, stored, [.action (atNow now)], (s.response request).cleared, rfl, htype, ?_,
      ?_⟩
    · intro e he
      obtain rfl := List.mem_singleton.mp he
      exact id
    · rw [hpacket, hreply]
      exact h.answersLast hvalid
  · intro _
    rw [hreply]
    rfl

theorem not_reportsNew {tr : List LinkAction} (hq : ∀ a ∈ tr, Quiet a) :
    ∀ e ∈ tr.map LogEntry.action, ¬ ReportsNew e := by
  intro e he hnew
  obtain ⟨⟨o, x⟩, hm, rfl⟩ := List.mem_map.mp he
  have hquiet := hq _ hm
  cases o with
  | published event stored =>
    have htype : event.type = .requestReceived := hnew
    exact hquiet (by rw [htype]; simp)
  | _ => exact hnew

/-- **What a part of a call does to the reply, the log shows.** -/
theorem part (h : Answered config log s) {tr : List LinkAction} (hr : config.role = .responder)
    (hpart : PartStep s tr s') : Answered config (log ++ tr.map .action) s' := by
  have hc := hpart.consistent h.consistent
  have hconfig := hpart.config
  cases hpart.replyStep h.consistent h.payloadReady (by rw [h.config_eq]; exact hr) with
  | kept hq hreply hstate =>
    refine h.of_reply hconfig hc hreply ?_ (configured_not_mem _) (not_reportsNew hq)
    intro hs
    rw [hreply]
    exact h.waiting (hstate hs)
  | transmitted hs hq hreply =>
    refine h.of_reply hconfig hc hreply ?_ (configured_not_mem _) ?_
    · intro _
      rw [hreply]
      exact h.waiting (by simp [hs, replyStates])
    · intro e he
      rcases List.mem_cons.mp he with rfl | he
      · exact id
      · exact not_reportsNew hq e he
  | repeated _ hd hreply =>
    refine h.of_reply hconfig hc hreply ?_ (configured_not_mem _) ?_
    · intro _
      rw [hreply]
      exact hd.1
    · simp [ReportsNew, duplicateEvent]
  | @accepted frame request now _ hcheck hreply =>
    have hread : Answered config (log ++ [.action (atRead (some frame))]) s :=
      h.of_reply rfl h.consistent rfl h.waiting (by simp) (by simp [ReportsNew])
    have hvalid := checkRequest_valid hcheck
    have hnext := @accepted _ _ _ _ hread _ hvalid hconfig hc hreply (requestEvent request frame)
      rfl rfl (!s.events.isFull) now
    rwa [List.append_assoc] at hnext

end Answered

variable {config : DuplexLinkConfig} {log entries : List LogEntry} {p p' : CallPoint}
  {s s' : DuplexLinkService}

theorem Session.answered (h : Session config log p s) (hr : config.role = .responder) :
    Answered config log s := by
  refine h.invariant (I := Answered config) ⟨?_, ?_, ?_, ?_, ?_⟩ ?_
  · intro log s a ha hs
    refine hs.of_reply rfl hs.consistent rfl hs.waiting (by simp) ?_
    rcases ha with rfl | ⟨event, rfl⟩ <;> simp [ReportsNew]
  · intro log s event events _ hs
    exact hs.of_reply rfl hs.consistent rfl hs.waiting (by simp) (by simp [ReportsNew])
  · intro log s messageType payload now hb hs
    have hi := hb.role
    rw [hs.config_eq, hr] at hi
    cases hi
  · intro log s payload _ hl hs
    have hconfigured : configuredPayload (log ++ [.configured payload]) = payload := by
      rw [configuredPayload, List.foldl_append]
      rfl
    generalize hbuffer : payloadBuffer payload = buffer
    refine ⟨hs.config_eq, hs.consistent, ?_, ?_, ?_, ?_, hs.waiting⟩
    · rw [hconfigured]
      exact hl
    · rw [hconfigured]
      exact hbuffer.symm
    · rw [hconfigured]
      rfl
    · intro hlast
      obtain ⟨before, event, stored, after, response, heq, htype, hafter, ha⟩ := hs.last hlast
      refine ⟨before, event, stored, after ++ [.configured payload], response, ?_, htype, ?_, ?_⟩
      · rw [heq, List.append_assoc]
        rfl
      · intro e he
        rcases List.mem_append.mp he with he | he
        · exact hafter e he
        · obtain rfl := List.mem_singleton.mp he
          exact id
      · exact ha.configured _ _
  · intro log s tr s' hp hs
    exact hs.part hr hp
  · intro now _
    have hstate : (initial config now).state = .startResponderRx := by
      rw [initial, hr]
    have hnone : (initial config now).reply.hasLastRemoteSequence = false := rfl
    refine ⟨rfl, consistent_initial config now, rfl, ?_, rfl, ?_, ?_⟩
    · show Vector.replicate linkPacketPayloadSize 0 =
        payloadBuffer (List.replicate linkPacketPayloadSize 0)
      decide
    · rw [hnone]
      exact fun hlast => absurd hlast Bool.false_ne_true
    · rw [hstate]
      simp [replyStates]

/-- **The cached response always answers the last accepted request**, a response is started
only with such a response in the cache, and a response can always be built. -/
theorem Session.cached_answers (h : Session config log p s) (hr : config.role = .responder) :
    (s.hasLastRemoteSequence = true → LastAnswered config log s.reply) ∧
    (s.state = .startResponseTx →
      s.hasLastRemoteSequence = true ∧ LastAnswered config log s.reply) ∧
    ∀ frame request, buildResponse
      (((s.heard frame).remembered request).pushed (requestEvent request frame)) request ≠ none := by
  have ha := h.answered hr
  refine ⟨ha.last, ?_, ?_⟩
  · intro hs
    have hlast := ha.waiting (by simp [hs, replyStates])
    exact ⟨hlast, ha.last hlast⟩
  · intro frame request
    have hp : PayloadReady
        (((s.heard frame).remembered request).pushed (requestEvent request frame)) :=
      ha.payloadReady
    rw [buildResponse_eq (response_encode hp request)]
    simp

theorem exists_acceptedPing : ∃ log s, Session answererConfig log .outside s ∧
    s.state = .waitResponseTxDone ∧ s.IsDuplicate answererPing ∧
    s.lastRemoteMessageType = .ping := by
  obtain ⟨h, hready⟩ := readyAnswerer_run
  obtain ⟨log, hlog, -⟩ := hready.session
  have haccepted := hlog.process (trace_accepting rfl rfl (rfl : readyAnswerer.PayloadReady)
    (checkRequest_answererPing rfl) (by decide) 0)
  exact ⟨_, _, haccepted, rfl, ⟨rfl, rfl⟩, rfl⟩

theorem cached_answers_ping : ∃ log s, Session answererConfig log .outside s ∧
    s.hasLastRemoteSequence = true ∧ LastAnswered answererConfig log s.reply := by
  obtain ⟨log, s, h, -, hd, -⟩ := exists_acceptedPing
  exact ⟨log, s, h, hd.1, (h.cached_answers rfl).1 hd.1⟩

/-! ## The response to a frame -/

/-- The entry reports a request that was taken, as a new one or as a repeated one. -/
def Hears : LogEntry → Prop
  | .action ⟨.published event _, _⟩ => event.type ∈ [.requestReceived, .duplicateSuppressed]
  | _ => False

/-- `data` is a response of the right type to `request`. -/
def Matches (config : DuplexLinkConfig) (request : LinkPacket) (data : List UInt8) : Prop :=
  ∃ response, LinkPacket.decode data config.peerNodeId = .ok response ∧
    response.acknowledgedSequence = request.sequence ∧
    (request.messageType = .data → response.messageType = .ack) ∧
    (request.messageType = .ping → response.messageType = .pong)

/-- What a responder hands to the radio until it takes another request. -/
structure Handing (response : LinkFrame) (log : List LogEntry) (s : DuplexLinkService) : Prop where
  role : s.config.role = .responder
  consistent : Consistent s
  payloadReady : PayloadReady s
  cached : (∀ e ∈ log, ¬ Hears e) → s.cachedResponseFrame = response
  handed : ∀ before data started, before ++ [.action ⟨.tryStartTx data, started⟩] <+: log →
    (∀ e ∈ before, ¬ Hears e) → data = response.toList

namespace Handing

variable {response : LinkFrame}

theorem concat (h : Handing response log s) {e : LogEntry}
    (he : ∀ data started, e = .action ⟨.tryStartTx data, started⟩ → (∀ e ∈ log, ¬ Hears e) →
      data = response.toList) : Handing response (log ++ [e]) s := by
  refine ⟨h.role, h.consistent, h.payloadReady, ?_, ?_⟩
  · intro hlog
    exact h.cached fun e' he' => hlog e' (List.mem_append_left _ he')
  · intro before data started hpre hbefore
    rcases List.prefix_concat_iff.mp hpre with hpre | hpre
    · obtain ⟨rfl, hlast⟩ := List.append_inj' hpre rfl
      exact he data started (List.singleton_inj.mp hlast).symm hbefore
    · exact h.handed before data started hpre hbefore

theorem concat_other (h : Handing response log s) {e : LogEntry}
    (he : ∀ data started, e ≠ .action ⟨.tryStartTx data, started⟩) :
    Handing response (log ++ [e]) s := by
  apply h.concat
  intro data started heq
  exact absurd heq (he data started)

theorem append_other (h : Handing response log s) {tr : List LinkAction}
    (htr : ∀ data started, ⟨.tryStartTx data, started⟩ ∉ tr) :
    Handing response (log ++ tr.map .action) s := by
  induction tr generalizing log with
  | nil =>
    rw [List.map_nil, List.append_nil]
    exact h
  | cons a tr ih =>
    rw [List.map_cons, List.append_cons]
    apply ih
    · apply h.concat_other
      rintro data started heq
      cases heq
      exact htr data started (.head tr)
    · intro data started hm
      exact htr data started (.tail a hm)

theorem append_quiet (h : Handing response log s) {tr : List LinkAction}
    (hq : ∀ a ∈ tr, Quiet a) : Handing response (log ++ tr.map .action) s := by
  apply h.append_other
  intro data started hm
  exact hq _ hm

theorem of_reply (h : Handing response log s) (hr : s'.config.role = .responder)
    (hc : Consistent s') (hp : PayloadReady s') (hreply : s'.reply = s.reply) :
    Handing response log s' := by
  refine ⟨hr, hc, hp, ?_, h.handed⟩
  intro hlog
  have hframe : s'.cachedResponseFrame = s.cachedResponseFrame :=
    congrArg Reply.cachedResponseFrame hreply
  rw [hframe]
  exact h.cached hlog

theorem heard (h : Handing response log s) (hr : s'.config.role = .responder)
    (hc : Consistent s') (hp : PayloadReady s') {e : LogEntry} (he : e ∈ log) (hh : Hears e) :
    Handing response log s' := by
  refine ⟨hr, hc, hp, ?_, h.handed⟩
  intro hlog
  exact absurd hh (hlog e he)

theorem part (h : Handing response log s) {tr : List LinkAction} (hpart : PartStep s tr s') :
    Handing response (log ++ tr.map .action) s' := by
  have hc := hpart.consistent h.consistent
  have hp := (hpart.move h.payloadReady).payloadReady h.payloadReady
  have hr : s'.config.role = .responder := by
    rw [hpart.config]
    exact h.role
  cases hpart.replyStep h.consistent h.payloadReady h.role with
  | kept hq hreply _ => exact (h.append_quiet hq).of_reply hr hc hp hreply
  | transmitted hs hq hreply =>
    rw [List.map_cons, List.append_cons]
    refine ((h.concat ?_).append_quiet hq).of_reply hr hc hp hreply
    intro data started heq hlog
    cases heq
    rw [h.cached hlog]
  | @repeated frame request now =>
    have hmem : LogEntry.action (atPush s (duplicateEvent request frame)) ∈ log ++
        [atRead (some frame), atPush s (duplicateEvent request frame), atNow now].map .action := by
      simp
    exact (h.append_other (by simp)).heard hr hc hp hmem (by simp [Hears, duplicateEvent])
  | @accepted frame request now =>
    have hmem : LogEntry.action (atPush s (requestEvent request frame)) ∈ log ++
        [atRead (some frame), atPush s (requestEvent request frame), atNow now].map .action := by
      simp
    exact (h.append_other (by simp)).heard hr hc hp hmem (by simp [Hears, requestEvent])

/-- **What the radio is handed until another request is taken.** -/
theorem kept : Kept (Handing response) := by
  refine ⟨?_, ?_, ?_, ?_, ?_⟩
  · intro log s a ha h
    apply h.concat_other
    rintro data started heq
    cases heq
    rcases ha with ha | ⟨event, ha⟩ <;> cases ha
  · intro log s event events _ h
    exact (h.concat_other (by simp)).of_reply h.role h.consistent h.payloadReady rfl
  · intro log s messageType payload now hb h
    exact absurd (h.role.symm.trans hb.role) (by decide)
  · intro log s payload _ hl h
    have hnext := @concat_other _ _ _ h (.configured payload) (by simp)
    generalize payloadBuffer payload = buffer
    exact ⟨h.role, h.consistent, payloadLengthIsValid_toUInt8 hl, hnext.cached, hnext.handed⟩
  · intro log s tr s' hpart h
    exact h.part hpart

end Handing

theorem Step.requestHandled {event : PacketRadioEvent} {frame : PacketRadioRxFrame}
    {tr : List LinkAction} (hr : s.config.role = .responder) (hs : s.state = .responderRx)
    (h : Step .polling s
      (.action (atTake (some event)) :: .action (atRead (some frame)) :: tr.map .action) p' s') :
    RequestHandled s frame tr s' := by
  generalize hentries : LogEntry.action (atTake (some event)) ::
    .action (atRead (some frame)) :: tr.map .action = entries at h
  cases h with
  | noEvent => cases hentries
  | @event _ _ _ tr' h =>
    have hstep := trace_handleRadioEvent h
    obtain ⟨-, hmap⟩ := List.cons.inj hentries
    have htr : atRead (some frame) :: tr = tr' :=
      List.map_injective_iff.mpr (fun _ _ h => LogEntry.action.inj h) hmap
    subst htr
    generalize hact : atRead (some frame) :: tr = tr'' at hstep
    cases hstep with
    | request _ _ _ hhandled =>
      cases hact
      exact hhandled
    | stray _ hno _ => exact absurd ⟨hr, hs⟩ hno
    | response _ hi _ _ _ => exact absurd (hr.symm.trans hi) (by decide)
    | timeoutRetry _ hi _ _ => exact absurd (hr.symm.trans hi) (by decide)
    | crcRetry _ hi _ _ => exact absurd (hr.symm.trans hi) (by decide)
    | deviceError _ hd => cases hd <;> cases hact
    | _ => cases hact

/-- The type of a response, from the type of the request that it was built for. -/
theorem expectedResponseType_matches {requested built : LinkMessageType}
    (hrequested : requestTypeIsValid requested = true) (hbuilt : requestTypeIsValid built = true) :
    ((requested = .data → expectedResponseType built = .ack) ∧
      (requested = .ping → expectedResponseType built = .pong)) ↔ built = requested := by
  cases requested <;> cases built <;> simp_all [requestTypeIsValid, expectedResponseType]

theorem AnswersLast.matches {request built response : LinkPacket} {r : Reply}
    (h : AnswersLast config log built r response)
    (hsequence : request.sequence = r.lastRemoteSequence)
    (hvalid : requestTypeIsValid request.messageType = true) :
    Matches config request r.cachedResponseFrame.toList ↔
      r.lastRemoteMessageType = request.messageType := by
  have hbuilt : requestTypeIsValid r.lastRemoteMessageType = true := by
    rw [h.type]
    exact h.valid
  rw [← expectedResponseType_matches hvalid hbuilt]
  constructor
  · rintro ⟨response', hdecodes, -, hack, hpong⟩
    rw [h.decodes] at hdecodes
    obtain rfl := Except.ok.inj hdecodes
    rw [h.answers] at hack hpong
    exact ⟨hack, hpong⟩
  · rintro ⟨hack, hpong⟩
    refine ⟨response, h.decodes, h.acknowledges.trans hsequence.symm, ?_, ?_⟩
    · rw [h.answers]
      exact hack
    · rw [h.answers]
      exact hpong

theorem checkRequest_of_decode {frame : PacketRadioRxFrame} {request : LinkPacket}
    (hdecode : LinkPacket.decode frame.data s.config.localNodeId = .ok request)
    (hsource : request.sourceId = s.config.peerNodeId)
    (hvalid : requestTypeIsValid request.messageType = true) :
    s.checkRequest frame = .accept request := by
  rw [checkRequest, hdecode]
  exact (if_neg (not_not.mpr hsource)).trans (if_neg (not_not.mpr hvalid))

theorem RequestHandled.matches {frame : PacketRadioRxFrame} {tr : List LinkAction}
    (hh : RequestHandled s frame tr s') (ha : Answered config log s) {request : LinkPacket}
    (hcheck : s.checkRequest frame = .accept request) :
    Matches config request s'.cachedResponseFrame.toList ↔
      (s.IsDuplicate request → s.lastRemoteMessageType = request.messageType) := by
  have hvalid := checkRequest_valid hcheck
  cases hh with
  | rejected _ hc =>
    rw [hcheck] at hc
    cases hc
  | duplicate _ hc hd _ =>
    rw [hcheck] at hc
    cases hc
    obtain ⟨before, event, stored, after, response, -, -, -, hlast⟩ := ha.last hd.1
    exact (hlast.matches hd.2 hvalid).trans ⟨fun h _ => h, fun h => h hd⟩
  | unanswered _ hc hd hno =>
    obtain ⟨before, event, stored, after, response, -, -, -, hlast⟩ := ha.last (by
      rw [hcheck] at hc
      cases hc
      exact hd.1)
    have hcached : s.hasCachedResponse = true := hlast.cached
    exact absurd (hno.symm.trans hcached) (by decide)
  | received _ hc hd he =>
    rw [hcheck] at hc
    cases hc
    rw [response_encode ha.payloadReady] at he
    obtain rfl := Except.ok.inj he
    have hbuilt := (ha.answersLast hvalid).matches rfl hvalid
    exact ⟨fun _ h => absurd h hd, fun _ => hbuilt.mpr rfl⟩
  | unbuilt _ _ he _ =>
    rw [response_encode ha.payloadReady] at he
    cases he

/-- **The response to a request of the peer matches it, unless the request repeats the sequence
number of a request of the other type.** -/
theorem Session.response_matches_iff (h : Session config log .polling s)
    (hr : config.role = .responder) (hs : s.state = .responderRx) {frame : PacketRadioRxFrame}
    {request : LinkPacket} (hdecode : LinkPacket.decode frame.data config.localNodeId = .ok request)
    (hsource : request.sourceId = config.peerNodeId)
    (hvalid : requestTypeIsValid request.messageType = true) {event : PacketRadioEvent}
    {tr : List LinkAction} (hread : Step .polling s
      (.action (atTake (some event)) :: .action (atRead (some frame)) :: tr.map .action) p' s')
    {before after : List LogEntry} {data : List UInt8} {started : Bool} {p'' : CallPoint}
    {s'' : DuplexLinkService}
    (hsteps : Steps p' s' (before ++ .action ⟨.tryStartTx data, started⟩ :: after) p'' s'')
    (hbefore : ∀ e ∈ before, ¬ Hears e) :
    Matches config request data ↔
      (s.IsDuplicate request → s.lastRemoteMessageType = request.messageType) := by
  have ha := h.answered hr
  have hconfig := ha.config_eq
  have hcheck : s.checkRequest frame = .accept request :=
    checkRequest_of_decode (by rwa [hconfig]) (by rwa [hconfig]) hvalid
  have hhandled := hread.requestHandled (by rw [hconfig]; exact hr) hs
  have hnext := (h.step hread).answered hr
  have hstart : Handing s'.cachedResponseFrame [] s' := by
    refine ⟨by rw [hnext.config_eq]; exact hr, hnext.consistent, hnext.payloadReady, fun _ => rfl, ?_⟩
    intro before data started hpre
    exact absurd (List.prefix_nil.mp hpre) (by simp)
  have hdata : data = s'.cachedResponseFrame.toList := by
    refine (Handing.kept.steps hsteps hstart).handed before data started ?_ hbefore
    exact ⟨after, by simp⟩
  rw [hdata]
  exact hhandled.matches ha hcheck

/-! ## A request of the other type -/

theorem exists_answeredPing : ∃ log s, Session answererConfig log .polling s ∧
    s.state = .responderRx ∧ s.IsDuplicate answererPing ∧ s.hasCachedResponse = true ∧
    s.lastRemoteMessageType = .ping := by
  obtain ⟨log, s, h, hs, hd, ht⟩ := exists_acceptedPing
  obtain ⟨before, event, stored, after, response, -, -, -, hlast⟩ := (h.answered rfl).last hd.1
  have hsent := h.hear (by simp [hs]) (by simp [hs]) (trace_responseSent hs 0) (by simp)
    (by simp [timedStates]) (trace_responderRx rfl 0)
  exact ⟨_, _, hsent.step (.process (by simp) (by simp)), rfl, hd, hlast.cached, ht⟩

section

variable {frame : PacketRadioRxFrame} {request : LinkPacket}

theorem step_repeated (hr : s.config.role = .responder) (hs : s.state = .responderRx)
    (hc : s.checkRequest frame = .accept request) (hd : s.IsDuplicate request)
    (hcached : s.hasCachedResponse = true) :
    Step .polling s
      (.action (atTake (some rxDone)) :: .action (atRead (some frame)) ::
        [atPush s (duplicateEvent request frame), atNow 0].map .action)
      .polling (s.suppressing frame request 0) :=
  .event (trace_request hr hs (trace_duplicate hc hd hcached 0))

theorem steps_repeated (hcached : s.hasCachedResponse = true) :
    ∃ s', Steps .polling (s.suppressing frame request 0)
      ([.action (atTake none)] ++ .action (atTx s.cachedResponseFrame true) :: [.action (atNow 0)])
      .outside s' := by
  have htimeouts : Step .timeouts (s.suppressing frame request 0) [] .action
      (s.suppressing frame request 0) := .timeouts (trace_processTimeouts_nil (by
    simp [suppressing, timedStates]))
  have htx : Step .action (s.suppressing frame request 0)
      [.action (atTx s.cachedResponseFrame true), .action (atNow 0)] .outside _ :=
    .action (trace_responseTx (s := s.suppressing frame request 0) rfl hcached 0)
  exact ⟨_, ((Steps.single (.noEvent _)).tail htimeouts).tail htx⟩

end

def answererData : LinkPacket := { answererPing with messageType := .data }

def answererDataFrame : PacketRadioRxFrame := ⟨answererData.frame.toList, 0, 0⟩

theorem decode_answererPing :
    LinkPacket.decode answererPingFrame.data answererConfig.localNodeId = .ok answererPing :=
  (@LinkPacket.decode_frame answererPing rfl rfl).trans rfl

theorem decode_answererData :
    LinkPacket.decode answererDataFrame.data answererConfig.localNodeId = .ok answererData :=
  (@LinkPacket.decode_frame answererData rfl rfl).trans rfl

/-- The ping comes again, and the frame that is handed over is the pong of its sequence number. -/
theorem response_matches_ping : ∃ (log : List LogEntry) (s : DuplexLinkService)
    (response : LinkPacket), Session answererConfig log .polling s ∧
      LinkPacket.decode s.cachedResponseFrame.toList 1 = .ok response ∧
      response.messageType = .pong ∧ response.acknowledgedSequence = 0 := by
  obtain ⟨log, s, h, hs, hd, hcached, ht⟩ := exists_answeredPing
  have hconfig := h.consistent.2
  have hcheck : s.checkRequest answererPingFrame = .accept answererPing :=
    checkRequest_of_decode (by rw [hconfig]; exact decode_answererPing) (by rw [hconfig]; rfl) rfl
  have hr : s.config.role = .responder := by
    rw [hconfig]
    rfl
  obtain ⟨s', hsteps⟩ := @steps_repeated s answererPingFrame answererPing hcached
  have hmatches := h.response_matches_iff rfl hs decode_answererPing rfl rfl
    (step_repeated hr hs hcheck hd hcached) hsteps (by simp [Hears])
  obtain ⟨response, hdecode, hsequence, -, hpong⟩ := hmatches.mpr fun _ => ht
  exact ⟨log, s, response, h, hdecode, hpong rfl, hsequence⟩

/-- **A ping is answered, and data with the same sequence number is answered with the pong.** -/
theorem response_of_other_type : ¬ ∀ (config : DuplexLinkConfig) (log : List LogEntry)
    (s : DuplexLinkService), Session config log .polling s → config.role = .responder →
    s.state = .responderRx → ∀ (frame : PacketRadioRxFrame) (request : LinkPacket),
    LinkPacket.decode frame.data config.localNodeId = .ok request →
    request.sourceId = config.peerNodeId → requestTypeIsValid request.messageType = true →
    ∀ (event : PacketRadioEvent) (tr : List LinkAction) (p' : CallPoint) (s' : DuplexLinkService),
    Step .polling s
      (.action (atTake (some event)) :: .action (atRead (some frame)) :: tr.map .action) p' s' →
    ∀ (before after : List LogEntry) (data : List UInt8) (started : Bool) (p'' : CallPoint)
      (s'' : DuplexLinkService),
    Steps p' s' (before ++ .action ⟨.tryStartTx data, started⟩ :: after) p'' s'' →
    (∀ e ∈ before, ¬ Hears e) → Matches config request data := by
  intro hclaim
  obtain ⟨log, s, h, hs, hd, hcached, ht⟩ := exists_answeredPing
  have hconfig := h.consistent.2
  have hcheck : s.checkRequest answererDataFrame = .accept answererData :=
    checkRequest_of_decode (by rw [hconfig]; exact decode_answererData) (by rw [hconfig]; rfl) rfl
  have hr : s.config.role = .responder := by
    rw [hconfig]
    rfl
  have hdup : s.IsDuplicate answererData := hd
  obtain ⟨s', hsteps⟩ := @steps_repeated s answererDataFrame answererData hcached
  have hmatches := hclaim _ _ s h rfl hs _ _ decode_answererData rfl rfl _ _ _ _
    (step_repeated hr hs hcheck hdup hcached) _ _ _ _ _ _ hsteps (by simp [Hears])
  obtain ⟨before, event, stored, after, response, -, -, -, hlast⟩ := (h.answered rfl).last hd.1
  have htype : s.lastRemoteMessageType = .data := (hlast.matches hdup.2 rfl).mp hmatches
  exact absurd (ht.symm.trans htype) (by decide)

end DuplexLinkService

end RadioConnection
