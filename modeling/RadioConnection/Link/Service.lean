import RadioConnection.Link.PacketRadio

/-!
# The duplex link service

`duplex_link_service.c`, function by function.  Each function takes the service
and returns it changed, and reaches the radio and the clock through `LinkProg`.
The log lines are left out.

The loop of `duplex_link_service_process` takes events until the radio has none
left; `process` has a bound on their number and returns `none` when the bound
is not enough.
-/

namespace RadioConnection

open LinkProg

abbrev duplexLinkEventCapacity : Nat := 8
def duplexLinkInternalError : UInt16 := 0xFFFF

inductive DuplexLinkRole
  | initiator | responder
  deriving DecidableEq, Repr

inductive DuplexLinkState
  | uninitialized | idle
  | startRequestTx | waitRequestTxDone | startResponseRx | waitResponse
  | startResponderRx | responderRx | startResponseTx | waitResponseTxDone
  | error
  deriving DecidableEq, Repr

structure DuplexLinkConfig where
  role : DuplexLinkRole
  localNodeId : UInt8
  peerNodeId : UInt8
  initialSequence : UInt16
  responseTimeoutMs : UInt32
  operationTimeoutMs : UInt32
  maxRetries : UInt8
  deriving DecidableEq, Repr

structure DuplexLinkStats where
  txPackets : UInt32 := 0
  rxPackets : UInt32 := 0
  completedExchanges : UInt32 := 0
  failedExchanges : UInt32 := 0
  retries : UInt32 := 0
  timeouts : UInt32 := 0
  radioCrcErrors : UInt32 := 0
  invalidPackets : UInt32 := 0
  duplicatePackets : UInt32 := 0
  deviceErrors : UInt32 := 0
  deriving DecidableEq, Repr

structure DuplexLinkService where
  config : DuplexLinkConfig
  state : DuplexLinkState
  nextSequence : UInt16
  stateStartedMs : UInt32
  attemptStartedMs : UInt32
  responseWaitStartedMs : UInt32
  pendingRequest : LinkPacket
  pendingRequestFrame : LinkFrame
  requestActive : Bool
  retryCount : UInt8
  attemptCount : UInt8
  responsePayload : Vector UInt8 linkPacketPayloadSize
  responsePayloadLength : UInt8
  hasLastRemoteSequence : Bool
  lastRemoteSequence : UInt16
  lastRemoteMessageType : LinkMessageType
  cachedResponseFrame : LinkFrame
  hasCachedResponse : Bool
  events : RingBuffer DuplexLinkEvent duplexLinkEventCapacity
  stats : DuplexLinkStats
  deriving DecidableEq

namespace DuplexLinkService

/-! ## Helpers -/

def setState (service : DuplexLinkService) (state : DuplexLinkState) :
    LinkProg DuplexLinkService := do
  let now ← nowMs
  pure { service with state := state, stateStartedMs := now }

/-- A full queue drops the event; every caller discards the result that says so. -/
def pushEvent (service : DuplexLinkService) (event : DuplexLinkEvent) :
    LinkProg DuplexLinkService := do
  if service.events.isFull then
    published event false
    pure service
  else
    published event true
    pure { service with events := service.events.push event }

def publishInvalid (service : DuplexLinkService) (reason : DuplexLinkInvalidReason)
    (packetStatus : LinkPacketStatus) (packet : Option LinkPacket)
    (frame : Option PacketRadioRxFrame) : LinkProg DuplexLinkService :=
  let event : DuplexLinkEvent :=
    { type := .invalidPacket
      invalidReason := reason
      packetStatus := packetStatus
      packet := packet.getD .zero
      rssiDbmX2 := (frame.map (·.rssiDbmX2)).getD 0
      snrDbX4 := (frame.map (·.snrDbX4)).getD 0 }
  pushEvent { service with stats.invalidPackets := service.stats.invalidPackets + 1 } event

def payloadLengthIsValid (payloadLength : Nat) : Bool :=
  linkPacketMinPayloadSize ≤ payloadLength && payloadLength ≤ linkPacketPayloadSize

def requestTypeIsValid (messageType : LinkMessageType) : Bool :=
  messageType = .data || messageType = .ping

def expectedResponseType (requestType : LinkMessageType) : LinkMessageType :=
  if requestType = .ping then .pong else .ack

/-- The bytes `payload` copied over a cleared packet payload. -/
def payloadBuffer (payload : List UInt8) : Vector UInt8 linkPacketPayloadSize :=
  Vector.ofFn fun i => payload.getD i.val 0

def prepareRequest (service : DuplexLinkService) (messageType : LinkMessageType)
    (payload : List UInt8) : LinkProg (Bool × DuplexLinkService) :=
  if ¬ requestTypeIsValid messageType ∨ ¬ payloadLengthIsValid payload.length ∨
      service.config.role ≠ .initiator ∨ service.state ≠ .idle ∨ service.requestActive then
    pure (false, service)
  else
    let packet : LinkPacket :=
      { messageType := messageType
        sourceId := service.config.localNodeId
        destinationId := service.config.peerNodeId
        sequence := service.nextSequence
        acknowledgedSequence := 0
        payloadLength := payload.length.toUInt8
        flags := linkPacketFlagNone
        payload := payloadBuffer payload }
    match packet.encode linkPacketEncodedSize with
    | .error _ => pure (false, service)
    | .ok frame => do
      let service ← setState
        { service with
          pendingRequestFrame := frame
          pendingRequest := packet
          nextSequence := service.nextSequence + 1
          requestActive := true
          retryCount := 0
          attemptCount := 0 } .startRequestTx
      pure (true, service)

def finishFailedExchange (service : DuplexLinkService) : LinkProg DuplexLinkService := do
  let event : DuplexLinkEvent :=
    { type := .exchangeFailed
      packet := service.pendingRequest
      attempts := service.attemptCount }
  let service ← setState
    { service with
      stats.failedExchanges := service.stats.failedExchanges + 1
      requestActive := false } .idle
  pushEvent service event

def retryOrFail (service : DuplexLinkService) : LinkProg DuplexLinkService :=
  if ¬ service.requestActive then setState service .idle
  else if service.retryCount < service.config.maxRetries then do
    let service ← setState
      { service with
        retryCount := service.retryCount + 1
        stats.retries := service.stats.retries + 1 } .startRequestTx
    logRetry service.pendingRequest.sequence service.retryCount service.config.maxRetries
    pure service
  else finishFailedExchange service

/-- `true` when the radio recovered. -/
def recoverRadio (service : DuplexLinkService) (errorCode : UInt16) :
    LinkProg (Bool × DuplexLinkService) := do
  if ← recover then
    pure (true, service)
  else
    let service ← setState
      { service with stats.deviceErrors := service.stats.deviceErrors + 1 } .error
    let service ← pushEvent service { type := .deviceError, deviceErrorCode := errorCode }
    pure (false, service)

def handleDeviceError (service : DuplexLinkService) (errorCode : UInt16) :
    LinkProg DuplexLinkService := do
  let service ← pushEvent
    { service with stats.deviceErrors := service.stats.deviceErrors + 1 }
    { type := .deviceError, deviceErrorCode := errorCode, attempts := service.attemptCount }
  if ← recover then
    if service.config.role = .responder then setState service .startResponderRx
    else if service.requestActive then retryOrFail service
    else setState service .idle
  else setState service .error

/-! ## Received frames -/

/-- The response to `request` that `duplex_link_build_response` encodes. -/
def response (service : DuplexLinkService) (request : LinkPacket) : LinkPacket where
  messageType := expectedResponseType request.messageType
  sourceId := service.config.localNodeId
  destinationId := service.config.peerNodeId
  sequence := service.nextSequence
  acknowledgedSequence := request.sequence
  payloadLength := service.responsePayloadLength
  flags := linkPacketFlagNone
  payload := LinkPacket.copyPayload service.responsePayload service.responsePayloadLength.toNat

/-- `none` when the response does not encode. -/
def buildResponse (service : DuplexLinkService) (request : LinkPacket) :
    Option DuplexLinkService :=
  match (service.response request).encode linkPacketEncodedSize with
  | .error _ => none
  | .ok frame =>
    some { service with
      cachedResponseFrame := frame
      nextSequence := service.nextSequence + 1
      hasCachedResponse := true }

def handleResponderFrame (service : DuplexLinkService) (frame : PacketRadioRxFrame) :
    LinkProg DuplexLinkService :=
  match LinkPacket.decode frame.data service.config.localNodeId with
  | .error status => do
    let service ← publishInvalid service .decode status none frame
    setState service .startResponderRx
  | .ok request => do
    let service := { service with stats.rxPackets := service.stats.rxPackets + 1 }
    if request.sourceId ≠ service.config.peerNodeId then
      let service ← publishInvalid service .source .ok request frame
      setState service .startResponderRx
    else if ¬ requestTypeIsValid request.messageType then
      let service ← publishInvalid service .messageType .ok request frame
      setState service .startResponderRx
    else if service.hasLastRemoteSequence ∧ request.sequence = service.lastRemoteSequence then
      let service ← pushEvent
        { service with stats.duplicatePackets := service.stats.duplicatePackets + 1 }
        { type := .duplicateSuppressed, packet := request, rssiDbmX2 := frame.rssiDbmX2
          snrDbX4 := frame.snrDbX4 }
      if service.hasCachedResponse then setState service .startResponseTx
      else setState service .startResponderRx
    else
      let service ← pushEvent
        { service with
          hasLastRemoteSequence := true
          lastRemoteSequence := request.sequence
          lastRemoteMessageType := request.messageType }
        { type := .requestReceived, packet := request, rssiDbmX2 := frame.rssiDbmX2
          snrDbX4 := frame.snrDbX4 }
      match buildResponse service request with
      | none => handleDeviceError service duplexLinkInternalError
      | some service => setState service .startResponseTx

def handleInitiatorFrame (service : DuplexLinkService) (frame : PacketRadioRxFrame) :
    LinkProg DuplexLinkService :=
  match LinkPacket.decode frame.data service.config.localNodeId with
  | .error status => do
    let service ← publishInvalid service .decode status none frame
    retryOrFail service
  | .ok response => do
    let service := { service with stats.rxPackets := service.stats.rxPackets + 1 }
    if response.sourceId ≠ service.config.peerNodeId then
      let service ← publishInvalid service .source .ok response frame
      retryOrFail service
    else if response.messageType ≠ expectedResponseType service.pendingRequest.messageType then
      let service ← publishInvalid service .messageType .ok response frame
      retryOrFail service
    else if response.acknowledgedSequence ≠ service.pendingRequest.sequence then
      let service ← publishInvalid service .ackSequence .ok response frame
      retryOrFail service
    else
      let rttMs ← elapsedMs service.attemptStartedMs
      let event : DuplexLinkEvent :=
        { type := .exchangeSucceeded
          packet := response
          attempts := service.attemptCount
          rttMs := rttMs
          rssiDbmX2 := frame.rssiDbmX2
          snrDbX4 := frame.snrDbX4 }
      let service ← setState
        { service with
          stats.completedExchanges := service.stats.completedExchanges + 1
          requestActive := false } .idle
      pushEvent service event

def handleRxDone (service : DuplexLinkService) : LinkProg DuplexLinkService := do
  match ← readRxFrame with
  | none =>
    let service ← publishInvalid service .rxFrame .invalidArgument none none
    if service.config.role = .responder then setState service .startResponderRx
    else retryOrFail service
  | some frame =>
    if service.config.role = .responder ∧ service.state = .responderRx then
      handleResponderFrame service frame
    else if service.config.role = .initiator ∧ service.state = .waitResponse ∧
        service.requestActive then
      handleInitiatorFrame service frame
    else publishInvalid service .rxFrame .invalidArgument none frame

/-! ## Events, time-outs and actions -/

def handleRadioEvent (service : DuplexLinkService) (event : PacketRadioEvent) :
    LinkProg DuplexLinkService :=
  match event.type with
  | .txDone =>
    if service.state = .waitRequestTxDone then setState service .startResponseRx
    else if service.state = .waitResponseTxDone then setState service .startResponderRx
    else pure service
  | .rxDone => handleRxDone service
  | .rxTimeout =>
    let service := { service with stats.timeouts := service.stats.timeouts + 1 }
    if service.config.role = .initiator ∧ service.state = .waitResponse then retryOrFail service
    else if service.config.role = .responder then setState service .startResponderRx
    else pure service
  | .crcError =>
    let service := { service with stats.radioCrcErrors := service.stats.radioCrcErrors + 1 }
    if service.config.role = .initiator ∧ service.requestActive then retryOrFail service
    else if service.config.role = .responder then setState service .startResponderRx
    else pure service
  | .deviceError => handleDeviceError service event.deviceErrorCode
  | .none => pure service

/-- The first `if` of the source: the wait for a response. -/
def responseTimedOut (service : DuplexLinkService) : LinkProg Bool := do
  if service.state = .waitResponse then
    let elapsed ← elapsedMs service.responseWaitStartedMs
    pure (service.config.responseTimeoutMs ≤ elapsed)
  else pure false

/-- The second `if` of the source: the wait for the end of a transmission. -/
def transmissionTimedOut (service : DuplexLinkService) : LinkProg Bool := do
  if service.state = .waitRequestTxDone ∨ service.state = .waitResponseTxDone then
    let elapsed ← elapsedMs service.stateStartedMs
    pure (service.config.operationTimeoutMs ≤ elapsed)
  else pure false

def processTimeouts (service : DuplexLinkService) : LinkProg DuplexLinkService := do
  if ← responseTimedOut service then
    let (recovered, service) ← recoverRadio
      { service with stats.timeouts := service.stats.timeouts + 1 } duplexLinkInternalError
    if recovered then retryOrFail service else pure service
  else if ← transmissionTimedOut service then
    let (recovered, service) ← recoverRadio
      { service with stats.timeouts := service.stats.timeouts + 1 } duplexLinkInternalError
    if ¬ recovered then pure service
    else if service.state = .waitRequestTxDone then retryOrFail service
    else setState service .startResponderRx
  else pure service

/-- A start that the radio refuses is given up once the state is older than this. -/
def operationTimedOut (service : DuplexLinkService) : LinkProg Bool := do
  let elapsed ← elapsedMs service.stateStartedMs
  pure (service.config.operationTimeoutMs ≤ elapsed)

def processStateAction (service : DuplexLinkService) : LinkProg DuplexLinkService :=
  match service.state with
  | .startRequestTx => do
    if ← tryStartTx service.pendingRequestFrame.toList then
      let now ← nowMs
      setState
        { service with
          attemptCount := service.attemptCount + 1
          stats.txPackets := service.stats.txPackets + 1
          attemptStartedMs := now } .waitRequestTxDone
    else if ← operationTimedOut service then
      let (_, service) ← recoverRadio service duplexLinkInternalError
      let now ← nowMs
      pure { service with stateStartedMs := now }
    else pure service
  | .startResponseRx => do
    if ← tryStartRx service.config.responseTimeoutMs then
      let now ← nowMs
      setState { service with responseWaitStartedMs := now } .waitResponse
    else if ← operationTimedOut service then
      let (recovered, service) ← recoverRadio service duplexLinkInternalError
      if recovered then retryOrFail service else pure service
    else pure service
  | .startResponderRx => do
    if ← tryStartRx 0 then setState service .responderRx
    else if ← operationTimedOut service then
      let (recovered, service) ← recoverRadio service duplexLinkInternalError
      if recovered then
        let now ← nowMs
        pure { service with stateStartedMs := now }
      else pure service
    else pure service
  | .startResponseTx => do
    -- `&&` of the source: without a cached response the radio is not called
    let started ← if service.hasCachedResponse then
        tryStartTx service.cachedResponseFrame.toList else pure false
    if started then
      setState { service with stats.txPackets := service.stats.txPackets + 1 } .waitResponseTxDone
    else if ← operationTimedOut service then
      let (recovered, service) ← recoverRadio service duplexLinkInternalError
      if recovered then setState service .startResponderRx else pure service
    else pure service
  | _ => pure service

/-! ## The calls of the application -/

/-- `memset` of the source, with the configuration copied in. -/
def cleared (config : DuplexLinkConfig) : DuplexLinkService where
  config := config
  state := .uninitialized
  nextSequence := config.initialSequence
  stateStartedMs := 0
  attemptStartedMs := 0
  responseWaitStartedMs := 0
  pendingRequest := .zero
  pendingRequestFrame := Vector.replicate _ 0
  requestActive := false
  retryCount := 0
  attemptCount := 0
  responsePayload := Vector.replicate _ 0
  responsePayloadLength := 16
  hasLastRemoteSequence := false
  lastRemoteSequence := 0
  lastRemoteMessageType := .unset
  cachedResponseFrame := Vector.replicate _ 0
  hasCachedResponse := false
  events := .empty {} (by decide)
  stats := {}

def configIsValid (config : DuplexLinkConfig) : Bool :=
  config.localNodeId ≠ 0 && config.peerNodeId ≠ 0 && config.localNodeId ≠ config.peerNodeId &&
  config.responseTimeoutMs ≠ 0 && config.operationTimeoutMs ≠ 0

/-- `none` when the configuration is refused. -/
def init (config : DuplexLinkConfig) : LinkProg (Option DuplexLinkService) :=
  if ¬ configIsValid config then pure none
  else do
    let now ← nowMs
    pure (some { cleared config with
      stateStartedMs := now
      state := match config.role with
        | .responder => .startResponderRx
        | .initiator => .idle })

def setResponsePayload (service : DuplexLinkService) (payload : List UInt8) :
    Bool × DuplexLinkService :=
  if service.config.role ≠ .responder ∨ ¬ payloadLengthIsValid payload.length then
    (false, service)
  else
    (true, { service with
      responsePayload := payloadBuffer payload
      responsePayloadLength := payload.length.toUInt8 })

def startData (service : DuplexLinkService) (payload : List UInt8) :
    LinkProg (Bool × DuplexLinkService) := prepareRequest service .data payload

def startPing (service : DuplexLinkService) (payload : List UInt8) :
    LinkProg (Bool × DuplexLinkService) := prepareRequest service .ping payload

/-- The loop of `duplex_link_service_process`, for at most `bound` rounds. -/
def pollEvents : Nat → DuplexLinkService → LinkProg (Option DuplexLinkService)
  | 0, _ => pure none
  | bound + 1, service => do
    match ← LinkProg.takeEvent with
    | none => pure (some service)
    | some event =>
      let service ← handleRadioEvent service event
      if service.state = .error then pure (some service) else pollEvents bound service

def process (bound : Nat) (service : DuplexLinkService) : LinkProg (Option DuplexLinkService) := do
  if service.state = .uninitialized ∨ service.state = .error then pure (some service)
  else
    radioProcess
    match ← pollEvents bound service with
    | none => pure none
    | some service =>
      -- the `return` inside the loop of the source
      if service.state = .error then pure (some service)
      else
        let service ← processTimeouts service
        if service.state ≠ .error then
          let service ← processStateAction service
          pure (some service)
        else pure (some service)

def takeEvent (service : DuplexLinkService) : Option (DuplexLinkEvent × DuplexLinkService) :=
  service.events.pop.map fun (event, events) => (event, { service with events := events })

def getState (service : DuplexLinkService) : DuplexLinkState := service.state

def isBusy (service : DuplexLinkService) : Bool :=
  service.state ≠ .idle && service.state ≠ .responderRx

def getStats (service : DuplexLinkService) : DuplexLinkStats := service.stats

end DuplexLinkService

end RadioConnection
