import RadioConnection.Link.NetworkInvariant

/-!
# What two linked nodes can do

Runs that exist: from a net with an initiator at rest, whatever is in the air,
there is a run in which it asks, and then one in which it gives up, or one in
which it takes a response that is in the air; a responder that listens can accept
or suppress a request that is in the air.  Each lemma says what that does to the
log and to the air.

* `run_ask`, `run_askAgain`, `run_giveUp`, `run_succeed` for the initiator.
* `run_listen`, `run_accept`, `run_suppress` for the responder.
-/

namespace RadioConnection

open Interaction
open Interaction.Prog
open LossyChannel
open DuplexLinkService

namespace Net

variable {net : Net} {role : DuplexLinkRole} {s : DuplexLinkService} {w : Wire}

@[simp] theorem set_wire : (net.set role s w).wire = w := rfl

@[simp] theorem set_node_self : (net.set role s w).node role = s := Function.update_self _ _ _

theorem set_node_of_ne {role' : DuplexLinkRole} (h : role' ≠ role) :
    (net.set role s w).node role' = net.node role' := Function.update_of_ne h _ _

@[simp] theorem set_initiator_node_responder :
    (net.set .initiator s w).node .responder = net.node .responder := set_node_of_ne (by decide)

@[simp] theorem set_responder_node_initiator :
    (net.set .responder s w).node .initiator = net.node .initiator := set_node_of_ne (by decide)

end Net

structure Resting (i : DuplexLinkService) : Prop where
  state : i.state = .idle
  inactive : i.requestActive = false
  events : i.events.toList = []

/-- An initiator that waits for the response to its first transmission of `packet`. -/
structure Asking (i : DuplexLinkService) (packet : LinkPacket) : Prop where
  state : i.state = .waitResponse
  active : i.requestActive = true
  request : i.pendingRequest = packet
  retries : i.retryCount = 0
  events : i.events.toList = []

structure Listening (r : DuplexLinkService) : Prop where
  state : r.state = .responderRx
  events : r.events.toList = []

/-- A responder that remembers `packet` as the request it accepted last, with its response. -/
structure Answering (r : DuplexLinkService) (packet : LinkPacket) : Prop where
  last : r.hasLastRemoteSequence = true
  sequence : r.lastRemoteSequence = packet.sequence
  cached : r.hasCachedResponse = true

theorem Answering.isDuplicate_iff {r : DuplexLinkService} {packet request : LinkPacket}
    (h : Answering r packet) : r.IsDuplicate request ↔ request.sequence = packet.sequence := by
  rw [IsDuplicate, h.last, h.sequence]
  simp

theorem not_isFull_of_nil {r : DuplexLinkService} (h : r.events.toList = []) :
    r.events.isFull = false := by
  rw [RingBuffer.not_isFull_iff, ← RingBuffer.toList_length, h]
  decide

theorem pushed_toList {s : DuplexLinkService} (h : s.events.toList = [])
    (event : DuplexLinkEvent) : (s.events.push event).toList = [event] := by
  rw [RingBuffer.toList_push (not_isFull_of_nil h), h]
  rfl

namespace Net

variable {config : DuplexLinkRole → DuplexLinkConfig} {net : Net}

theorem run_drain {role : DuplexLinkRole} {event : DuplexLinkEvent} (h : Run config net)
    (he : (net.node role).events.toList = [event]) :
    ∃ events, events.toList = [] ∧
      Run config (net.set role { net.node role with events := events } net.wire) := by
  obtain ⟨events, hpop, hnil⟩ := RingBuffer.pop_eq_some_of_toList he
  have htake : (net.node role).takeEvent =
      some (event, { net.node role with events := events }) := by
    rw [takeEvent, hpop]
    rfl
  exact ⟨events, hnil, h.takeEvent htake⟩

theorem run_process {role : DuplexLinkRole} {bound : Nat} {s s' : DuplexLinkService}
    {tr : List LinkAction} {w : Wire} (h : Run config net) (hs : net.node role = s)
    (ht : Trace (process bound s) tr (some s')) (hp : (Wire.env role).Path net.wire tr w) :
    Run config (net.set role s' w) := by
  subst hs
  exact h.process ⟨tr, ht, hp⟩

/-- **An initiator at rest can ask.** -/
theorem run_ask (h : Run config net) (hm : Mirrored config) (hi : Resting (net.node .initiator))
    (messageType : LinkMessageType) (payload : List UInt8)
    (ht : requestTypeIsValid messageType = true) (hl : payloadLengthIsValid payload.length = true) :
    ∃ net' packet, packet = (net.node .initiator).request messageType payload ∧
      Run config net' ∧ Asking (net'.node .initiator) packet ∧
      (net'.node .initiator).nextSequence = (net.node .initiator).nextSequence + 1 ∧
      net'.node .responder = net.node .responder ∧
      net'.wire = (net.wire.begin true packet).transmit .initiator packet.frame.toList := by
  have hsane := (h.linked hm).initiator
  have hrole : (net.node .initiator).config.role = .initiator := by rw [hsane.config_eq, hm.role]
  have hcan : (net.node .initiator).CanRequest messageType payload :=
    ⟨ht, hl, hrole, hi.state, hi.inactive⟩
  let packet := (net.node .initiator).request messageType payload
  let i₁ := ((net.node .initiator).requested packet).goto .startRequestTx 0
  let i₂ := (i₁.attempted 0).goto .waitRequestTxDone 0
  let i₃ := ((i₂.goto .startResponseRx 0).waitingSince 0).goto .waitResponse 0
  have h₁ := h.start (trace_prepareRequest_of hcan 0)
  have h₂ := run_process h₁ set_node_self
    (trace_process_of (by simp) (by simp) (trace_pollEvents_nil 0 i₁) (by simp [i₁])
      (by simp [i₁, timedStates]) (trace_requestTx rfl 0 0))
    ⟨_, rfl, _, rfl, _, rfl, _, rfl, _, rfl, rfl⟩
  have h₃ := run_process h₂ set_node_self
    (trace_process_of (by simp) (by simp)
      (trace_pollEvents_cons (trace_requestSent rfl 0) (by simp) (trace_pollEvents_nil 0 _))
      (by simp) (by simp [timedStates]) (trace_responseRx rfl 0 0))
    ⟨_, rfl, _, rfl, _, rfl, _, rfl, _, rfl, _, rfl, _, rfl, rfl⟩
  refine ⟨_, packet, rfl, h₃, ?_, ?_, ?_, rfl⟩
  · rw [set_node_self]
    exact ⟨rfl, rfl, rfl, rfl, hi.events⟩
  · rw [set_node_self]
    rfl
  · simp

/-- **It can give up**, when it has no retries. -/
theorem run_giveUp (h : Run config net) (hm : Mirrored config)
    (hretries : (config .initiator).maxRetries = 0) {packet : LinkPacket}
    (hi : Asking (net.node .initiator) packet) :
    ∃ net' event, event.type = .exchangeFailed ∧ Run config net' ∧
      Resting (net'.node .initiator) ∧
      (net'.node .initiator).nextSequence = (net.node .initiator).nextSequence ∧
      net'.node .responder = net.node .responder ∧
      net'.wire = net.wire.record .initiator event true := by
  have hconfig := (h.linked hm).initiator.config_eq
  generalize hnode : net.node .initiator = i at hi hconfig
  have hrole : i.config.role = .initiator := by rw [hconfig, hm.role]
  have hlast : ¬ i.retryCount < i.config.maxRetries := by
    rw [hconfig, hretries, hi.retries]
    decide
  have h₁ := run_process h hnode
    (trace_process_of (by simp [hi.state]) (by simp [hi.state])
      (trace_pollEvents_cons (trace_requestGivenUp hrole hi.state hi.active hlast 0) (by simp)
        (trace_pollEvents_nil 0 _))
      (by simp) (by simp [timedStates]) (trace_action_none (by simp [startStates])))
    ⟨_, rfl, _, rfl, _, rfl, _, rfl, _, rfl, rfl⟩
  obtain ⟨events, hnil, h₂⟩ := run_drain h₁ (by
    rw [set_node_self]
    exact pushed_toList hi.events i.failedEvent)
  refine ⟨_, i.failedEvent, rfl, h₂, ?_, ?_, ?_, ?_⟩
  · rw [set_node_self, set_node_self]
    exact ⟨rfl, rfl, hnil⟩
  · simp
  · simp
  · rw [not_isFull_of_nil hi.events]
    rfl

/-- **It can ask again**, when it has a retry left. -/
theorem run_askAgain (h : Run config net) (hm : Mirrored config)
    (hretries : 0 < (config .initiator).maxRetries) {packet : LinkPacket}
    (hi : Asking (net.node .initiator) packet) :
    ∃ net', Run config net' ∧ net'.node .responder = net.node .responder ∧
      net'.wire = net.wire.transmit .initiator packet.frame.toList := by
  have hlinked := h.linked hm
  have hframe := (hlinked.pending hi.active).2
  have hconfig := hlinked.initiator.config_eq
  generalize hnode : net.node .initiator = i at hi hconfig hframe
  have hrole : i.config.role = .initiator := by rw [hconfig, hm.role]
  have hmore : i.retryCount < i.config.maxRetries := by
    rw [hconfig, hi.retries]
    exact hretries
  have h₁ := run_process h hnode
    (trace_process_of (by simp [hi.state]) (by simp [hi.state])
      (trace_pollEvents_cons (trace_requestRetried hrole hi.state hi.active hmore 0) (by simp)
        (trace_pollEvents_nil 0 _))
      (by simp) (by simp [timedStates]) (trace_requestTx rfl 0 0))
    ⟨_, rfl, _, rfl, _, rfl, _, rfl, _, rfl, _, rfl, _, rfl, _, rfl, rfl⟩
  refine ⟨_, h₁, by simp, ?_⟩
  rw [← hi.request, ← hframe]
  rfl

/-- **It can take a response** to a request of the same type and sequence number. -/
theorem run_succeed (h : Run config net) (hm : Mirrored config) {packet response : LinkPacket}
    (hi : Asking (net.node .initiator) packet) (hresponse : IsResponseTo config packet response)
    {x : AirFrame} {air : List AirFrame} (hd : Delivers net.wire.air x air)
    (hx : x.source = .responder) (hdata : x.data = response.frame.toList) :
    ∃ net' event, event.type = .exchangeSucceeded ∧ Run config net' ∧
      net'.wire = { net.wire with air := air, heard := x.start }.record .initiator event true := by
  have hconfig := (h.linked hm).initiator.config_eq
  generalize hnode : net.node .initiator = i at hi hconfig
  have hrole : i.config.role = .initiator := by rw [hconfig, hm.role]
  let frame : PacketRadioRxFrame := ⟨response.frame.toList, 0, 0⟩
  have hc : i.checkResponse frame = .accept response.cleared := by
    refine checkResponse_frame rfl ?_ ?_ ?_ ?_ hresponse.length
    · rw [hresponse.destination, hconfig, hm.request]
    · rw [hresponse.source, hconfig, hm.response]
    · rw [hresponse.type, hi.request]
    · rw [hresponse.acknowledged, hi.request]
  have hread : Wire.env .initiator .readRxFrame net.wire (some frame)
      { net.wire with air := air, heard := x.start } :=
    ⟨x, air, hd, by simp [hx], hdata, rfl⟩
  have h₁ := run_process h hnode
    (trace_process_of (by simp [hi.state]) (by simp [hi.state])
      (trace_pollEvents_cons (trace_succeeded hrole hi.state hi.active hc) (by simp [succeeding])
        (trace_pollEvents_nil 0 _))
      (by simp [succeeding]) (by simp [succeeding, timedStates])
      (trace_action_none (by simp [succeeding, startStates])))
    ⟨_, rfl, _, rfl, _, hread, _, rfl, _, rfl, _, rfl, _, rfl, rfl⟩
  refine ⟨_, i.successEvent response.cleared frame 0, rfl, h₁, ?_⟩
  rw [not_isFull_of_nil hi.events]
  rfl

/-- **A responder can start to listen.** -/
theorem run_listen (h : Run config net) (hs : (net.node .responder).state = .startResponderRx)
    (he : (net.node .responder).events.toList = []) :
    ∃ net', Run config net' ∧ Listening (net'.node .responder) ∧
      net'.node .responder = (net.node .responder).goto .responderRx 0 ∧
      net'.node .initiator = net.node .initiator ∧ net'.wire = net.wire := by
  have h₁ := run_process h rfl
    (trace_process_of (by simp [hs]) (by simp [hs]) (trace_pollEvents_nil 0 _) (by simp [hs])
      (by simp [hs, timedStates]) (trace_responderRx hs 0))
    ⟨_, rfl, _, rfl, _, rfl, _, rfl, rfl⟩
  refine ⟨_, h₁, ?_, ?_, ?_, rfl⟩
  · rw [set_node_self]
    exact ⟨rfl, he⟩
  · simp
  · simp

theorem checkRequest_of_isRequest {r : DuplexLinkService} (hm : Mirrored config)
    (hconfig : r.config = config .responder) {packet : LinkPacket} (hp : IsRequest config packet) :
    r.checkRequest ⟨packet.frame.toList, 0, 0⟩ = .accept packet := by
  have hc : r.checkRequest ⟨packet.frame.toList, 0, 0⟩ = .accept packet.cleared := by
    refine checkRequest_frame rfl ?_ ?_ hp.type hp.length
    · rw [hp.destination, hconfig, hm.response]
    · rw [hp.source, hconfig, hm.request]
  rwa [hp.cleared] at hc

/-- **A responder that listens can accept** a new request and answer it. -/
theorem run_accept (h : Run config net) (hm : Mirrored config)
    (hr : Listening (net.node .responder)) {x : AirFrame} {air : List AirFrame}
    (hd : Delivers net.wire.air x air) (hx : x.source = .initiator) {packet : LinkPacket}
    (hp : IsRequest config packet) (hdata : x.data = packet.frame.toList)
    (hnew : ¬ (net.node .responder).IsDuplicate packet) :
    ∃ net' event response, event.type = .requestReceived ∧ event.packet = packet ∧
      IsResponseTo config packet response ∧ Run config net' ∧ Listening (net'.node .responder) ∧
      Answering (net'.node .responder) packet ∧
      net'.node .initiator = net.node .initiator ∧
      net'.wire = ({ net.wire with air := air, heard := x.start }.record .responder event
        true).transmit .responder response.frame.toList := by
  have hsane := (h.linked hm).responder
  generalize hnode : net.node .responder = r at hr hnew hsane
  have hrole : r.config.role = .responder := by rw [hsane.config_eq, hm.role]
  let frame : PacketRadioRxFrame := ⟨packet.frame.toList, 0, 0⟩
  have hc : r.checkRequest frame = .accept packet :=
    checkRequest_of_isRequest hm hsane.config_eq hp
  have hread : Wire.env .responder .readRxFrame net.wire (some frame)
      { net.wire with air := air, heard := x.start } :=
    ⟨x, air, hd, by simp [hx], hdata, rfl⟩
  have h₁ := run_process h hnode (trace_accepting hrole hr.state hsane.payload hc hnew 0)
    ⟨_, rfl, _, rfl, _, hread, _, rfl, _, rfl, _, rfl, _, rfl, _, rfl, rfl⟩
  have h₂ := run_process h₁ set_node_self
    (trace_process_of (by simp) (by simp)
      (trace_pollEvents_cons (trace_responseSent rfl 0) (by simp) (trace_pollEvents_nil 0 _))
      (by simp) (by simp [timedStates]) (trace_responderRx rfl 0))
    ⟨_, rfl, _, rfl, _, rfl, _, rfl, _, rfl, _, rfl, rfl⟩
  obtain ⟨events, hnil, h₃⟩ := run_drain h₂ (by
    rw [set_node_self]
    simpa [accepting] using pushed_toList hr.events (requestEvent packet frame))
  refine ⟨_, requestEvent packet frame, r.response packet, rfl, rfl,
    isResponseTo_response hsane packet, h₃, ?_, ?_, ?_, ?_⟩
  · rw [set_node_self, set_node_self]
    exact ⟨rfl, hnil⟩
  · rw [set_node_self, set_node_self]
    exact ⟨by simp [accepting], by simp [accepting], by simp [accepting]⟩
  · simp
  · rw [not_isFull_of_nil hr.events]
    rfl

/-- **It can suppress** a request with the sequence number that it remembers. -/
theorem run_suppress (h : Run config net) (hm : Mirrored config)
    (hr : Listening (net.node .responder)) {x : AirFrame} {air : List AirFrame}
    (hd : Delivers net.wire.air x air) (hx : x.source = .initiator) {packet : LinkPacket}
    (hp : IsRequest config packet) (hdata : x.data = packet.frame.toList)
    {last : LinkPacket} (hlast : Answering (net.node .responder) last)
    (hold : packet.sequence = last.sequence) :
    ∃ net' event frame, event.type = .duplicateSuppressed ∧ event.packet = packet ∧
      Run config net' ∧
      net'.wire = ({ net.wire with air := air, heard := x.start }.record .responder event
        true).transmit .responder frame := by
  have hsane := (h.linked hm).responder
  generalize hnode : net.node .responder = r at hr hlast hsane
  have hrole : r.config.role = .responder := by rw [hsane.config_eq, hm.role]
  let frame : PacketRadioRxFrame := ⟨packet.frame.toList, 0, 0⟩
  have hc : r.checkRequest frame = .accept packet :=
    checkRequest_of_isRequest hm hsane.config_eq hp
  have hread : Wire.env .responder .readRxFrame net.wire (some frame)
      { net.wire with air := air, heard := x.start } :=
    ⟨x, air, hd, by simp [hx], hdata, rfl⟩
  have h₁ := run_process h hnode (trace_suppressing hrole hr.state hc
    (hlast.isDuplicate_iff.mpr hold) hlast.cached 0)
    ⟨_, rfl, _, rfl, _, hread, _, rfl, _, rfl, _, rfl, _, rfl, _, rfl, rfl⟩
  refine ⟨_, duplicateEvent packet frame, r.cachedResponseFrame.toList, rfl, rfl, h₁, ?_⟩
  rw [not_isFull_of_nil hr.events]
  rfl

/-! ## Runs without trouble -/

/-- The initiator was not restarted, and the queue of the responder always had room. -/
structure Fair (log : LinkLog) : Prop where
  unrestarted : .restarted ∉ log
  room : ∀ heard event stored, .published .responder heard event stored ∈ log → stored = true

theorem Fair.started {log : LinkLog} (h : Fair log) (packet : LinkPacket) :
    Fair (.started packet :: log) := by
  refine ⟨by simpa using h.unrestarted, ?_⟩
  intro heard event stored hmem
  exact h.room heard event stored (by simpa using hmem)

theorem Fair.transmitted {log : LinkLog} (h : Fair log) (x : AirFrame) :
    Fair (.transmitted x :: log) := by
  refine ⟨by simpa using h.unrestarted, ?_⟩
  intro heard event stored hmem
  exact h.room heard event stored (by simpa using hmem)

theorem Fair.published {log : LinkLog} (h : Fair log) (role : DuplexLinkRole) (heard : Nat)
    (event : DuplexLinkEvent) : Fair (.published role heard event true :: log) := by
  refine ⟨by simpa using h.unrestarted, ?_⟩
  intro heard' event' stored hmem
  rcases List.mem_cons.mp hmem with hmem | hmem
  · cases hmem
    rfl
  · exact h.room heard' event' stored hmem

/-- What requests that nobody answers leave behind. -/
structure Unanswered (net net' : Net) (n : Nat) : Prop where
  resting : Resting (net'.node .initiator)
  next : (net'.node .initiator).nextSequence = (net.node .initiator).nextSequence + UInt16.ofNat n
  responder : net'.node .responder = net.node .responder
  air : ∃ added, net'.wire.air = net.wire.air ++ added
  starts : net'.wire.log.starts.length = net.wire.log.starts.length + n
  accepted : net'.wire.log.accepted = net.wire.log.accepted
  fair : Fair net.wire.log → Fair net'.wire.log

theorem Unanswered.trans {net₁ net₂ net₃ : Net} {m n : Nat} (h : Unanswered net₁ net₂ m)
    (h' : Unanswered net₂ net₃ n) : Unanswered net₁ net₃ (m + n) where
  resting := h'.resting
  next := by rw [h'.next, h.next, UInt16.ofNat_add, UInt16.add_assoc]
  responder := h'.responder.trans h.responder
  air := by
    obtain ⟨added, ha⟩ := h.air
    obtain ⟨added', ha'⟩ := h'.air
    exact ⟨added ++ added', by rw [ha', ha, List.append_assoc]⟩
  starts := by rw [h'.starts, h.starts, Nat.add_assoc]
  accepted := h'.accepted.trans h.accepted
  fair hfair := h'.fair (h.fair hfair)

/-- A data request with an empty payload of the shortest length. -/
def emptyPayload : List UInt8 := List.replicate 10 0

/-- One request that nobody answers. -/
theorem run_unanswered (h : Run config net) (hm : Mirrored config)
    (hretries : (config .initiator).maxRetries = 0) (hi : Resting (net.node .initiator)) :
    ∃ net' packet, packet = (net.node .initiator).request .data emptyPayload ∧ Run config net' ∧
      Unanswered net net' 1 ∧
      net'.wire.air = net.wire.air ++
        [⟨.initiator, packet.frame.toList, net.wire.log.starts.length⟩] := by
  obtain ⟨net₁, packet, hpacket, h₁, hasking, hnext₁, hr₁, hw₁⟩ :=
    run_ask h hm hi .data emptyPayload rfl rfl
  obtain ⟨net₂, event, htype, h₂, hresting, hnext₂, hr₂, hw₂⟩ := run_giveUp h₁ hm hretries hasking
  have hstarts : net₁.wire.log.starts = net.wire.log.starts ++ [⟨net.wire.log.epoch, packet⟩] := by
    rw [hw₁]
    rfl
  have hair : net₁.wire.air = net.wire.air ++
      [⟨.initiator, packet.frame.toList, net.wire.log.starts.length⟩] := by
    rw [hw₁]
    simp [Wire.transmit, Wire.begin, LinkLog.startFor, LinkLog.starts]
  refine ⟨net₂, packet, hpacket, h₂, ⟨hresting, ?_, hr₂.trans hr₁, ?_, ?_, ?_, ?_⟩, ?_⟩
  · rw [hnext₂, hnext₁]
    rfl
  · exact ⟨_, by rw [hw₂, ← hair]; rfl⟩
  · rw [hw₂]
    change net₁.wire.log.starts.length = _
    rw [hstarts, List.length_append]
    rfl
  · rw [hw₂, hw₁]
    rfl
  · intro hfair
    rw [hw₂, hw₁]
    exact ((hfair.started packet).transmitted _).published .initiator _ event
  · rw [hw₂]
    exact hair

theorem run_unanswered_iterate (n : Nat) (h : Run config net) (hm : Mirrored config)
    (hretries : (config .initiator).maxRetries = 0) (hi : Resting (net.node .initiator)) :
    ∃ net', Run config net' ∧ Unanswered net net' n := by
  induction n with
  | zero => exact ⟨net, h, hi, by simp, rfl, ⟨[], by simp⟩, rfl, rfl, id⟩
  | succ n ih =>
    obtain ⟨net₁, h₁, hu₁⟩ := ih
    obtain ⟨net₂, -, -, h₂, hu₂, -⟩ := run_unanswered h₁ hm hretries hu₁.resting
    exact ⟨net₂, h₂, hu₁.trans hu₂⟩

end Net

section

variable {maxRetries : UInt8}

/-- Two nodes with numbers `1` and `2` and time-outs of 100 ms. -/
def linkConfig (maxRetries : UInt8) : DuplexLinkRole → DuplexLinkConfig
  | .initiator => ⟨.initiator, 1, 2, 0, 100, 100, maxRetries⟩
  | .responder => ⟨.responder, 2, 1, 0, 100, 100, maxRetries⟩

theorem linkConfig_mirrored : Net.Mirrored (linkConfig maxRetries) :=
  ⟨fun role => by cases role <;> rfl, rfl, rfl⟩

theorem linkConfig_listening (maxRetries : UInt8) :
    ∃ net, Net.Run (linkConfig maxRetries) net ∧ Resting (net.node .initiator) ∧
    (net.node .initiator).nextSequence = 0 ∧ Listening (net.node .responder) ∧
    (net.node .responder).hasLastRemoteSequence = false ∧ net.wire = .initial := by
  have h : Net.Run (linkConfig maxRetries)
      ⟨fun role => initial (linkConfig maxRetries role) 0, .initial⟩ :=
    .init fun role => trace_init_of (by cases role <;> rfl) 0
  obtain ⟨net, hrun, hlistening, hr, hi, hw⟩ := Net.run_listen h rfl rfl
  refine ⟨net, hrun, ?_, ?_, hlistening, ?_, hw⟩
  · rw [hi]
    exact ⟨rfl, rfl, rfl⟩
  · rw [hi]
    rfl
  · rw [hr]
    rfl

/-- The request with an empty payload and this sequence number. -/
def numbered (sequence : UInt16) : LinkPacket where
  messageType := .data
  sourceId := 1
  destinationId := 2
  sequence := sequence
  acknowledgedSequence := 0
  payloadLength := 10
  flags := 0
  payload := Vector.replicate _ 0

theorem copyPayload_zero (length : ℕ) :
    LinkPacket.copyPayload (Vector.replicate _ 0) length = Vector.replicate _ 0 := by
  ext i hi
  simp [LinkPacket.copyPayload]

theorem isRequest_numbered (sequence : UInt16) :
    IsRequest (linkConfig maxRetries) (numbered sequence) where
  type := rfl
  source := rfl
  destination := rfl
  length := rfl
  cleared := congrArg (fun payload => { numbered sequence with payload := payload })
    (copyPayload_zero 10)

theorem request_eq_numbered {i : DuplexLinkService}
    (h : i.config = linkConfig maxRetries .initiator) :
    i.request .data Net.emptyPayload = numbered i.nextSequence := by
  rw [request, h]
  rfl

theorem run_accept_numbered {net : Net} (h : Net.Run (linkConfig maxRetries) net)
    (hr : Listening (net.node .responder)) {n : UInt16} {start : Nat} {air : List AirFrame}
    (hair : net.wire.air = ⟨.initiator, (numbered n).frame.toList, start⟩ :: air)
    (hnew : ¬ (net.node .responder).IsDuplicate (numbered n)) :
    ∃ net' response, Net.Run (linkConfig maxRetries) net' ∧
      IsResponseTo (linkConfig maxRetries) (numbered n) response ∧
      Listening (net'.node .responder) ∧ Answering (net'.node .responder) (numbered n) ∧
      net'.node .initiator = net.node .initiator ∧
      net'.wire.air = air ++ [⟨.responder, response.frame.toList, start⟩] ∧
      net'.wire.log.starts = net.wire.log.starts ∧
      net'.wire.log.accepted = net.wire.log.accepted ++ [(start, numbered n)] ∧
      (Net.Fair net.wire.log → Net.Fair net'.wire.log) := by
  have hd : Delivers net.wire.air ⟨.initiator, (numbered n).frame.toList, start⟩ air := by
    rw [hair]
    exact .head _ _
  obtain ⟨net', event, response, htype, hpacket, hresponse, h', hr', hlast, hi', hw'⟩ :=
    Net.run_accept h linkConfig_mirrored hr hd rfl (isRequest_numbered n) rfl hnew
  have haccepted : LinkLog.accepted (.published .responder start event true :: net.wire.log) =
      net.wire.log.accepted ++ [(start, numbered n)] := by
    rw [LinkLog.accepted_received htype, hpacket]
  refine ⟨net', response, h', hresponse, hr', hlast, hi', ?_, ?_, ?_, ?_⟩
  · rw [hw']
    change air ++ [⟨.responder, _, LinkLog.startFor (.published .responder start event true ::
      net.wire.log) .responder⟩] = _
    rw [LinkLog.startFor, haccepted, List.getLast?_concat]
    rfl
  · rw [hw']
    rfl
  · rw [hw']
    exact haccepted
  · intro hfair
    rw [hw']
    exact (hfair.published .responder start event).transmitted _

end

end RadioConnection
