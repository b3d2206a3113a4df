import RadioConnection.Link.Network

/-!
# What holds between the two nodes

* `IsRequest`, `IsResponseTo`: what the two kinds of frames in the air carry.
* `OnAir`: a frame in the air was transmitted for the start call that it names,
  and a request in the air is no older than those accepted so far.
* `Sound`: the log explains itself.  Sequence numbers count the start calls of
  an epoch, accepted requests are in order, and `Explained` says what a
  published duplicate or success means.
* `Linked`: all of it, with what the two nodes remember.  `Linked.initiatorPart`
  and `Linked.responderPart` keep it over a part of a call, `Net.Run.linked` over
  every run.
-/

namespace RadioConnection

open Interaction
open Interaction.Prog
open LossyChannel
open DuplexLinkService

/-! ## Packets -/

section

variable (config : DuplexLinkRole → DuplexLinkConfig)

structure IsRequest (packet : LinkPacket) : Prop where
  type : requestTypeIsValid packet.messageType = true
  source : packet.sourceId = (config .initiator).localNodeId
  destination : packet.destinationId = (config .initiator).peerNodeId
  length : LinkPacket.payloadLengthIsValid packet.payloadLength = true
  cleared : packet.cleared = packet

/-- A response packet of the responder to `request`. -/
structure IsResponseTo (request packet : LinkPacket) : Prop where
  type : packet.messageType = expectedResponseType request.messageType
  acknowledged : packet.acknowledgedSequence = request.sequence
  source : packet.sourceId = (config .responder).localNodeId
  destination : packet.destinationId = (config .responder).peerNodeId
  length : LinkPacket.payloadLengthIsValid packet.payloadLength = true
  cleared : packet.cleared = packet

/-- A frame in the air belongs to the start call that it names. -/
def OnAir (log : LinkLog) (x : AirFrame) : Prop :=
  match x.source with
  | .initiator => (∃ s, log.starts[x.start]? = some s ∧ x.data = s.packet.frame.toList) ∧
      ∀ a ∈ log.accepted, a.1 ≤ x.start
  | .responder => ∃ request response, (x.start, request) ∈ log.accepted ∧
      IsResponseTo config request response ∧ x.data = response.frame.toList ∧
      .transmitted x ∈ log

/-- What a published duplicate or success says about the entries before it: `s` is the start call
that the frame was transmitted for. -/
def Explained (pre : LinkLog) : LinkEntry → Prop
  | .published .responder heard event _ => event.type = .duplicateSuppressed →
      ∃ n last s, pre.accepted.getLast? = some (n, last.packet) ∧ pre.starts[n]? = some last ∧
        pre.starts[heard]? = some s ∧ event.packet = s.packet ∧ n ≤ heard ∧
        last.packet.sequence = s.packet.sequence
  | .published .initiator heard event _ => event.type = .exchangeSucceeded →
      ∃ s current, pre.starts[heard]? = some s ∧ pre.starts.getLast? = some current ∧
        (heard, s.packet) ∈ pre.accepted ∧ s.packet.sequence = current.packet.sequence ∧
        IsResponseTo config s.packet event.packet ∧
        .transmitted ⟨.responder, event.packet.frame.toList, heard⟩ ∈ pre
  | _ => True

/-- What the log says about itself. -/
structure Sound (log : LinkLog) : Prop where
  requests : ∀ s ∈ log.starts, IsRequest config s.packet
  sequences : ∀ j k s s', log.starts[j]? = some s → log.starts[k]? = some s' → j ≤ k →
    s.epoch = s'.epoch → s'.packet.sequence = s.packet.sequence + UInt16.ofNat (k - j)
  ordered : log.accepted.Pairwise fun a b => a.1 < b.1
  received : ∀ a ∈ log.accepted, ∃ s, log.starts[a.1]? = some s ∧ s.packet = a.2
  explained : ∀ e pre, e :: pre <:+ log → Explained config pre e

def Remembers (r : DuplexLinkService) (log : LinkLog) : Prop :=
  match log.accepted.getLast? with
  | none => r.hasLastRemoteSequence = false ∧ r.hasCachedResponse = false
  | some a => r.hasLastRemoteSequence = true ∧ r.lastRemoteSequence = a.2.sequence ∧
      ∃ response, IsResponseTo config a.2 response ∧ r.cachedResponseFrame = response.frame

structure Sane (role : DuplexLinkRole) (s : DuplexLinkService) : Prop where
  consistent : Consistent s
  payload : PayloadReady s
  config_eq : s.config = config role

/-- **What holds between the two nodes.** -/
structure Linked (i r : DuplexLinkService) (w : Wire) : Prop where
  initiator : Sane config .initiator i
  responder : Sane config .responder r
  pending : i.requestActive = true → w.log.starts.getLast? = some ⟨w.log.epoch, i.pendingRequest⟩ ∧
    i.pendingRequestFrame = i.pendingRequest.frame
  next : ∀ s, w.log.starts.getLast? = some s → s.epoch = w.log.epoch →
    i.nextSequence = s.packet.sequence + 1
  sound : Sound config w.log
  remembers : Remembers config r w.log
  air : ∀ x ∈ w.air, OnAir config w.log x
  order : w.air.Pairwise fun x y => x.source = .initiator → y.source = .initiator →
    x.start ≤ y.start

end

section

variable {config : DuplexLinkRole → DuplexLinkConfig} {log : LinkLog} {e : LinkEntry}

/-! ## Entries that start nothing and accept nothing -/

theorem OnAir.inert {x : AirFrame} (h : OnAir config log x) (he : LinkLog.Inert e) :
    OnAir config (e :: log) x := by
  unfold OnAir at h ⊢
  rw [LinkLog.starts_inert he, LinkLog.accepted_inert he]
  cases hs : x.source with
  | initiator =>
    rw [hs] at h
    exact h
  | responder =>
    rw [hs] at h
    obtain ⟨request, response, ha, hr, hd, ht⟩ := h
    exact ⟨request, response, ha, hr, hd, List.mem_cons_of_mem e ht⟩

theorem Sound.inert (h : Sound config log) (he : LinkLog.Inert e)
    (hexplained : Explained config log e) : Sound config (e :: log) where
  requests := by
    rw [LinkLog.starts_inert he]
    exact h.requests
  sequences := by
    rw [LinkLog.starts_inert he]
    exact h.sequences
  ordered := by
    rw [LinkLog.accepted_inert he]
    exact h.ordered
  received := by
    rw [LinkLog.accepted_inert he, LinkLog.starts_inert he]
    exact h.received
  explained e' pre hpre := by
    rcases List.suffix_cons_iff.mp hpre with hnew | hold
    · obtain ⟨rfl, rfl⟩ := List.cons.inj hnew
      exact hexplained
    · exact h.explained e' pre hold

theorem Remembers.inert {r : DuplexLinkService} (h : Remembers config r log)
    (he : LinkLog.Inert e) : Remembers config r (e :: log) := by
  unfold Remembers at h ⊢
  rw [LinkLog.accepted_inert he]
  exact h

variable {i i' r r' : DuplexLinkService} {w w' : Wire}

theorem Linked.inert (h : Linked config i r w) (he : LinkLog.Inert e)
    (hexplained : Explained config w.log e) : Linked config i r { w with log := e :: w.log } where
  initiator := h.initiator
  responder := h.responder
  pending ha := by
    change (LinkLog.starts (e :: w.log)).getLast? = some ⟨LinkLog.epoch (e :: w.log), _⟩ ∧ _
    rw [LinkLog.starts_inert he, LinkLog.epoch_inert he]
    exact h.pending ha
  next s := by
    change (LinkLog.starts (e :: w.log)).getLast? = some s → s.epoch = LinkLog.epoch (e :: w.log) → _
    rw [LinkLog.starts_inert he, LinkLog.epoch_inert he]
    exact h.next s
  sound := h.sound.inert he hexplained
  remembers := h.remembers.inert he
  air x hx := (h.air x hx).inert he
  order := h.order

theorem Linked.hears (h : Linked config i r w) {x : AirFrame} {air : List AirFrame}
    (hd : Delivers w.air x air) (heard : Nat) :
    Linked config i r { w with air := air, heard := heard } where
  initiator := h.initiator
  responder := h.responder
  pending := h.pending
  next := h.next
  sound := h.sound
  remembers := h.remembers
  air y hy := h.air y (hd.mem_of_mem hy)
  order := hd.pairwise h.order

theorem Linked.transmit (h : Linked config i r w) {role : DuplexLinkRole} {data : List UInt8}
    (hair : OnAir config (.transmitted ⟨role, data, w.log.startFor role⟩ :: w.log)
      ⟨role, data, w.log.startFor role⟩)
    (horder : role = .initiator → ∀ y ∈ w.air, y.source = .initiator →
      y.start ≤ w.log.startFor role) :
    Linked config i r (w.transmit role data) := by
  have hlog := h.inert (e := .transmitted ⟨role, data, w.log.startFor role⟩) trivial trivial
  refine ⟨hlog.initiator, hlog.responder, hlog.pending, hlog.next, hlog.sound, hlog.remembers, ?_,
    ?_⟩
  · intro x hx
    rcases List.mem_append.mp hx with hx | hx
    · exact hlog.air x hx
    · rw [List.mem_singleton.mp hx]
      exact hair
  · apply pairwise_send h.order
    intro y hy hys hxs
    exact horder hxs y hy hys

/-! ## Quiet calls -/

theorem Linked.quiet {role : DuplexLinkRole} {a : LinkAction} (ha : Quiet a)
    (hw : Wire.env role a.1 w a.2 w') (h : Linked config i r w) : Linked config i r w' := by
  obtain ⟨o, x⟩ := a
  cases o with
  | tryStartTx _ => exact ha.elim
  | readRxFrame =>
    cases x with
    | none =>
      obtain rfl := hw
      exact h
    | some frame =>
      obtain ⟨x, air, hd, -, -, rfl⟩ := hw
      exact h.hears hd x.start
  | published event stored =>
    obtain rfl := hw
    have hn : event.type ∉ [.requestReceived, .duplicateSuppressed, .exchangeSucceeded] := ha
    simp only [List.mem_cons, List.not_mem_nil, or_false, not_or] at hn
    obtain ⟨hr, hd, hs⟩ := hn
    cases role with
    | initiator => exact h.inert (e := .published .initiator _ event stored) trivial (absurd · hs)
    | responder => exact h.inert (e := .published .responder _ event stored) hr (absurd · hd)
  | _ =>
    obtain rfl := hw
    exact h

theorem Linked.path_quiet {role : DuplexLinkRole} {tr : List LinkAction}
    (htr : ∀ a ∈ tr, Quiet a) (hp : (Wire.env role).Path w tr w') (h : Linked config i r w) :
    Linked config i r w' := by
  induction tr generalizing w with
  | nil =>
    obtain rfl := hp
    exact h
  | cons a tr ih =>
    obtain ⟨m, hm, hp⟩ := hp
    obtain ⟨ha, htr⟩ := List.forall_mem_cons.mp htr
    exact ih htr hp (h.quiet ha hm)

theorem Sane.part {role : DuplexLinkRole} {s s' : DuplexLinkService} {tr : List LinkAction}
    (h : Sane config role s) (hps : PartStep s tr s') : Sane config role s' :=
  ⟨hps.consistent h.consistent, (hps.move h.payload).payloadReady h.payload,
    hps.config.trans h.config_eq⟩

/-- What the service remembers of the link is as before, but for the payload of later responses. -/
def SameMemory (s s' : DuplexLinkService) : Prop :=
  { s'.memory with
    responsePayload := s.responsePayload
    responsePayloadLength := s.responsePayloadLength } = s.memory

theorem SameMemory.of_eq {s s' : DuplexLinkService} (h : s'.memory = s.memory) :
    SameMemory s s' := by
  rw [SameMemory, h]
  rfl

theorem Linked.of_initiator (h : Linked config i r w) (hi : Sane config .initiator i')
    (hm : SameMemory i i') (ha : i'.requestActive = true → i.requestActive = true) :
    Linked config i' r w where
  initiator := hi
  responder := h.responder
  pending hactive := by
    rw [show i'.pendingRequest = i.pendingRequest from congrArg LinkMemory.pendingRequest hm,
      show i'.pendingRequestFrame = i.pendingRequestFrame from
        congrArg LinkMemory.pendingRequestFrame hm]
    exact h.pending (ha hactive)
  next s hs hepoch := by
    rw [show i'.nextSequence = i.nextSequence from congrArg LinkMemory.nextSequence hm]
    exact h.next s hs hepoch
  sound := h.sound
  remembers := h.remembers
  air := h.air
  order := h.order

theorem Remembers.of_memory (h : Remembers config r log) (hm : SameMemory r r') :
    Remembers config r' log := by
  unfold Remembers at h ⊢
  rw [show r'.hasLastRemoteSequence = r.hasLastRemoteSequence from
      congrArg LinkMemory.hasLastRemoteSequence hm,
    show r'.lastRemoteSequence = r.lastRemoteSequence from
      congrArg LinkMemory.lastRemoteSequence hm,
    show r'.hasCachedResponse = r.hasCachedResponse from congrArg LinkMemory.hasCachedResponse hm,
    show r'.cachedResponseFrame = r.cachedResponseFrame from
      congrArg LinkMemory.cachedResponseFrame hm]
  exact h

theorem Linked.of_responder (h : Linked config i r w) (hr : Sane config .responder r')
    (hm : SameMemory r r') : Linked config i r' w :=
  ⟨h.initiator, hr, h.pending, h.next, h.sound, h.remembers.of_memory hm, h.air, h.order⟩

/-! ## Frames that are heard -/

theorem checkRequest_eq_accept {s : DuplexLinkService} {frame : PacketRadioRxFrame}
    {request : LinkPacket} (h : s.checkRequest frame = .accept request) :
    LinkPacket.decode frame.data s.config.localNodeId = .ok request := by
  unfold checkRequest at h
  split at h
  · cases h
  · rename_i packet hd
    split_ifs at h
    cases h
    exact hd

theorem checkResponse_eq_accept {s : DuplexLinkService} {frame : PacketRadioRxFrame}
    {response : LinkPacket} (h : s.checkResponse frame = .accept response) :
    LinkPacket.decode frame.data s.config.localNodeId = .ok response ∧
      response.acknowledgedSequence = s.pendingRequest.sequence := by
  unfold checkResponse at h
  split at h
  · cases h
  · rename_i packet hd
    split_ifs at h with _ _ hq
    cases h
    exact ⟨hd, not_not.mp hq⟩

theorem IsRequest.decode {packet : LinkPacket} (h : IsRequest config packet)
    (hm : Net.Mirrored config) : LinkPacket.decode packet.frame.toList
      (config .responder).localNodeId = .ok packet := by
  have hcode : LinkPacket.messageTypeIsValid packet.messageType.code = true := by
    cases ht : packet.messageType <;> first | rfl | exact absurd (ht ▸ h.type) (by decide)
  rw [hm.response, ← h.destination, LinkPacket.decode_frame hcode h.length, h.cleared]

theorem IsResponseTo.decode {request packet : LinkPacket} (h : IsResponseTo config request packet)
    (hm : Net.Mirrored config) : LinkPacket.decode packet.frame.toList
      (config .initiator).localNodeId = .ok packet := by
  have hcode : LinkPacket.messageTypeIsValid packet.messageType.code = true := by
    rw [h.type, expectedResponseType]
    split <;> rfl
  rw [hm.request, ← h.destination, LinkPacket.decode_frame hcode h.length, h.cleared]

theorem isResponseTo_response (h : Sane config .responder r) (request : LinkPacket) :
    IsResponseTo config request (r.response request) where
  type := rfl
  acknowledged := rfl
  source := by rw [← h.config_eq]; rfl
  destination := by rw [← h.config_eq]; rfl
  length := h.payload
  cleared := by
    simp only [LinkPacket.cleared, response, copyPayload_copyPayload]

/-- A request that the responder reads is one that the initiator started, no older than those
accepted so far. -/
theorem Linked.heard_request (h : Linked config i r w) (hm : Net.Mirrored config)
    {frame : PacketRadioRxFrame} {request : LinkPacket} (hw : w.Hears .responder frame.data w')
    (hc : r.checkRequest frame = .accept request) :
    ∃ x air s, Delivers w.air x air ∧ x.source = .initiator ∧
      w' = { w with air := air, heard := x.start } ∧
      w.log.starts[x.start]? = some s ∧ s.packet = request ∧
      ∀ a ∈ w.log.accepted, a.1 ≤ x.start := by
  obtain ⟨x, air, hd, hs, hdata, rfl⟩ := hw
  have hi : x.source = .initiator := by
    cases hx : x.source with
    | initiator => rfl
    | responder => exact absurd hx hs
  have hair := h.air x hd.mem
  simp only [OnAir, hi] at hair
  obtain ⟨⟨s, hstart, hframe⟩, hold⟩ := hair
  have hrequest := h.sound.requests s (List.mem_of_getElem? hstart)
  have hdecode := checkRequest_eq_accept hc
  rw [h.responder.config_eq, ← hdata, hframe, hrequest.decode hm] at hdecode
  exact ⟨x, air, s, hd, hi, rfl, hstart, Except.ok.inj hdecode, hold⟩

/-- A response that the initiator reads was transmitted for a request that was accepted. -/
theorem Linked.heard_response (h : Linked config i r w) (hm : Net.Mirrored config)
    {frame : PacketRadioRxFrame} {response : LinkPacket} (hw : w.Hears .initiator frame.data w')
    (hc : i.checkResponse frame = .accept response) :
    ∃ x air request, Delivers w.air x air ∧ w' = { w with air := air, heard := x.start } ∧
      (x.start, request) ∈ w.log.accepted ∧ IsResponseTo config request response ∧
      .transmitted ⟨.responder, response.frame.toList, x.start⟩ ∈ w.log ∧
      response.acknowledgedSequence = i.pendingRequest.sequence := by
  obtain ⟨x, air, hd, hs, hdata, rfl⟩ := hw
  have hr : x.source = .responder := by
    cases hx : x.source with
    | initiator => exact absurd hx hs
    | responder => rfl
  have hair := h.air x hd.mem
  simp only [OnAir, hr] at hair
  obtain ⟨request, response', haccepted, hresponse, hframe, htransmitted⟩ := hair
  obtain ⟨hdecode, hq⟩ := checkResponse_eq_accept hc
  rw [h.initiator.config_eq, ← hdata, hframe, hresponse.decode hm] at hdecode
  obtain rfl := Except.ok.inj hdecode
  refine ⟨x, air, request, hd, rfl, haccepted, hresponse, ?_, hq⟩
  obtain ⟨source, data, start⟩ := x
  obtain rfl := hr
  obtain rfl := hframe
  exact htransmitted

/-! ## Frames that are transmitted -/

theorem Linked.transmit_request (h : Linked config i r w) (ha : i.requestActive = true) :
    Linked config i r (w.transmit .initiator i.pendingRequestFrame.toList) := by
  obtain ⟨hlast, hframe⟩ := h.pending ha
  rw [List.getLast?_eq_getElem?] at hlast
  have hlt : w.log.starts.length - 1 < w.log.starts.length :=
    (List.getElem?_eq_some_iff.mp hlast).1
  apply h.transmit
  · refine ⟨⟨_, hlast, by rw [hframe]⟩, ?_⟩
    intro a ha
    obtain ⟨s, hs, -⟩ := h.sound.received a ha
    have := (List.getElem?_eq_some_iff.mp hs).1
    exact Nat.le_sub_one_of_lt this
  · intro _ y hy hys
    have hair := h.air y hy
    simp only [OnAir, hys] at hair
    obtain ⟨⟨s, hs, -⟩, -⟩ := hair
    exact Nat.le_sub_one_of_lt (List.getElem?_eq_some_iff.mp hs).1

theorem Linked.transmit_response (h : Linked config i r w) (hc : r.hasCachedResponse = true) :
    Linked config i r (w.transmit .responder r.cachedResponseFrame.toList) := by
  have hr := h.remembers
  unfold Remembers at hr
  cases hl : w.log.accepted.getLast? with
  | none =>
    simp only [hl] at hr
    simp [hc] at hr
  | some a =>
    simp only [hl] at hr
    obtain ⟨-, -, response, hresponse, hframe⟩ := hr
    have hstart : w.log.startFor .responder = a.1 := by simp [LinkLog.startFor, hl]
    apply h.transmit
    · rw [hstart]
      exact ⟨a.2, response, List.mem_of_getLast? hl, hresponse, by rw [hframe],
        List.mem_cons_self⟩
    · intro hrole
      cases hrole

/-! ## Parts of a call -/

/-- **A part of a call of the initiator.** -/
theorem Linked.initiatorPart (h : Linked config i r w) (hm : Net.Mirrored config)
    {tr : List LinkAction} (hps : PartStep i tr i') (hp : (Wire.env .initiator).Path w tr w') :
    Linked config i' r w' := by
  have hi := h.initiator.part hps
  have hactive := fun ha : i'.requestActive = true => by
    by_contra hn
    rw [hps.stays_inactive (Bool.not_eq_true _ ▸ hn)] at ha
    cases ha
  have hrole : i.config.role = .initiator := by rw [h.initiator.config_eq, hm.role]
  cases hps.move h.initiator.payload with
  | quiet hq hmem => exact (h.path_quiet hq hp).of_initiator hi (.of_eq hmem) hactive
  | requestTx hs hq hmem =>
    obtain ⟨m, hsend, hp⟩ := hp
    obtain rfl := hsend
    have ha := (h.initiator.consistent.busy (by simp [hs])).2
    exact ((h.transmit_request ha).path_quiet hq hp).of_initiator hi (.of_eq hmem) hactive
  | responseTx hs =>
    have hresponder := (h.initiator.consistent.listening (by simp [hs])).1
    rw [hrole] at hresponder
    cases hresponder
  | received hresponder =>
    rw [hrole] at hresponder
    cases hresponder
  | duplicate hresponder =>
    rw [hrole] at hresponder
    cases hresponder
  | @succeeded frame response rttMs now _ _ ha hc hmem =>
    obtain ⟨m, hread, m₁, rfl, m₂, rfl, m₃, rfl, rfl⟩ := hp
    obtain ⟨x, air, request, hd, rfl, haccepted, hresponse, htransmitted, hq⟩ :=
      h.heard_response hm hread hc
    obtain ⟨hlast, -⟩ := h.pending ha
    have hheard := h.hears hd x.start
    refine (hheard.inert (e := .published .initiator x.start _ _) trivial ?_).of_initiator hi
      (.of_eq hmem) hactive
    intro _
    obtain ⟨s, hs, rfl⟩ := h.sound.received _ haccepted
    exact ⟨s, _, hs, hlast, haccepted, hresponse.acknowledged.symm.trans hq, hresponse,
      htransmitted⟩

theorem OnAir.accepted {y : AirFrame} {a : Nat × LinkPacket} (h : OnAir config log y)
    (hstarts : LinkLog.starts (e :: log) = log.starts)
    (haccepted : LinkLog.accepted (e :: log) = log.accepted ++ [a])
    (horder : y.source = .initiator → a.1 ≤ y.start) : OnAir config (e :: log) y := by
  unfold OnAir at h ⊢
  rw [hstarts, haccepted]
  cases hy : y.source with
  | initiator =>
    simp only [hy] at h
    refine ⟨h.1, ?_⟩
    intro b hb
    rcases List.mem_append.mp hb with hb | hb
    · exact h.2 b hb
    · rw [List.mem_singleton.mp hb]
      exact horder hy
  | responder =>
    simp only [hy] at h
    obtain ⟨request, response, ha, hresponse, hdata, ht⟩ := h
    exact ⟨request, response, List.mem_append_left _ ha, hresponse, hdata,
      List.mem_cons_of_mem e ht⟩

theorem Sound.accepted {a : Nat × LinkPacket} {s : StartCall} (h : Sound config log)
    (hstarts : LinkLog.starts (e :: log) = log.starts)
    (haccepted : LinkLog.accepted (e :: log) = log.accepted ++ [a])
    (hs : log.starts[a.1]? = some s) (ha : s.packet = a.2)
    (hnew : ∀ b ∈ log.accepted, b.1 < a.1) (hexplained : Explained config log e) :
    Sound config (e :: log) where
  requests := by
    rw [hstarts]
    exact h.requests
  sequences := by
    rw [hstarts]
    exact h.sequences
  ordered := by
    rw [haccepted]
    exact pairwise_send h.ordered hnew
  received := by
    rw [haccepted, hstarts]
    intro b hb
    rcases List.mem_append.mp hb with hb | hb
    · exact h.received b hb
    · rw [List.mem_singleton.mp hb]
      exact ⟨s, hs, ha⟩
  explained e' pre hpre := by
    rcases List.suffix_cons_iff.mp hpre with hnew | hold
    · obtain ⟨rfl, rfl⟩ := List.cons.inj hnew
      exact hexplained
    · exact h.explained e' pre hold

theorem Linked.accept (h : Linked config i r w) {x : AirFrame} {air : List AirFrame}
    {s : StartCall} (hd : Delivers w.air x air) (hx : x.source = .initiator)
    (hs : w.log.starts[x.start]? = some s) (hnew : ∀ a ∈ w.log.accepted, a.1 < x.start)
    {event : DuplexLinkEvent} {stored : Bool} (htype : event.type = .requestReceived)
    (hpacket : event.packet = s.packet) (hr : Sane config .responder r')
    (hmem : r'.memory = r.memory.accepted s.packet (r.response s.packet).frame) :
    Linked config i r' ({ w with air := air, heard := x.start }.record .responder event stored) := by
  have haccepted : LinkLog.accepted (.published .responder x.start event stored :: w.log) =
      w.log.accepted ++ [(x.start, s.packet)] := by
    rw [LinkLog.accepted_received htype, hpacket]
  have hsound : Sound config (.published .responder x.start event stored :: w.log) := by
    refine h.sound.accepted rfl haccepted hs rfl hnew ?_
    intro hdup
    rw [htype] at hdup
    cases hdup
  have hremembers : Remembers config r' (.published .responder x.start event stored :: w.log) := by
    rw [Remembers, haccepted, List.getLast?_concat]
    exact ⟨congrArg LinkMemory.hasLastRemoteSequence hmem,
      congrArg LinkMemory.lastRemoteSequence hmem, r.response s.packet,
      isResponseTo_response h.responder s.packet, congrArg LinkMemory.cachedResponseFrame hmem⟩
  refine ⟨h.initiator, hr, h.pending, h.next, hsound, hremembers, ?_, hd.pairwise h.order⟩
  intro y hy
  exact (h.air y (hd.mem_of_mem hy)).accepted rfl haccepted (hd.rel h.order hy hx)

theorem Remembers.isDuplicate_iff (h : Remembers config r log) {request : LinkPacket} :
    r.IsDuplicate request ↔
      ∃ a, log.accepted.getLast? = some a ∧ a.2.sequence = request.sequence := by
  unfold Remembers at h
  cases hl : log.accepted.getLast? with
  | none =>
    simp only [hl] at h
    simp [IsDuplicate, h.1]
  | some a =>
    simp only [hl] at h
    simp [IsDuplicate, h.1, h.2.1, eq_comm]

theorem Sound.le_last (h : Sound config log) {a b : Nat × LinkPacket}
    (hl : log.accepted.getLast? = some a) (hb : b ∈ log.accepted) : b.1 ≤ a.1 := by
  obtain ⟨before, hbefore⟩ := List.getLast?_eq_some_iff.mp hl
  have hordered := h.ordered
  rw [hbefore] at hb hordered
  rcases List.mem_append.mp hb with hb | hb
  · exact ((List.pairwise_append.mp hordered).2.2 b hb a (List.mem_singleton_self a)).le
  · rw [List.mem_singleton.mp hb]

/-- In one epoch a sequence number comes back after 65536 start calls and not before. -/
theorem Sound.start_eq {log : LinkLog} (h : Sound config log) {j k : Nat} {s s' : StartCall}
    (hs : log.starts[j]? = some s) (hs' : log.starts[k]? = some s') (hjk : j ≤ k)
    (hepoch : s.epoch = s'.epoch) (hclose : k < j + 65536)
    (hq : s.packet.sequence = s'.packet.sequence) : j = k := by
  have hseq := h.sequences j k s s' hs hs' hjk hepoch
  rw [← hq, left_eq_add] at hseq
  have hzero : k - j = 0 := by
    have hn := congrArg UInt16.toNat hseq
    rw [UInt16.toNat_ofNat', Nat.mod_eq_of_lt (by omega)] at hn
    exact hn
  omega

/-- What is no duplicate was started after everything accepted so far. -/
theorem Linked.lt_of_new (h : Linked config i r w) {n : Nat} {s : StartCall}
    (hs : w.log.starts[n]? = some s) (hold : ∀ a ∈ w.log.accepted, a.1 ≤ n)
    (hnew : ¬ r.IsDuplicate s.packet) : ∀ a ∈ w.log.accepted, a.1 < n := by
  intro a ha
  apply lt_of_le_of_ne (hold a ha)
  intro hn
  apply hnew
  obtain ⟨last, hlast⟩ : ∃ last, w.log.accepted.getLast? = some last := by
    cases hl : w.log.accepted.getLast? with
    | none =>
      rw [List.getLast?_eq_none_iff] at hl
      rw [hl] at ha
      cases ha
    | some last => exact ⟨last, rfl⟩
  have hmem := List.mem_of_getLast? hlast
  have heq : last.1 = n := le_antisymm (hold last hmem) (hn ▸ h.sound.le_last hlast ha)
  obtain ⟨s', hs', hpacket⟩ := h.sound.received last hmem
  rw [heq, hs] at hs'
  obtain rfl := Option.some.inj hs'
  exact h.remembers.isDuplicate_iff.mpr ⟨last, hlast, by rw [hpacket]⟩

/-- **A part of a call of the responder.** -/
theorem Linked.responderPart (h : Linked config i r w) (hm : Net.Mirrored config)
    {tr : List LinkAction} (hps : PartStep r tr r') (hp : (Wire.env .responder).Path w tr w') :
    Linked config i r' w' := by
  have hr := h.responder.part hps
  have hrole : r.config.role = .responder := by rw [h.responder.config_eq, hm.role]
  cases hps.move h.responder.payload with
  | quiet hq hmem => exact (h.path_quiet hq hp).of_responder hr (.of_eq hmem)
  | requestTx hs =>
    have hinitiator := (h.responder.consistent.busy (by simp [hs])).1
    rw [hrole] at hinitiator
    cases hinitiator
  | responseTx _ hc hq hmem =>
    obtain ⟨m, rfl, hp⟩ := hp
    exact ((h.transmit_response hc).path_quiet hq hp).of_responder hr (.of_eq hmem)
  | @received frame request now _ _ hc hd hmem =>
    obtain ⟨m, hread, m₁, rfl, m₂, rfl, rfl⟩ := hp
    obtain ⟨x, air, s, hdelivers, hx, rfl, hs, rfl, hold⟩ := h.heard_request hm hread hc
    exact h.accept hdelivers hx hs (h.lt_of_new hs hold hd) rfl rfl hr hmem
  | @duplicate frame request now _ _ hc hd hmem =>
    obtain ⟨m, hread, m₁, rfl, m₂, rfl, rfl⟩ := hp
    obtain ⟨x, air, s, hdelivers, hx, rfl, hs, rfl, hold⟩ := h.heard_request hm hread hc
    obtain ⟨a, hlast, hq⟩ := h.remembers.isDuplicate_iff.mp hd
    have hheard := h.hears hdelivers x.start
    refine (hheard.inert (e := .published .responder x.start _ _) ?_ ?_).of_responder hr (.of_eq hmem)
    · intro hreceived
      cases hreceived
    · intro _
      have hmem := List.mem_of_getLast? hlast
      obtain ⟨n, packet⟩ := a
      obtain ⟨last, hlastStart, rfl⟩ := h.sound.received _ hmem
      exact ⟨n, last, s, hlast, hlastStart, hs, rfl, hold _ hmem, hq⟩
  | succeeded hinitiator =>
    rw [hrole] at hinitiator
    cases hinitiator

/-! ## Start calls and restarts -/

theorem isRequest_request (hi : Sane config .initiator i)
    {messageType : LinkMessageType} {payload : List UInt8} (h : i.CanRequest messageType payload) :
    IsRequest config (i.request messageType payload) where
  type := h.type
  source := by rw [← hi.config_eq]; rfl
  destination := by rw [← hi.config_eq]; rfl
  length := payloadLengthIsValid_toUInt8 h.length
  cleared := by
    simp only [LinkPacket.cleared, request, payloadBuffer_cleared h.length]

theorem Sound.started (h : Sound config log) {packet : LinkPacket} (hpacket : IsRequest config packet)
    (hnext : ∀ s, log.starts.getLast? = some s → s.epoch = log.epoch →
      packet.sequence = s.packet.sequence + 1) : Sound config (.started packet :: log) where
  requests s hs := by
    rcases List.mem_append.mp hs with hs | hs
    · exact h.requests s hs
    · rw [List.mem_singleton.mp hs]
      exact hpacket
  sequences j k s s' hj hk hjk hepoch := by
    change (log.starts ++ [⟨log.epoch, packet⟩])[j]? = some s at hj
    change (log.starts ++ [⟨log.epoch, packet⟩])[k]? = some s' at hk
    by_cases hold : k < log.starts.length
    · rw [List.getElem?_append_left hold] at hk
      rw [List.getElem?_append_left (by omega)] at hj
      exact h.sequences j k s s' hj hk hjk hepoch
    · obtain rfl : k = log.starts.length := by
        have := (List.getElem?_eq_some_iff.mp hk).1
        rw [List.length_append, List.length_singleton] at this
        omega
      rw [List.getElem?_concat_length] at hk
      obtain rfl := Option.some.inj hk
      by_cases hsame : j = log.starts.length
      · subst hsame
        rw [List.getElem?_concat_length] at hj
        obtain rfl := Option.some.inj hj
        simp
      · -- the last start call before this one is of the same epoch
        rw [List.getElem?_append_left (by omega)] at hj
        obtain ⟨last, hlast⟩ : ∃ last, log.starts[log.starts.length - 1]? = some last :=
          ⟨_, List.getElem?_eq_getElem (by omega)⟩
        have hle : s.epoch ≤ last.epoch := by
          by_cases heq : j = log.starts.length - 1
          · rw [← heq, hj] at hlast
            rw [Option.some.inj hlast]
          · obtain ⟨hj', rfl⟩ := List.getElem?_eq_some_iff.mp hj
            obtain ⟨hl', rfl⟩ := List.getElem?_eq_some_iff.mp hlast
            exact List.pairwise_iff_getElem.mp (LinkLog.starts_sorted log) _ _ hj' hl' (by omega)
        have hlastEpoch : last.epoch = log.epoch :=
          le_antisymm (LinkLog.epoch_le (List.mem_of_getElem? hlast)) (hepoch.symm.trans_le hle)
        have hstep := hnext last (by rw [List.getLast?_eq_getElem?]; exact hlast) hlastEpoch
        have hseq := h.sequences j _ s last hj hlast (by omega) (hepoch.trans hlastEpoch.symm)
        have hcount : log.starts.length - j = log.starts.length - 1 - j + 1 := by omega
        rw [hstep, hseq, hcount, UInt16.ofNat_add, UInt16.add_assoc]
        rfl
  ordered := h.ordered
  received a ha := by
    obtain ⟨s, hs, hp⟩ := h.received a ha
    refine ⟨s, ?_, hp⟩
    change (log.starts ++ [_])[a.1]? = some s
    rw [List.getElem?_append_left (List.getElem?_eq_some_iff.mp hs).1]
    exact hs
  explained e pre hpre := by
    rcases List.suffix_cons_iff.mp hpre with hnew | hold
    · obtain ⟨rfl, rfl⟩ := List.cons.inj hnew
      trivial
    · exact h.explained e pre hold

theorem OnAir.started {x : AirFrame} (h : OnAir config log x) (packet : LinkPacket) :
    OnAir config (.started packet :: log) x := by
  unfold OnAir at h ⊢
  cases hx : x.source with
  | initiator =>
    simp only [hx] at h
    obtain ⟨⟨s, hs, hdata⟩, hold⟩ := h
    refine ⟨⟨s, ?_, hdata⟩, hold⟩
    change (log.starts ++ [_])[x.start]? = some s
    rw [List.getElem?_append_left (List.getElem?_eq_some_iff.mp hs).1]
    exact hs
  | responder =>
    simp only [hx] at h
    obtain ⟨request, response, ha, hresponse, hdata, ht⟩ := h
    exact ⟨request, response, ha, hresponse, hdata, List.mem_cons_of_mem _ ht⟩

/-- **A successful start call.** -/
theorem Linked.started (h : Linked config i r w)
    {messageType : LinkMessageType} {payload : List UInt8} (hc : i.CanRequest messageType payload)
    (now : UInt32) :
    Linked config ((i.requested (i.request messageType payload)).goto .startRequestTx now) r
      (w.begin true (i.request messageType payload)) where
  initiator := ⟨consistent_requested hc _ now, h.initiator.payload, h.initiator.config_eq⟩
  responder := h.responder
  pending _ := by
    exact ⟨List.getLast?_concat, rfl⟩
  next s hs _ := by
    obtain rfl := Option.some.inj (hs.symm.trans List.getLast?_concat)
    rfl
  sound := h.sound.started (isRequest_request h.initiator hc) h.next
  remembers := h.remembers
  air x hx := (h.air x hx).started _
  order := h.order

theorem OnAir.restarted {x : AirFrame} (h : OnAir config log x) :
    OnAir config (.restarted :: log) x := by
  unfold OnAir at h ⊢
  cases hx : x.source with
  | initiator =>
    simp only [hx] at h
    exact h
  | responder =>
    simp only [hx] at h
    obtain ⟨request, response, ha, hresponse, hdata, ht⟩ := h
    exact ⟨request, response, ha, hresponse, hdata, List.mem_cons_of_mem _ ht⟩

theorem sane_initial (role : DuplexLinkRole) (now : UInt32) :
    Sane config role (initial (config role) now) :=
  ⟨consistent_initial _ now, rfl, rfl⟩

/-- **A restart of the initiator.** -/
theorem Linked.restarted (h : Linked config i r w) (now : UInt32) :
    Linked config (initial (config .initiator) now) r w.restart where
  initiator := sane_initial .initiator now
  responder := h.responder
  pending ha := by cases ha
  next s hs hepoch := by
    have hle := LinkLog.epoch_le (List.mem_of_getLast? (l := w.log.starts) hs)
    change s.epoch = w.log.epoch + 1 at hepoch
    omega
  sound := ⟨h.sound.requests, h.sound.sequences, h.sound.ordered, h.sound.received, by
    intro e pre hpre
    rcases List.suffix_cons_iff.mp hpre with hnew | hold
    · obtain ⟨rfl, rfl⟩ := List.cons.inj hnew
      trivial
    · exact h.sound.explained e pre hold⟩
  remembers := h.remembers
  air x hx := (h.air x hx).restarted
  order := h.order

theorem linked_initial (now now' : UInt32) : Linked config (initial (config .initiator) now)
    (initial (config .responder) now') .initial where
  initiator := sane_initial .initiator now
  responder := sane_initial .responder now'
  pending ha := by cases ha
  next s hs := by cases hs
  sound := by
    refine ⟨?_, ?_, List.Pairwise.nil, ?_, ?_⟩
    · intro s hs
      cases hs
    · intro j k s s' hs
      cases hs
    · intro a ha
      cases ha
    · intro e pre hpre
      exact absurd (List.suffix_nil.mp hpre) (by simp)
  remembers := ⟨rfl, rfl⟩
  air x hx := by cases hx
  order := List.Pairwise.nil

/-! ## Runs -/

theorem Linked.process {role : DuplexLinkRole} {node : DuplexLinkRole → DuplexLinkService}
    (h : Linked config (node .initiator) (node .responder) w) (hm : Net.Mirrored config)
    {s : DuplexLinkService} {tr : List LinkAction} (hps : Processed (node role) tr s)
    (hp : (Wire.env role).Path w tr w') :
    Linked config (Function.update node role s .initiator) (Function.update node role s .responder)
      w' := by
  cases role with
  | initiator =>
    refine hps.keeps (I := fun s w => Linked config s (node .responder) w) ?_ ?_ ?_ hp h
    · rintro s w _ rfl hI
      exact hI
    · rintro s e w _ rfl hI
      exact hI
    · intro s tr s' w w' _ hpart hp hI
      exact hI.initiatorPart hm hpart hp
  | responder =>
    refine hps.keeps (I := fun s w => Linked config (node .initiator) s w) ?_ ?_ ?_ hp h
    · rintro s w _ rfl hI
      exact hI
    · rintro s e w _ rfl hI
      exact hI
    · intro s tr s' w w' _ hpart hp hI
      exact hI.responderPart hm hpart hp

theorem Linked.update {role : DuplexLinkRole} {node : DuplexLinkRole → DuplexLinkService}
    (h : Linked config (node .initiator) (node .responder) w) {s : DuplexLinkService}
    (hs : Sane config role s) (hm : SameMemory (node role) s)
    (ha : s.requestActive = true → (node role).requestActive = true) :
    Linked config (Function.update node role s .initiator) (Function.update node role s .responder)
      w := by
  cases role with
  | initiator => exact h.of_initiator hs hm ha
  | responder => exact h.of_responder hs hm

theorem Linked.sane {node : DuplexLinkRole → DuplexLinkService}
    (h : Linked config (node .initiator) (node .responder) w) (role : DuplexLinkRole) :
    Sane config role (node role) := by
  cases role with
  | initiator => exact h.initiator
  | responder => exact h.responder

/-- **Every run keeps the two nodes linked.** -/
theorem Net.Run.linked {net : Net} (h : Net.Run config net) (hm : Net.Mirrored config) :
    Linked config (net.node .initiator) (net.node .responder) net.wire := by
  induction h with
  | @init node _ h =>
    obtain ⟨-, now, -, hi⟩ := trace_init (h .initiator)
    obtain ⟨-, now', -, hr⟩ := trace_init (h .responder)
    change Linked config (node .initiator) (node .responder) .initial
    rw [hi, hr]
    exact linked_initial now now'
  | process _ h ih =>
    obtain ⟨tr, ht, hp⟩ := h
    exact ih.process hm (trace_process ht) hp
  | @start net role _ _ _ _ _ _ h ih =>
    rcases trace_prepareRequest h with ⟨rfl, -, rfl⟩ | ⟨rfl, hc, now, -, rfl⟩
    · rw [Net.set, Function.update_eq_self]
      exact ih
    · have hrole := hc.role
      rw [(ih.sane role).config_eq, hm.role] at hrole
      subst hrole
      exact ih.started hc now
  | @setResponsePayload net role payload _ ih =>
    have hs := ih.sane role
    rcases setResponsePayload_eq (net.node role) payload with h | ⟨hl, h⟩
    · rw [h, Net.set, Function.update_eq_self]
      exact ih
    · refine ih.update ⟨?_, ?_, ?_⟩ ?_ ?_
      · rw [h]
        exact hs.consistent
      · rw [h]
        exact payloadLengthIsValid_toUInt8 hl
      · rw [h]
        exact hs.config_eq
      · rw [h]
        rfl
      · rw [h]
        exact id
  | @takeEvent net role event s _ h ih =>
    have hs := ih.sane role
    obtain ⟨events, -, rfl⟩ := takeEvent_eq_some h
    exact ih.update ⟨hs.consistent, hs.payload, hs.config_eq⟩ rfl id
  | restart _ h ih =>
    obtain ⟨-, now, -, rfl⟩ := trace_init h
    exact ih.restarted now

end

end RadioConnection
