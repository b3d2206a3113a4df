import RadioConnection.Link.Exchange

/-!
# Requests are received once and in order

* `Net.Run.received_sublist`: what the responder publishes as received is a
  sublist of what the initiator started.
* `Net.Run.exactlyOnce`: and a success that the initiator publishes is about the
  request of that start call, when it takes the response in time: fewer than
  65536 start calls after the request that the response was transmitted for.
* `delayed_response_taken`: a channel that only loses frames is not enough for
  that.  A response can stay in the air while the requests behind it are
  accepted, and be taken 65536 start calls later for the request with the same
  sequence number.
-/

namespace RadioConnection

open LossyChannel
open DuplexLinkService

section

variable {config : DuplexLinkRole → DuplexLinkConfig} {net : Net}

/-- **Received packets are started packets**, in order and without repetition. -/
theorem Net.Run.received_sublist (h : Net.Run config net) (hm : Net.Mirrored config) :
    (net.wire.log.accepted.map Prod.snd).Sublist (net.wire.log.starts.map StartCall.packet) := by
  have hsound := (h.linked hm).sound
  apply sublist_of_increasing hsound.ordered
  intro a ha
  obtain ⟨s, hs, hpacket⟩ := hsound.received a ha
  rw [List.getElem?_map, hs, Option.map_some, hpacket]

theorem LinkLog.epoch_eq_zero {log : LinkLog} (h : .restarted ∉ log) : log.epoch = 0 := by
  induction log with
  | nil => rfl
  | cons e log ih =>
    rw [List.mem_cons, not_or] at h
    cases e with
    | restarted => exact absurd rfl h.1
    | started _ => exact ih h.2
    | transmitted _ => exact ih h.2
    | published _ _ _ _ => exact ih h.2

theorem Net.Run.succeeded (h : Net.Run config net) (hm : Net.Mirrored config)
    (hfair : Net.Fair net.wire.log) {pre : LinkLog} {heard : ℕ} {event : DuplexLinkEvent}
    {stored : Bool} (hpre : .published .initiator heard event stored :: pre <:+ net.wire.log)
    (htype : event.type = .exchangeSucceeded) (hclose : pre.starts.length ≤ heard + 65536) :
    ∃ current received, pre.starts.getLast? = some current ∧ heard + 1 = pre.starts.length ∧
      .published .responder heard received true ∈ pre ∧ received.type = .requestReceived ∧
      received.packet = current.packet ∧ IsResponseTo config current.packet event.packet ∧
      .transmitted ⟨.responder, event.packet.frame.toList, heard⟩ ∈ pre := by
  have hsound := (h.linked hm).sound
  obtain ⟨s, current, hs, hcurrent, haccepted, hq, hresponse, htransmitted⟩ :=
    hsound.explained _ pre hpre htype
  have hpre' : pre <:+ net.wire.log := (List.suffix_cons _ pre).trans hpre
  have hlast : pre.starts[pre.starts.length - 1]? = some current := by
    rw [← List.getLast?_eq_getElem?]
    exact hcurrent
  have hlt := (List.getElem?_eq_some_iff.mp hs).1
  have hepoch : s.epoch = current.epoch := by
    have hzero := LinkLog.epoch_eq_zero hfair.unrestarted
    have hs₀ := LinkLog.epoch_le (List.mem_of_getElem? (LinkLog.starts_getElem? hpre' hs))
    have hc₀ := LinkLog.epoch_le (List.mem_of_getElem? (LinkLog.starts_getElem? hpre' hlast))
    omega
  have heq : heard = pre.starts.length - 1 :=
    hsound.start_eq (LinkLog.starts_getElem? hpre' hs) (LinkLog.starts_getElem? hpre' hlast)
      (by omega) hepoch (by omega) hq
  rw [← heq, hs] at hlast
  obtain rfl := Option.some.inj hlast
  obtain ⟨received, stored', hmem, hreceived, hpacket⟩ := LinkLog.exists_published haccepted
  obtain rfl := hfair.room heard received stored' (hpre'.subset hmem)
  exact ⟨s, received, hcurrent, by omega, hmem, hreceived, hpacket, hresponse, htransmitted⟩

/-- **Exactly once.**  The requests that the responder publishes as received are, in order and
without repetition, requests that the initiator started.  When the initiator publishes a success
and has taken the response in time, that request was published as received before, and the
response is one that the responder transmitted for it. -/
theorem Net.Run.exactlyOnce (h : Net.Run config net) (hm : Net.Mirrored config) :
    (net.wire.log.accepted.map Prod.snd).Sublist (net.wire.log.starts.map StartCall.packet) ∧
    (Net.Fair net.wire.log → ∀ (pre : LinkLog) heard event stored,
      .published .initiator heard event stored :: pre <:+ net.wire.log →
      event.type = .exchangeSucceeded → pre.starts.length ≤ heard + 65536 →
      ∃ current received, pre.starts.getLast? = some current ∧ heard + 1 = pre.starts.length ∧
        .published .responder heard received true ∈ pre ∧ received.type = .requestReceived ∧
        received.packet = current.packet ∧ IsResponseTo config current.packet event.packet ∧
        .transmitted ⟨.responder, event.packet.frame.toList, heard⟩ ∈ pre) :=
  ⟨h.received_sublist hm, fun hfair _ _ _ _ hpre htype hclose =>
    h.succeeded hm hfair hpre htype hclose⟩

/-- A request that is asked, accepted and answered. -/
theorem exactlyOnce_numbered : ∃ net event received, ∃ pre : LinkLog, Net.Run (linkConfig 0) net ∧
    net.wire.log = .published .initiator 0 event true :: pre ∧ event.type = .exchangeSucceeded ∧
    .published .responder 0 received true ∈ pre ∧ received.packet = numbered 0 := by
  obtain ⟨net₀, h₀, hi₀, hn₀, hr₀, hnone, hw₀⟩ := linkConfig_listening 0
  obtain ⟨net₁, packet, hpacket, h₁, hasking, -, hr₁, hw₁⟩ := Net.run_ask h₀ linkConfig_mirrored
    hi₀ .data Net.emptyPayload rfl rfl
  rw [request_eq_numbered (h₀.linked linkConfig_mirrored).initiator.config_eq, hn₀] at hpacket
  subst hpacket
  have hair : net₁.wire.air = [⟨.initiator, (numbered 0).frame.toList, 0⟩] := by
    rw [hw₁, hw₀]
    rfl
  obtain ⟨net₂, response, h₂, hresponse, -, -, hi₂, ha₂, hs₂, hacc₂, hf₂⟩ :=
    run_accept_numbered h₁ (by rw [hr₁]; exact hr₀) hair (by rw [hr₁]; simp [hnone])
  have hd : Delivers net₂.wire.air ⟨.responder, response.frame.toList, 0⟩ [] := by
    rw [ha₂]
    exact .head _ _
  obtain ⟨net₃, event, htype, h₃, hw₃⟩ := Net.run_succeed h₂ linkConfig_mirrored
    (by rw [hi₂]; exact hasking) hresponse hd rfl rfl
  have hstarts : net₂.wire.log.starts = [⟨0, numbered 0⟩] := by
    rw [hs₂, hw₁, hw₀]
    rfl
  have hfair₁ : Net.Fair net₁.wire.log := by
    rw [hw₁, hw₀]
    have hnil : Net.Fair [] := ⟨by simp, by simp⟩
    exact (hnil.started _).transmitted _
  have hfair : Net.Fair net₃.wire.log := by
    rw [hw₃]
    exact (hf₂ hfair₁).published .initiator 0 event
  obtain ⟨-, hsuccess⟩ := h₃.exactlyOnce linkConfig_mirrored
  obtain ⟨current, received, hcurrent, -, hmem, -, hpacket, -⟩ := hsuccess hfair net₂.wire.log 0
    event true (by rw [hw₃]; exact List.suffix_refl _) htype (by rw [hstarts]; decide)
  rw [hstarts] at hcurrent
  obtain rfl := Option.some.inj hcurrent
  exact ⟨net₃, event, received, net₂.wire.log, h₃, by rw [hw₃]; rfl, htype, hmem, hpacket⟩

/-! ## A response that comes late -/

/-- One request that is lost on its way, and what is in the air behind it. -/
theorem run_numbered {net : Net} (h : Net.Run (linkConfig 0) net)
    (hi : Resting (net.node .initiator)) :
    ∃ net', Net.Run (linkConfig 0) net' ∧ Net.Unanswered net net' 1 ∧
      net'.wire.air = net.wire.air ++ [⟨.initiator,
        (numbered (net.node .initiator).nextSequence).frame.toList, net.wire.log.starts.length⟩] := by
  obtain ⟨net', packet, hpacket, h', hu, hair⟩ := Net.run_unanswered h linkConfig_mirrored rfl hi
  have hconfig := (h.linked linkConfig_mirrored).initiator.config_eq
  rw [request_eq_numbered hconfig] at hpacket
  subst hpacket
  exact ⟨net', h', hu, hair⟩

/-- Three requests are accepted while their responses stay in the air. -/
theorem exists_waiting : ∃ net response air, Net.Run (linkConfig 0) net ∧
    Resting (net.node .initiator) ∧ (net.node .initiator).nextSequence = 3 ∧
    IsResponseTo (linkConfig 0) (numbered 0) response ∧
    net.wire.air = ⟨.responder, response.frame.toList, 0⟩ :: air ∧
    net.wire.log.starts.length = 3 ∧
    net.wire.log.accepted = [(0, numbered 0), (1, numbered 1), (2, numbered 2)] ∧
    Net.Fair net.wire.log := by
  obtain ⟨net₀, h₀, hi₀, hn₀, hr₀, hnone, hw₀⟩ := linkConfig_listening 0
  have hfair₀ : Net.Fair net₀.wire.log := by
    rw [hw₀]
    exact ⟨by simp [Wire.initial], by simp [Wire.initial]⟩
  obtain ⟨net₁, h₁, hu₁, ha₁⟩ := run_numbered h₀ hi₀
  obtain ⟨net₂, h₂, hu₂, ha₂⟩ := run_numbered h₁ hu₁.resting
  obtain ⟨net₃, h₃, hu₃, ha₃⟩ := run_numbered h₂ hu₂.resting
  have hu := (hu₁.trans hu₂).trans hu₃
  have hair : net₃.wire.air = [⟨.initiator, (numbered 0).frame.toList, 0⟩,
      ⟨.initiator, (numbered 1).frame.toList, 1⟩, ⟨.initiator, (numbered 2).frame.toList, 2⟩] := by
    rw [ha₃, ha₂, ha₁, hu₂.next, hu₁.next, hn₀, hu₂.starts, hu₁.starts, hw₀]
    rfl
  obtain ⟨net₄, response, h₄, hresponse, hr₄, hl₄, hi₄, ha₄, hs₄, hacc₄, hf₄⟩ :=
    run_accept_numbered h₃ (by rw [hu.responder]; exact hr₀) hair
      (by rw [hu.responder]; simp [hnone])
  obtain ⟨net₅, response₅, h₅, -, hr₅, hl₅, hi₅, ha₅, hs₅, hacc₅, hf₅⟩ :=
    run_accept_numbered h₄ hr₄ ha₄ (by rw [hl₄.isDuplicate_iff]; simp [numbered])
  obtain ⟨net₆, response₆, h₆, -, hr₆, hl₆, hi₆, ha₆, hs₆, hacc₆, hf₆⟩ :=
    run_accept_numbered h₅ hr₅ ha₅ (by rw [hl₅.isDuplicate_iff]; simp [numbered])
  refine ⟨net₆, response, _, h₆, ?_, ?_, hresponse, ha₆, ?_, ?_, ?_⟩
  · rw [hi₆, hi₅, hi₄]
    exact hu.resting
  · rw [hi₆, hi₅, hi₄, hu.next, hn₀]
    rfl
  · rw [hs₆, hs₅, hs₄, hu.starts, hw₀]
    rfl
  · rw [hacc₆, hacc₅, hacc₄, hu.accepted, hw₀]
    rfl
  · exact hf₆ (hf₅ (hf₄ (hu.fair hfair₀)))

/-- **Being in order is not enough**: a response that stays in the air while 65534 requests go
unaccepted is taken for the request of the 65537th start call, which was never received. -/
theorem delayed_response_taken : ¬ ∀ config net, Net.Run config net → Net.Mirrored config →
    Net.Fair net.wire.log →
    (∀ n, n + 65535 ≤ net.wire.log.starts.length →
      ∃ a ∈ net.wire.log.accepted, n ≤ a.1 ∧ a.1 < n + 65535) →
    ∀ (pre : LinkLog) heard event stored,
      .published .initiator heard event stored :: pre <:+ net.wire.log →
      event.type = .exchangeSucceeded →
      ∃ received stored, .published .responder (pre.starts.length - 1) received stored ∈ pre ∧
        received.type = .requestReceived := by
  intro hclaim
  obtain ⟨net₀, response, air, h₀, hi₀, hn₀, hresponse, ha₀, hs₀, hacc₀, hf₀⟩ := exists_waiting
  obtain ⟨net₁, h₁, hu₁⟩ := Net.run_unanswered_iterate 65533 h₀ linkConfig_mirrored rfl hi₀
  obtain ⟨net₂, packet, hpacket, h₂, hasking, -, -, hw₂⟩ := Net.run_ask h₁ linkConfig_mirrored
    hu₁.resting .data Net.emptyPayload rfl rfl
  have hconfig := (h₁.linked linkConfig_mirrored).initiator.config_eq
  rw [request_eq_numbered hconfig, hu₁.next, hn₀] at hpacket
  -- the sequence number of the first request has come back
  have hwrap : packet = numbered 0 := hpacket
  subst hwrap
  obtain ⟨added, hadded⟩ := hu₁.air
  have hd : Delivers net₂.wire.air ⟨.responder, response.frame.toList, 0⟩
      (air ++ added ++ [⟨.initiator, (numbered 0).frame.toList,
        LinkLog.startFor (.started (numbered 0) :: net₁.wire.log) .initiator⟩]) := by
    rw [hw₂]
    change Delivers (net₁.wire.air ++ _) _ _
    rw [hadded, ha₀]
    exact .head _ _
  obtain ⟨net₃, event, htype, h₃, hw₃⟩ :=
    Net.run_succeed h₂ linkConfig_mirrored hasking hresponse hd rfl rfl
  have hlength : net₂.wire.log.starts.length = 65537 := by
    rw [hw₂]
    change (net₁.wire.log.starts ++ [_]).length = _
    rw [List.length_append, hu₁.starts, hs₀]
    rfl
  have haccepted :
      net₂.wire.log.accepted = [(0, numbered 0), (1, numbered 1), (2, numbered 2)] := by
    rw [hw₂]
    exact hu₁.accepted.trans hacc₀
  have hfair : Net.Fair net₃.wire.log := by
    rw [hw₃, hw₂]
    exact (((hu₁.fair hf₀).started _).transmitted _).published .initiator 0 event
  have hgap : ∀ n, n + 65535 ≤ net₃.wire.log.starts.length →
      ∃ a ∈ net₃.wire.log.accepted, n ≤ a.1 ∧ a.1 < n + 65535 := by
    intro n hn
    have hn' : n + 65535 ≤ 65537 := by
      rw [hw₃] at hn
      exact hlength ▸ hn
    refine ⟨(n, numbered (UInt16.ofNat n)), ?_, le_rfl, Nat.lt_add_of_pos_right (by decide)⟩
    rw [hw₃]
    change _ ∈ net₂.wire.log.accepted
    rw [haccepted]
    obtain rfl | rfl | rfl : n = 0 ∨ n = 1 ∨ n = 2 := by omega
    all_goals simp
  obtain ⟨received, stored, hmem, hreceived⟩ :=
    hclaim (linkConfig 0) net₃ h₃ linkConfig_mirrored hfair
    hgap net₂.wire.log 0 event true (by rw [hw₃]; exact List.suffix_refl _) htype
  have hnever := LinkLog.mem_accepted hmem hreceived
  rw [haccepted, hlength] at hnever
  simp at hnever

end

end RadioConnection
