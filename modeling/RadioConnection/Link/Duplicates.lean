import RadioConnection.Link.Exchange

/-!
# What is suppressed as a duplicate

The responder tells requests apart by the sequence number of the one that it
accepted last.

* `Net.Run.duplicate_same`: a request that it suppresses was transmitted for the
  same start call as the one accepted last, when the two start calls are of one
  epoch of the initiator and fewer than 65536 apart.
* `restarted_request_suppressed`: after a restart of the initiator the sequence
  numbers begin again, and a new request can be suppressed.
-/

namespace RadioConnection

open LossyChannel
open DuplexLinkService

/-- **What is suppressed is a retransmission**, while the sequence numbers of the two requests
count from one start of the initiator and have not come back. -/
theorem Net.Run.duplicate_same {config : DuplexLinkRole → DuplexLinkConfig} {net : Net}
    (h : Net.Run config net) (hm : Net.Mirrored config) {pre : LinkLog} {heard : Nat}
    {event : DuplexLinkEvent} {stored : Bool}
    (hpre : .published .responder heard event stored :: pre <:+ net.wire.log)
    (htype : event.type = .duplicateSuppressed) :
    ∃ n last s, pre.accepted.getLast? = some (n, last.packet) ∧ pre.starts[n]? = some last ∧
      pre.starts[heard]? = some s ∧ event.packet = s.packet ∧
      (s.epoch = last.epoch → heard < n + 65536 → heard = n) := by
  have hsound := (h.linked hm).sound
  obtain ⟨n, last, s, hlast, hn, hs, hpacket, hle, hq⟩ := hsound.explained _ pre hpre htype
  refine ⟨n, last, s, hlast, hn, hs, hpacket, ?_⟩
  intro hepoch hclose
  have hpre' : pre <:+ net.wire.log := (List.suffix_cons _ pre).trans hpre
  exact (hsound.start_eq (LinkLog.starts_getElem? hpre' hn) (LinkLog.starts_getElem? hpre' hs) hle
    hepoch.symm hclose hq).symm

/-- A request that is transmitted twice and suppressed the second time. -/
theorem duplicate_same_numbered : ∃ net event, ∃ pre : LinkLog, Net.Run (linkConfig 1) net ∧
    .published .responder 0 event true :: pre <:+ net.wire.log ∧
    event.type = .duplicateSuppressed ∧ pre.accepted.getLast? = some (0, event.packet) := by
  obtain ⟨net₀, h₀, hi₀, hn₀, hr₀, hnone, hw₀⟩ := linkConfig_listening 1
  obtain ⟨net₁, packet, hpacket, h₁, hasking, -, hr₁, hw₁⟩ := Net.run_ask h₀ linkConfig_mirrored
    hi₀ .data Net.emptyPayload rfl rfl
  rw [request_eq_numbered (h₀.linked linkConfig_mirrored).initiator.config_eq, hn₀] at hpacket
  subst hpacket
  obtain ⟨net₂, h₂, hr₂, hw₂⟩ := Net.run_askAgain h₁ linkConfig_mirrored (by decide) hasking
  have hair : net₂.wire.air = [⟨.initiator, (numbered 0).frame.toList, 0⟩,
      ⟨.initiator, (numbered 0).frame.toList, 0⟩] := by
    rw [hw₂, hw₁, hw₀]
    rfl
  obtain ⟨net₃, response, h₃, -, hr₃, hlast, -, ha₃, hs₃, hacc₃, -⟩ :=
    run_accept_numbered h₂ (by rw [hr₂, hr₁]; exact hr₀) hair (by rw [hr₂, hr₁]; simp [hnone])
  have hd : Delivers net₃.wire.air ⟨.initiator, (numbered 0).frame.toList, 0⟩
      [⟨.responder, response.frame.toList, 0⟩] := by
    rw [ha₃]
    exact .head _ _
  obtain ⟨net₄, event, frame, htype, -, h₄, hw₄⟩ := Net.run_suppress h₃ linkConfig_mirrored hr₃ hd
    rfl (isRequest_numbered 0) rfl hlast rfl
  have hpre : .published .responder 0 event true :: net₃.wire.log <:+ net₄.wire.log := by
    rw [hw₄]
    exact List.suffix_cons _ _
  have hstarts : net₃.wire.log.starts = [⟨0, numbered 0⟩] := by
    rw [hs₃, hw₂, hw₁, hw₀]
    rfl
  have haccepted : net₃.wire.log.accepted = [(0, numbered 0)] := by
    rw [hacc₃, hw₂, hw₁, hw₀]
    rfl
  obtain ⟨n, last, s, hl, hn, hs, hpacket, hsame⟩ :=
    h₄.duplicate_same linkConfig_mirrored hpre htype
  rw [hstarts] at hs
  obtain rfl := Option.some.inj hs
  rw [haccepted] at hl
  obtain ⟨rfl, -⟩ := Prod.mk.inj (Option.some.inj hl)
  exact ⟨net₄, event, net₃.wire.log, h₄, hpre, htype, by rw [haccepted, hpacket]; rfl⟩

def firstData : LinkPacket :=
  (initial (linkConfig 0 .initiator) 0).request .data (List.replicate 10 1)

/-- **A new request can be suppressed**: after a restart of the initiator its first request has the
sequence number of the request that was accepted before.  Both are data, and they differ. -/
theorem restarted_request_suppressed : ∃ config net, ∃ pre : LinkLog, ∃ heard n event stored last,
    Net.Run config net ∧ Net.Mirrored config ∧
      .published .responder heard event stored :: pre <:+ net.wire.log ∧
      event.type = .duplicateSuppressed ∧ pre.accepted.getLast? = some (n, last) ∧
      event.packet.messageType = last.messageType ∧ event.packet ≠ last ∧ heard ≠ n := by
  obtain ⟨net₀, h₀, hi₀, hn₀, hr₀, hnone, hw₀⟩ := linkConfig_listening 0
  obtain ⟨net₁, packet, hpacket, h₁, -, -, hr₁, hw₁⟩ := Net.run_ask h₀ linkConfig_mirrored hi₀
    .data Net.emptyPayload rfl rfl
  rw [request_eq_numbered (h₀.linked linkConfig_mirrored).initiator.config_eq, hn₀] at hpacket
  subst hpacket
  have hair : net₁.wire.air = [⟨.initiator, (numbered 0).frame.toList, 0⟩] := by
    rw [hw₁, hw₀]
    rfl
  obtain ⟨net₂, response, h₂, -, hr₂, hlast, -, ha₂, hs₂, hacc₂, -⟩ :=
    run_accept_numbered h₁ (by rw [hr₁]; exact hr₀) hair (by rw [hr₁]; simp [hnone])
  have h₃ := h₂.restart (@trace_init_of (linkConfig 0 .initiator) rfl 0)
  obtain ⟨net₄, packet, hpacket, h₄, -, -, hr₄, hw₄⟩ := Net.run_ask h₃ linkConfig_mirrored
    (by rw [Net.set_node_self]; exact ⟨rfl, rfl, rfl⟩) .data
    (List.replicate 10 1) rfl rfl
  rw [Net.set_node_self] at hpacket
  obtain rfl : packet = firstData := hpacket
  have hnode : net₄.node .responder = net₂.node .responder :=
    hr₄.trans Net.set_initiator_node_responder
  have hstarts : net₂.wire.log.starts = [⟨0, numbered 0⟩] := by
    rw [hs₂, hw₁, hw₀]
    rfl
  have hd : Delivers net₄.wire.air ⟨.initiator, firstData.frame.toList, 1⟩ [] := by
    rw [hw₄]
    refine ⟨[⟨.responder, response.frame.toList, 0⟩], ?_⟩
    change net₂.wire.air ++ [⟨.initiator, _, (net₂.wire.log.starts ++ [_]).length - 1⟩] = _
    rw [ha₂, hstarts]
    rfl
  rw [← hnode] at hr₂ hlast
  obtain ⟨net₅, event, frame, htype, hpacket, h₅, hw₅⟩ := Net.run_suppress h₄ linkConfig_mirrored
    hr₂ hd rfl ⟨rfl, rfl, rfl, rfl, rfl⟩ rfl hlast rfl
  have haccepted : net₄.wire.log.accepted = [(0, numbered 0)] := by
    rw [hw₄]
    change net₂.wire.log.accepted = _
    rw [hacc₂, hw₁, hw₀]
    rfl
  refine ⟨linkConfig 0, net₅, net₄.wire.log, 1, 0, event, true, numbered 0, h₅,
    linkConfig_mirrored, ?_, htype, ?_, ?_, ?_, by decide⟩
  · rw [hw₅]
    exact List.suffix_cons _ _
  · rw [haccepted]
    rfl
  · rw [hpacket]
    rfl
  · rw [hpacket]
    intro hsame
    have hpayload : firstData.payload = (numbered 0).payload := congrArg LinkPacket.payload hsame
    exact absurd hpayload (by decide)

end RadioConnection
