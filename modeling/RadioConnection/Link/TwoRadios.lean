import RadioConnection.Link.FramesInFlight
import RadioConnection.Link.RadioInStep
import RadioConnection.Link.Network

/-!
# Two radios that hear each other

Two nodes whose radios are on one channel, where nobody else sends.

* `AirMoves`: what the radios do by themselves.  A packet that has been sent is heard by the
  other radio, if that one receives, or is lost; it can be spoiled, and a radio can give up.
* `Tracks`: every frame that a node holds or sends is still in the air of `Wire`, in the order in
  which it can be read, and only one of the two nodes holds any.
* `Tracks.moves` and `Tracks.calls`: **the radios and the adapters of two nodes are a channel
  that loses frames and does not reorder them.**
* `Processed.handsOver`: a call of the service hands a frame over only when its adapter holds
  none.
-/

namespace RadioConnection

open Interaction Prog LossyChannel

def DuplexLinkRole.peer : DuplexLinkRole → DuplexLinkRole
  | .initiator => .responder
  | .responder => .initiator

@[simp] theorem DuplexLinkRole.peer_peer (role : DuplexLinkRole) : role.peer.peer = role := by
  cases role <;> rfl

@[simp] theorem DuplexLinkRole.peer_ne (role : DuplexLinkRole) : role.peer ≠ role := by
  cases role <;> decide

theorem DuplexLinkRole.eq_or_peer (role role' : DuplexLinkRole) :
    role' = role ∨ role' = role.peer := by
  cases role <;> cases role' <;> simp [DuplexLinkRole.peer]

/-! ## What the radios do by themselves -/

namespace RadioChip

def sent (chip : RadioChip) : RadioChip :=
  { chip with mode := .standby, irqStatus := chip.irqStatus ||| sx128xIrqTxDone }

/-- The radio has received something else than a packet. -/
def spoiled (chip : RadioChip) (buffer : UInt8 → UInt8) (mode : RadioMode) : RadioChip :=
  { chip with
    mode := mode
    buffer := buffer
    irqStatus := chip.irqStatus ||| sx128xIrqCrcError }

def gaveUp (chip : RadioChip) : RadioChip :=
  { chip with mode := .standby, irqStatus := chip.irqStatus ||| sx128xIrqRxTxTimeout }

def isListening (chip : RadioChip) : Bool :=
  match chip.mode with
  | .rx _ _ => true
  | _ => false

/-- Where a reception leaves the radio. -/
def EndsIn (chip : RadioChip) (mode : RadioMode) : Prop := mode = .standby ∨ mode = chip.mode

end RadioChip

/-- What two radios do by themselves: the one of `role` ends a transmission, which the other may
hear, or receives something wrong, or gives up. -/
inductive AirMoves (chips : DuplexLinkRole → RadioChip) : (DuplexLinkRole → RadioChip) → Prop
  | sent (role : DuplexLinkRole) : (chips role).isSending = true →
      AirMoves chips (Function.update chips role (chips role).sent)
  | heard (role : DuplexLinkRole) (rssi snr : UInt8) (mode : RadioMode) :
      (chips role).isSending = true → (chips role.peer).isListening = true →
      (chips role.peer).EndsIn mode →
      AirMoves chips (Function.update (Function.update chips role (chips role).sent) role.peer
        ((chips role.peer).hear (chips role).packet rssi snr mode))
  | spoiled (role : DuplexLinkRole) (buffer : UInt8 → UInt8) (mode : RadioMode) :
      (chips role).isListening = true → (chips role).EndsIn mode →
      AirMoves chips (Function.update chips role ((chips role).spoiled buffer mode))
  | gaveUp (role : DuplexLinkRole) : (chips role).mode ≠ .standby →
      AirMoves chips (Function.update chips role (chips role).gaveUp)

namespace RadioChip

variable {chip : RadioChip}

theorem isSending_of_endsIn {mode : RadioMode} (hl : chip.isListening = true)
    (h : chip.EndsIn mode) : RadioChip.isSending { chip with mode := mode } = false := by
  obtain rfl | rfl := h
  · rfl
  · rw [isListening] at hl
    rw [isSending]
    split at hl
    · rename_i hmode
      simp [hmode]
    · cases hl

theorem irq_or_and_ne_zero {irqStatus mask : UInt16} (h : mask ≠ 0) :
    (irqStatus ||| mask) &&& mask ≠ 0 := by
  have hmask : (irqStatus ||| mask) &&& mask = mask := by
    apply UInt16.toBitVec_inj.mp
    simp only [UInt16.toBitVec_and, UInt16.toBitVec_or]
    ext i hi
    simpa using Or.inr
  rw [hmask]
  exact h

theorem hasReceived_spoiled (buffer : UInt8 → UInt8) (mode : RadioMode) :
    (chip.spoiled buffer mode).hasReceived = false := by
  have hcrc : (chip.spoiled buffer mode).irqStatus &&& sx128xIrqCrcError ≠ 0 :=
    irq_or_and_ne_zero (by decide)
  simp [hasReceived, hcrc]

theorem hasReceived_gaveUp : chip.gaveUp.hasReceived = false := by
  have htimeout : chip.gaveUp.irqStatus &&& sx128xIrqRxTxTimeout ≠ 0 :=
    irq_or_and_ne_zero (by decide)
  simp [hasReceived, htimeout]

theorem received_hear {packet : List UInt8} (hsmall : packet.length ≤ 255) (rssi snr : UInt8)
    (mode : RadioMode) : (chip.hear packet rssi snr mode).received = packet := by
  have hcount : packet.length.toUInt8.toNat = packet.length := Nat.mod_eq_of_lt (by omega)
  rw [received, hear]
  dsimp only
  rw [hcount]
  exact read_write chip.buffer _ (by omega)

theorem length_packet (chip : RadioChip) : chip.packet.length ≤ 255 := by
  rw [packet, List.length_map, List.length_range]
  exact Nat.le_of_lt_succ (UInt8.toNat_lt _)

end RadioChip

theorem AirMoves.stirs {chips chips' : DuplexLinkRole → RadioChip} (h : AirMoves chips chips')
    (role : DuplexLinkRole) : chips' role = chips role ∨ (chips role).Stirs (chips' role) := by
  have hsent {role : DuplexLinkRole} (hs : (chips role).isSending = true) :
      (chips role).Stirs (chips role).sent := by
    rw [RadioChip.isSending] at hs
    split at hs
    · rename_i hmode
      exact .sent hmode
    · cases hs
  have hupdate {u : DuplexLinkRole → RadioChip} {role' : DuplexLinkRole} {chip : RadioChip}
      (hu : u role = chips role ∨ (chips role).Stirs (u role))
      (hs : (chips role').Stirs chip) : Function.update u role' chip role = chips role ∨
        (chips role).Stirs (Function.update u role' chip role) := by
    by_cases he : role = role'
    · subst he
      rw [Function.update_self]
      exact .inr hs
    · rw [Function.update_of_ne he]
      exact hu
  cases h with
  | sent role' hs => exact hupdate (.inl rfl) (hsent hs)
  | heard role' rssi snr mode hs hl _ =>
    refine hupdate (hupdate (.inl rfl) (hsent hs)) ?_
    rw [RadioChip.isListening] at hl
    split at hl
    · rename_i hmode
      exact .heard _ rssi snr mode hmode
    · cases hl
  | spoiled role' buffer mode hl _ =>
    refine hupdate (.inl rfl) ?_
    rw [RadioChip.isListening] at hl
    split at hl
    · rename_i hmode
      exact .corrupted buffer mode hmode
    · cases hl
  | gaveUp role' hm => exact hupdate (.inl rfl) (.timedOut _ hm)

/-! ## The frames in the air -/

/-- The frames of one node that are in the air, oldest first. -/
def carried (source : DuplexLinkRole) (air : List AirFrame) : List (List UInt8) :=
  (air.filter fun x => x.source = source).map AirFrame.data

theorem carried_append_self (role : DuplexLinkRole) (air : List AirFrame) (data : List UInt8)
    (start : ℕ) : carried role (air ++ [⟨role, data, start⟩]) = carried role air ++ [data] := by
  simp [carried]

theorem carried_append_of_ne {role source : DuplexLinkRole} (h : role ≠ source)
    (air : List AirFrame) (data : List UInt8) (start : ℕ) :
    carried source (air ++ [⟨role, data, start⟩]) = carried source air := by
  simp [carried, h]

/-- What two nodes hold and send is in the air. -/
structure Tracks (t : DuplexLinkRole → Transceiver) (air : List AirFrame) : Prop where
  order : ∀ role, ((t role).held ++ (t role.peer).sending).Sublist (carried role.peer air)
  alone : ∀ role, (t role).held ≠ [] → (t role.peer).held = []
  disciplined : ∀ role, (t role).Disciplined

namespace Tracks

variable {t : DuplexLinkRole → Transceiver} {t' : Transceiver} {air air' : List AirFrame}
  {role : DuplexLinkRole}

theorem update (hin : (t'.held ++ (t role.peer).sending).Sublist (carried role.peer air'))
    (hout : ((t role.peer).held ++ t'.sending).Sublist (carried role air'))
    (halone : t'.held = [] ∨ (t role.peer).held = []) (hd : t'.Disciplined)
    (hpeer : (t role.peer).Disciplined) : Tracks (Function.update t role t') air' := by
  have hne := DuplexLinkRole.peer_ne role
  constructor
  · intro role'
    obtain rfl | rfl := DuplexLinkRole.eq_or_peer role role'
    · rw [Function.update_self, Function.update_of_ne hne]
      exact hin
    · rw [DuplexLinkRole.peer_peer, Function.update_self, Function.update_of_ne hne]
      exact hout
  · intro role' hheld
    obtain rfl | rfl := DuplexLinkRole.eq_or_peer role role'
    · rw [Function.update_self] at hheld
      rw [Function.update_of_ne hne]
      exact halone.resolve_left hheld
    · rw [Function.update_of_ne hne] at hheld
      rw [DuplexLinkRole.peer_peer, Function.update_self]
      exact halone.resolve_right hheld
  · intro role'
    obtain rfl | rfl := DuplexLinkRole.eq_or_peer role role'
    · rw [Function.update_self]
      exact hd
    · rw [Function.update_of_ne hne]
      exact hpeer

theorem held_or_peer (h : Tracks t air) (role : DuplexLinkRole) :
    (t role).held = [] ∨ (t role.peer).held = [] := by
  by_cases hheld : (t role).held = []
  · exact .inl hheld
  · exact .inr (h.alone role hheld)

theorem dwindles (h : Tracks t air) (hd : Transceiver.Dwindles (t role) t') :
    Tracks (Function.update t role t') air := by
  refine update ?_ ?_ ?_ hd.disciplined (h.disciplined role.peer)
  · exact (hd.held.append_right _).trans (h.order role)
  · have horder := h.order role.peer
    rw [DuplexLinkRole.peer_peer] at horder
    exact (hd.sending_sublist.append_left _).trans horder
  · refine (h.held_or_peer role).imp_left fun hheld => ?_
    exact List.sublist_nil.mp (hheld ▸ hd.held)

theorem transmit (h : Tracks t air) (source : DuplexLinkRole) (data : List UInt8) (start : ℕ) :
    Tracks t (air ++ [⟨source, data, start⟩]) := by
  refine ⟨fun role => ?_, h.alone, h.disciplined⟩
  by_cases hs : source = role.peer
  · subst hs
    rw [carried_append_self]
    exact (h.order role).trans (List.sublist_append_left _ _)
  · rw [carried_append_of_ne hs]
    exact h.order role

theorem sends (h : Tracks t air) {data : List UInt8} (start : ℕ)
    (hcall : Transceiver.Dwindles (t role) t' ∨
      (t'.held = [] ∧ t'.sending = [data] ∧ t'.Disciplined)) :
    Tracks (Function.update t role t') (air ++ [⟨role, data, start⟩]) := by
  have htransmit := h.transmit role data start
  obtain hd | ⟨hheld, hsending, hd⟩ := hcall
  · exact htransmit.dwindles hd
  refine update ?_ ?_ (.inl hheld) hd (h.disciplined role.peer)
  · rw [hheld, List.nil_append]
    exact (List.sublist_append_right _ _).trans (htransmit.order role)
  · have horder := h.order role.peer
    rw [DuplexLinkRole.peer_peer] at horder
    rw [hsending, carried_append_self]
    exact ((List.sublist_append_left _ _).trans horder).append_right [data]

/-- **A node that reads a frame reads one that the other has transmitted**, and what it holds still is
behind that one. -/
theorem reads (h : Tracks t air) {data : List UInt8} (hheld : (t role).held = data :: t'.held)
    (hchip : t'.chip = (t role).chip) (hsilent : (t role).chip.isSending = false) :
    ∃ x air', Delivers air x air' ∧ x.source = role.peer ∧ x.data = data ∧
      Tracks (Function.update t role t') air' := by
  have horder := h.order role
  rw [hheld, List.cons_append, carried] at horder
  obtain ⟨x, air', hdelivers, hsource, hdata, hrest⟩ := exists_delivers horder
  refine ⟨x, air', hdelivers, of_decide_eq_true hsource, hdata, ?_⟩
  have hpeer : (t role.peer).held = [] := h.alone role (by simp [hheld])
  refine update hrest ?_ (.inr hpeer) ?_ (h.disciplined role.peer)
  · rw [hpeer, Transceiver.sending, hchip, hsilent]
    exact List.nil_sublist _
  · intro hsend
    rw [hchip, hsilent] at hsend
    cases hsend

/-! ### The radios by themselves -/

def retuned (t : DuplexLinkRole → Transceiver) (chips : DuplexLinkRole → RadioChip) :
    DuplexLinkRole → Transceiver :=
  fun role => ⟨(t role).adapter, chips role⟩

theorem retuned_update (chips : DuplexLinkRole → RadioChip) (chip : RadioChip) :
    retuned t (Function.update chips role chip) =
      Function.update (retuned t chips) role ⟨(t role).adapter, chip⟩ := by
  funext role'
  by_cases he : role' = role
  · subst he
    rw [Function.update_self, retuned, Function.update_self]
  · rw [Function.update_of_ne he, retuned, Function.update_of_ne he, retuned]

theorem retuned_self : retuned t (fun role => (t role).chip) = t := rfl

theorem dwindles_of_stirred {adapter : Sx128xPacketRadio} {chip chip' : RadioChip}
    (hsilent : chip'.isSending = false)
    (hpending : adapter.state = .rx → chip'.hasReceived = false) :
    Transceiver.Dwindles ⟨adapter, chip⟩ ⟨adapter, chip'⟩ := by
  refine ⟨?_, fun hs => absurd (hs.symm.trans hsilent) (by decide),
    fun hs => absurd (hs.symm.trans hsilent) (by decide)⟩
  have hnone : Transceiver.pending ⟨adapter, chip'⟩ = [] := by
    refine if_neg fun hp => ?_
    exact absurd (hp.2.symm.trans (hpending hp.1)) (by decide)
  rw [Transceiver.held, hnone, List.append_nil]
  exact List.sublist_append_left _ _

theorem dwindles_sent (h : t'.Disciplined) (hs : t'.chip.isSending = true) :
    Transceiver.Dwindles t' ⟨t'.adapter, t'.chip.sent⟩ := by
  refine dwindles_of_stirred rfl fun hrx => ?_
  obtain ⟨htx | herror, -⟩ := h hs
  · exact absurd (hrx.symm.trans htx) (by decide)
  · exact absurd (hrx.symm.trans herror) (by decide)

/-- **The radios make up no frame**: what one of them hears is what the other one sends. -/
theorem moves {chips : DuplexLinkRole → RadioChip} (h : Tracks t air)
    (hmoves : AirMoves (fun role => (t role).chip) chips) : Tracks (retuned t chips) air := by
  cases hmoves with
  | sent role hs =>
    rw [retuned_update, retuned_self]
    exact h.dwindles (dwindles_sent (h.disciplined role) hs)
  | spoiled role buffer mode hl hm =>
    rw [retuned_update, retuned_self]
    exact h.dwindles (dwindles_of_stirred (RadioChip.isSending_of_endsIn hl hm)
      fun _ => RadioChip.hasReceived_spoiled buffer mode)
  | gaveUp role _ =>
    rw [retuned_update, retuned_self]
    exact h.dwindles (dwindles_of_stirred rfl fun _ => RadioChip.hasReceived_gaveUp)
  | heard role rssi snr mode hs hl hm =>
    rw [retuned_update, retuned_update, retuned_self]
    have hne := DuplexLinkRole.peer_ne role
    -- the sender holds nothing, and its packet is the last that the other node can read
    have hsender := h.dwindles (dwindles_sent (h.disciplined role) hs)
    obtain ⟨hstate, havailable, -⟩ := h.disciplined role hs
    have hheld : (t role).held = [] := by
      rw [Transceiver.held, Transceiver.captured, havailable, Transceiver.pending_of_state]
      · rfl
      · obtain htx | herror := hstate
        · rw [htx]
          decide
        · rw [herror]
          decide
    have hnone : Transceiver.held ⟨(t role).adapter, (t role).chip.sent⟩ = [] :=
      List.sublist_nil.mp (hheld ▸ (dwindles_sent (h.disciplined role) hs).held)
    have hsilent := RadioChip.isSending_of_endsIn hl hm
    have horder := h.order role.peer
    rw [DuplexLinkRole.peer_peer, Transceiver.sending, if_pos hs] at horder
    refine update ?_ ?_ (.inr ?_) (fun hsend => absurd (hsend.symm.trans hsilent) (by decide)) ?_
    all_goals rw [DuplexLinkRole.peer_peer, Function.update_self]
    · refine List.Sublist.trans ?_ horder
      rw [Transceiver.sending, if_neg (by simp [RadioChip.sent, RadioChip.isSending]),
        List.append_nil, Transceiver.held, Transceiver.held]
      refine List.Sublist.append ?_ ?_
      · exact List.sublist_append_left _ _
      · rw [Transceiver.pending]
        split
        · rw [RadioChip.received_hear (RadioChip.length_packet _)]
        · exact List.nil_sublist _
    · rw [hnone, Transceiver.sending]
      rw [if_neg (fun hsend => absurd (hsend.symm.trans hsilent) (by decide))]
      exact List.nil_sublist _
    · exact hnone
    · have hd := hsender.disciplined role
      rw [Function.update_self] at hd
      exact hd

end Tracks

/-! ## The calls of the service -/

/-- What happens on the link, as the two nodes see it. -/
inductive AirEntry
  | started (packet : LinkPacket)
  | restarted
  | handed (role : DuplexLinkRole) (data : List UInt8)
  | published (role : DuplexLinkRole) (event : DuplexLinkEvent) (stored : Bool)
  deriving DecidableEq

/-- What the nodes see of an entry. -/
def LinkEntry.seen : LinkEntry → AirEntry
  | .started packet => .started packet
  | .restarted => .restarted
  | .transmitted frame => .handed frame.source frame.data
  | .published role _ event stored => .published role event stored

/-- What a call of the service adds to that, newest first. -/
def noted (role : DuplexLinkRole) : LinkAction → List AirEntry
  | ⟨.tryStartTx data, _⟩ => [.handed role data]
  | ⟨.published event stored, _⟩ => [.published role event stored]
  | _ => []

def HandsOver : LinkAction → Prop
  | ⟨.tryStartTx _, _⟩ => True
  | _ => False

/-- **A call of either node is one of `Wire`**, where a frame is handed over only by an adapter that
holds none. -/
theorem Tracks.calls {t : DuplexLinkRole → Transceiver} {t' : Transceiver} {w : Wire}
    {role : DuplexLinkRole} {o : LinkOp} {x : o.Ans} (h : Tracks t w.air)
    (hm : (t role).Matched) (hread : HandsOver ⟨o, x⟩ → (t role).adapter.rxFrameAvailable = false)
    (hcall : Transceiver.Calls o (t role) x t') :
    ∃ w', Wire.env role o w x w' ∧ Tracks (Function.update t role t') w'.air ∧
      w'.log.map LinkEntry.seen = noted role ⟨o, x⟩ ++ w.log.map LinkEntry.seen := by
  have hd := h.disciplined role
  cases o with
  | tryStartTx data =>
    exact ⟨w.transmit role data, rfl,
      h.sends _ (Transceiver.sends_of_calls hd hm (hread trivial) hcall), rfl⟩
  | readRxFrame =>
    obtain ⟨rfl, rfl⟩ | ⟨frame, rfl, hheld, hchip, hsilent⟩ := Transceiver.reads_of_calls hd hcall
    · rw [Function.update_eq_self]
      exact ⟨w, rfl, h, rfl⟩
    · obtain ⟨x, air', hdelivers, hsource, hdata, htracks⟩ := h.reads hheld hchip hsilent
      refine ⟨{ w with air := air', heard := x.start }, ⟨x, air', hdelivers, ?_, hdata, rfl⟩,
        htracks, rfl⟩
      rw [hsource]
      exact DuplexLinkRole.peer_ne role
  | published event stored =>
    exact ⟨w.record role event stored, rfl, h.dwindles (Transceiver.dwindles_of_calls hd
      (fun _ he => by cases he) (fun he => by cases he) hcall), rfl⟩
  | _ =>
    exact ⟨w, rfl, h.dwindles (Transceiver.dwindles_of_calls hd (fun _ he => by cases he)
      (fun he => by cases he) hcall), rfl⟩

/-! ## When a frame is handed over -/

namespace DuplexLinkService

variable {s s' : DuplexLinkService} {tr : List LinkAction}

theorem not_handsOver_of_quiet {a : LinkAction} (h : Quiet a) : ¬ HandsOver a := by
  obtain ⟨o, x⟩ := a
  cases o with
  | tryStartTx data => exact h.elim
  | _ => exact id

theorem RequestHandled.keepsFrames {frame : PacketRadioRxFrame} (h : RequestHandled s frame tr s') :
    ∀ a ∈ tr, ¬ HandsOver a := by
  cases h with
  | unbuilt _ _ _ hd =>
    have hquiet := hd.quiet.1
    simpa [HandsOver] using fun a ha => not_handsOver_of_quiet (hquiet a ha)
  | _ => simp [HandsOver]

theorem ResponseHandled.keepsFrames {frame : PacketRadioRxFrame}
    (h : ResponseHandled s frame tr s') : ∀ a ∈ tr, ¬ HandsOver a := by
  cases h with
  | rejected _ hr =>
    have hquiet := hr.quiet.1
    simpa [HandsOver] using fun a ha => not_handsOver_of_quiet (hquiet a ha)
  | succeeded _ _ _ => simp [HandsOver]

theorem EventStep.keepsFrames {event : PacketRadioEvent} (h : EventStep s event tr s') :
    ∀ a ∈ tr, ¬ HandsOver a := by
  cases h with
  | unreadInitiator _ _ hr =>
    have hquiet := hr.quiet.1
    simpa [HandsOver] using fun a ha => not_handsOver_of_quiet (hquiet a ha)
  | request _ _ _ hr => simpa [HandsOver] using hr.keepsFrames
  | response _ _ _ _ hr => simpa [HandsOver] using hr.keepsFrames
  | timeoutRetry _ _ _ hr => exact fun a ha => not_handsOver_of_quiet (hr.quiet.1 a ha)
  | crcRetry _ _ _ hr => exact fun a ha => not_handsOver_of_quiet (hr.quiet.1 a ha)
  | deviceError _ hd => exact fun a ha => not_handsOver_of_quiet (hd.quiet.1 a ha)
  | _ => simp [HandsOver]

theorem Polled.keepsFrames (h : Polled s tr s') : ∀ a ∈ tr, ¬ HandsOver a := by
  induction h with
  | empty s => simp [HandsOver]
  | stop he _ => simpa [HandsOver] using he.keepsFrames
  | next he _ _ ih =>
    have hevent := he.keepsFrames
    simp only [List.mem_cons, List.mem_append]
    rintro a (rfl | ha | ha)
    · exact id
    · exact hevent a ha
    · exact ih a ha

theorem TimeoutStep.keepsFrames (h : TimeoutStep s tr s') : ∀ a ∈ tr, ¬ HandsOver a := by
  cases h with
  | none h => cases h <;> simp [HandsOver]
  | response _ _ _ hr =>
    have hquiet := hr.quiet.1
    simpa [HandsOver] using fun a ha => not_handsOver_of_quiet (hquiet a ha)
  | requestTx _ _ _ hr =>
    have hquiet := hr.quiet.1
    simpa [HandsOver] using fun a ha => not_handsOver_of_quiet (hquiet a ha)
  | _ => simp [HandsOver]

theorem ActionStep.keepsFrames (h : ActionStep s tr s') : ∀ a ∈ tr.tail, ¬ HandsOver a := by
  cases h with
  | refused _ hr _ => cases hr <;> simp [HandsOver]
  | lost _ _ hr _ _ => cases hr <;> simp [HandsOver]
  | responseRxRetry _ _ _ hr =>
    have hquiet := hr.quiet.1
    simpa [HandsOver] using fun a ha => not_handsOver_of_quiet (hquiet a ha)
  | responseGivenUp _ _ _ hr _ => cases hr <;> simp [HandsOver]
  | _ => simp [HandsOver]

/-- **A call of `process` hands over at most one frame, at its end**, when the adapter holds none. -/
theorem Processed.handsOver (h : Processed s tr s') (hc : Consistent s) :
    ∃ before start, tr = before ++ start ∧ (∀ a ∈ before, ¬ HandsOver a) ∧
      (∀ a ∈ start.tail, ¬ HandsOver a) ∧
      ∀ {w m : AdapterWorld}, InStep s w → adapterEnv.Path w before m →
        m.1.rxFrameAvailable = false ∨ ∀ a ∈ start, ¬ HandsOver a := by
  cases h with
  | off _ => exact ⟨[], [], rfl, by simp, by simp, fun _ _ => .inr (by simp)⟩
  | failed _ _ hl _ =>
    refine ⟨_, [], (List.append_nil _).symm, ?_, by simp, fun _ _ => .inr (by simp)⟩
    simpa [HandsOver] using hl.keepsFrames
  | timedOut _ _ hl _ ht _ =>
    refine ⟨_, [], (List.append_nil _).symm, ?_, by simp, fun _ _ => .inr (by simp)⟩
    simpa [HandsOver, or_imp, forall_and] using And.intro hl.keepsFrames ht.keepsFrames
  | @ran tr tr' tr'' s₁ s₂ _ _ _ hl hs₁ ht hs₂ ha =>
    refine ⟨atRadioProcess :: (tr ++ tr'), tr'', by simp, ?_, ha.keepsFrames, ?_⟩
    · simpa [HandsOver, or_imp, forall_and] using And.intro hl.keepsFrames ht.keepsFrames
    · intro w m hw hp
      obtain ⟨m₁, h₁, hp⟩ := hp
      obtain ⟨m₂, h₂, hp⟩ := Env.path_append_iff.mp hp
      have hsettled := (hl.landed hc (hw.pending h₁) h₂).settled hs₁
      obtain ⟨_, -, hsees⟩ := (ht.landed hsettled hp).settled hs₂
      exact .inl hsees.shows.available_eq

end DuplexLinkService

end RadioConnection
