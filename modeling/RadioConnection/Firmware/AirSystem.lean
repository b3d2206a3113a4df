import RadioConnection.Firmware.RadioNodes
import RadioConnection.Link.ExactlyOnce
import RadioConnection.Link.TwoRadios

/-!
# Two nodes of the firmware on the air

The whole link: two compositions of the F401 firmware, each with its radio, and the air
between them.  A service runs on its adapter, this one on the driver, the port and the HAL,
and before each of its calls the radios may do anything; only while a call is under way they
wait.  The HAL may fail at any byte, any packet may be lost, spoiled or heard late, and the
initiator may be reset between two calls.

* `AirSystem.Run`: the runs of the two nodes and their radios, with what the applications and
  the radios see of them in the log.
* `Rides`: the radios and the adapters follow a `Wire`; `Follows` adds the services.
* `AirSystem.Run.refines`: **the link of the firmware is the link of two services over a channel
  that loses frames and does not reorder them.**
* `AirSystem.Run.exchanges_delivered`: so what the responder reports was asked by the initiator,
  in order and at most once, and a success that the initiator reports is one.
-/

namespace RadioConnection

open Interaction Prog
open Stm32f401LinkComposition (portConfig linkHandler)
open DuplexLinkService (InStep Consistent)

/-- Two nodes with their radios, and what has happened on the link, newest first. -/
structure AirSystem where
  node : DuplexLinkRole → Stm32f401LinkComposition
  chip : DuplexLinkRole → RadioChip
  log : List AirEntry

namespace AirSystem

variable {config : DuplexLinkRole → Stm32f401LinkCompositionConfig} {s s' : AirSystem}
  {role : DuplexLinkRole} {w w' : Wire} {tr : List LinkAction}

def radio (s : AirSystem) (role : DuplexLinkRole) : NodeRadio :=
  ⟨(s.node role).packetRadioAdapter, (s.node role).radioPortBackend, s.chip role⟩

def transceiver (s : AirSystem) (role : DuplexLinkRole) : Transceiver :=
  ⟨(s.node role).packetRadioAdapter, s.chip role⟩

/-- One of the nodes is this composition now, with this radio. -/
def put (s : AirSystem) (role : DuplexLinkRole) (composition : Stm32f401LinkComposition)
    (chip : RadioChip) (log : List AirEntry) : AirSystem :=
  ⟨Function.update s.node role composition, Function.update s.chip role chip, log⟩

def called (s : AirSystem) (role : DuplexLinkRole) (n : NodeRadio) (entries : List AirEntry) :
    AirSystem :=
  s.put role ((s.node role).updated (s.node role).linkService (n.adapter, n.backend)) n.chip
    (entries ++ s.log)

def served (s : AirSystem) (role : DuplexLinkRole) (service : DuplexLinkService) : AirSystem :=
  s.put role { s.node role with linkService := service } (s.chip role) s.log

/-- A start call that says `true`. -/
def begun (s : AirSystem) (started : Bool) (packet : LinkPacket) : AirSystem :=
  if started then { s with log := .started packet :: s.log } else s

def rebooted (s : AirSystem) (role : DuplexLinkRole) (composition : Stm32f401LinkComposition)
    (chip : RadioChip) : AirSystem :=
  s.put role composition chip (.restarted :: s.log)

/-- What the radios do by themselves. -/
def Airs (s s' : AirSystem) : Prop :=
  ∃ chips, Relation.ReflTransGen AirMoves s.chip chips ∧ s' = { s with chip := chips }

/-- A node as the environment of its service. -/
def linkEnv (config : DuplexLinkRole → Stm32f401LinkCompositionConfig) (role : DuplexLinkRole) :
    Env LinkOp LinkOp.Ans AirSystem :=
  fun o s x s' => ∃ bound reset n,
    NodeRadio.Calls (config role) (s.node role).radioDevice bound reset o (s.radio role) x n ∧
      s' = s.called role n (noted role ⟨o, x⟩)

/-- The same with the radios, which move between the calls. -/
def nodeEnv (config : DuplexLinkRole → Stm32f401LinkCompositionConfig) (role : DuplexLinkRole) :
    Env LinkOp LinkOp.Ans AirSystem :=
  (linkEnv config role).interrupted Airs

/-- The runs of two nodes and their radios: calls of the nodes in any order, what the radios do by
themselves, and resets of the initiator. -/
inductive Run (config : DuplexLinkRole → Stm32f401LinkCompositionConfig) : AirSystem → Prop
  | init {node : DuplexLinkRole → Stm32f401LinkComposition} {chip : DuplexLinkRole → RadioChip} :
      (∀ role, ∃ bound reset before, Runs (chipHal (portConfig (config role)) reset)
        (Stm32f401LinkComposition.init bound (config role)) before (some (some (node role)))
        ⟨chip role, none⟩) →
      Run config ⟨node, chip, []⟩
  | airs {s s' : AirSystem} : Run config s → Airs s s' → Run config s'
  | process {s s' : AirSystem} {role : DuplexLinkRole} {bound : ℕ} {service : DuplexLinkService} :
      Run config s → Runs (nodeEnv config role) ((s.node role).linkService.process bound) s
        (some service) s' →
      Run config (s'.served role service)
  | start {s s' : AirSystem} {role : DuplexLinkRole} {messageType : LinkMessageType}
      {payload : List UInt8} {started : Bool} {service : DuplexLinkService} :
      Run config s → Runs (nodeEnv config role)
        ((s.node role).linkService.prepareRequest messageType payload) s (started, service) s' →
      Run config ((s'.served role service).begun started service.pendingRequest)
  | setResponsePayload {s : AirSystem} (role : DuplexLinkRole) (payload : List UInt8) :
      Run config s →
      Run config (s.served role ((s.node role).linkService.setResponsePayload payload).2)
  | takeEvent {s : AirSystem} {role : DuplexLinkRole} {event : DuplexLinkEvent}
      {service : DuplexLinkService} : Run config s →
      (s.node role).linkService.takeEvent = some (event, service) →
      Run config (s.served role service)
  | reset {s : AirSystem} {bound : ℕ} {coldChip chip : RadioChip} {before : ChipBus}
      {composition : Stm32f401LinkComposition} : Run config s →
      Runs (chipHal (portConfig (config .initiator)) coldChip)
        (Stm32f401LinkComposition.init bound (config .initiator)) before (some (some composition))
        ⟨chip, none⟩ →
      Run config (s.rebooted .initiator composition chip)

/-! ## What the steps change -/

section

variable {composition : Stm32f401LinkComposition} {chip : RadioChip} {log : List AirEntry}
  {β : Type} (f : Stm32f401LinkComposition → β) {role' : DuplexLinkRole}

theorem node_put : f ((s.put role composition chip log).node role') =
    Function.update (fun role => f (s.node role)) role (f composition) role' :=
  Function.apply_update (fun _ => f) s.node role composition role'

theorem node_put_of_eq (hf : f composition = f (s.node role)) :
    f ((s.put role composition chip log).node role') = f (s.node role') := by
  rw [node_put f, hf]
  exact congrFun (Function.update_eq_self role fun role => f (s.node role)) role'

theorem radio_put : (s.put role composition chip log).radio = Function.update s.radio role
    ⟨composition.packetRadioAdapter, composition.radioPortBackend, chip⟩ := by
  funext role'
  by_cases he : role' = role
  · subst he
    simp [radio, put]
  · simp [radio, put, he]

theorem transceiver_put : (s.put role composition chip log).transceiver =
    Function.update s.transceiver role ⟨composition.packetRadioAdapter, chip⟩ := by
  funext role'
  by_cases he : role' = role
  · subst he
    simp [transceiver, put]
  · simp [transceiver, put, he]

end

/-! ## The radios and the adapters -/

/-- The radios and the adapters follow the channel. -/
structure Rides (config : DuplexLinkRole → Stm32f401LinkCompositionConfig) (s : AirSystem)
    (w : Wire) : Prop where
  valid : ∀ role, Stm32f401LinkComposition.configIsValid (config role) = true
  sound : ∀ role, NodeRadio.Sound (config role) (s.node role).radioDevice
  fits : ∀ role, (s.radio role).Fits (config role)
  tracks : Tracks s.transceiver w.air
  log : w.log.map LinkEntry.seen = s.log

theorem Rides.matched (h : Rides config s w) (role : DuplexLinkRole) :
    (s.transceiver role).Matched := by
  have hvalid := h.valid role
  simp only [Stm32f401LinkComposition.configIsValid, Bool.and_eq_true,
    decide_eq_true_eq] at hvalid
  obtain ⟨⟨⟨-, hpayload⟩, hframe⟩, hoffset⟩ := hvalid
  obtain ⟨chip, hset, hsame⟩ := (h.fits role).chip_set
  have hconfig : (s.transceiver role).adapter.config = (config role).packetRadio :=
    (h.fits role).adapter_config
  have hparams : (s.transceiver role).chip.packetParams = chip.packetParams := hsame.packetParams
  have hbase : (s.transceiver role).chip.txBaseAddress = chip.txBaseAddress := hsame.bases.1
  constructor
  · rw [hparams, hset.packetParams, hconfig, hframe]
    exact hpayload
  · rw [hbase, hset.bases.1, hconfig, hoffset]

theorem Rides.airs (h : Rides config s w) (hairs : Airs s s') : Rides config s' w := by
  obtain ⟨chips, hmoves, rfl⟩ := hairs
  induction hmoves with
  | refl => exact h
  | @tail chips chips' _ hmove ih =>
    refine ⟨ih.valid, ih.sound, fun role => ?_, ih.tracks.moves hmove, ih.log⟩
    obtain he | hstirs := hmove.stirs role
    · have hradio : radio { s with chip := chips' } role = radio { s with chip := chips } role :=
        congrArg (NodeRadio.mk (s.node role).packetRadioAdapter
          (s.node role).radioPortBackend) he
      rw [hradio]
      exact ih.fits role
    · exact (ih.fits role).stirs hstirs

theorem Rides.calls {o : LinkOp} {x : o.Ans} (h : Rides config s w)
    (hread : HandsOver ⟨o, x⟩ → (s.node role).packetRadioAdapter.rxFrameAvailable = false)
    (hcall : linkEnv config role o s x s') : ∃ w', Wire.env role o w x w' ∧ Rides config s' w' := by
  obtain ⟨bound, reset, n, hcalls, rfl⟩ := hcall
  have honChip : Transceiver.Calls o (s.transceiver role) x ⟨n.adapter, n.chip⟩ :=
    hcalls.onChip (h.sound role) (h.fits role)
  obtain ⟨w', henv, htracks, hlog⟩ := h.tracks.calls (h.matched role) hread honChip
  refine ⟨w', henv, h.valid, fun role' => ?_, fun role' => ?_, ?_, ?_⟩
  · have hdevice : ((s.called role n (noted role ⟨o, x⟩)).node role').radioDevice =
        (s.node role').radioDevice := node_put_of_eq (fun c => c.radioDevice) rfl
    rw [hdevice]
    exact h.sound role'
  · rw [called, radio_put]
    obtain rfl | he := eq_or_ne role' role
    · rw [Function.update_self]
      exact (h.fits role').calls (h.sound role') hcalls
    · rw [Function.update_of_ne he]
      exact h.fits role'
  · rw [called, transceiver_put]
    exact htracks
  · rw [hlog, h.log]
    rfl

theorem Airs.node_eq (h : Airs s s') : s'.node = s.node := by
  obtain ⟨chips, -, rfl⟩ := h
  rfl

/-- What holds of the calls still holds after the radios have moved. -/
theorem Rides.step {o : LinkOp} {x : o.Ans} (h : Rides config s w)
    (hread : HandsOver ⟨o, x⟩ → (s.node role).packetRadioAdapter.rxFrameAvailable = false)
    (hstep : nodeEnv config role o s x s') : ∃ w', Wire.env role o w x w' ∧ Rides config s' w' := by
  obtain ⟨m, hairs, hcall⟩ := hstep
  refine (h.airs hairs).calls (fun hh => ?_) hcall
  rw [hairs.node_eq]
  exact hread hh

/-- Calls that hand no frame over, but perhaps the first, when the adapter holds none. -/
theorem Rides.path (h : Rides config s w) (hp : (nodeEnv config role).Path s tr s')
    (hread : (s.node role).packetRadioAdapter.rxFrameAvailable = false ∨ ∀ a ∈ tr, ¬ HandsOver a)
    (htail : ∀ a ∈ tr.tail, ¬ HandsOver a) :
    ∃ w', (Wire.env role).Path w tr w' ∧ Rides config s' w' := by
  cases tr with
  | nil =>
    obtain rfl := hp
    exact ⟨w, rfl, h⟩
  | cons a tr =>
    obtain ⟨m, hm, hp⟩ := hp
    obtain ⟨n, hn, hrides⟩ := h.step (fun hh => hread.resolve_right fun hquiet =>
      hquiet a List.mem_cons_self hh) hm
    have hstep : ∀ a ∈ tr, ∀ s s' w, nodeEnv config role a.1 s a.2 s' → Rides config s w →
        ∃ w', Wire.env role a.1 w a.2 w' ∧ Rides config s' w' := fun a ha s s' w hstep hr =>
      hr.step (fun hh => absurd hh (htail a ha)) hstep
    obtain ⟨w', hpath, hrides'⟩ := hp.map hstep hrides
    exact ⟨w', ⟨n, hn, hpath⟩, hrides'⟩

theorem Rides.quietPath (h : Rides config s w) (hp : (nodeEnv config role).Path s tr s')
    (hquiet : ∀ a ∈ tr, ¬ HandsOver a) :
    ∃ w', (Wire.env role).Path w tr w' ∧ Rides config s' w' :=
  h.path hp (.inr hquiet) fun a ha => hquiet a (List.mem_of_mem_tail ha)

/-! ## The services -/

theorem adapter_path (hp : (nodeEnv config role).Path s tr s') (log : List DriverAction) :
    ∃ log', DuplexLinkService.adapterEnv.Path ((s.node role).packetRadioAdapter, log) tr
      ((s'.node role).packetRadioAdapter, log') := by
  have hstep : ∀ a ∈ tr, ∀ (s s' : AirSystem) (q : DuplexLinkService.AdapterWorld),
      nodeEnv config role a.1 s a.2 s' → q.1 = (s.node role).packetRadioAdapter →
      ∃ q', DuplexLinkService.adapterEnv a.1 q a.2 q' ∧
        q'.1 = (s'.node role).packetRadioAdapter := by
    rintro ⟨o, x⟩ - s s' ⟨adapter, log⟩ ⟨m, hairs, bound, reset, n, ⟨halTr, ht, -⟩, rfl⟩ rfl
    obtain ⟨driverTr, portTr, hdriver, -, -⟩ := Stm32f401LinkComposition.trace_linkHandler ht
    refine ⟨(n.adapter, log ++ driverTr), ⟨driverTr, ?_, rfl⟩, ?_⟩
    · rw [radio, hairs.node_eq] at hdriver
      exact hdriver
    · rw [called, node_put (fun c => c.packetRadioAdapter), Function.update_self]
      rfl
  obtain ⟨⟨adapter, log'⟩, hpath, he⟩ := hp.map hstep
    (t := ((s.node role).packetRadioAdapter, log)) rfl
  exact ⟨log', he ▸ hpath⟩

/-- What the calls of one service leave as it is. -/
structure Keeps (role : DuplexLinkRole) (s s' : AirSystem) : Prop where
  linkService : ∀ role', (s'.node role').linkService = (s.node role').linkService
  peer : (s'.node role.peer).packetRadioAdapter = (s.node role.peer).packetRadioAdapter

theorem keeps_path (hp : (nodeEnv config role).Path s tr s') : Keeps role s s' := by
  refine hp.invariant (I := fun m => Keeps role s m) ?_
    ⟨fun _ => rfl, rfl⟩
  rintro o m x m' ⟨k, hairs, bound, reset, n, -, rfl⟩ hkeeps
  have hnode := hairs.node_eq
  constructor
  · intro role'
    have hservice : ((k.called role n (noted role ⟨o, x⟩)).node role').linkService =
        (k.node role').linkService := node_put_of_eq (fun c => c.linkService) rfl
    rw [hservice, hnode]
    exact hkeeps.linkService role'
  · rw [called, node_put (fun c => c.packetRadioAdapter),
      Function.update_of_ne (DuplexLinkRole.peer_ne role), hnode]
    exact hkeeps.peer

/-- The two nodes follow the services and the channel. -/
structure Follows (config : DuplexLinkRole → Stm32f401LinkCompositionConfig) (s : AirSystem)
    (net : Net) : Prop where
  rides : Rides config s net.wire
  linkService : ∀ role, net.node role = (s.node role).linkService
  inStep : ∀ role, InStep (net.node role) ((s.node role).packetRadioAdapter, [])
  consistent : ∀ role, Consistent (net.node role)

/-- What the adapter has been told before does not count. -/
theorem inStep_forget {service : DuplexLinkService} {adapter : Sx128xPacketRadio}
    {log : List DriverAction} (h : InStep service (adapter, log)) : InStep service (adapter, []) := by
  obtain ⟨state, hstate, hsees⟩ | ⟨hs, hfell⟩ := h
  · exact .inl ⟨state, hstate, hsees.shows, Sx128xPacketRadio.noRefusal_nil⟩
  · exact .inr ⟨hs, hfell.1, Sx128xPacketRadio.noRefusal_nil⟩

theorem Rides.served (h : Rides config s w) (service : DuplexLinkService) :
    Rides config (s.served role service) w := by
  refine ⟨h.valid, fun role' => ?_, fun role' => ?_, ?_, h.log⟩
  · have hdevice : ((s.served role service).node role').radioDevice = (s.node role').radioDevice :=
      node_put_of_eq (fun c => c.radioDevice) rfl
    rw [hdevice]
    exact h.sound role'
  · rw [AirSystem.served, radio_put]
    exact (congrFun (Function.update_eq_self role s.radio) role').symm ▸ h.fits role'
  · rw [AirSystem.served, transceiver_put]
    exact (Function.update_eq_self role s.transceiver).symm ▸ h.tracks

theorem Follows.served {net : Net} {service : DuplexLinkService} (h : Follows config s net)
    (hkeeps : Keeps role s s') (hrides : Rides config s' w)
    (hstep : InStep service ((s'.node role).packetRadioAdapter, []))
    (hc : Consistent service) :
    Follows config (s'.served role service) (net.set role service w) := by
  have hne := DuplexLinkRole.peer_ne role
  have hadapter (role' : DuplexLinkRole) : ((s'.served role service).node role').packetRadioAdapter =
      (s'.node role').packetRadioAdapter :=
    node_put_of_eq (fun c => c.packetRadioAdapter) rfl
  refine ⟨hrides.served service, fun role' => ?_, fun role' => ?_, fun role' => ?_⟩
  · rw [AirSystem.served, node_put (fun c => c.linkService), Net.set]
    dsimp only
    rw [funext hkeeps.linkService, ← funext h.linkService]
  · rw [hadapter]
    obtain rfl | rfl := DuplexLinkRole.eq_or_peer role role'
    · rw [Net.set_node_self]
      exact hstep
    · rw [Net.set_node_of_ne hne, hkeeps.peer]
      exact h.inStep role.peer
  · obtain rfl | rfl := DuplexLinkRole.eq_or_peer role role'
    · rw [Net.set_node_self]
      exact hc
    · rw [Net.set_node_of_ne hne]
      exact h.consistent role.peer

theorem Follows.begun {net : Net} (h : Follows config s net) (packet : LinkPacket) :
    Follows config (s.begun true packet) ⟨net.node, net.wire.begin true packet⟩ := by
  obtain ⟨⟨hvalid, hsound, hfits, htracks, hlog⟩, hservice, hstep, hc⟩ := h
  exact ⟨⟨hvalid, hsound, hfits, htracks, congrArg (AirEntry.started packet :: ·) hlog⟩, hservice,
    hstep, hc⟩

theorem Follows.process {net : Net} {bound : ℕ} {service : DuplexLinkService}
    (h : Follows config s net) (hruns : Runs (nodeEnv config role)
      ((s.node role).linkService.process bound) s (some service) s') :
    ∃ w', Runs (Wire.env role) ((net.node role).process bound) net.wire (some service) w' ∧
      Follows config (s'.served role service) (net.set role service w') := by
  rw [← h.linkService] at hruns
  obtain ⟨tr, ht, hp⟩ := hruns
  have hprocessed := DuplexLinkService.trace_process ht
  obtain ⟨log, hadapter⟩ := adapter_path hp []
  obtain ⟨before, start, rfl, hquiet, htail, hread⟩ := hprocessed.handsOver (h.consistent role)
  obtain ⟨m, hbefore, hstart⟩ := Env.path_append_iff.mp hp
  obtain ⟨log₁, hadapter₁⟩ := adapter_path hbefore []
  obtain ⟨w₁, hw₁, hrides₁⟩ := h.rides.quietPath hbefore hquiet
  obtain ⟨w', hw', hrides⟩ := hrides₁.path hstart (hread (h.inStep role) hadapter₁) htail
  refine ⟨w', ⟨before ++ start, ht, Env.path_append_iff.mpr ⟨w₁, hw₁, hw'⟩⟩, ?_⟩
  exact h.served (keeps_path hp) hrides
    (inStep_forget (hprocessed.inStep (h.consistent role) (h.inStep role) hadapter))
    (hprocessed.consistent (h.consistent role))

theorem Follows.start {net : Net} {messageType : LinkMessageType} {payload : List UInt8}
    {started : Bool} {service : DuplexLinkService} (h : Follows config s net)
    (hruns : Runs (nodeEnv config role)
      ((s.node role).linkService.prepareRequest messageType payload) s (started, service) s') :
    ∃ tr, Trace ((net.node role).prepareRequest messageType payload) tr (started, service) ∧
      Follows config ((s'.served role service).begun started service.pendingRequest)
        (net.set role service (net.wire.begin started service.pendingRequest)) := by
  rw [← h.linkService] at hruns
  obtain ⟨tr, ht, hp⟩ := hruns
  refine ⟨tr, ht, ?_⟩
  obtain ⟨log, hadapter⟩ := adapter_path hp []
  obtain ⟨rfl, rfl, rfl⟩ | ⟨rfl, hcan, now, rfl, hservice⟩ :=
    DuplexLinkService.trace_prepareRequest ht
  · obtain rfl := hp
    exact h.served ⟨fun _ => rfl, rfl⟩ h.rides (h.inStep role) (h.consistent role)
  · obtain ⟨w', hw', hrides⟩ := h.rides.quietPath hp (by simp [HandsOver])
    obtain ⟨_, he, rfl⟩ := hw'
    obtain rfl : w' = net.wire := he
    have hidle : InStep service ((s'.node role).packetRadioAdapter, []) := by
      rcases h.inStep role with ⟨state, hstate, hsees⟩ | ⟨hs, -⟩
      · rw [hcan.idle] at hstate
        obtain rfl := Option.some.inj hstate
        rw [hservice]
        exact inStep_forget (DuplexLinkService.Landed.of_idle
          (hsees.path_silent (by simp [DuplexLinkService.Silent]) hadapter)
          (by simp [DuplexLinkService.startStates])).inStep
      · simp [hcan.idle, DuplexLinkService.startStates] at hs
    have hc : Consistent service := hservice ▸ DuplexLinkService.consistent_requested hcan _ now
    have hserved := h.served (keeps_path hp) hrides hidle hc
    exact hserved.begun service.pendingRequest

theorem Follows.updated {net : Net} {service : DuplexLinkService} (h : Follows config s net)
    (hstate : service.state = (net.node role).state) (hc : Consistent service) :
    Follows config (s.served role service) (net.set role service net.wire) := by
  refine h.served ⟨fun _ => rfl, rfl⟩ h.rides ?_ hc
  have hstep := h.inStep role
  rw [InStep, DuplexLinkService.Settled] at hstep ⊢
  rw [hstate]
  exact hstep

/-! ## The start -/

/-- A node that has just been started. -/
structure Fresh (config : Stm32f401LinkCompositionConfig) (composition : Stm32f401LinkComposition)
    (chip : RadioChip) : Prop where
  valid : Stm32f401LinkComposition.configIsValid config = true
  sound : NodeRadio.Sound config composition.radioDevice
  fits : NodeRadio.Fits config
    ⟨composition.packetRadioAdapter, composition.radioPortBackend, chip⟩
  silent : Transceiver.held ⟨composition.packetRadioAdapter, chip⟩ = [] ∧ chip.isSending = false
  init : ∃ tr, Trace (DuplexLinkService.init config.link) tr (some composition.linkService)
  inStep : InStep composition.linkService (composition.packetRadioAdapter, [])
  consistent : Consistent composition.linkService

theorem fresh_of_init {config : Stm32f401LinkCompositionConfig} {bound : ℕ} {reset chip : RadioChip}
    {before : ChipBus} {composition : Stm32f401LinkComposition}
    (hseparate : config.pins.nss.isTouched config.pins.reset = false)
    (h : Runs (chipHal (portConfig config) reset) (Stm32f401LinkComposition.init bound config)
      before (some (some composition)) ⟨chip, none⟩) : Fresh config composition chip := by
  obtain ⟨hready, hvalid, chip', hchip, hset, -⟩ :=
    Stm32f401LinkComposition.started_of_init hseparate h
  obtain rfl : chip = chip' := (ChipBus.mk.inj hchip).1
  obtain ⟨hlink, now, hservice⟩ := hready.service_initial
  have hsees : DuplexLinkService.Sees (composition.packetRadioAdapter, []) .idle [] false :=
    ⟨hready.adapter_shows, Sx128xPacketRadio.noRefusal_nil⟩
  refine ⟨hvalid, NodeRadio.sound_of_valid hvalid hseparate hready.device_initialized,
    ⟨hready.backend_initialized, hready.backend_config, hready.adapter_config, chip, hset,
      SameSettings.refl chip⟩, ⟨?_, ?_⟩, ?_, ?_, ?_⟩
  · have hpending : Transceiver.pending ⟨composition.packetRadioAdapter, chip⟩ = [] :=
      Transceiver.pending_of_state (by rw [hready.adapter_shows.state_eq]; decide)
    rw [Transceiver.held, hpending, Transceiver.captured, hready.adapter_shows.available_eq]
    rfl
  · rw [RadioChip.isSending, hset.mode]
  · rw [hservice]
    exact ⟨_, DuplexLinkService.trace_init_of hlink now⟩
  · rw [hservice]
    refine (DuplexLinkService.Landed.of_idle hsees ?_).inStep
    cases hr : config.link.role <;>
      simp [DuplexLinkService.initial, hr, DuplexLinkService.startStates]
  · rw [hservice]
    exact DuplexLinkService.consistent_initial _ now

theorem follows_init {node : DuplexLinkRole → Stm32f401LinkComposition}
    {chip : DuplexLinkRole → RadioChip} (h : ∀ role, Fresh (config role) (node role) (chip role)) :
    Follows config ⟨node, chip, []⟩ ⟨fun role => (node role).linkService, .initial⟩ := by
  refine ⟨⟨fun role => (h role).valid, fun role => (h role).sound, fun role => (h role).fits,
    ⟨fun role => ?_, fun role _ => (h role.peer).silent.1, fun role hs => ?_⟩, rfl⟩, fun _ => rfl,
    fun role => (h role).inStep, fun role => (h role).consistent⟩
  · have hsending : Transceiver.sending (transceiver ⟨node, chip, []⟩ role.peer) = [] :=
      if_neg (by simp [transceiver, (h role.peer).silent.2])
    have hheld : Transceiver.held (transceiver ⟨node, chip, []⟩ role) = [] := (h role).silent.1
    rw [hsending, hheld]
    exact List.nil_sublist _
  · exact absurd ((h role).silent.2.symm.trans hs) (by decide)

theorem Follows.rebooted {net : Net} {composition : Stm32f401LinkComposition} {chip : RadioChip}
    (h : Follows config s net) (hfresh : Fresh (config .initiator) composition chip) :
    Follows config (s.rebooted .initiator composition chip)
      (net.set .initiator composition.linkService net.wire.restart) := by
  have hdwindles : Transceiver.Dwindles (s.transceiver .initiator)
      ⟨composition.packetRadioAdapter, chip⟩ := by
    refine ⟨?_, fun hs => ?_, fun hs => ?_⟩
    · rw [hfresh.silent.1]
      exact List.nil_sublist _
    · exact absurd (hfresh.silent.2.symm.trans hs) (by decide)
    · exact absurd (hfresh.silent.2.symm.trans hs) (by decide)
  refine ⟨⟨h.rides.valid, fun role => ?_, fun role => ?_, ?_, ?_⟩, fun role => ?_, fun role => ?_,
    fun role => ?_⟩
  · rw [AirSystem.rebooted, node_put fun c => c.radioDevice]
    cases role with
    | initiator => exact hfresh.sound
    | responder => exact h.rides.sound .responder
  · rw [AirSystem.rebooted, radio_put]
    cases role with
    | initiator => exact hfresh.fits
    | responder => exact h.rides.fits .responder
  · rw [AirSystem.rebooted, transceiver_put]
    exact h.rides.tracks.dwindles hdwindles
  · exact congrArg (AirEntry.restarted :: ·) h.rides.log
  · rw [AirSystem.rebooted, node_put fun c => c.linkService]
    cases role with
    | initiator => rfl
    | responder => exact h.linkService .responder
  · rw [AirSystem.rebooted, node_put fun c => c.packetRadioAdapter]
    cases role with
    | initiator => exact hfresh.inStep
    | responder => exact h.inStep .responder
  · cases role with
    | initiator => exact hfresh.consistent
    | responder => exact h.consistent .responder

/-! ## Runs -/

/-- **Every run of the two nodes is one of two services over the channel.** -/
theorem Run.exists_follows
    (hseparate : ∀ role, (config role).pins.nss.isTouched (config role).pins.reset = false)
    (h : Run config s) : ∃ net, Net.Run (fun role => (config role).link) net ∧
      Follows config s net := by
  induction h with
  | @init node chip h =>
    have hfresh (role : DuplexLinkRole) : Fresh (config role) (node role) (chip role) := by
      obtain ⟨bound, reset, before, hruns⟩ := h role
      exact fresh_of_init (hseparate role) hruns
    choose tr htr using fun role => (hfresh role).init
    exact ⟨_, .init htr, follows_init hfresh⟩
  | airs _ hairs ih =>
    obtain ⟨net, hrun, hfollows⟩ := ih
    have hnode := hairs.node_eq
    refine ⟨net, hrun, hfollows.rides.airs hairs, fun role => ?_, fun role => ?_,
      hfollows.consistent⟩
    · rw [hnode]
      exact hfollows.linkService role
    · rw [hnode]
      exact hfollows.inStep role
  | process _ hruns ih =>
    obtain ⟨net, hrun, hfollows⟩ := ih
    obtain ⟨w, hprocess, hnext⟩ := hfollows.process hruns
    exact ⟨_, hrun.process hprocess, hnext⟩
  | start _ hruns ih =>
    obtain ⟨net, hrun, hfollows⟩ := ih
    obtain ⟨tr, hstart, hnext⟩ := hfollows.start hruns
    exact ⟨_, hrun.start hstart, hnext⟩
  | setResponsePayload role payload _ ih =>
    obtain ⟨net, hrun, hfollows⟩ := ih
    obtain ⟨buffer, length, he⟩ :=
      DuplexLinkService.setResponsePayload_fields (net.node role) payload
    rw [← hfollows.linkService]
    refine ⟨_, hrun.setResponsePayload role payload, hfollows.updated ?_ ?_⟩
    · rw [he]
    · rw [he]
      exact hfollows.consistent role
  | @takeEvent s role event service _ htake ih =>
    obtain ⟨net, hrun, hfollows⟩ := ih
    rw [← hfollows.linkService] at htake
    refine ⟨_, hrun.takeEvent htake, hfollows.updated ?_ ?_⟩
    all_goals obtain ⟨events, -, rfl⟩ := DuplexLinkService.takeEvent_eq_some htake
    · rfl
    · exact hfollows.consistent role
  | reset _ hruns ih =>
    obtain ⟨net, hrun, hfollows⟩ := ih
    have hfresh := fresh_of_init (hseparate .initiator) hruns
    obtain ⟨tr, hinit⟩ := hfresh.init
    exact ⟨_, hrun.restart hinit, hfollows.rebooted hfresh⟩

/-- **The link of the firmware is the link of two services** over a channel that loses frames and
does not reorder them. -/
theorem Run.refines
    (hseparate : ∀ role, (config role).pins.nss.isTouched (config role).pins.reset = false)
    (h : Run config s) : ∃ net, Net.Run (fun role => (config role).link) net ∧
      (∀ role, net.node role = (s.node role).linkService) ∧
      net.wire.log.map LinkEntry.seen = s.log := by
  obtain ⟨net, hrun, hfollows⟩ := h.exists_follows hseparate
  exact ⟨net, hrun, hfollows.linkService, hfollows.rides.log⟩

/-! ## Exchanges -/

/-- The packets of the start calls that said `true`, in order. -/
def asked : List AirEntry → List LinkPacket
  | [] => []
  | .started packet :: log => asked log ++ [packet]
  | _ :: log => asked log

/-- The requests that the responder published as received, in order. -/
def received : List AirEntry → List LinkPacket
  | [] => []
  | .published .responder event _ :: log =>
    if event.type = .requestReceived then received log ++ [event.packet] else received log
  | _ :: log => received log

theorem asked_seen (log : LinkLog) :
    asked (log.map LinkEntry.seen) = log.starts.map StartCall.packet := by
  induction log with
  | nil => rfl
  | cons e log ih =>
    cases e with
    | started packet =>
      show asked (log.map LinkEntry.seen) ++ [packet] =
        (LinkLog.starts log ++ [_]).map StartCall.packet
      rw [ih, List.map_append]
      rfl
    | restarted => exact ih
    | transmitted _ => exact ih
    | published _ _ _ _ => exact ih

theorem received_seen (log : LinkLog) :
    received (log.map LinkEntry.seen) = log.accepted.map Prod.snd := by
  induction log with
  | nil => rfl
  | cons e log ih =>
    cases e with
    | published role heard event stored =>
      cases role with
      | initiator => exact ih
      | responder =>
        show (if event.type = .requestReceived then
          received (log.map LinkEntry.seen) ++ [event.packet]
          else received (log.map LinkEntry.seen)) = _
        by_cases ht : event.type = .requestReceived
        · rw [if_pos ht, ih, LinkLog.accepted_received ht, List.map_append]
          rfl
        · rw [if_neg ht, ih,
            LinkLog.accepted_inert (e := .published .responder heard event stored) ht]
    | started _ => exact ih
    | restarted => exact ih
    | transmitted _ => exact ih

/-- The initiator is not started again here, and the responder does not lose an event. -/
def IsSmooth : AirEntry → Bool
  | .restarted => false
  | .published .responder _ stored => stored
  | _ => true

theorem fair_of_smooth {log : LinkLog} (h : ∀ e ∈ log.map LinkEntry.seen, IsSmooth e = true) :
    Net.Fair log where
  unrestarted hmem :=
    absurd (h _ (List.mem_map_of_mem (f := LinkEntry.seen) hmem)) Bool.false_ne_true
  room _ _ _ hmem := h _ (List.mem_map_of_mem (f := LinkEntry.seen) hmem)

/-- **Exchanges over the air.**  The requests that the firmware of the responder reports are, in
order and without repetition, requests that the application of the initiator has started.  And when
the initiator reports a success, within 65536 start calls, the responder has reported the request
that was started last and has handed the response to its radio. -/
theorem Run.exchanges_delivered
    (hseparate : ∀ role, (config role).pins.nss.isTouched (config role).pins.reset = false)
    (hmirrored : Net.Mirrored fun role => (config role).link) (h : Run config s) :
    (received s.log).Sublist (asked s.log) ∧
    ((∀ e ∈ s.log, IsSmooth e = true) → ∀ (pre : List AirEntry) event stored,
      .published .initiator event stored :: pre <:+ s.log → event.type = .exchangeSucceeded →
      (asked pre).length ≤ 65536 →
      ∃ request report, (asked pre).getLast? = some request ∧
        .published .responder report true ∈ pre ∧ report.type = .requestReceived ∧
        report.packet = request ∧
        IsResponseTo (fun role => (config role).link) request event.packet ∧
        .handed .responder event.packet.frame.toList ∈ pre) := by
  obtain ⟨net, hrun, -, hlog⟩ := h.refines hseparate
  rw [← hlog, asked_seen, received_seen]
  refine ⟨hrun.received_sublist hmirrored, ?_⟩
  intro hsmooth pre event stored hpre htype hclose
  -- the same place in the log of the channel
  obtain ⟨later, hlater⟩ := hpre
  obtain ⟨before, after, hsplit, -, hafter⟩ := List.map_eq_append_iff.mp hlater.symm
  obtain ⟨e, rest, rfl, he, rfl⟩ := List.map_eq_cons_iff.mp hafter
  obtain ⟨heard, rfl⟩ : ∃ heard, e = .published .initiator heard event stored := by
    cases e with
    | published role heard event' stored' =>
      obtain ⟨rfl, rfl, rfl⟩ := AirEntry.published.inj he
      exact ⟨heard, rfl⟩
    | _ => cases he
  rw [asked_seen, List.length_map] at hclose
  obtain ⟨current, report, hcurrent, -, hmem, hreport, hpacket, hresponse, hsent⟩ :=
    hrun.succeeded hmirrored (fair_of_smooth hsmooth) ⟨before, hsplit.symm⟩ htype
      (hclose.trans (Nat.le_add_left _ _))
  refine ⟨current.packet, report, ?_, ?_, hreport, hpacket, hresponse, ?_⟩
  · rw [asked_seen, List.getLast?_map, hcurrent]
    rfl
  · exact List.mem_map_of_mem (f := LinkEntry.seen) hmem
  · exact List.mem_map_of_mem (f := LinkEntry.seen) hsent

/-! ### One exchange -/

theorem airs_refl (s : AirSystem) : Airs s s := ⟨s.chip, .refl, rfl⟩

/-- A call of one service that nothing disturbs; DIO1 has had `produced` edges. -/
def steadyCall (config : DuplexLinkRole → Stm32f401LinkCompositionConfig) (role : DuplexLinkRole)
    (produced : UInt32) (o : LinkOp) (s : AirSystem) : Option (o.Ans × AirSystem) :=
  let r := exec (steadyHal (portConfig (config role)) coldChip produced)
    (linkHandler (s.node role).radioDevice 1 o ((s.radio role).adapter, (s.radio role).backend))
    ⟨(s.radio role).chip, none⟩
  if r.2.heard = none then r.1.map fun q =>
    (q.1, s.called role ⟨q.2.1, q.2.2, r.2.chip⟩ (noted role ⟨o, q.1⟩))
  else none

theorem nodeEnv_of_steadyCall {produced : UInt32} {o : LinkOp} {x : o.Ans}
    (h : steadyCall config role produced o s = some (x, s')) : nodeEnv config role o s x s' := by
  rw [steadyCall] at h
  split at h
  · rename_i hheard
    obtain ⟨⟨y, adapter, backend⟩, hr, he⟩ := Option.map_eq_some_iff.mp h
    obtain ⟨rfl, rfl⟩ := Prod.mk.inj he
    exact ⟨s, airs_refl s, 1, coldChip, _,
      NodeRadio.calls_of_exec produced (Prod.ext hr rfl) hheard, rfl⟩
  · cases h

inductive ExampleStep
  | process (role : DuplexLinkRole) (produced : UInt32)
  | start (payload : List UInt8)
  | heard (role : DuplexLinkRole)

/-- The radio of `role` ends its transmission, and the other one has heard it. -/
def heardBy (s : AirSystem) (role : DuplexLinkRole) : AirSystem :=
  let heard := (s.chip role.peer).hear (s.chip role).packet 80 20 .standby
  { s with chip := Function.update (Function.update s.chip role (s.chip role).sent) role.peer heard }

def exampleStep (config : DuplexLinkRole → Stm32f401LinkCompositionConfig) (s : AirSystem) :
    ExampleStep → Option AirSystem
  | .process role produced =>
    (execPartial (steadyCall config role produced) ((s.node role).linkService.process 9) s).bind
      fun r => r.1.map fun service => r.2.served role service
  | .start payload =>
    (execPartial (steadyCall config .initiator 0)
      ((s.node .initiator).linkService.prepareRequest .data payload) s).map fun r =>
        (r.2.served .initiator r.1.2).begun r.1.1 r.1.2.pendingRequest
  | .heard role =>
    if (s.chip role).isSending = true ∧ (s.chip role.peer).isListening = true then
      some (s.heardBy role)
    else none

theorem run_exampleStep {step : ExampleStep} (h : Run config s)
    (hs : exampleStep config s step = some s') : Run config s' := by
  have hanswer (role : DuplexLinkRole) (produced : UInt32) : ∀ o s x s',
      steadyCall config role produced o s = some (x, s') → nodeEnv config role o s x s' :=
    fun _ _ _ _ => nodeEnv_of_steadyCall
  cases step with
  | process role produced =>
    rw [exampleStep] at hs
    obtain ⟨⟨service?, m⟩, hexec, hs⟩ := Option.bind_eq_some_iff.mp hs
    obtain ⟨service, rfl, rfl⟩ := Option.map_eq_some_iff.mp hs
    exact h.process (execPartial_runs (hanswer role produced) hexec)
  | start payload =>
    rw [exampleStep] at hs
    obtain ⟨r, hexec, hs⟩ := Option.map_eq_some_iff.mp hs
    exact hs ▸ h.start (execPartial_runs (hanswer .initiator 0) hexec)
  | heard role =>
    rw [exampleStep] at hs
    split at hs
    · rename_i hready
      obtain rfl := Option.some.inj hs
      exact h.airs ⟨_, .single (.heard role 80 20 .standby hready.1 hready.2 (.inl rfl)), rfl⟩
    · cases hs

theorem run_exampleSteps {steps : List ExampleStep} (h : Run config s)
    (hs : steps.foldlM (exampleStep config) s = some s') : Run config s' := by
  induction steps generalizing s with
  | nil =>
    obtain rfl := Option.some.inj hs
    exact h
  | cons step steps ih =>
    rw [List.foldlM_cons] at hs
    obtain ⟨s₁, hstep, hrest⟩ := Option.bind_eq_some_iff.mp hs
    exact ih (run_exampleStep h hstep) hrest

def exampleInit (role : DuplexLinkRole) : Option (Stm32f401LinkComposition × RadioChip) :=
  let r := exec (steadyHal (portConfig (defaultConfig role)) coldChip 0)
    (Stm32f401LinkComposition.init 1 (defaultConfig role)) ⟨coldChip, none⟩
  if r.2.heard = none then r.1.join.map fun composition => (composition, r.2.chip) else none

theorem runs_exampleInit {composition : Stm32f401LinkComposition} {chip : RadioChip}
    (h : exampleInit role = some (composition, chip)) :
    Runs (chipHal (portConfig (defaultConfig role)) coldChip)
      (Stm32f401LinkComposition.init 1 (defaultConfig role)) ⟨coldChip, none⟩
      (some (some composition)) ⟨chip, none⟩ := by
  rw [exampleInit] at h
  split at h
  · rename_i hheard
    obtain ⟨composition', hresult, he⟩ := Option.map_eq_some_iff.mp h
    obtain ⟨rfl, rfl⟩ := Prod.mk.inj he
    exact runs_of_exec (Prod.ext (Option.join_eq_some_iff.mp hresult) rfl) hheard
  · cases h

/-- One value for the initiator, and one for the responder. -/
def both {β : Type} (a b : β) : DuplexLinkRole → β
  | .initiator => a
  | .responder => b

/-- Two nodes that are started, and what happens to them then. -/
def exampleRun (steps : List ExampleStep) : Option AirSystem :=
  (exampleInit .initiator).bind fun a => (exampleInit .responder).bind fun b =>
    steps.foldlM (exampleStep defaultConfig)
      ⟨both a.1 b.1, both a.2 b.2, []⟩

theorem run_exampleRun {steps : List ExampleStep} (h : exampleRun steps = some s) :
    Run defaultConfig s := by
  rw [exampleRun] at h
  obtain ⟨⟨a, chipA⟩, ha, h⟩ := Option.bind_eq_some_iff.mp h
  obtain ⟨⟨b, chipB⟩, hb, h⟩ := Option.bind_eq_some_iff.mp h
  have hstart : Run defaultConfig
      ⟨both a b, both chipA chipB, []⟩ := by
    refine .init fun role => ⟨1, coldChip, ⟨coldChip, none⟩, ?_⟩
    cases role with
    | initiator => exact runs_exampleInit ha
    | responder => exact runs_exampleInit hb
  exact run_exampleSteps hstart h

/-- The responder listens, the initiator asks, and each of the two frames is heard. -/
def exampleSteps : List ExampleStep :=
  [.process .responder 0, .start (List.replicate linkPacketPayloadSize 7), .process .initiator 0,
    .heard .initiator, .process .responder 1, .process .initiator 1, .heard .responder,
    .process .initiator 1]

def IsSuccess : AirEntry → Bool
  | .published .initiator event _ => event.type = .exchangeSucceeded
  | _ => false

theorem separate_default (role : DuplexLinkRole) :
    (defaultConfig role).pins.nss.isTouched (defaultConfig role).pins.reset = false := by
  cases role <;> decide

theorem mirrored_default : Net.Mirrored fun role => (defaultConfig role).link := by
  refine ⟨fun role => ?_, rfl, rfl⟩
  cases role <;> rfl

/-- One exchange of the two nodes, which the channel follows. -/
theorem refines_example : ∃ (s : AirSystem) (net : Net), Run defaultConfig s ∧
    Net.Run (fun role => (defaultConfig role).link) net ∧
    net.wire.log.map LinkEntry.seen = s.log ∧ (asked s.log).length = 1 := by
  have hresult : (exampleRun exampleSteps).map (fun s => (asked s.log).length) = some 1 := by
    decide +kernel
  obtain ⟨s, hs, hasked⟩ := Option.map_eq_some_iff.mp hresult
  obtain ⟨net, hnet, -, hlog⟩ := (run_exampleRun hs).refines separate_default
  exact ⟨s, net, run_exampleRun hs, hnet, hlog, hasked⟩

/-- A request that is asked, heard, answered and reported by both nodes. -/
theorem exchanges_delivered_example : ∃ (s : AirSystem) (pre : List AirEntry)
    (event report : DuplexLinkEvent) (stored : Bool), Run defaultConfig s ∧
      s.log = .published .initiator event stored :: pre ∧ event.type = .exchangeSucceeded ∧
      .published .responder report true ∈ pre ∧ report.type = .requestReceived ∧
      report.packet.payload = Vector.replicate _ 7 := by
  have hresult : (exampleRun exampleSteps).map (fun s => (s.log.head?.any IsSuccess,
      s.log.all IsSmooth, (asked s.log.tail).map LinkPacket.payload)) =
        some (true, true, [Vector.replicate _ 7]) := by decide +kernel
  obtain ⟨s, hs, hseen⟩ := Option.map_eq_some_iff.mp hresult
  obtain ⟨hhead, hrest⟩ := Prod.mk.inj hseen
  obtain ⟨hsmooth, hasked⟩ := Prod.mk.inj hrest
  obtain ⟨-, hdelivered⟩ :=
    (run_exampleRun hs).exchanges_delivered separate_default mirrored_default
  cases hlog : s.log with
  | nil =>
    rw [hlog] at hhead
    cases hhead
  | cons e pre =>
    rw [hlog, List.tail_cons] at hasked
    rw [hlog] at hhead
    obtain ⟨event, stored, rfl, htype⟩ : ∃ event stored, e = .published .initiator event stored ∧
        event.type = .exchangeSucceeded := by
      cases e with
      | published role event stored =>
        cases role with
        | initiator => exact ⟨event, stored, rfl, of_decide_eq_true hhead⟩
        | responder => cases hhead
      | _ => cases hhead
    obtain ⟨request, hrequest, hpayload⟩ := List.map_eq_singleton_iff.mp hasked
    obtain ⟨request', report, hlast, hmem, hreport, hpacket, -⟩ := hdelivered
      (List.all_eq_true.mp hsmooth) pre event stored (hlog ▸ List.suffix_rfl) htype
      (by rw [hrequest, List.length_singleton]; decide)
    rw [hrequest] at hlast
    obtain rfl := Option.some.inj hlast
    exact ⟨s, pre, event, report, stored, run_exampleRun hs, hlog, htype, hmem, hreport,
      hpacket ▸ hpayload⟩

end AirSystem

end RadioConnection
