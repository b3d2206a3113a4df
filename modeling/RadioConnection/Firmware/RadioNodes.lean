import RadioConnection.Firmware.LinkComposition
import RadioConnection.Link.OverTheAir

/-!
# Two nodes and the air between them

Two compositions that were started, with anything that their link services have asked
for and anything that their radios have done since, between two calls of the driver too.

* `NodeRadio`: a node below its link service, and `Moves`: what happens to it.
* `Fits`: what stays from the start on.
* `over_the_air`: **what one service hands to its radio, the service of the peer reads
  from its own.**
* `radios_stay_matched`: **the radios of two nodes of the firmware stay on one channel.**
-/

namespace RadioConnection

open Interaction Prog
open Stm32f401LinkComposition (portConfig linkHandler)

/-- A node below its link service. -/
structure NodeRadio where
  adapter : Sx128xPacketRadio
  backend : Stm32f4Sx128xPort
  chip : RadioChip

namespace NodeRadio

/-- What the radio does by itself between two calls of the driver. -/
def Stirring (q q' : Unit × Stm32f4Sx128xPort × ChipBus) : Prop :=
  q'.2.1 = q.2.1 ∧ q'.2.2.heard = q.2.2.heard ∧
    Relation.ReflTransGen RadioChip.Stirs q.2.2.chip q'.2.2.chip

variable {config : Stm32f401LinkCompositionConfig} {device : Sx128x} {bound : ℕ}
  {reset : RadioChip} {n n' : NodeRadio}

/-- A call of the service that has returned, with a radio that only does what it is told. -/
def Calls (config : Stm32f401LinkCompositionConfig) (device : Sx128x) (bound : ℕ)
    (reset : RadioChip) (o : LinkOp) (n : NodeRadio) (x : o.Ans) (n' : NodeRadio) : Prop :=
  Runs (chipHal (portConfig config) reset) (linkHandler device bound o (n.adapter, n.backend))
    ⟨n.chip, none⟩ (some (x, n'.adapter, n'.backend)) ⟨n'.chip, none⟩

/-- The service calls, with a radio that does something by itself between two calls of the driver,
or the radio does something by itself while the service makes no call. -/
inductive Moves (config : Stm32f401LinkCompositionConfig) (device : Sx128x) :
    NodeRadio → NodeRadio → Prop
  | call {n n' : NodeRadio} {bound : ℕ} {reset : RadioChip} {o : LinkOp} {x : o.Ans} :
      Runs ((driverStack (portConfig config) device bound reset).interrupted Stirring)
        (Sx128xPacketRadio.answer o n.adapter) ((), n.backend, ⟨n.chip, none⟩) (x, n'.adapter)
        ((), n'.backend, ⟨n'.chip, none⟩) →
      Moves config device n n'
  | stirs {n : NodeRadio} {chip : RadioChip} : n.chip.Stirs chip →
      Moves config device n { n with chip := chip }

/-- A node of this configuration; the settings of its radio are those of a radio that was set. -/
structure Fits (config : Stm32f401LinkCompositionConfig) (n : NodeRadio) : Prop where
  backend_initialized : n.backend.initialized = true
  backend_config : n.backend.config = portConfig config
  adapter_config : n.adapter.config = config.packetRadio
  chip_set : ∃ chip : RadioChip, chip.Configured config.lora ∧ SameSettings chip n.chip

/-- The pins and the device with which a node runs. -/
structure Sound (config : Stm32f401LinkCompositionConfig) (device : Sx128x) : Prop where
  wired : Wired (portConfig config)
  touched : config.pins.reset.isTouched config.pins.reset = true
  device_initialized : device.initialized = true

theorem Calls.onChip {o : LinkOp} {x : o.Ans} (hsound : Sound config device)
    (hn : n.Fits config) (h : Calls config device bound reset o n x n') :
    Runs chipDriver (Sx128xPacketRadio.answer o n.adapter) n.chip (x, n'.adapter) n'.chip := by
  have hruns := Stm32f401LinkComposition.runs_linkHandler_iff.mp h
  obtain ⟨chip', hchip, hanswer⟩ := chipDriver_of_chipHal hsound.wired hsound.touched
    hn.backend_initialized hn.backend_config hsound.device_initialized hruns
  obtain rfl : n'.chip = chip' := (ChipBus.mk.inj hchip).1
  exact hanswer

theorem Fits.calls {o : LinkOp} {x : o.Ans} (hsound : Sound config device)
    (hn : n.Fits config) (h : Calls config device bound reset o n x n') : n'.Fits config := by
  have hchip := h.onChip hsound hn
  obtain ⟨hb, hconfig⟩ := Stm32f401LinkComposition.backend_kept hn.backend_initialized
    (Stm32f401LinkComposition.runs_linkHandler_iff.mp h)
  obtain ⟨chip, hset, hsame⟩ := hn.chip_set
  refine ⟨hb, hconfig.trans hn.backend_config, ?_, chip, hset, hsame.trans ?_⟩
  · exact (Sx128xPacketRadio.ends_answer hn.adapter_config o).of_runs hchip
  · refine hchip.invariant (I := fun c => SameSettings n.chip c) ?_ (SameSettings.refl n.chip)
    intro o c x c' hc hs
    exact hs.trans (sameSettings_of_chipDriver hc)

theorem Fits.stirs {chip : RadioChip} (hn : n.Fits config) (h : n.chip.Stirs chip) :
    Fits config { n with chip := chip } := by
  obtain ⟨chip₀, hset, hsame⟩ := hn.chip_set
  exact ⟨hn.backend_initialized, hn.backend_config, hn.adapter_config, chip₀, hset,
    hsame.trans (RadioChip.sameSettings_of_stirs h)⟩

theorem sameSettings_of_stirring {chip chip' : RadioChip}
    (h : Relation.ReflTransGen RadioChip.Stirs chip chip') : SameSettings chip chip' := by
  induction h with
  | refl => exact SameSettings.refl chip
  | tail _ h ih => exact ih.trans (RadioChip.sameSettings_of_stirs h)

/-- **What a node is set to stays**, whatever its service calls and its radio does. -/
theorem Fits.moves (hsound : Sound config device) (hn : n.Fits config)
    (h : Moves config device n n') : n'.Fits config := by
  cases h with
  | stirs h => exact hn.stirs h
  | @call _ bound reset o x hruns =>
    let I := fun q => ∃ chip, AtRest (portConfig config) q chip ∧ SameSettings n.chip chip
    have hstep : ∀ o q x q', ((driverStack (portConfig config) device bound reset).interrupted
        Stirring) o q x q' → I q → I q' := by
      rintro o q x q' ⟨m, ⟨hbackend, hheard, hstirs⟩, hcall⟩ ⟨chip, ⟨hb, hq⟩, hsame⟩
      have hchip : q.2.2.chip = chip := congrArg ChipBus.chip hq
      have hnone : q.2.2.heard = none := congrArg ChipBus.heard hq
      have hm : AtRest (portConfig config) m m.2.2.chip :=
        ⟨hbackend ▸ hb, congrArg (ChipBus.mk m.2.2.chip) (hheard.trans hnone)⟩
      obtain ⟨chip', hdriver, hq'⟩ := chipDriver_of_driverStack hsound.wired hsound.touched
        hsound.device_initialized hcall hm
      have hstirred : SameSettings chip m.2.2.chip := hchip ▸ sameSettings_of_stirring hstirs
      exact ⟨chip', hq', (hsame.trans hstirred).trans (sameSettings_of_chipDriver hdriver)⟩
    have hstart : I ((), n.backend, ⟨n.chip, none⟩) :=
      ⟨n.chip, ⟨⟨hn.backend_initialized, hn.backend_config⟩, rfl⟩, SameSettings.refl n.chip⟩
    obtain ⟨chip', ⟨⟨hb, hconfig⟩, hs⟩, hsame⟩ := hruns.invariant hstep hstart
    obtain rfl : n'.chip = chip' := congrArg ChipBus.chip hs
    obtain ⟨chip, hset, hbefore⟩ := hn.chip_set
    exact ⟨hb, hconfig, (Sx128xPacketRadio.ends_answer hn.adapter_config o).of_runs hruns, chip,
      hset, hbefore.trans hsame⟩

theorem Fits.run (hsound : Sound config device) (hn : n.Fits config)
    (h : Relation.ReflTransGen (Moves config device) n n') : n'.Fits config := by
  induction h with
  | refl => exact hn
  | tail _ h ih => exact ih.moves hsound h

/-! ## Two nodes -/

theorem sound_of_valid (hvalid : Stm32f401LinkComposition.configIsValid config = true)
    (hseparate : config.pins.nss.isTouched config.pins.reset = false)
    (hready : device.initialized = true) : Sound config device := by
  simp only [Stm32f401LinkComposition.configIsValid, Bool.and_eq_true, decide_eq_true_eq] at hvalid
  have hnss : config.pins.nss.mask ≠ 0 := by tauto
  have hreset : config.pins.reset.mask ≠ 0 := by tauto
  exact ⟨⟨by simp [GpioPin.isTouched, portConfig, hnss], hseparate⟩,
    by simp [GpioPin.isTouched, hreset], hready⟩

/-- A node that was started, some time later. -/
def Reached (config : Stm32f401LinkCompositionConfig) (device : Sx128x) (n : NodeRadio) : Prop :=
  ∃ (bound : ℕ) (reset : RadioChip) (composition : Stm32f401LinkComposition) (s : ChipBus)
    (chip : RadioChip),
    Runs (chipHal (portConfig config) reset) (Stm32f401LinkComposition.init bound config) s
      (some (some composition)) ⟨chip, none⟩ ∧ device = composition.radioDevice ∧
    Relation.ReflTransGen (Moves config device)
      ⟨composition.packetRadioAdapter, composition.radioPortBackend, chip⟩ n

theorem Reached.fits (hseparate : config.pins.nss.isTouched config.pins.reset = false)
    (h : Reached config device n) :
    Sound config device ∧ n.Fits config ∧
      Stm32f401LinkComposition.configIsValid config = true := by
  obtain ⟨bound, reset, composition, s, chip, hinit, rfl, hmoves⟩ := h
  obtain ⟨hready, hvalid, chip', hchip, hset, -⟩ :=
    Stm32f401LinkComposition.started_of_init hseparate hinit
  obtain rfl : chip = chip' := (ChipBus.mk.inj hchip).1
  have hsound := sound_of_valid hvalid hseparate hready.device_initialized
  exact ⟨hsound, Fits.run hsound ⟨hready.backend_initialized, hready.backend_config,
    hready.adapter_config, chip, hset, SameSettings.refl chip⟩ hmoves, hvalid⟩

theorem sameSettings_of_configured {lora : Sx128xLoRaConfig} {chip chip' : RadioChip}
    (h : chip.Configured lora) (h' : chip'.Configured lora) : SameSettings chip chip' where
  packetType := UInt8.toUInt32_inj.mp (h'.packetType.trans h.packetType.symm)
  frequency := by
    have hlower := h.frequency
    have hupper := h'.frequency
    omega
  bases := ⟨h'.bases.1.trans h.bases.1.symm, h'.bases.2.trans h.bases.2.symm⟩
  modulation := h'.modulation.trans h.modulation.symm
  packetParams := h'.packetParams.trans h.packetParams.symm
  power := ⟨h'.power.1.trans h.power.1.symm, h'.power.2.trans h.power.2.symm⟩
  masks := ⟨h'.masks.1.trans h.masks.1.symm, h'.masks.2.1.trans h.masks.2.1.symm,
    h'.masks.2.2.1.trans h.masks.2.2.1.symm, h'.masks.2.2.2.trans h.masks.2.2.2.symm⟩

end NodeRadio

open NodeRadio

/-- **Two nodes of the firmware stay on one channel.**  Both were started with the defaults of
their roles, and anything may have happened to them since: their radios have the same settings; a
radio sends from where its adapter writes, as many bytes as a frame has, and what it receives lies
behind that; and all four interrupts of the link reach DIO1. -/
theorem radios_stay_matched {spiA spiB : Option SpiHandle} {uartA uartB : Option UartHandle}
    {roleA roleB : DuplexLinkRole} {configA configB : Stm32f401LinkCompositionConfig}
    {deviceA deviceB : Sx128x} {a b : NodeRadio}
    (hA : Stm32f401LinkComposition.configInitDefaults spiA uartA roleA = some configA)
    (hB : Stm32f401LinkComposition.configInitDefaults spiB uartB roleB = some configB)
    (ha : Reached configA deviceA a) (hb : Reached configB deviceB b) :
    SameSettings a.chip b.chip ∧
    a.chip.txBaseAddress = a.adapter.config.txBufferOffset ∧
    (a.chip.packetParams.getD 2 0).toNat = linkPacketEncodedSize ∧
    a.adapter.config.frameLength = linkPacketEncodedSize ∧
    a.chip.txBaseAddress.toNat + linkPacketEncodedSize ≤ a.chip.rxBaseAddress.toNat ∧
    a.chip.irqMask &&& a.chip.dio1Mask =
      sx128xIrqTxDone ||| sx128xIrqRxDone ||| sx128xIrqCrcError ||| sx128xIrqRxTxTimeout := by
  rw [Stm32f401LinkComposition.configInitDefaults] at hA hB
  split at hA
  · cases hA
  split at hB
  · cases hB
  obtain rfl := Option.some.inj hA
  obtain rfl := Option.some.inj hB
  have hseparate : BlackpillF401ccSx128x.getDefaultPins.nss.isTouched
      BlackpillF401ccSx128x.getDefaultPins.reset = false := by decide
  obtain ⟨-, hfitsA, -⟩ := ha.fits hseparate
  obtain ⟨-, hfitsB, -⟩ := hb.fits hseparate
  obtain ⟨chipA, hsetA, hsameA⟩ := hfitsA.chip_set
  obtain ⟨chipB, hsetB, hsameB⟩ := hfitsB.chip_set
  refine ⟨(hsameA.symm.trans (sameSettings_of_configured hsetA hsetB)).trans hsameB, ?_, ?_, ?_,
    ?_, ?_⟩
  · rw [hsameA.bases.1, hsetA.bases.1, hfitsA.adapter_config]
  · rw [hsameA.packetParams, hsetA.packetParams]
    rfl
  · rw [hfitsA.adapter_config]
  · rw [hsameA.bases.1, hsameA.bases.2, hsetA.bases.1, hsetA.bases.2]
    dsimp only
    decide
  · rw [hsameA.masks.1, hsameA.masks.2.1, hsetA.masks.1, hsetA.masks.2.1]
    dsimp only
    decide

theorem NodeRadio.calls_of_exec {config : Stm32f401LinkCompositionConfig} {device : Sx128x}
    {bound : ℕ} {reset : RadioChip} {o : LinkOp} {n : NodeRadio} {x : o.Ans}
    {adapter : Sx128xPacketRadio} {backend : Stm32f4Sx128xPort} {s' : ChipBus} (produced : UInt32)
    (h : exec (steadyHal (portConfig config) reset produced)
      (linkHandler device bound o (n.adapter, n.backend)) ⟨n.chip, none⟩ =
        (some (x, adapter, backend), s')) (hs : s'.heard = none) :
    Calls config device bound reset o n x ⟨adapter, backend, s'.chip⟩ :=
  runs_of_exec h hs

theorem NodeRadio.reached_of_exec {config : Stm32f401LinkCompositionConfig} {device : Sx128x}
    {bound : ℕ} {reset : RadioChip} {adapter : Sx128xPacketRadio} {backend : Stm32f4Sx128xPort}
    {s : ChipBus} {r : Option (Option Stm32f401LinkComposition) × ChipBus}
    (h : exec (steadyHal (portConfig config) reset 0)
      (Stm32f401LinkComposition.init bound config) s = r)
    (hparts : r.1.map (·.map fun c =>
      (c.packetRadioAdapter, c.radioPortBackend, c.radioDevice)) =
        some (some (adapter, backend, device)))
    (hs : r.2.heard = none) : Reached config device ⟨adapter, backend, r.2.chip⟩ := by
  obtain ⟨result, s'⟩ := r
  obtain ⟨composition?, rfl, hcomposition⟩ := Option.map_eq_some_iff.mp hparts
  obtain ⟨composition, rfl, he⟩ := Option.map_eq_some_iff.mp hcomposition
  obtain ⟨rfl, hrest⟩ := Prod.mk.inj he
  obtain ⟨rfl, rfl⟩ := Prod.mk.inj hrest
  exact ⟨bound, reset, composition, s, s'.chip, runs_of_exec h hs, rfl, .refl⟩

/-- An initiator and a responder that have just started. -/
theorem radios_stay_matched_started : ∃ (device : Sx128x) (a b : NodeRadio),
    Reached (defaultConfig .initiator) device a ∧
    Reached (defaultConfig .responder) device b ∧
    SameSettings a.chip b.chip ∧ (a.chip.packetParams.getD 2 0).toNat = 30 := by
  let adapter : Sx128xPacketRadio := ⟨(defaultConfig .initiator).packetRadio, .idle,
    .empty ⟨.none, 0⟩ (by decide), ⟨[], 0, 0⟩, false, true⟩
  let backend (role : DuplexLinkRole) : Stm32f4Sx128xPort :=
    ⟨portConfig (defaultConfig role), ⟨16, 16, 33, 0, 19, 4, 9, 2, 0⟩, true⟩
  let started (role : DuplexLinkRole) := exec (steadyHal (portConfig (defaultConfig role)) coldChip 0)
    (Stm32f401LinkComposition.init 1 (defaultConfig role)) ⟨coldChip, none⟩
  have hreached (role : DuplexLinkRole) : Reached (defaultConfig role) ⟨20, true⟩
      ⟨adapter, backend role, (started role).2.chip⟩ := by
    cases role <;> exact reached_of_exec rfl (by decide +kernel) (by decide +kernel)
  have hdefaults (role : DuplexLinkRole) : Stm32f401LinkComposition.configInitDefaults
      (some ⟨1, .spi1, Nat.one_ne_zero⟩) (some ⟨1, .usart2, Nat.one_ne_zero⟩) role =
        some (defaultConfig role) := rfl
  obtain ⟨hsame, -, hlength, -⟩ := radios_stay_matched (hdefaults .initiator)
    (hdefaults .responder) (hreached .initiator) (hreached .responder)
  exact ⟨_, _, _, hreached .initiator, hreached .responder, hsame, hlength⟩

end RadioConnection
