import RadioConnection.Firmware.LinkLogger
import RadioConnection.Link.RadioStack
import RadioConnection.Link.Rounds

/-!
# The link node of the STM32F401

`link_composition.c` and `blackpill_f401cc_sx128x.c`: the port, the driver, the
adapter and the link service, put together and started.

* `configIsValid` and `configInitDefaults`: what the composition checks, and the
  configuration that the firmware starts with.
* `startRadio` and `init`: the composition, started on the HAL.
* `linkHandler`: the calls of the link service, answered by everything below it.
* `process`, `startData` and the other calls of the application.
* `started_of_init`: **a composition that starts has the radio set as its
  configuration says**, and all its parts ready.
-/

namespace RadioConnection

open Interaction Prog

/-! ## The board -/

inductive SpiInstance
  | spi1 | spi2 | spi3
  deriving DecidableEq, Repr

inductive UartInstance
  | usart1 | usart2 | usart6
  deriving DecidableEq, Repr

/-- A handle stands at an address that is not `NULL`. -/
structure SpiHandle where
  address : ℕ
  instanceOf : SpiInstance
  address_ne_zero : address ≠ 0
  deriving DecidableEq

structure UartHandle where
  address : ℕ
  instanceOf : UartInstance
  address_ne_zero : address ≠ 0
  deriving DecidableEq

structure BlackpillF401ccSx128xPins where
  nss : GpioPin
  busy : GpioPin
  dio1 : GpioPin
  reset : GpioPin
  deriving DecidableEq, Repr

def gpioA : ℕ := 0x40020000
def gpioB : ℕ := 0x40020400

namespace BlackpillF401ccSx128x

def getDefaultPins : BlackpillF401ccSx128xPins where
  nss := ⟨gpioA, 0x0010⟩
  busy := ⟨gpioB, 0x0004⟩
  dio1 := ⟨gpioB, 0x0002⟩
  reset := ⟨gpioB, 0x0001⟩

def validateSpi : Option SpiHandle → Bool
  | none => false
  | some spi => spi.instanceOf = .spi1

def validateDebugUart : Option UartHandle → Bool
  | none => false
  | some uart => uart.instanceOf = .usart2

end BlackpillF401ccSx128x

/-! ## The configuration -/

structure Stm32f401LinkCompositionConfig where
  radioSpi : Option SpiHandle
  loggerUart : Option UartHandle
  pins : BlackpillF401ccSx128xPins
  spiTimeoutMs : UInt32
  busyTimeoutMs : UInt32
  loggerTimeoutMs : UInt32
  logLevel : RadioLogLevel
  lora : Sx128xLoRaConfig
  packetRadio : Sx128xPacketRadioConfig
  link : DuplexLinkConfig
  deriving DecidableEq

/-- The handles of a composition are where the configuration says. -/
structure Stm32f401LinkComposition where
  radioPortBackend : Stm32f4Sx128xPort
  radioDevice : Sx128x
  packetRadioAdapter : Sx128xPacketRadio
  logger : Stm32Logger
  linkService : DuplexLinkService
  initialized : Bool

namespace Stm32f401LinkComposition

open BlackpillF401ccSx128x

def configIsValid (config : Stm32f401LinkCompositionConfig) : Bool :=
  validateSpi config.radioSpi && validateDebugUart config.loggerUart &&
  config.pins.nss.port ≠ 0 && config.pins.nss.mask ≠ 0 &&
  config.pins.busy.port ≠ 0 && config.pins.busy.mask ≠ 0 &&
  config.pins.dio1.port ≠ 0 && config.pins.dio1.mask ≠ 0 &&
  config.pins.reset.port ≠ 0 && config.pins.reset.mask ≠ 0 &&
  config.spiTimeoutMs ≠ 0 && config.busyTimeoutMs ≠ 0 && config.loggerTimeoutMs ≠ 0 &&
  config.lora.payloadLength.toNat = linkPacketEncodedSize &&
  config.packetRadio.frameLength = linkPacketEncodedSize &&
  config.packetRadio.txBufferOffset = config.lora.txBaseAddress

/-- `SX128X_DEFAULT_LINK_IRQ_MASK`. -/
def sx128xDefaultLinkIrqMask : UInt16 :=
  sx128xIrqTxDone ||| sx128xIrqRxDone ||| sx128xIrqCrcError ||| sx128xIrqRxTxTimeout

/-- The configuration with the defaults; `none` when a handle is refused. -/
def configInitDefaults (radioSpi : Option SpiHandle) (loggerUart : Option UartHandle)
    (role : DuplexLinkRole) : Option Stm32f401LinkCompositionConfig :=
  if ¬ validateSpi radioSpi ∨ ¬ validateDebugUart loggerUart then none
  else
    some {
      radioSpi := radioSpi
      loggerUart := loggerUart
      pins := getDefaultPins
      spiTimeoutMs := 20
      busyTimeoutMs := 20
      loggerTimeoutMs := 20
      logLevel := .info
      lora := {
        frequencyHz := 2445000000
        spreadingFactor := 0x60
        bandwidth := 0x18
        codingRate := 0x01
        preambleSymbols := 12
        headerType := 0x00
        payloadLength := 30
        crcMode := 0x20
        iqMode := 0x40
        txPowerDbm := 10
        rampTime := 0xE0
        txBaseAddress := 0
        rxBaseAddress := 128
        irqMask := sx128xDefaultLinkIrqMask
        dio1Mask := sx128xDefaultLinkIrqMask }
      packetRadio := {
        txBufferOffset := 0
        frameLength := linkPacketEncodedSize
        txTimeoutBase := sx128xTimeoutBase1Ms
        txTimeoutCount := 100 }
      link := {
        role := role
        localNodeId := if role = .initiator then 1 else 2
        peerNodeId := if role = .initiator then 2 else 1
        initialSequence := 1
        responseTimeoutMs := 50
        operationTimeoutMs := 250
        maxRetries := 3 } }

/-! ## The start -/

def portConfig (config : Stm32f401LinkCompositionConfig) : Stm32f4Sx128xPortConfig where
  spi := config.radioSpi.elim 0 (·.address)
  nss := config.pins.nss
  reset := config.pins.reset
  busy := config.pins.busy
  dio1Pin := config.pins.dio1.mask
  spiTimeoutMs := config.spiTimeoutMs

/-- The part of `stm32f401_link_composition_init` that starts the radio: `some none` when a call
fails, `none` when the bound ends a wait. -/
def startRadio (bound : ℕ) (config : Stm32f401LinkCompositionConfig) :
    PortProg (Option (Option Sx128x)) := do
  let (_, device) ← Sx128x.init true config.busyTimeoutMs
  match device with
  | none => pure (some none)
  | some device =>
    let result ← device.hardwareReset bound
    if result ≠ some .ok then pure (result.map fun _ => none)
    else
      let result ← device.configureLoRa bound (some config.lora)
      if result ≠ some .ok then pure (result.map fun _ => none)
      else pure (some (some device))

/-- The calls of the link service, answered by the adapter on the driver on the port. -/
def linkHandler (device : Sx128x) (bound : ℕ) :
    Handler LinkOp LinkOp.Ans HalOp HalOp.Ans (Sx128xPacketRadio × Stm32f4Sx128xPort) :=
  fun o s => do
    let r ← interp portHandler
      (interp (driverHandler device bound) (Sx128xPacketRadio.answer o s.1) ()) s.2
    pure (r.bind fun r => r.1.map fun q => (q.1.1, (q.1.2, r.2)))

/-- `stm32f401_link_composition_init`: `some none` when it fails, `none` when the bound ends a
wait.  The service logs a line at its end; see `LinkNode`. -/
def init (bound : ℕ) (config : Stm32f401LinkCompositionConfig) :
    HalProg (Option (Option Stm32f401LinkComposition)) :=
  if ¬ configIsValid config then pure (some none)
  else do
    match ← Stm32f4Sx128xPort.init (portConfig config) with
    | none => pure (some none)
    | some backend =>
      match ← interp portHandler (startRadio bound config) backend with
      | some (some (some device), backend) =>
        match Sx128xPacketRadio.init config.packetRadio with
        | none => pure (some none)
        | some adapter =>
          match Stm32Logger.init (config.loggerUart.map (·.address)) config.loggerTimeoutMs
              config.logLevel with
          | none => pure (some none)
          | some logger =>
            match ← interp (linkHandler device bound) (DuplexLinkService.init config.link)
                (adapter, backend) with
            | some (some service, adapter, backend) =>
              pure (some (some ⟨backend, device, adapter, logger, service, true⟩))
            | some (none, _) => pure (some none)
            | none => pure none
      | some (some none, _) => pure (some none)
      | some (none, _) => pure none
      | none => pure none

/-! ## The calls of the application -/

def updated (composition : Stm32f401LinkComposition) (service : DuplexLinkService)
    (s : Sx128xPacketRadio × Stm32f4Sx128xPort) : Stm32f401LinkComposition :=
  { composition with
    linkService := service
    packetRadioAdapter := s.1
    radioPortBackend := s.2 }

/-- What `stm32f401_link_composition_start_data` does with a function of the service. -/
def startRequest (composition : Stm32f401LinkComposition) (bound : ℕ)
    (start : DuplexLinkService → LinkProg (Bool × DuplexLinkService)) :
    HalProg (Option (Bool × Stm32f401LinkComposition)) :=
  if ¬ composition.initialized then pure (some (false, composition))
  else do
    let r ← interp (linkHandler composition.radioDevice bound) (start composition.linkService)
      (composition.packetRadioAdapter, composition.radioPortBackend)
    pure (r.map fun r => (r.1.1, composition.updated r.1.2 r.2))

def startData (composition : Stm32f401LinkComposition) (bound : ℕ) (payload : List UInt8) :
    HalProg (Option (Bool × Stm32f401LinkComposition)) :=
  composition.startRequest bound fun service => service.startData payload

def setResponsePayload (composition : Stm32f401LinkComposition) (payload : List UInt8) :
    Bool × Stm32f401LinkComposition :=
  if ¬ composition.initialized then (false, composition)
  else
    let r := composition.linkService.setResponsePayload payload
    (r.1, { composition with linkService := r.2 })

def takeEvent (composition : Stm32f401LinkComposition) :
    Option (DuplexLinkEvent × Stm32f401LinkComposition) :=
  if ¬ composition.initialized then none
  else composition.linkService.takeEvent.map fun r =>
    (r.1, { composition with linkService := r.2 })

/-! ## What the parts keep -/

section

variable {τ : Type} {env : Env HalOp HalOp.Ans τ} {t t' : τ}

theorem backend_kept {α : Type} {p : PortProg α} {a : α} {b b' : Stm32f4Sx128xPort}
    (hb : b.initialized = true)
    (h : Runs env (interp portHandler p b) t (some (a, b')) t') :
    b'.initialized = true ∧ b'.config = b.config := by
  obtain ⟨tr, ht, -⟩ := h
  obtain ⟨ptr, -, hx⟩ := trace_interp_iff.mp ht
  exact kept_of_expands hx hb

theorem runs_linkHandler_iff {device : Sx128x} {bound : ℕ} {o : LinkOp} {x : o.Ans}
    {q q' : Sx128xPacketRadio × Stm32f4Sx128xPort} :
    Runs env (linkHandler device bound o q) t (some (x, q')) t' ↔
      Runs env (interp portHandler
        (interp (driverHandler device bound) (Sx128xPacketRadio.answer o q.1) ()) q.2) t
        (some (some ((x, q'.1), ()), q'.2)) t' := by
  rw [linkHandler, runs_bind_iff]
  constructor
  · rintro ⟨r, m, hr, h⟩
    obtain ⟨he, rfl⟩ := runs_pure_iff.mp h
    obtain ⟨⟨r, b⟩, rfl, hmap⟩ := Option.bind_eq_some_iff.mp he.symm
    obtain ⟨⟨⟨y, adapter⟩, _⟩, rfl, hx⟩ := Option.map_eq_some_iff.mp hmap
    obtain ⟨rfl, rfl⟩ := Prod.mk.inj hx
    exact hr
  · intro h
    exact ⟨_, t', h, runs_pure_iff.mpr ⟨rfl, rfl⟩⟩

/-! ## What the calls do -/

variable {device : Sx128x} {bound : ℕ} {tr : List HalAction} {c c' : Stm32f401LinkComposition}

/-- An answer to a call of the service is an answer of the adapter, through the driver and the
port. -/
theorem trace_linkHandler {o : LinkOp} {x : o.Ans} {q q' : Sx128xPacketRadio × Stm32f4Sx128xPort}
    (h : Trace (linkHandler device bound o q) tr (some (x, q'))) :
    ∃ driverTr portTr, Trace (Sx128xPacketRadio.answer o q.1) driverTr (x, q'.1) ∧
      Expands (driverHandler device bound) () driverTr portTr () ∧
      Expands portHandler q.2 portTr tr q'.2 := by
  obtain ⟨r, t₁, t₂, h₁, h₂, rfl⟩ := trace_bind_iff.mp h
  obtain ⟨rfl, he⟩ := trace_pure_iff.mp h₂
  obtain ⟨⟨r, b⟩, rfl, hmap⟩ := Option.bind_eq_some_iff.mp he.symm
  obtain ⟨⟨⟨y, adapter⟩, _⟩, rfl, hx⟩ := Option.map_eq_some_iff.mp hmap
  obtain ⟨rfl, rfl⟩ := Prod.mk.inj hx
  obtain ⟨portTr, hport, hexpands⟩ := trace_interp_iff.mp h₁
  obtain ⟨driverTr, hdriver, hcalls⟩ := trace_interp_iff.mp hport
  rw [List.append_nil]
  exact ⟨driverTr, portTr, hdriver, hcalls, hexpands⟩

theorem trace_startRequest {start : DuplexLinkService → LinkProg (Bool × DuplexLinkService)}
    {started : Bool} (hc : c.initialized = true)
    (h : Trace (c.startRequest bound start) tr (some (started, c'))) :
    ∃ linkTr service q, Trace (start c.linkService) linkTr (started, service) ∧
      Expands (linkHandler c.radioDevice bound) (c.packetRadioAdapter, c.radioPortBackend) linkTr
        tr q ∧ c' = c.updated service q := by
  rw [startRequest, if_neg (not_not.mpr hc)] at h
  obtain ⟨r, t₁, t₂, h₁, h₂, rfl⟩ := trace_bind_iff.mp h
  obtain ⟨rfl, he⟩ := trace_pure_iff.mp h₂
  obtain ⟨⟨⟨y, service⟩, q⟩, rfl, hmap⟩ := Option.map_eq_some_iff.mp he.symm
  obtain ⟨rfl, rfl⟩ := Prod.mk.inj hmap
  obtain ⟨linkTr, hlink, hx⟩ := trace_interp_iff.mp h₁
  rw [List.append_nil]
  exact ⟨linkTr, service, q, hlink, hx, rfl⟩

theorem trace_init {config : Stm32f401LinkCompositionConfig}
    (h : Trace (init bound config) tr (some (some c))) :
    c.initialized = true ∧ Stm32Logger.init (config.loggerUart.map (·.address))
      config.loggerTimeoutMs config.logLevel = some c.logger ∧
    ∃ adapter backend before after linkTr,
      Sx128xPacketRadio.init config.packetRadio = some adapter ∧
      Trace (DuplexLinkService.init config.link) linkTr (some c.linkService) ∧
      Expands (linkHandler c.radioDevice bound) (adapter, backend) linkTr after
        (c.packetRadioAdapter, c.radioPortBackend) ∧ tr = before ++ after := by
  rw [init] at h
  split at h
  · exact absurd (trace_pure_iff.mp h).2 (by simp)
  obtain ⟨backend, t₁, t₂, -, h, rfl⟩ := trace_bind_iff.mp h
  cases backend with
  | none => exact absurd (trace_pure_iff.mp h).2 (by simp)
  | some backend =>
    obtain ⟨started, t₃, t₄, -, h, rfl⟩ := trace_bind_iff.mp h
    obtain _ | ⟨_ | _ | device, backend₂⟩ := started
    · exact absurd (trace_pure_iff.mp h).2 (by simp)
    · exact absurd (trace_pure_iff.mp h).2 (by simp)
    · exact absurd (trace_pure_iff.mp h).2 (by simp)
    dsimp only at h
    split at h
    · exact absurd (trace_pure_iff.mp h).2 (by simp)
    rename_i adapter hadapter
    split at h
    · exact absurd (trace_pure_iff.mp h).2 (by simp)
    rename_i logger hlogger
    obtain ⟨served, t₅, t₆, hserve, hlast, rfl⟩ := trace_bind_iff.mp h
    obtain _ | ⟨_ | service, adapter', backend₃⟩ := served
    · exact absurd (trace_pure_iff.mp hlast).2 (by simp)
    · exact absurd (trace_pure_iff.mp hlast).2 (by simp)
    obtain ⟨rfl, he⟩ := trace_pure_iff.mp hlast
    obtain rfl := Option.some.inj (Option.some.inj he)
    obtain ⟨linkTr, hlink, hx⟩ := trace_interp_iff.mp hserve
    refine ⟨rfl, hlogger, adapter, backend₂, t₁ ++ t₃, t₅, linkTr, hadapter, hlink, hx, ?_⟩
    rw [List.append_nil, List.append_assoc]

end

/-! ## The start -/

variable {bound : ℕ} {reset chip : RadioChip} {s' : ChipBus}
  {config : Stm32f401LinkCompositionConfig}

theorem runs_hardwareReset {device : Sx128x} {s : ChipBus} (hready : device.initialized = true)
    {r : Option Sx128xResult}
    (h : Runs (chipPort reset) (device.hardwareReset bound) s r s') : s' = ⟨reset, none⟩ := by
  rw [Sx128x.hardwareReset, if_neg (not_not.mpr hready)] at h
  obtain ⟨_, m₁, h₁, h⟩ := runs_bind_iff.mp h
  obtain ⟨_, m₂, h₂, h⟩ := runs_bind_iff.mp h
  obtain rfl : m₂ = ⟨reset, none⟩ := runs_ask_iff.mp h₂
  obtain ⟨_, m₃, h₃, h⟩ := runs_bind_iff.mp h
  obtain rfl : m₃ = ⟨reset, none⟩ := runs_ask_iff.mp h₃
  obtain ⟨_, m₄, h₄, h⟩ := runs_bind_iff.mp h
  obtain rfl : m₄ = ⟨reset, none⟩ := runs_ask_iff.mp h₄
  obtain ⟨_, m₅, h₅, h⟩ := runs_bind_iff.mp h
  obtain rfl : m₅ = ⟨reset, none⟩ := runs_ask_iff.mp h₅
  exact (runs_waitWhileBusy h).1

/-- A radio that was started is set, whatever was before its reset. -/
theorem runs_startRadio {device : Sx128x} {s : ChipBus}
    (h : Runs (chipPort reset) (startRadio bound config) s (some (some device)) s') :
    device.initialized = true ∧ ∃ chip', s' = ⟨chip', none⟩ ∧ chip'.Configured config.lora ∧
      chip'.buffer = reset.buffer ∧ chip'.irqStatus = reset.irqStatus := by
  rw [startRadio, Sx128x.init, if_neg (by simp)] at h
  obtain ⟨⟨r, started⟩, m, hinit, h⟩ := runs_bind_iff.mp h
  split at hinit
  · obtain ⟨he, rfl⟩ := runs_pure_iff.mp hinit
    obtain ⟨rfl, rfl⟩ := Prod.mk.inj he
    exact absurd (runs_pure_iff.mp h).1 (by simp)
  obtain ⟨_, m₁, -, hinit⟩ := runs_bind_iff.mp hinit
  obtain ⟨_, m₂, -, hinit⟩ := runs_bind_iff.mp hinit
  obtain ⟨he, rfl⟩ := runs_pure_iff.mp hinit
  obtain ⟨rfl, rfl⟩ := Prod.mk.inj he
  obtain ⟨result, m₃, hreset, h⟩ := runs_bind_iff.mp h
  obtain rfl := runs_hardwareReset rfl hreset
  split at h
  · cases result with
    | none => exact absurd (runs_pure_iff.mp h).1 (by simp)
    | some result => exact absurd (runs_pure_iff.mp h).1 (by simp)
  obtain ⟨result', m₄, hconfigure, h⟩ := runs_bind_iff.mp h
  split at h
  · cases result' with
    | none => exact absurd (runs_pure_iff.mp h).1 (by simp)
    | some result' => exact absurd (runs_pure_iff.mp h).1 (by simp)
  rename_i hok
  rw [not_not.mp hok] at hconfigure
  obtain ⟨hvalid, rfl⟩ := runs_configureLoRa hconfigure
  obtain ⟨he, rfl⟩ := runs_pure_iff.mp h
  obtain rfl := Option.some.inj (Option.some.inj he)
  obtain ⟨hbuffer, hirq⟩ := kept_of_commands reset config.lora
  exact ⟨rfl, _, rfl, configured_of_commands hvalid, hbuffer, hirq⟩

/-- The parts of a composition are ready, and go together. -/
structure Ready (composition : Stm32f401LinkComposition)
    (config : Stm32f401LinkCompositionConfig) : Prop where
  backend_initialized : composition.radioPortBackend.initialized = true
  backend_config : composition.radioPortBackend.config = portConfig config
  device_initialized : composition.radioDevice.initialized = true
  adapter_config : composition.packetRadioAdapter.config = config.packetRadio
  adapter_shows : Sx128xPacketRadio.Shows composition.packetRadioAdapter .idle [] false
  service_initial : DuplexLinkService.configIsValid config.link = true ∧
    ∃ now, composition.linkService = DuplexLinkService.initial config.link now
  initialized : composition.initialized = true

theorem runs_serviceInit {device : Sx128x} {adapter adapter' : Sx128xPacketRadio}
    {b b' : Stm32f4Sx128xPort} {service : DuplexLinkService} (hw : Wired (portConfig config))
    (htouched : config.pins.reset.isTouched config.pins.reset = true) (hb : b.initialized = true)
    (hconfig : b.config = portConfig config) (hready : device.initialized = true)
    (h : Runs (chipHal (portConfig config) reset) (interp (linkHandler device bound)
      (DuplexLinkService.init config.link) (adapter, b)) ⟨chip, none⟩
      (some (some service, adapter', b')) s') :
    s' = ⟨chip, none⟩ ∧ adapter' = adapter ∧ b'.initialized = true ∧
      b'.config = portConfig config ∧ DuplexLinkService.configIsValid config.link = true ∧
      ∃ now, service = DuplexLinkService.initial config.link now := by
  obtain ⟨tr, ht, hp⟩ := runs_interp_iff.mp h
  obtain ⟨hvalid, now, rfl, rfl⟩ := DuplexLinkService.trace_init ht
  obtain ⟨q, hnow, rfl⟩ := hp
  have hruns := runs_linkHandler_iff.mp hnow
  obtain ⟨hb₁, hconfig₁⟩ := backend_kept hb hruns
  obtain ⟨chip', rfl, hanswer⟩ := chipDriver_of_chipHal hw htouched hb hconfig hready hruns
  obtain ⟨time, chip'', hdriver, hanswer⟩ := runs_bind_iff.mp hanswer
  obtain rfl : chip'' = chip := runs_ask_iff.mp hdriver
  obtain ⟨he, rfl⟩ := runs_pure_iff.mp hanswer
  obtain ⟨-, rfl⟩ := Prod.mk.inj he
  exact ⟨rfl, rfl, hb₁, hconfig₁.trans hconfig, hvalid, now, rfl⟩

theorem started_of_init {composition : Stm32f401LinkComposition} {s : ChipBus}
    (hseparate : config.pins.nss.isTouched config.pins.reset = false)
    (h : Runs (chipHal (portConfig config) reset) (init bound config) s (some (some composition))
      s') :
    composition.Ready config ∧ configIsValid config = true ∧ ∃ chip' : RadioChip,
      s' = ⟨chip', none⟩ ∧ chip'.Configured config.lora ∧ chip'.buffer = reset.buffer ∧
        chip'.irqStatus = reset.irqStatus := by
  rw [init] at h
  split at h
  · exact absurd (runs_pure_iff.mp h).1 (by simp)
  rename_i hvalid
  obtain ⟨backend, m₁, ⟨inits, hinit, -⟩, h⟩ := runs_bind_iff.mp h
  cases backend with
  | none => exact absurd (runs_pure_iff.mp h).1 (by simp)
  | some backend =>
    have hstarted := Stm32f4Sx128xPort.started_of_init hinit
    have hready := hstarted.initialized
    have hpins := hstarted.config_eq
    obtain ⟨hw, hreset⟩ := hstarted.wired hseparate
    obtain ⟨started, m₂, hstart, h⟩ := runs_bind_iff.mp h
    obtain _ | ⟨_ | _ | device, backend₂⟩ := started
    · exact absurd (runs_pure_iff.mp h).1 (by simp)
    · exact absurd (runs_pure_iff.mp h).1 (by simp)
    · exact absurd (runs_pure_iff.mp h).1 (by simp)
    obtain ⟨hready₂, hpins₂⟩ := backend_kept hready hstart
    obtain ⟨hdevice, chip', rfl, hset⟩ :=
      runs_startRadio (chipPort_of_chipHal hw hreset hready hpins hstart)
    dsimp only at h
    split at h
    · exact absurd (runs_pure_iff.mp h).1 (by simp)
    rename_i adapter hadapter
    split at h
    · exact absurd (runs_pure_iff.mp h).1 (by simp)
    obtain ⟨served, m₃, hserve, hlast⟩ := runs_bind_iff.mp h
    obtain _ | ⟨_ | service, adapter', backend₃⟩ := served
    · exact absurd (runs_pure_iff.mp hlast).1 (by simp)
    · exact absurd (runs_pure_iff.mp hlast).1 (by simp)
    obtain ⟨rfl, rfl, hready₃, hpins₃, hlink⟩ :=
      runs_serviceInit hw hreset hready₂ (hpins₂.trans hpins) hdevice hserve
    obtain ⟨he, rfl⟩ := runs_pure_iff.mp hlast
    obtain rfl := Option.some.inj (Option.some.inj he)
    have hshows := Sx128xPacketRadio.shows_init hadapter
    have hconfig : adapter'.config = config.packetRadio := by
      rw [Sx128xPacketRadio.init] at hadapter
      split at hadapter
      · cases hadapter
      · rw [← Option.some.inj hadapter]
    exact ⟨⟨hready₃, hpins₃, hdevice, hconfig, hshows, hlink, rfl⟩, not_not.mp hvalid, chip', rfl,
      hset⟩

end Stm32f401LinkComposition

/-- The configuration that the firmware starts a node with. -/
def defaultConfig (role : DuplexLinkRole) : Stm32f401LinkCompositionConfig :=
  (Stm32f401LinkComposition.configInitDefaults (some ⟨1, .spi1, Nat.one_ne_zero⟩)
    (some ⟨1, .usart2, Nat.one_ne_zero⟩) role).get rfl

end RadioConnection
