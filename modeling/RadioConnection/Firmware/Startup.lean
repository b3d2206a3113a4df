import RadioConnection.Platform.RecoveryInterrupts
import RadioConnection.Platform.UartTx
import RadioConnection.Radio.AppMain
import RadioConnection.Radio.TelemetryService

/-!
# The start of the firmware

`app_main_init` and `stm32f407_radio_composition_init` of the F407 firmware as one
sequence of statements, with the callbacks of the HAL between them.  The reception
is started early, and the callbacks do nothing until the end.

A statement is `none` where the firmware stops in `Error_Handler`.  The log lines
are left out; a gap has room for any number of callbacks.

* `startup`: the state that the first poll finds.
* `startup_error_iff`: which errors of the reception it knows of.
-/

namespace RadioConnection

/-! ## The composition -/

/-- `&huart2`, the UART of the receiver. -/
def huart2 : ℕ := 2

def fk407m3RadioDmaBufferSize : ℕ := 256
def fk407m3RadioFailsafeTimeoutMs : UInt32 := 100

/-- A part that has not been initialised since the `memset` is `none`. -/
structure Stm32f407RadioComposition where
  uartDmaBackend : Stm32f4UartDmaBackend
  uartTxBackend : Stm32f4UartTxBackend
  transport : Option Stm32UartDmaTransport
  crsfContext : Option CrsfProtocolContext
  telemetryService : Option CrsfTelemetryService
  service : Option (RcReceiverService CrsfProtocolContext)
  initialized : Bool

namespace Stm32f407RadioComposition

/-- `memset`: the backends belong to no UART. -/
def zero : Stm32f407RadioComposition where
  uartDmaBackend := ⟨0, 0, 0, false, 0, false, ⟨0, 0, 0, 0, 0, 0, 0, 0⟩⟩
  uartTxBackend := .init 0
  transport := none
  crsfContext := none
  telemetryService := none
  service := none
  initialized := false

/-- `stm32f407_radio_composition_on_uart_rx_event`. -/
def onUartRxEvent (composition : Stm32f407RadioComposition) (uart : ℕ) (dmaPosition : UInt16) :
    Stm32f407RadioComposition :=
  if ¬ composition.initialized then composition
  else
    { composition with
      uartDmaBackend := composition.uartDmaBackend.onRxEvent uart dmaPosition }

/-- `stm32f407_radio_composition_on_uart_error`. -/
def onUartError (composition : Stm32f407RadioComposition) (uart : ℕ) (errorCode : UInt32) :
    Stm32f407RadioComposition :=
  if ¬ composition.initialized then composition
  else
    { composition with
      uartDmaBackend := composition.uartDmaBackend.onError uart errorCode
      uartTxBackend := composition.uartTxBackend.onError uart }

/-- `stm32f407_radio_composition_is_failsafe`. -/
def isFailsafe (composition : Stm32f407RadioComposition) : Bool :=
  if ¬ composition.initialized then true
  else composition.service.elim true RcReceiverService.isFailsafe

end Stm32f407RadioComposition

/-! ## The application -/

/-- The statics of `app_main.c`. -/
structure Startup where
  radio : Stm32f407RadioComposition
  channelMapper : RcChannelMapper
  controlPolicy : RcControlPolicy
  latestControlCommand : RcControlCommand
  initialized : Bool
  linkSeen : Bool
  previousFailsafe : Bool
  hasControlCommand : Bool
  lastStatusTimeMs : UInt32
  /-- `stm32f4_uart_dma_backend_start` has succeeded. -/
  receiving : Bool
  /-- The error callback of the receiver UART has run since then. -/
  errorSinceStart : Bool
  /-- It has run since `s_initialized` was set. -/
  errorSinceReady : Bool

/-- What the hardware answers during the start. -/
structure Boot where
  /-- The result of `board_validate_configuration`. -/
  validationErrors : UInt32
  /-- The UARTs pass the checks of the board. -/
  uartsValid : Bool
  /-- `HAL_UARTEx_ReceiveToIdle_DMA` returns `HAL_OK`. -/
  receiveOk : Bool
  /-- The clock when the receiver service is initialised. -/
  serviceMs : UInt32
  /-- The clock at the end. -/
  tickMs : UInt32

namespace Startup

open Interleaving (serve exec)

/-- Static storage. -/
def zero : Startup where
  radio := .zero
  channelMapper := ⟨[], false⟩
  controlPolicy := ⟨⟨0, 0, 0, false⟩, false, false, false⟩
  latestControlCommand := .zero
  initialized := false
  linkSeen := false
  previousFailsafe := true
  hasControlCommand := false
  lastStatusTimeMs := 0
  receiving := false
  errorSinceStart := false
  errorSinceReady := false

/-- `HAL_UARTEx_RxEventCallback` and `HAL_UART_ErrorCallback`. -/
def callback (s : Startup) : UartInterrupt → Startup
  | .rxEvent uart dmaPosition =>
    if ¬ s.initialized ∨ uart ≠ huart2 then s
    else { s with radio := s.radio.onUartRxEvent uart dmaPosition }
  | .error uart errorCode =>
    let s := { s with
      errorSinceStart := s.errorSinceStart || (s.receiving && decide (uart = huart2))
      errorSinceReady := s.errorSinceReady || (s.initialized && decide (uart = huart2)) }
    if ¬ s.initialized ∨ uart ≠ huart2 then s
    else { s with radio := s.radio.onUartError uart errorCode }

/-! ## The statements -/

def validate (boot : Boot) (s : Startup) : Option Startup :=
  if boot.validationErrors ≠ 0 then none else some s

/-- The checks of `stm32f407_radio_composition_init`, and its `memset`. -/
def clearRadio (boot : Boot) (s : Startup) : Option Startup :=
  if ¬ boot.uartsValid then none else some { s with radio := .zero }

def initDmaBackend (s : Startup) : Option Startup :=
  (Stm32f4UartDmaBackend.init huart2 fk407m3RadioDmaBufferSize).map fun backend =>
    { s with radio := { s.radio with uartDmaBackend := backend } }

/-- `stm32f4_uart_dma_backend_start` up to the call of the HAL. -/
def clearDmaBackend (s : Startup) : Option Startup :=
  some { s with radio := { s.radio with
    uartDmaBackend := { s.radio.uartDmaBackend with
      lastDmaPosition := 0, recoveryRequested := false } } }

/-- The rest of it. -/
def beginReceive (boot : Boot) (s : Startup) : Option Startup :=
  match s.radio.uartDmaBackend.beginReceive boot.receiveOk with
  | (false, _) => none
  | (true, backend) =>
    some { s with radio := { s.radio with uartDmaBackend := backend }, receiving := true }

def initTransport (s : Startup) : Option Startup :=
  (Stm32UartDmaTransport.init fk407m3RadioDmaBufferSize
    s.radio.uartDmaBackend.producedCount).map fun transport =>
      { s with radio := { s.radio with transport := some transport } }

def initProtocol (s : Startup) : Option Startup :=
  some { s with radio := { s.radio with crsfContext := some .init } }

def initTxBackend (s : Startup) : Option Startup :=
  some { s with radio := { s.radio with uartTxBackend := .init huart2 } }

/-- The configuration of the firmware is that of `crsf_telemetry_service_config_init`. -/
def initTelemetry (s : Startup) : Option Startup :=
  (CrsfTelemetryService.init s.radio.crsfContext crsfTelemetryServiceConfigInit).map fun service =>
    { s with radio := { s.radio with telemetryService := some service } }

def initReceiver (boot : Boot) (s : Startup) : Option Startup :=
  s.radio.crsfContext.map fun context =>
    { s with radio := { s.radio with
      service := some (.init crsfProtocol context boot.serviceMs fk407m3RadioFailsafeTimeoutMs) } }

def setRadioInitialized (s : Startup) : Option Startup :=
  some { s with radio := { s.radio with initialized := true } }

/-- `demo_battery`. -/
def demoBattery : CrsfBatteryTelemetry := ⟨16800, 1250, 42, 75⟩

/-- `stm32f407_radio_composition_set_battery_telemetry`. -/
def setDemoBattery (s : Startup) : Option Startup :=
  some { s with radio := { s.radio with
    telemetryService := s.radio.telemetryService.map (·.setBattery demoBattery) } }

/-- `"BENCH"`. -/
def demoFlightMode : List UInt8 := [66, 69, 78, 67, 72, 0]

/-- `stm32f407_radio_composition_set_flight_mode`, and the check of its result. -/
def setDemoFlightMode (s : Startup) : Option Startup :=
  match s.radio.telemetryService with
  | none => none
  | some service =>
    match service.setFlightMode demoFlightMode with
    | (false, _) => none
    | (true, service) => some { s with radio := { s.radio with telemetryService := some service } }

def initMapper (s : Startup) : Option Startup :=
  (RcChannelMapper.init AppMain.radioControlProfile).map fun mapper =>
    { s with channelMapper := mapper }

def initPolicy (s : Startup) : Option Startup :=
  (RcControlPolicy.init AppMain.controlConfig).map fun policy => { s with controlPolicy := policy }

def runPolicy (s : Startup) : Option Startup :=
  match s.controlPolicy.process none with
  | none => some { s with hasControlCommand := false }
  | some (policy, command) =>
    some { s with
      controlPolicy := policy
      latestControlCommand := command
      hasControlCommand := true }

def setInitialized (s : Startup) : Option Startup := some { s with initialized := true }

def setLinkSeen (s : Startup) : Option Startup := some { s with linkSeen := false }

def setPreviousFailsafe (s : Startup) : Option Startup :=
  some { s with previousFailsafe := s.radio.isFailsafe }

def setLastStatusTime (boot : Boot) (s : Startup) : Option Startup :=
  some { s with lastStatusTimeMs := boot.tickMs }

def beforeReceive (boot : Boot) : List (Startup → Option Startup) :=
  [validate boot, clearRadio boot, initDmaBackend, clearDmaBackend]

/-- The statements from then on until `s_initialized` is set. -/
def beforeReady (boot : Boot) : List (Startup → Option Startup) :=
  [initTransport, initProtocol, initTxBackend, initTelemetry, initReceiver boot,
    setRadioInitialized, setDemoBattery, setDemoFlightMode, initMapper, initPolicy, runPolicy]

def afterReady (boot : Boot) : List (Startup → Option Startup) :=
  [setLinkSeen, setPreviousFailsafe, setLastStatusTime boot]

/-- `app_main_init`. -/
def initCode (boot : Boot) : List (Option Startup → Option Startup) :=
  (beforeReceive boot ++ [beginReceive boot] ++ beforeReady boot ++ [setInitialized] ++
    afterReady boot).map fun statement s => s.bind statement

/-- The state in which `app_main_poll` first calls `stm32f407_radio_composition_process`; `none`
when the firmware has stopped in `Error_Handler`. -/
def startup (gaps : ℕ → List UartInterrupt) (boot : Boot) : Option Startup :=
  serve (fun s i => s.map (callback · i)) gaps (initCode boot).length
    (exec (fun s i => s.map (callback · i)) gaps 0 (initCode boot) (some zero))

/-! ## Phases -/

section

variable {gaps : ℕ → List UartInterrupt} {P Q : Startup → Prop}

/-- Statements that do nothing once the firmware has stopped. -/
def guarded (statements : List (Startup → Option Startup)) :
    List (Option Startup → Option Startup) :=
  statements.map fun statement s => s.bind statement

theorem phase {statements : List (Startup → Option Startup)} {o : Option Startup} (n : ℕ)
    (hcallback : ∀ s i, P s → P (callback s i))
    (hkeep : ∀ f ∈ statements, ∀ s s', P s → f s = some s' → P s') (ho : ∀ s ∈ o, P s) :
    ∀ s ∈ exec (fun s i => s.map (callback · i)) gaps n (guarded statements) o, P s := by
  refine Interleaving.exec_invariant (P := fun o : Option Startup => ∀ s ∈ o, P s) n ho ?_ ?_
  · intro o i ho s hs
    obtain ⟨s₀, hs₀, rfl⟩ := Option.map_eq_some_iff.mp hs
    exact hcallback s₀ i (ho s₀ hs₀)
  · intro g hg o ho s hs
    obtain ⟨f, hf, rfl⟩ := List.mem_map.mp hg
    obtain ⟨s₀, hs₀, hfs⟩ := Option.bind_eq_some_iff.mp hs
    exact hkeep f hf s₀ s (ho s₀ hs₀) hfs

theorem nextPhase {f : Startup → Option Startup} {o : Option Startup} (n : ℕ)
    (hcallback : ∀ s i, P s → P (callback s i)) (hf : ∀ s s', P s → f s = some s' → Q s')
    (ho : ∀ s ∈ o, P s) :
    ∀ s ∈ exec (fun s i => s.map (callback · i)) gaps n (guarded [f]) o, Q s := by
  intro s hs
  obtain ⟨s₀, hs₀, hfs⟩ := Option.bind_eq_some_iff.mp hs
  refine hf s₀ s (Interleaving.serve_invariant
    (P := fun o : Option Startup => ∀ s ∈ o, P s) n ho ?_ s₀ hs₀) hfs
  intro o i ho s hs
  obtain ⟨s₁, hs₁, rfl⟩ := Option.map_eq_some_iff.mp hs
  exact hcallback s₁ i (ho s₁ hs₁)

end

/-! ## The invariants of the phases -/

structure Gated (s : Startup) : Prop where
  initialized : s.initialized = false
  sinceReady : s.errorSinceReady = false

structure Quiet (s : Startup) : Prop extends Gated s where
  uart : s.radio.uartDmaBackend.uart = huart2
  requested : s.radio.uartDmaBackend.recoveryRequested = false

/-- Only `s_initialized` is missing. -/
structure Prepared (s : Startup) : Prop extends Quiet s where
  radio : s.radio.initialized = true

/-- The callbacks reach the backend. -/
structure Open (s : Startup) : Prop where
  initialized : s.initialized = true
  radio : s.radio.initialized = true
  uart : s.radio.uartDmaBackend.uart = huart2
  requested : s.radio.uartDmaBackend.recoveryRequested = s.errorSinceReady

theorem Gated.callback {s : Startup} (h : Gated s) (i : UartInterrupt) :
    Gated (s.callback i) ∧ (s.callback i).radio = s.radio := by
  cases i with
  | rxEvent uart dmaPosition =>
    have hgate : ¬ s.initialized ∨ uart ≠ huart2 := by
      rw [h.initialized]
      exact .inl nofun
    rw [Startup.callback, if_pos hgate]
    exact ⟨h, rfl⟩
  | error uart errorCode =>
    have hgate : ¬ s.initialized ∨ uart ≠ huart2 := by
      rw [h.initialized]
      exact .inl nofun
    dsimp only [Startup.callback]
    rw [if_pos hgate]
    refine ⟨⟨h.initialized, ?_⟩, rfl⟩
    show (s.errorSinceReady || (s.initialized && decide (uart = huart2))) = false
    rw [h.sinceReady, h.initialized]
    rfl

theorem Quiet.callback {s : Startup} (h : Quiet s) (i : UartInterrupt) : Quiet (s.callback i) := by
  obtain ⟨hgated, hradio⟩ := h.toGated.callback i
  refine ⟨hgated, ?_, ?_⟩
  · rw [hradio]
    exact h.uart
  · rw [hradio]
    exact h.requested

theorem Prepared.callback {s : Startup} (h : Prepared s) (i : UartInterrupt) :
    Prepared (s.callback i) := by
  refine ⟨h.toQuiet.callback i, ?_⟩
  rw [(h.toGated.callback i).2]
  exact h.radio

theorem Open.callback {s : Startup} (h : Open s) (i : UartInterrupt) : Open (s.callback i) := by
  cases i with
  | rxEvent uart dmaPosition =>
    rw [Startup.callback]
    split_ifs with hgate
    · exact h
    · obtain ⟨huart, hrequested, _⟩ :=
        RecoveryRun.onRxEvent_flags s.radio.uartDmaBackend uart dmaPosition
      have hradio : s.radio.onUartRxEvent uart dmaPosition = { s.radio with
          uartDmaBackend := s.radio.uartDmaBackend.onRxEvent uart dmaPosition } :=
        if_neg (not_not.mpr h.radio)
      rw [hradio]
      exact ⟨h.initialized, h.radio, huart.trans h.uart, hrequested.trans h.requested⟩
  | error uart errorCode =>
    dsimp only [Startup.callback]
    by_cases huart : uart = huart2
    · have hgate : ¬ (¬ s.initialized = true ∨ uart ≠ huart2) := by
        rw [h.initialized]
        exact not_or.mpr ⟨not_not.mpr rfl, not_not.mpr huart⟩
      have hradio : s.radio.onUartError uart errorCode = { s.radio with
          uartDmaBackend := s.radio.uartDmaBackend.onError uart errorCode
          uartTxBackend := s.radio.uartTxBackend.onError uart } :=
        if_neg (not_not.mpr h.radio)
      have hsame : uart = s.radio.uartDmaBackend.uart := huart.trans h.uart.symm
      rw [if_neg hgate, hradio, Stm32f4UartDmaBackend.onError, if_neg (not_not.mpr hsame)]
      refine ⟨h.initialized, h.radio, h.uart, ?_⟩
      show true = (s.errorSinceReady || (s.initialized && decide (uart = huart2)))
      rw [h.initialized, decide_eq_true huart, Bool.and_self, Bool.or_true]
    · rw [if_pos (.inr huart)]
      refine ⟨h.initialized, h.radio, h.uart, ?_⟩
      show s.radio.uartDmaBackend.recoveryRequested =
        (s.errorSinceReady || (s.initialized && decide (uart = huart2)))
      rw [decide_eq_false huart, Bool.and_false, Bool.or_false]
      exact h.requested

/-! ## The phases of the code -/

theorem gated_zero : ∀ s ∈ some zero, Gated s := by
  intro s hs
  obtain rfl := Option.some.inj hs
  exact ⟨rfl, rfl⟩

theorem initDmaBackend_quiet (s s' : Startup) (h : Gated s) (hs : initDmaBackend s = some s') :
    Quiet s' := by
  obtain ⟨backend, hbackend, rfl⟩ := Option.map_eq_some_iff.mp hs
  obtain rfl := Option.some.inj hbackend
  exact ⟨⟨h.initialized, h.sinceReady⟩, rfl, rfl⟩

theorem beginReceive_quiet (boot : Boot) (s s' : Startup) (h : Quiet s)
    (hs : beginReceive boot s = some s') : Quiet s' := by
  unfold beginReceive Stm32f4UartDmaBackend.beginReceive at hs
  by_cases hok : boot.receiveOk = true
  · rw [if_neg (not_not.mpr hok)] at hs
    obtain rfl := Option.some.inj hs
    exact ⟨⟨h.initialized, h.sinceReady⟩, h.uart, h.requested⟩
  · rw [if_pos hok] at hs
    nomatch hs

/-- A statement that leaves the backend and the gates alone. -/
structure Aside (s s' : Startup) : Prop where
  initialized : s'.initialized = s.initialized
  sinceReady : s'.errorSinceReady = s.errorSinceReady
  backend : s'.radio.uartDmaBackend = s.radio.uartDmaBackend
  radio : s'.radio.initialized = s.radio.initialized

theorem Quiet.aside {s s' : Startup} (h : Quiet s) (ha : Aside s s') : Quiet s' where
  initialized := ha.initialized.trans h.initialized
  sinceReady := ha.sinceReady.trans h.sinceReady
  uart := (congrArg _ ha.backend).trans h.uart
  requested := (congrArg _ ha.backend).trans h.requested

theorem Prepared.aside {s s' : Startup} (h : Prepared s) (ha : Aside s s') : Prepared s' where
  toQuiet := h.toQuiet.aside ha
  radio := ha.radio.trans h.radio

theorem Open.aside {s s' : Startup} (h : Open s) (ha : Aside s s') : Open s' where
  initialized := ha.initialized.trans h.initialized
  radio := ha.radio.trans h.radio
  uart := (congrArg _ ha.backend).trans h.uart
  requested := ((congrArg _ ha.backend).trans h.requested).trans ha.sinceReady.symm

theorem aside_partsInit (boot : Boot) {f : Startup → Option Startup}
    (hf : f ∈ [initTransport, initProtocol, initTxBackend, initTelemetry, initReceiver boot])
    {s s' : Startup} (hs : f s = some s') : Aside s s' := by
  simp only [List.mem_cons, List.not_mem_nil, or_false] at hf
  rcases hf with rfl | rfl | rfl | rfl | rfl
  · obtain ⟨_, _, rfl⟩ := Option.map_eq_some_iff.mp hs
    exact ⟨rfl, rfl, rfl, rfl⟩
  · obtain rfl := Option.some.inj hs
    exact ⟨rfl, rfl, rfl, rfl⟩
  · obtain rfl := Option.some.inj hs
    exact ⟨rfl, rfl, rfl, rfl⟩
  · obtain ⟨_, _, rfl⟩ := Option.map_eq_some_iff.mp hs
    exact ⟨rfl, rfl, rfl, rfl⟩
  · obtain ⟨_, _, rfl⟩ := Option.map_eq_some_iff.mp hs
    exact ⟨rfl, rfl, rfl, rfl⟩

theorem aside_setDemoFlightMode {s s' : Startup} (hs : setDemoFlightMode s = some s') :
    Aside s s' := by
  unfold setDemoFlightMode at hs
  split at hs
  · nomatch hs
  · split at hs
    · nomatch hs
    · obtain rfl := Option.some.inj hs
      exact ⟨rfl, rfl, rfl, rfl⟩

theorem aside_runPolicy {s s' : Startup} (hs : runPolicy s = some s') : Aside s s' := by
  unfold runPolicy at hs
  split at hs
  · obtain rfl := Option.some.inj hs
    exact ⟨rfl, rfl, rfl, rfl⟩
  · obtain rfl := Option.some.inj hs
    exact ⟨rfl, rfl, rfl, rfl⟩

theorem aside_application {f : Startup → Option Startup}
    (hf : f ∈ [setDemoBattery, setDemoFlightMode, initMapper, initPolicy, runPolicy])
    {s s' : Startup} (hs : f s = some s') : Aside s s' := by
  simp only [List.mem_cons, List.not_mem_nil, or_false] at hf
  rcases hf with rfl | rfl | rfl | rfl | rfl
  · obtain rfl := Option.some.inj hs
    exact ⟨rfl, rfl, rfl, rfl⟩
  · exact aside_setDemoFlightMode hs
  · obtain ⟨_, _, rfl⟩ := Option.map_eq_some_iff.mp hs
    exact ⟨rfl, rfl, rfl, rfl⟩
  · obtain ⟨_, _, rfl⟩ := Option.map_eq_some_iff.mp hs
    exact ⟨rfl, rfl, rfl, rfl⟩
  · exact aside_runPolicy hs

theorem aside_afterReady (boot : Boot) {f : Startup → Option Startup} (hf : f ∈ afterReady boot)
    {s s' : Startup} (hs : f s = some s') : Aside s s' := by
  simp only [afterReady, List.mem_cons, List.not_mem_nil, or_false] at hf
  rcases hf with rfl | rfl | rfl <;>
  · obtain rfl := Option.some.inj hs
    exact ⟨rfl, rfl, rfl, rfl⟩

theorem gated_statements (boot : Boot) (f : Startup → Option Startup)
    (hf : f ∈ [validate boot, clearRadio boot]) (s s' : Startup) (h : Gated s)
    (hs : f s = some s') : Gated s' := by
  simp only [List.mem_cons, List.not_mem_nil, or_false] at hf
  rcases hf with rfl | rfl
  · unfold validate at hs
    split_ifs at hs
    obtain rfl := Option.some.inj hs
    exact h
  · unfold clearRadio at hs
    split_ifs at hs
    obtain rfl := Option.some.inj hs
    exact ⟨h.initialized, h.sinceReady⟩

/-- The code, phase by phase. -/
theorem initCode_eq (boot : Boot) : initCode boot =
    guarded [validate boot, clearRadio boot] ++ (guarded [initDmaBackend] ++
      (guarded [clearDmaBackend, beginReceive boot, initTransport, initProtocol, initTxBackend,
        initTelemetry, initReceiver boot] ++ (guarded [setRadioInitialized] ++
      (guarded [setDemoBattery, setDemoFlightMode, initMapper, initPolicy, runPolicy] ++
      (guarded [setInitialized] ++ guarded (afterReady boot)))))) := rfl

/-- The first poll finds open gates. -/
theorem startup_open (gaps : ℕ → List UartInterrupt) (boot : Boot) :
    ∀ s ∈ startup gaps boot, Open s := by
  have hopen : ∀ s i, Open s → Open (callback s i) := fun s i h => h.callback i
  refine Interleaving.serve_invariant (P := fun o : Option Startup => ∀ s ∈ o, Open s) _ ?_ ?_
  · rw [initCode_eq]
    simp only [Interleaving.exec_append]
    refine phase _ hopen (fun f hf s s' h hs => h.aside (aside_afterReady boot hf hs)) ?_
    refine nextPhase (P := Prepared) _ (fun s i h => h.callback i) ?_ ?_
    · intro s s' h hs
      obtain rfl := Option.some.inj hs
      exact ⟨rfl, h.radio, h.uart, h.requested.trans h.sinceReady.symm⟩
    refine phase _ (fun s i h => h.callback i)
      (fun f hf s s' h hs => h.aside (aside_application hf hs)) ?_
    refine nextPhase (P := Quiet) _ (fun s i h => h.callback i) ?_ ?_
    · intro s s' h hs
      obtain rfl := Option.some.inj hs
      exact ⟨⟨⟨h.initialized, h.sinceReady⟩, h.uart, h.requested⟩, rfl⟩
    refine phase _ (fun s i h => h.callback i) ?_ ?_
    · intro f hf s s' h hs
      rcases List.mem_cons.mp hf with rfl | hf
      · obtain rfl := Option.some.inj hs
        exact ⟨⟨h.initialized, h.sinceReady⟩, h.uart, rfl⟩
      · rcases List.mem_cons.mp hf with rfl | hf
        · exact beginReceive_quiet boot s s' h hs
        · exact h.aside (aside_partsInit boot hf hs)
    refine nextPhase (P := Gated) _ (fun s i h => (h.callback i).1) initDmaBackend_quiet ?_
    exact phase _ (fun s i h => (h.callback i).1) (gated_statements boot) gated_zero
  · intro o i ho s hs
    obtain ⟨s₀, hs₀, rfl⟩ := Option.map_eq_some_iff.mp hs
    exact hopen s₀ i (ho s₀ hs₀)

/-- **An error of the reception is known to the first poll exactly when one comes after
`s_initialized` is set.** -/
theorem startup_error_iff (gaps : ℕ → List UartInterrupt) (boot : Boot) {s : Startup}
    (h : startup gaps boot = some s) :
    (s.errorSinceStart = true → s.radio.uartDmaBackend.recoveryRequested = true) ↔
      (s.errorSinceStart = true → s.errorSinceReady = true) := by
  have hopen := startup_open gaps boot s h
  rw [hopen.requested]

def goodBoot : Boot := ⟨0, true, true, 0, 0⟩

/-- What is known of the error in a gap. -/
def known (gap : ℕ) : Option (Bool × Bool) :=
  (startup (RecoveryRun.errorIn gap) goodBoot).map fun s => (s.errorSinceStart, s.errorSinceReady)

/-- An error behind the last statement is known to the first poll. -/
theorem startup_error_iff_last : ∃ s, startup (RecoveryRun.errorIn 20) goodBoot = some s ∧
    s.radio.uartDmaBackend.recoveryRequested = true := by
  have hknown : known 20 = some (true, true) := by decide
  obtain ⟨s, hs, hflags⟩ := Option.map_eq_some_iff.mp hknown
  have hstart : s.errorSinceStart = true := congrArg Prod.fst hflags
  have hready : s.errorSinceReady = true := congrArg Prod.snd hflags
  exact ⟨s, hs, (startup_error_iff _ goodBoot hs).mpr (fun _ => hready) hstart⟩

/-- **An error right after the start of the reception is lost.** -/
theorem startup_error_lost : ¬ ∀ (gaps : ℕ → List UartInterrupt) (boot : Boot) (s : Startup),
    startup gaps boot = some s → s.errorSinceStart = true →
      s.radio.uartDmaBackend.recoveryRequested = true := by
  intro hclaim
  have hlost : (startup (RecoveryRun.errorIn 5) goodBoot).map (fun s =>
      (s.errorSinceStart, s.radio.uartDmaBackend.recoveryRequested)) = some (true, false) := by
    decide
  obtain ⟨s, hs, hflags⟩ := Option.map_eq_some_iff.mp hlost
  have hstart : s.errorSinceStart = true := congrArg Prod.fst hflags
  have hnot : s.radio.uartDmaBackend.recoveryRequested = false := congrArg Prod.snd hflags
  have hrequested := hclaim _ goodBoot s hs hstart
  rw [hnot] at hrequested
  nomatch hrequested

end Startup

end RadioConnection
