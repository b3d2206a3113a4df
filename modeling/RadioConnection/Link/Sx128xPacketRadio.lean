import RadioConnection.Drivers.Sx128xTypes
import RadioConnection.Link.PacketRadio

/-!
# The radio adapter

`sx128x_packet_radio.c`: the radio of the link service on top of the SX128x
driver.  Its functions are programs over the calls of the driver, whose results
are all arbitrary, and `answer` puts them in the place of the calls of the
service.  `DriverOp.refused` is no call of the source: it marks a push that the
event queue refuses.

* `answer`: the adapter as the environment of the service.
* `Shows`: what the adapter shows of itself, its state, its queue and its frame
  flag; `Failed` is an adapter that has reported one error.
* `shows_recover`, `shows_tryStartTx`, `shows_process` and so on: what each call
  of the service does to that, and that it refuses no push.
-/

namespace RadioConnection

def sx128xPacketRadioEventCapacity : Nat := 4
def sx128xPacketRadioContinuousRxCount : UInt16 := 0xFFFF
def sx128xPacketRadioMaxTimedRxMs : UInt32 := 0xFFFE
def sx128xPacketRadioErrorInvalidRxLength : UInt16 := 0x0201
def sx128xPacketRadioErrorUnexpectedIrq : UInt16 := 0x0202
def sx128xPacketRadioErrorEventQueueFull : UInt16 := 0x0203

/-! ## The calls of the driver -/

inductive DriverOp
  | nowMs
  | elapsedMs (sinceMs : UInt32)
  | clearIrqStatus (mask : UInt16)
  | writeBuffer (offset : UInt8) (data : List UInt8)
  | setTx (timeoutBase : UInt8) (timeoutCount : UInt16)
  | setRx (timeoutBase : UInt8) (timeoutCount : UInt16)
  | setStandby
  | takeDio1Event
  | getIrqStatus
  | getRxBufferStatus
  | readBuffer (offset length : UInt8)
  | getLoRaPacketStatus
  | refused
  deriving DecidableEq

abbrev DriverOp.Ans : DriverOp → Type
  | nowMs => UInt32
  | elapsedMs _ => UInt32
  | clearIrqStatus _ => Sx128xResult
  | writeBuffer _ _ => Sx128xResult
  | setTx _ _ => Sx128xResult
  | setRx _ _ => Sx128xResult
  | setStandby => Sx128xResult
  | takeDio1Event => Bool
  | getIrqStatus => Sx128xResult × UInt16
  | getRxBufferStatus => Sx128xResult × Sx128xRxBufferStatus
  | readBuffer _ _ => Sx128xResult × List UInt8
  | getLoRaPacketStatus => Sx128xResult × Sx128xLoRaPacketStatus
  | refused => Unit

abbrev DriverProg : Type → Type := Interaction.Prog DriverOp DriverOp.Ans

/-- A call of the driver with its answer. -/
abbrev DriverAction : Type := Interaction.Action DriverOp DriverOp.Ans

def driver (o : DriverOp) : DriverProg o.Ans := Interaction.Prog.ask o

/-! ## The adapter -/

structure Sx128xPacketRadioConfig where
  txBufferOffset : UInt8
  frameLength : Nat
  txTimeoutBase : UInt8
  txTimeoutCount : UInt16
  deriving DecidableEq, Repr

structure Sx128xPacketRadio where
  config : Sx128xPacketRadioConfig
  state : PacketRadioState
  events : RingBuffer PacketRadioEvent sx128xPacketRadioEventCapacity
  rxFrame : PacketRadioRxFrame
  rxFrameAvailable : Bool
  initialized : Bool
  deriving DecidableEq

namespace Sx128xPacketRadio

def driverError (result : Sx128xResult) : UInt16 := 0x0100 ||| result.code

def pushEvent (adapter : Sx128xPacketRadio) (type : PacketRadioEventType)
    (deviceErrorCode : UInt16) : DriverProg (Bool × Sx128xPacketRadio) :=
  if adapter.events.isFull then do
    driver .refused
    pure (false, adapter)
  else pure (true, { adapter with events := adapter.events.push ⟨type, deviceErrorCode⟩ })

def enterError (adapter : Sx128xPacketRadio) (errorCode : UInt16) :
    DriverProg Sx128xPacketRadio := do
  let adapter := { adapter with state := .error, rxFrameAvailable := false }
  let (pushed, adapter) ← pushEvent adapter .deviceError errorCode
  if pushed then pure adapter
  else
    let (_, adapter) ← pushEvent { adapter with events := adapter.events.clear } .deviceError
      sx128xPacketRadioErrorEventQueueFull
    pure adapter

def runCommand (adapter : Sx128xPacketRadio) (result : Sx128xResult) :
    DriverProg (Bool × Sx128xPacketRadio) :=
  if result = .ok then pure (true, adapter)
  else do
    let adapter ← enterError adapter (driverError result)
    pure (false, adapter)

def configIsValid (config : Sx128xPacketRadioConfig) : Bool :=
  0 < config.frameLength && config.frameLength ≤ 255 &&
  config.txBufferOffset.toNat + config.frameLength ≤ 256 && config.txTimeoutBase ≤ 3 &&
  0 < config.txTimeoutCount && config.txTimeoutCount < 0xFFFF

def tryStartTx (adapter : Sx128xPacketRadio) (data : List UInt8) :
    DriverProg (Bool × Sx128xPacketRadio) :=
  if ¬ adapter.initialized ∨ adapter.state ≠ .idle ∨ data.length ≠ adapter.config.frameLength then
    pure (false, adapter)
  else do
    let (ok, adapter) ← runCommand adapter (← driver (.clearIrqStatus sx128xIrqAll))
    if ¬ ok then pure (false, adapter)
    else
      let (ok, adapter) ← runCommand adapter
        (← driver (.writeBuffer adapter.config.txBufferOffset data))
      if ¬ ok then pure (false, adapter)
      else
        let (ok, adapter) ← runCommand adapter
          (← driver (.setTx adapter.config.txTimeoutBase adapter.config.txTimeoutCount))
        if ¬ ok then pure (false, adapter)
        else pure (true, { adapter with state := .tx })

def tryStartRx (adapter : Sx128xPacketRadio) (timeoutMs : UInt32) :
    DriverProg (Bool × Sx128xPacketRadio) :=
  if ¬ adapter.initialized ∨ adapter.state ≠ .idle ∨ adapter.rxFrameAvailable ∨
      sx128xPacketRadioMaxTimedRxMs < timeoutMs then
    pure (false, adapter)
  else do
    let timeoutCount :=
      if timeoutMs = 0 then sx128xPacketRadioContinuousRxCount else timeoutMs.toUInt16
    let (ok, adapter) ← runCommand adapter (← driver (.clearIrqStatus sx128xIrqAll))
    if ¬ ok then pure (false, adapter)
    else
      let (ok, adapter) ← runCommand adapter
        (← driver (.setRx sx128xTimeoutBase1Ms timeoutCount))
      if ¬ ok then pure (false, adapter)
      else pure (true, { adapter with state := .rx })

def captureRxFrame (adapter : Sx128xPacketRadio) : DriverProg (Bool × Sx128xPacketRadio) := do
  let (result, bufferStatus) ← driver .getRxBufferStatus
  let (ok, adapter) ← runCommand adapter result
  if ¬ ok then pure (false, adapter)
  else if bufferStatus.payloadLength.toNat ≠ adapter.config.frameLength then
    let adapter ← enterError adapter sx128xPacketRadioErrorInvalidRxLength
    pure (false, adapter)
  else
    let (result, data) ← driver
      (.readBuffer bufferStatus.startBufferPointer bufferStatus.payloadLength)
    let (ok, adapter) ← runCommand adapter result
    if ¬ ok then pure (false, adapter)
    else
      let (result, packetStatus) ← driver .getLoRaPacketStatus
      let (ok, adapter) ← runCommand adapter result
      if ¬ ok then pure (false, adapter)
      else
        pure (true, { adapter with
          rxFrame := ⟨data, packetStatus.rssiDbmX2, packetStatus.snrDbX4⟩
          rxFrameAvailable := true })

/-- An event that ends a reception or a transmission, and leaves the radio idle. -/
def finish (adapter : Sx128xPacketRadio) (type : PacketRadioEventType) :
    DriverProg Sx128xPacketRadio := do
  let (_, adapter) ← pushEvent { adapter with state := .idle } type 0
  pure adapter

/-- The part of `sx128x_packet_radio_process_impl` that has an IRQ status. -/
def processIrq (adapter : Sx128xPacketRadio) (irqStatus : UInt16) : DriverProg Sx128xPacketRadio :=
  if irqStatus &&& sx128xIrqCrcError ≠ 0 then
    if adapter.state ≠ .rx then enterError adapter sx128xPacketRadioErrorUnexpectedIrq
    else finish { adapter with rxFrameAvailable := false } .crcError
  else if irqStatus &&& sx128xIrqRxTxTimeout ≠ 0 then
    if adapter.state ≠ .rx then enterError adapter sx128xPacketRadioErrorUnexpectedIrq
    else finish adapter .rxTimeout
  else if irqStatus &&& sx128xIrqRxDone ≠ 0 then
    if adapter.state ≠ .rx then enterError adapter sx128xPacketRadioErrorUnexpectedIrq
    else do
      let (ok, adapter) ← captureRxFrame adapter
      if ¬ ok then pure adapter else finish adapter .rxDone
  else if irqStatus &&& sx128xIrqTxDone ≠ 0 then
    if adapter.state ≠ .tx then enterError adapter sx128xPacketRadioErrorUnexpectedIrq
    else finish adapter .txDone
  else pure adapter

/-- `sx128x_packet_radio_process_impl`. -/
def process (adapter : Sx128xPacketRadio) : DriverProg Sx128xPacketRadio :=
  if ¬ adapter.initialized ∨ adapter.state = .error then pure adapter
  else do
    if ¬ (← driver .takeDio1Event) then pure adapter
    else
      let (result, irqStatus) ← driver .getIrqStatus
      let (ok, adapter) ← runCommand adapter result
      if ¬ ok then pure adapter
      else if irqStatus = 0 then processIrq adapter irqStatus
      else
        let (ok, adapter) ← runCommand adapter (← driver (.clearIrqStatus irqStatus))
        if ¬ ok then pure adapter else processIrq adapter irqStatus

/-- `sx128x_packet_radio_take_event_impl`. -/
def takeEvent (adapter : Sx128xPacketRadio) : Option PacketRadioEvent × Sx128xPacketRadio :=
  if ¬ adapter.initialized then (none, adapter)
  else
    match adapter.events.pop with
    | none => (none, adapter)
    | some (event, events) => (some event, { adapter with events := events })

/-- `sx128x_packet_radio_read_rx_frame_impl`. -/
def readRxFrame (adapter : Sx128xPacketRadio) : Option PacketRadioRxFrame × Sx128xPacketRadio :=
  if ¬ adapter.initialized ∨ ¬ adapter.rxFrameAvailable then (none, adapter)
  else (some adapter.rxFrame, { adapter with rxFrameAvailable := false })

/-- The commands of `sx128x_packet_radio_recover_impl`. -/
def standBy : DriverProg Sx128xResult := do
  let result ← driver .setStandby
  if result = .ok then driver (.clearIrqStatus sx128xIrqAll) else pure result

/-- `sx128x_packet_radio_recover_impl`. -/
def recover (adapter : Sx128xPacketRadio) : DriverProg (Bool × Sx128xPacketRadio) :=
  if ¬ adapter.initialized then pure (false, adapter)
  else do
    let adapter := { adapter with events := adapter.events.clear, rxFrameAvailable := false }
    let result ← standBy
    if result ≠ .ok then
      let adapter ← enterError adapter (driverError result)
      pure (false, adapter)
    else pure (true, { adapter with state := .idle })

/-- `sx128x_packet_radio_init`; `none` when the configuration is refused. -/
def init (config : Sx128xPacketRadioConfig) : Option Sx128xPacketRadio :=
  if ¬ configIsValid config then none
  else
    some {
      config := config
      state := .idle
      events := .empty ⟨.none, 0⟩ (by decide)
      rxFrame := ⟨[], 0, 0⟩
      rxFrameAvailable := false
      initialized := true }

/-- The adapter in the place of the calls of the link service. -/
def answer : (o : LinkOp) → Sx128xPacketRadio → DriverProg (o.Ans × Sx128xPacketRadio)
  | .nowMs, adapter => do
    let now ← driver .nowMs
    pure (now, adapter)
  | .elapsedMs sinceMs, adapter => do
    let elapsed ← driver (.elapsedMs sinceMs)
    pure (elapsed, adapter)
  | .radioProcess, adapter => do
    let adapter ← process adapter
    pure ((), adapter)
  | .takeEvent, adapter => pure adapter.takeEvent
  | .tryStartTx data, adapter => tryStartTx adapter data
  | .tryStartRx timeoutMs, adapter => tryStartRx adapter timeoutMs
  | .readRxFrame, adapter => pure adapter.readRxFrame
  | .recover, adapter => recover adapter
  | .published _ _, adapter => pure ((), adapter)
  | .logRetry _ _ _, adapter => pure ((), adapter)

/-! ## What the adapter shows -/

open Interaction.Prog

def NoRefusal (log : List DriverAction) : Prop := ∀ a ∈ log, a.1 ≠ .refused

@[simp] theorem noRefusal_nil : NoRefusal [] := by simp [NoRefusal]

@[simp] theorem noRefusal_cons {a : DriverAction} {log : List DriverAction} :
    NoRefusal (a :: log) ↔ a.1 ≠ .refused ∧ NoRefusal log := by simp [NoRefusal]

@[simp] theorem noRefusal_append {log log' : List DriverAction} :
    NoRefusal (log ++ log') ↔ NoRefusal log ∧ NoRefusal log' := by
  simp only [NoRefusal, List.mem_append]
  grind

/-- The state, the queue and the frame flag of a running adapter. -/
structure Shows (adapter : Sx128xPacketRadio) (state : PacketRadioState)
    (queue : List PacketRadioEvent) (available : Bool) : Prop where
  initialized : adapter.initialized = true
  state_eq : adapter.state = state
  queue_eq : adapter.events.toList = queue
  available_eq : adapter.rxFrameAvailable = available

/-- The adapter has stopped with one error to report. -/
def Failed (adapter : Sx128xPacketRadio) : Prop :=
  ∃ code, Shows adapter .error [⟨.deviceError, code⟩] false

section

variable {adapter adapter' : Sx128xPacketRadio} {state : PacketRadioState}
  {queue : List PacketRadioEvent} {available : Bool} {tr : List DriverAction}

theorem Shows.not_full (h : Shows adapter state queue available)
    (hq : queue.length < sx128xPacketRadioEventCapacity) : adapter.events.isFull = false := by
  rw [RingBuffer.not_isFull_iff, ← RingBuffer.toList_length, h.queue_eq]
  exact hq

theorem shows_pushEvent {type : PacketRadioEventType} {code : UInt16} {stored : Bool}
    (h : Shows adapter state queue available) (hq : queue.length < sx128xPacketRadioEventCapacity)
    (ht : Trace (pushEvent adapter type code) tr (stored, adapter')) :
    tr = [] ∧ stored = true ∧ Shows adapter' state (queue ++ [⟨type, code⟩]) available := by
  have hfull := h.not_full hq
  rw [pushEvent, if_neg (by simp [hfull]), trace_pure_iff] at ht
  obtain ⟨rfl, ht⟩ := ht
  obtain ⟨rfl, rfl⟩ := Prod.mk.inj ht
  refine ⟨rfl, rfl, h.initialized, h.state_eq, ?_, h.available_eq⟩
  rw [RingBuffer.toList_push hfull, h.queue_eq]

theorem reports_enterError {code : UInt16} (h : Shows adapter state [] available)
    (ht : Trace (enterError adapter code) tr adapter') :
    tr = [] ∧ Shows adapter' .error [⟨.deviceError, code⟩] false := by
  rw [enterError, trace_bind_iff] at ht
  obtain ⟨⟨stored, adapter₁⟩, t₁, t₂, h₁, ht, rfl⟩ := ht
  have hstopped : Shows { adapter with state := .error, rxFrameAvailable := false }
      .error [] false := ⟨h.initialized, rfl, h.queue_eq, rfl⟩
  obtain ⟨rfl, rfl, hs⟩ := shows_pushEvent hstopped (by decide) h₁
  simp only [if_true, trace_pure_iff] at ht
  obtain ⟨rfl, rfl⟩ := ht
  exact ⟨rfl, hs⟩

theorem shows_enterError {code : UInt16} (h : Shows adapter state [] available)
    (ht : Trace (enterError adapter code) tr adapter') : tr = [] ∧ Failed adapter' := by
  obtain ⟨htr, hs⟩ := reports_enterError h ht
  exact ⟨htr, code, hs⟩

theorem shows_runCommand {result : Sx128xResult} {ok : Bool} (h : Shows adapter state [] available)
    (ht : Trace (runCommand adapter result) tr (ok, adapter')) :
    tr = [] ∧ ((ok = true ∧ adapter' = adapter) ∨ (ok = false ∧ Failed adapter')) := by
  unfold runCommand at ht
  split at ht
  · obtain ⟨rfl, he⟩ := trace_pure_iff.mp ht
    obtain ⟨rfl, rfl⟩ := Prod.mk.inj he
    exact ⟨rfl, .inl ⟨rfl, rfl⟩⟩
  · rw [trace_bind_iff] at ht
    obtain ⟨adapter₁, t₁, t₂, h₁, ht, rfl⟩ := ht
    obtain ⟨rfl, hf⟩ := shows_enterError h h₁
    obtain ⟨rfl, he⟩ := trace_pure_iff.mp ht
    obtain ⟨rfl, rfl⟩ := Prod.mk.inj he
    exact ⟨rfl, .inr ⟨rfl, hf⟩⟩

theorem trace_driver {α : Type} {o : DriverOp} {next : o.Ans → DriverProg α} {x : α} :
    Trace (driver o >>= next) tr x ↔
      ∃ result tr', tr = ⟨o, result⟩ :: tr' ∧ Trace (next result) tr' x := by
  exact trace_call_iff

theorem shows_ran {α : Type} {result : Sx128xResult}
    {next : Bool × Sx128xPacketRadio → DriverProg α} {x : α}
    (h : Shows adapter state [] available)
    (ht : Trace (runCommand adapter result >>= next) tr x) :
    Trace (next (true, adapter)) tr x ∨
      ∃ adapter', Failed adapter' ∧ Trace (next (false, adapter')) tr x := by
  rw [trace_bind_iff] at ht
  obtain ⟨⟨ok, adapter₁⟩, t₁, t₂, h₁, ht, rfl⟩ := ht
  obtain ⟨rfl, ⟨rfl, rfl⟩ | ⟨rfl, hf⟩⟩ := shows_runCommand h h₁
  · exact .inl ht
  · exact .inr ⟨adapter₁, hf, ht⟩

/-- The outcomes of a start: it took, it was refused, or it stopped the adapter. -/
def Started (state : PacketRadioState) (started : Bool) (adapter : Sx128xPacketRadio) : Prop :=
  (started = true ∧ Shows adapter state [] false) ∨
  (started = false ∧ (Shows adapter .idle [] false ∨ Failed adapter))

theorem Started.refused {started : Bool} {adapter₁ : Sx128xPacketRadio}
    (h : Shows adapter₁ .idle [] false ∨ Failed adapter₁)
    (ht : Trace (pure (false, adapter₁) : DriverProg _) tr (started, adapter')) :
    NoRefusal tr ∧ Started state started adapter' := by
  obtain ⟨rfl, he⟩ := trace_pure_iff.mp ht
  obtain ⟨rfl, rfl⟩ := Prod.mk.inj he
  exact ⟨noRefusal_nil, .inr ⟨rfl, h⟩⟩

theorem shows_tryStartTx {data : List UInt8} {started : Bool}
    (h : Shows adapter .idle [] false)
    (ht : Trace (tryStartTx adapter data) tr (started, adapter')) :
    NoRefusal tr ∧ Started .tx started adapter' := by
  unfold tryStartTx at ht
  split at ht
  · exact Started.refused (.inl h) ht
  obtain ⟨result₁, tr, rfl, h₁⟩ := trace_driver.mp ht
  suffices hrest : NoRefusal tr ∧ Started .tx started adapter' by simpa using hrest
  rcases shows_ran h h₁ with h₁ | ⟨adapter₁, hf, hfail⟩
  swap
  · exact Started.refused (.inr hf) hfail
  obtain ⟨result₂, tr, rfl, h₂⟩ := trace_driver.mp h₁
  suffices hrest : NoRefusal tr ∧ Started .tx started adapter' by simpa using hrest
  rcases shows_ran h h₂ with h₂ | ⟨adapter₁, hf, hfail⟩
  swap
  · exact Started.refused (.inr hf) hfail
  obtain ⟨result₃, tr, rfl, h₃⟩ := trace_driver.mp h₂
  suffices hrest : NoRefusal tr ∧ Started .tx started adapter' by simpa using hrest
  rcases shows_ran h h₃ with h₃ | ⟨adapter₁, hf, hfail⟩
  swap
  · exact Started.refused (.inr hf) hfail
  obtain ⟨rfl, he⟩ := trace_pure_iff.mp h₃
  obtain ⟨rfl, rfl⟩ := Prod.mk.inj he
  exact ⟨noRefusal_nil, .inl ⟨rfl, h.initialized, rfl, h.queue_eq, h.available_eq⟩⟩

theorem shows_tryStartRx {timeoutMs : UInt32} {started : Bool}
    (h : Shows adapter .idle [] false)
    (ht : Trace (tryStartRx adapter timeoutMs) tr (started, adapter')) :
    NoRefusal tr ∧ Started .rx started adapter' := by
  unfold tryStartRx at ht
  split at ht
  · exact Started.refused (.inl h) ht
  obtain ⟨result₁, tr, rfl, h₁⟩ := trace_driver.mp ht
  suffices hrest : NoRefusal tr ∧ Started .rx started adapter' by simpa using hrest
  rcases shows_ran h h₁ with h₁ | ⟨adapter₁, hf, hfail⟩
  swap
  · exact Started.refused (.inr hf) hfail
  obtain ⟨result₂, tr, rfl, h₂⟩ := trace_driver.mp h₁
  suffices hrest : NoRefusal tr ∧ Started .rx started adapter' by simpa using hrest
  rcases shows_ran h h₂ with h₂ | ⟨adapter₁, hf, hfail⟩
  swap
  · exact Started.refused (.inr hf) hfail
  obtain ⟨rfl, he⟩ := trace_pure_iff.mp h₂
  obtain ⟨rfl, rfl⟩ := Prod.mk.inj he
  exact ⟨noRefusal_nil, .inl ⟨rfl, h.initialized, rfl, h.queue_eq, h.available_eq⟩⟩

theorem noRefusal_standBy {result : Sx128xResult} (ht : Trace standBy tr result) :
    NoRefusal tr := by
  obtain ⟨result₁, tr, rfl, h₁⟩ := trace_driver.mp ht
  suffices hrest : NoRefusal tr by simpa using hrest
  split at h₁
  · rw [driver, trace_ask_iff] at h₁
    simp [h₁]
  · simp [(trace_pure_iff.mp h₁).1]

theorem shows_recover {recovered : Bool} (h : Shows adapter state queue available)
    (ht : Trace (recover adapter) tr (recovered, adapter')) :
    NoRefusal tr ∧ ((recovered = true ∧ Shows adapter' .idle [] false) ∨
      (recovered = false ∧ Failed adapter')) := by
  rw [recover, if_neg (by simp [h.initialized]), trace_bind_iff] at ht
  obtain ⟨result, t₁, t₂, h₁, h₂, rfl⟩ := ht
  have hquiet : NoRefusal t₁ := noRefusal_standBy h₁
  have hcleared : Shows { adapter with events := adapter.events.clear, rxFrameAvailable := false }
      state [] false := ⟨h.initialized, h.state_eq, RingBuffer.toList_clear _, rfl⟩
  split at h₂
  · rw [trace_bind_iff] at h₂
    obtain ⟨adapter₁, t₃, t₄, h₃, h₄, rfl⟩ := h₂
    obtain ⟨rfl, hf⟩ := shows_enterError hcleared h₃
    obtain ⟨rfl, he⟩ := trace_pure_iff.mp h₄
    obtain ⟨rfl, rfl⟩ := Prod.mk.inj he
    exact ⟨by simpa using hquiet, .inr ⟨rfl, hf⟩⟩
  · obtain ⟨rfl, he⟩ := trace_pure_iff.mp h₂
    obtain ⟨rfl, rfl⟩ := Prod.mk.inj he
    exact ⟨by simpa using hquiet, .inl ⟨rfl, h.initialized, rfl, hcleared.queue_eq, rfl⟩⟩

/-! ### What the radio reports -/

theorem shows_captureRxFrame {ok : Bool} (h : Shows adapter state [] false)
    (ht : Trace (captureRxFrame adapter) tr (ok, adapter')) :
    NoRefusal tr ∧ ((ok = true ∧ Shows adapter' state [] true) ∨
      (ok = false ∧ Failed adapter')) := by
  have hfailed {adapter₁ : Sx128xPacketRadio} {tr : List DriverAction} (hf : Failed adapter₁)
      (ht : Trace (pure (false, adapter₁) : DriverProg _) tr (ok, adapter')) :
      NoRefusal tr ∧ ((ok = true ∧ Shows adapter' state [] true) ∨
        (ok = false ∧ Failed adapter')) := by
    obtain ⟨rfl, he⟩ := trace_pure_iff.mp ht
    obtain ⟨rfl, rfl⟩ := Prod.mk.inj he
    exact ⟨noRefusal_nil, .inr ⟨rfl, hf⟩⟩
  obtain ⟨⟨result₁, bufferStatus⟩, tr, rfl, h₁⟩ := trace_driver.mp ht
  rw [noRefusal_cons, and_assoc]
  refine ⟨by simp, ?_⟩
  rcases shows_ran h h₁ with h₁ | ⟨adapter₁, hf, hfail⟩
  swap
  · exact hfailed hf hfail
  simp only [not_true_eq_false, if_false] at h₁
  split at h₁
  · rw [trace_bind_iff] at h₁
    obtain ⟨adapter₁, t₁, t₂, h₂, h₃, rfl⟩ := h₁
    obtain ⟨rfl, hf⟩ := shows_enterError h h₂
    exact hfailed hf h₃
  obtain ⟨⟨result₂, data⟩, tr, rfl, h₂⟩ := trace_driver.mp h₁
  rw [noRefusal_cons, and_assoc]
  refine ⟨by simp, ?_⟩
  rcases shows_ran h h₂ with h₂ | ⟨adapter₁, hf, hfail⟩
  swap
  · exact hfailed hf hfail
  obtain ⟨⟨result₃, packetStatus⟩, tr, rfl, h₃⟩ := trace_driver.mp h₂
  rw [noRefusal_cons, and_assoc]
  refine ⟨by simp, ?_⟩
  rcases shows_ran h h₃ with h₃ | ⟨adapter₁, hf, hfail⟩
  swap
  · exact hfailed hf hfail
  obtain ⟨rfl, he⟩ := trace_pure_iff.mp h₃
  obtain ⟨rfl, rfl⟩ := Prod.mk.inj he
  exact ⟨noRefusal_nil, .inl ⟨rfl, h.initialized, h.state_eq, h.queue_eq, rfl⟩⟩

theorem shows_finish {type : PacketRadioEventType} (h : Shows adapter state [] available)
    (ht : Trace (finish adapter type) tr adapter') :
    NoRefusal tr ∧ Shows adapter' .idle [⟨type, 0⟩] available := by
  rw [finish, trace_bind_iff] at ht
  obtain ⟨⟨stored, adapter₁⟩, t₁, t₂, h₁, h₂, rfl⟩ := ht
  have hidle : Shows { adapter with state := .idle } .idle [] available :=
    ⟨h.initialized, rfl, h.queue_eq, h.available_eq⟩
  obtain ⟨rfl, rfl, hs⟩ := shows_pushEvent hidle (by decide) h₁
  obtain ⟨rfl, rfl⟩ := trace_pure_iff.mp h₂
  exact ⟨noRefusal_nil, hs⟩

/-- What a look at the radio can change, by the state that the adapter is in. -/
inductive Reported (state : PacketRadioState) (adapter : Sx128xPacketRadio) : Prop
  | unchanged : Shows adapter state [] false → Reported state adapter
  | failed : Failed adapter → Reported state adapter
  | noFrame {type : PacketRadioEventType} : state = .rx → type ∈ [.crcError, .rxTimeout] →
      Shows adapter .idle [⟨type, 0⟩] false → Reported state adapter
  | rxDone : state = .rx → Shows adapter .idle [⟨.rxDone, 0⟩] true → Reported state adapter
  | txDone : state = .tx → Shows adapter .idle [⟨.txDone, 0⟩] false → Reported state adapter

theorem Reported.unexpected {code : UInt16} (h : Shows adapter state [] available)
    (ht : Trace (enterError adapter code) tr adapter') : NoRefusal tr ∧ Reported state adapter' := by
  obtain ⟨rfl, hf⟩ := shows_enterError h ht
  exact ⟨noRefusal_nil, .failed hf⟩

theorem shows_processIrq {irqStatus : UInt16} (h : Shows adapter state [] false)
    (ht : Trace (processIrq adapter irqStatus) tr adapter') :
    NoRefusal tr ∧ Reported state adapter' := by
  have hrx (hs : ¬ adapter.state ≠ .rx) : state = .rx := h.state_eq.symm.trans (not_not.mp hs)
  unfold processIrq at ht
  split at ht
  · split at ht
    · exact Reported.unexpected h ht
    · rename_i hs
      have hread : Shows { adapter with rxFrameAvailable := false } state [] false :=
        ⟨h.initialized, h.state_eq, h.queue_eq, rfl⟩
      obtain ⟨hq, hf⟩ := shows_finish hread ht
      exact ⟨hq, .noFrame (hrx hs) (by simp) hf⟩
  split at ht
  · split at ht
    · exact Reported.unexpected h ht
    · rename_i hs
      obtain ⟨hq, hf⟩ := shows_finish h ht
      exact ⟨hq, .noFrame (hrx hs) (by simp) hf⟩
  split at ht
  · split at ht
    · exact Reported.unexpected h ht
    · rename_i hs
      rw [trace_bind_iff] at ht
      obtain ⟨⟨ok, adapter₁⟩, t₁, t₂, h₁, h₂, rfl⟩ := ht
      rw [noRefusal_append]
      obtain ⟨hq₁, ⟨rfl, hc⟩ | ⟨rfl, hf⟩⟩ := shows_captureRxFrame h h₁
      · obtain ⟨hq₂, hf⟩ := shows_finish hc h₂
        exact ⟨⟨hq₁, hq₂⟩, .rxDone (hrx hs) hf⟩
      · obtain ⟨rfl, rfl⟩ := trace_pure_iff.mp h₂
        exact ⟨⟨hq₁, noRefusal_nil⟩, .failed hf⟩
  split at ht
  · split at ht
    · exact Reported.unexpected h ht
    · rename_i hs
      obtain ⟨hq, hf⟩ := shows_finish h ht
      exact ⟨hq, .txDone (h.state_eq.symm.trans (not_not.mp hs)) hf⟩
  · obtain ⟨rfl, rfl⟩ := trace_pure_iff.mp ht
    exact ⟨noRefusal_nil, .unchanged h⟩

theorem shows_process (h : Shows adapter state [] false)
    (ht : Trace (process adapter) tr adapter') : NoRefusal tr ∧ Reported state adapter' := by
  unfold process at ht
  split at ht
  · obtain ⟨rfl, rfl⟩ := trace_pure_iff.mp ht
    exact ⟨noRefusal_nil, .unchanged h⟩
  obtain ⟨dio1, tr, rfl, h₁⟩ := trace_driver.mp ht
  rw [noRefusal_cons, and_assoc]
  refine ⟨by simp, ?_⟩
  split at h₁
  · obtain ⟨rfl, rfl⟩ := trace_pure_iff.mp h₁
    exact ⟨noRefusal_nil, .unchanged h⟩
  obtain ⟨⟨result, irqStatus⟩, tr, rfl, h₂⟩ := trace_driver.mp h₁
  rw [noRefusal_cons, and_assoc]
  refine ⟨by simp, ?_⟩
  rcases shows_ran h h₂ with h₂ | ⟨adapter₁, hf, hfail⟩
  swap
  · obtain ⟨rfl, rfl⟩ := trace_pure_iff.mp hfail
    exact ⟨noRefusal_nil, .failed hf⟩
  simp only [not_true_eq_false, if_false] at h₂
  split at h₂
  · exact shows_processIrq h h₂
  obtain ⟨result₂, tr, rfl, h₃⟩ := trace_driver.mp h₂
  rw [noRefusal_cons, and_assoc]
  refine ⟨by simp, ?_⟩
  rcases shows_ran h h₃ with h₃ | ⟨adapter₁, hf, hfail⟩
  · exact shows_processIrq h h₃
  · obtain ⟨rfl, rfl⟩ := trace_pure_iff.mp hfail
    exact ⟨noRefusal_nil, .failed hf⟩

theorem process_failed (h : Shows adapter .error queue available)
    (ht : Trace (process adapter) tr adapter') : tr = [] ∧ adapter' = adapter := by
  rw [process, if_pos (.inr h.state_eq)] at ht
  exact trace_pure_iff.mp ht

theorem shows_takeEvent {event : Option PacketRadioEvent}
    (h : Shows adapter state queue available) (ht : adapter.takeEvent = (event, adapter')) :
    event = queue.head? ∧ Shows adapter' state queue.tail available := by
  rw [takeEvent, if_neg (by simp [h.initialized])] at ht
  cases hp : adapter.events.pop with
  | none =>
    obtain rfl : queue = [] := h.queue_eq.symm.trans (RingBuffer.pop_eq_none_iff.mp hp)
    simp only [hp] at ht
    obtain ⟨rfl, rfl⟩ := Prod.mk.inj ht
    exact ⟨rfl, h⟩
  | some popped =>
    obtain ⟨first, events⟩ := popped
    obtain rfl : queue = first :: events.toList := h.queue_eq.symm.trans (RingBuffer.toList_pop hp)
    simp only [hp] at ht
    obtain ⟨rfl, rfl⟩ := Prod.mk.inj ht
    exact ⟨rfl, h.initialized, h.state_eq, rfl, h.available_eq⟩

theorem shows_readRxFrame {frame : Option PacketRadioRxFrame}
    (h : Shows adapter state queue available) (ht : adapter.readRxFrame = (frame, adapter')) :
    Shows adapter' state queue false := by
  unfold readRxFrame at ht
  split at ht
  · rename_i hn
    obtain ⟨rfl, rfl⟩ := Prod.mk.inj ht
    have hoff : adapter.rxFrameAvailable = false := by simpa [h.initialized] using hn
    exact ⟨h.initialized, h.state_eq, h.queue_eq, hoff⟩
  · obtain ⟨rfl, rfl⟩ := Prod.mk.inj ht
    exact ⟨h.initialized, h.state_eq, h.queue_eq, rfl⟩

end

theorem shows_init {config : Sx128xPacketRadioConfig} {adapter : Sx128xPacketRadio}
    (h : init config = some adapter) : Shows adapter .idle [] false := by
  unfold init at h
  split at h
  · cases h
  · cases h
    exact ⟨rfl, rfl, RingBuffer.toList_empty _ _, rfl⟩

end Sx128xPacketRadio

end RadioConnection
