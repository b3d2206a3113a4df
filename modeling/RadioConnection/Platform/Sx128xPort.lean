import RadioConnection.Drivers.Sx128x
import RadioConnection.Lib.Chunks
import RadioConnection.Lib.Interpretation

/-!
# The port of the SX128x driver on the STM32F4

`stm32f4_sx128x_port.c`: the calls of the driver's port as programs over the calls
of the HAL, whose results are all arbitrary.  The two counters of DIO1 are shared
with an interrupt, so each access to one of them is a call of its own.

* A pointer to a peripheral is its address, 0 where it is `NULL`.
* `Stm32f4Sx128xPort` is the main loop's part of the backend; `Dio1Counters` are the
  fields that `stm32f4_sx128x_port_on_dio1_irq` reads or writes.
* `answer`: the backend in the place of the calls of the port.
* `spiTransfer_sends`: **a transfer of any length is its bytes in order, in chunks of
  at most 64, up to the first that the HAL refuses.**
-/

namespace RadioConnection

open Interaction

/-! ## The calls of the HAL -/

/-- `HAL_StatusTypeDef`. -/
inductive HalStatus
  | ok | error | busy | timeout
  deriving DecidableEq, Repr

/-- The port of a pin and the mask of the pin in it. -/
structure GpioPin where
  port : ℕ
  mask : UInt16
  deriving DecidableEq, Repr

inductive HalOp
  | spiTransmitReceive (spi : ℕ) (txData : List UInt8) (size : UInt16) (timeoutMs : UInt32)
  | gpioWritePin (pin : GpioPin) (set : Bool)
  | gpioReadPin (pin : GpioPin)
  | delay (ms : UInt32)
  | getTick
  /-- `dio1_produced_count` is read. -/
  | loadProduced
  /-- `dio1_consumed_count` is read. -/
  | loadConsumed
  /-- `dio1_consumed_count` is written. -/
  | storeConsumed (count : UInt32)
  deriving DecidableEq

/-- The answers to a call; a transfer also answers with the bytes it has received. -/
abbrev HalOp.Ans : HalOp → Type
  | spiTransmitReceive _ _ _ _ => HalStatus × List UInt8
  | gpioWritePin _ _ => Unit
  | gpioReadPin _ => Bool
  | delay _ => Unit
  | getTick => UInt32
  | loadProduced => UInt32
  | loadConsumed => UInt32
  | storeConsumed _ => Unit

abbrev HalProg : Type → Type := Prog HalOp HalOp.Ans

abbrev HalAction : Type := Action HalOp HalOp.Ans

def hal (o : HalOp) : HalProg o.Ans := Prog.ask o

/-! ## The backend -/

def stm32f4Sx128xPortSpiScratchSize : ℕ := 64

structure Stm32f4Sx128xPortConfig where
  spi : ℕ
  nss : GpioPin
  reset : GpioPin
  busy : GpioPin
  dio1Pin : UInt16
  spiTimeoutMs : UInt32
  deriving DecidableEq, Repr

/-- The statistics that the main loop writes. -/
structure Stm32f4Sx128xPortStats where
  spiTransferCalls : UInt32 := 0
  spiHalCalls : UInt32 := 0
  spiBytesTransferred : UInt32 := 0
  spiErrors : UInt32 := 0
  nssWrites : UInt32 := 0
  resetWrites : UInt32 := 0
  busyReads : UInt32 := 0
  delayCalls : UInt32 := 0
  dio1EventsTaken : UInt32 := 0
  deriving DecidableEq, Repr

structure Stm32f4Sx128xPort where
  config : Stm32f4Sx128xPortConfig
  stats : Stm32f4Sx128xPortStats
  initialized : Bool
  deriving DecidableEq, Repr

/-- The counters of DIO1 and the statistics that the interrupt writes. -/
structure Dio1Counters where
  producedCount : UInt32 := 0
  consumedCount : UInt32 := 0
  irqEvents : UInt32 := 0
  coalescedEvents : UInt32 := 0
  deriving DecidableEq, Repr

namespace Stm32f4Sx128xPort

/-- `stm32f4_sx128x_port_on_dio1_irq`. -/
def onDio1Irq (backend : Stm32f4Sx128xPort) (gpioPin : UInt16) (counters : Dio1Counters) :
    Dio1Counters :=
  if ¬ backend.initialized ∨ gpioPin ≠ backend.config.dio1Pin then counters
  else
    { counters with
      irqEvents := counters.irqEvents + 1
      coalescedEvents := if counters.producedCount ≠ counters.consumedCount then
        counters.coalescedEvents + 1 else counters.coalescedEvents
      producedCount := counters.producedCount + 1 }

def configIsValid (config : Stm32f4Sx128xPortConfig) : Bool :=
  config.spi ≠ 0 && config.nss.port ≠ 0 && config.nss.mask ≠ 0 && config.reset.port ≠ 0 &&
  config.reset.mask ≠ 0 && config.busy.port ≠ 0 && config.busy.mask ≠ 0 &&
  config.dio1Pin ≠ 0 && config.spiTimeoutMs ≠ 0

/-- The chunk of a transfer at `offset`; without data zeros are sent.  A caller has as many bytes as
it says, and what would stand behind them is zero here. -/
def halTx (txData : Option (List UInt8)) (offset chunkLength : ℕ) : List UInt8 :=
  match txData with
  | some data => (List.range chunkLength).map fun i => data.getD (offset + i) 0
  | none => List.replicate chunkLength 0

/-- The end of `stm32f4_sx128x_port_spi_transfer`. -/
def transferred (backend : Stm32f4Sx128xPort) (t : Transfer) (received : List UInt8) :
    HalProg ((Bool × List UInt8) × Stm32f4Sx128xPort) :=
  pure ((true, received), { backend with
    stats.spiBytesTransferred := backend.stats.spiBytesTransferred + t.length })

/-- The loop of `stm32f4_sx128x_port_spi_transfer`, with the bytes received so far; a round for
each byte is enough. -/
def transferChunks (backend : Stm32f4Sx128xPort) (t : Transfer) :
    ℕ → ℕ → List UInt8 → HalProg ((Bool × List UInt8) × Stm32f4Sx128xPort)
  | 0, _, received => backend.transferred t received
  | rounds + 1, offset, received =>
    if offset < t.length.toNat then do
      let chunkLength := min (t.length.toNat - offset) stm32f4Sx128xPortSpiScratchSize
      let (status, bytes) ← hal (.spiTransmitReceive backend.config.spi
        (halTx t.txData offset chunkLength) chunkLength.toUInt16 backend.config.spiTimeoutMs)
      let backend := { backend with stats.spiHalCalls := backend.stats.spiHalCalls + 1 }
      let received := if t.rxData then received ++ bytes else received
      if status ≠ .ok then
        pure ((false, received),
          { backend with stats.spiErrors := backend.stats.spiErrors + 1 })
      else transferChunks backend t rounds (offset + chunkLength) received
    else backend.transferred t received

def spiTransfer (backend : Stm32f4Sx128xPort) (t : Transfer) :
    HalProg ((Bool × List UInt8) × Stm32f4Sx128xPort) :=
  if ¬ backend.initialized then pure ((false, []), backend)
  else
    let backend := { backend with stats.spiTransferCalls := backend.stats.spiTransferCalls + 1 }
    if t.length = 0 then pure ((true, []), backend)
    else if 65535 < t.length then
      pure ((false, []), { backend with stats.spiErrors := backend.stats.spiErrors + 1 })
    else transferChunks backend t t.length.toNat 0 []

def nssWrite (backend : Stm32f4Sx128xPort) (high : Bool) : HalProg (Unit × Stm32f4Sx128xPort) :=
  if ¬ backend.initialized then pure ((), backend)
  else do
    hal (.gpioWritePin backend.config.nss high)
    pure ((), { backend with stats.nssWrites := backend.stats.nssWrites + 1 })

def resetWrite (backend : Stm32f4Sx128xPort) (high : Bool) : HalProg (Unit × Stm32f4Sx128xPort) :=
  if ¬ backend.initialized then pure ((), backend)
  else do
    hal (.gpioWritePin backend.config.reset high)
    pure ((), { backend with stats.resetWrites := backend.stats.resetWrites + 1 })

def busyRead (backend : Stm32f4Sx128xPort) : HalProg (Bool × Stm32f4Sx128xPort) :=
  if ¬ backend.initialized then pure (false, backend)
  else do
    let set ← hal (.gpioReadPin backend.config.busy)
    pure (set, { backend with stats.busyReads := backend.stats.busyReads + 1 })

def delayMs (backend : Stm32f4Sx128xPort) (ms : UInt32) : HalProg (Unit × Stm32f4Sx128xPort) :=
  if ¬ backend.initialized then pure ((), backend)
  else do
    hal (.delay ms)
    pure ((), { backend with stats.delayCalls := backend.stats.delayCalls + 1 })

def timeMs (backend : Stm32f4Sx128xPort) : HalProg (UInt32 × Stm32f4Sx128xPort) :=
  if ¬ backend.initialized then pure (0, backend)
  else do
    let now ← hal .getTick
    pure (now, backend)

def takeDio1Event (backend : Stm32f4Sx128xPort) : HalProg (Bool × Stm32f4Sx128xPort) :=
  if ¬ backend.initialized then pure (false, backend)
  else do
    let produced ← hal .loadProduced
    let consumed ← hal .loadConsumed
    if produced = consumed then pure (false, backend)
    else
      hal (.storeConsumed produced)
      pure (true, { backend with
        stats.dio1EventsTaken := backend.stats.dio1EventsTaken + 1 })

/-- `stm32f4_sx128x_port_init`; `none` when the configuration is refused. -/
def init (config : Stm32f4Sx128xPortConfig) : HalProg (Option Stm32f4Sx128xPort) :=
  if ¬ configIsValid config then pure none
  else do
    let ((), backend) ← nssWrite ⟨config, {}, true⟩ true
    let ((), backend) ← resetWrite backend true
    pure (some backend)

/-- The backend in the place of the calls of the port. -/
def answer : (o : PortOp) → Stm32f4Sx128xPort → HalProg (o.Ans × Stm32f4Sx128xPort)
  | .spiTransfer t, backend => backend.spiTransfer t
  | .nssWrite high, backend => backend.nssWrite high
  | .resetWrite high, backend => backend.resetWrite high
  | .busyRead, backend => backend.busyRead
  | .delayMs ms, backend => backend.delayMs ms
  | .timeMs, backend => backend.timeMs
  | .takeDio1Event, backend => backend.takeDio1Event

open Prog Chunks

theorem trace_init {config : Stm32f4Sx128xPortConfig} {backend : Stm32f4Sx128xPort}
    {tr : List HalAction} (h : Trace (init config) tr (some backend)) :
    configIsValid config = true ∧
      backend = ⟨config, { nssWrites := 1, resetWrites := 1 }, true⟩ ∧
      tr = [⟨.gpioWritePin config.nss true, ()⟩, ⟨.gpioWritePin config.reset true, ()⟩] := by
  rw [init] at h
  split at h
  · exact absurd (trace_pure_iff.mp h).2 (by simp)
  rename_i hvalid
  obtain ⟨⟨_, b₁⟩, t₁, t₂, h₁, hrest, rfl⟩ := trace_bind_iff.mp h
  obtain ⟨⟨_, b₂⟩, t₃, t₄, h₂, hlast, rfl⟩ := trace_bind_iff.mp hrest
  obtain ⟨rfl, he⟩ := trace_pure_iff.mp hlast
  obtain rfl := Option.some.inj he
  rw [nssWrite, if_neg (by simp)] at h₁
  obtain ⟨_, t₅, t₆, h₅, h₆, rfl⟩ := trace_bind_iff.mp h₁
  obtain rfl := trace_ask_iff.mp h₅
  obtain ⟨rfl, he₁⟩ := trace_pure_iff.mp h₆
  obtain rfl := (Prod.mk.inj he₁).2
  rw [resetWrite, if_neg (by simp)] at h₂
  obtain ⟨_, t₇, t₈, h₇, h₈, rfl⟩ := trace_bind_iff.mp h₂
  obtain rfl := trace_ask_iff.mp h₇
  obtain ⟨rfl, he₂⟩ := trace_pure_iff.mp h₈
  obtain rfl := (Prod.mk.inj he₂).2
  exact ⟨not_not.mp hvalid, rfl, rfl⟩

/-- A backend that was started with `config`, after any calls. -/
structure Started (config : Stm32f4Sx128xPortConfig) (backend : Stm32f4Sx128xPort) : Prop where
  valid : configIsValid config = true
  initialized : backend.initialized = true
  config_eq : backend.config = config

theorem started_of_init {config : Stm32f4Sx128xPortConfig} {backend : Stm32f4Sx128xPort}
    {tr : List HalAction} (h : Trace (init config) tr (some backend)) : Started config backend := by
  obtain ⟨hvalid, rfl, -⟩ := trace_init h
  exact ⟨hvalid, rfl, rfl⟩

/-! ## Transfers -/

/-- What a transfer puts on the bus. -/
def bytes (t : Transfer) : List UInt8 := halTx t.txData 0 t.length.toNat

/-- The call of the HAL that hands out a chunk. -/
def chunkCall (config : Stm32f4Sx128xPortConfig)
    (e : List UInt8 × HalStatus × List UInt8) : HalAction :=
  ⟨.spiTransmitReceive config.spi e.1 e.1.length.toUInt16 config.spiTimeoutMs, e.2⟩

def returned (log : List (List UInt8 × HalStatus × List UInt8)) : List UInt8 :=
  (log.map fun e => e.2.2).flatten

variable {t : Transfer}

@[simp] theorem length_halTx (txData : Option (List UInt8)) (offset n : ℕ) :
    (halTx txData offset n).length = n := by
  cases txData with
  | none => exact List.length_replicate
  | some data => rw [halTx, List.length_map, List.length_range]

theorem getElem_halTx (txData : Option (List UInt8)) (offset : ℕ) {n i : ℕ}
    (hi : i < (halTx txData offset n).length) :
    (halTx txData offset n)[i] = (txData.getD []).getD (offset + i) 0 := by
  cases txData with
  | none => simp [halTx]
  | some data => simp [halTx]

theorem drop_halTx (txData : Option (List UInt8)) (offset n m : ℕ) :
    (halTx txData offset n).drop m = halTx txData (offset + m) (n - m) := by
  refine List.ext_getElem (by simp) fun i h₁ h₂ => ?_
  rw [List.getElem_drop, getElem_halTx, getElem_halTx, add_assoc]

theorem take_halTx (txData : Option (List UInt8)) (offset n m : ℕ) :
    (halTx txData offset n).take m = halTx txData offset (min n m) := by
  refine List.ext_getElem (by simp [Nat.min_comm]) fun i h₁ h₂ => ?_
  rw [List.getElem_take, getElem_halTx, getElem_halTx]

theorem drop_bytes (t : Transfer) (offset : ℕ) :
    (bytes t).drop offset = halTx t.txData offset (t.length.toNat - offset) := by
  rw [bytes, drop_halTx, Nat.zero_add]

@[simp] theorem length_bytes (t : Transfer) : (bytes t).length = t.length.toNat :=
  length_halTx t.txData 0 _

theorem bytes_some {data : List UInt8} {rxData : Bool} {length : UInt32}
    (h : data.length = length.toNat) : bytes ⟨some data, rxData, length⟩ = data := by
  refine List.ext_getElem (by simp [h]) fun i h₁ h₂ => ?_
  have hbyte := getElem_halTx (some data) 0 h₁
  rw [Nat.zero_add, Option.getD_some, List.getD_eq_getElem data 0 h₂] at hbyte
  exact hbyte

/-- What the backend counts of a loop that has made `calls` calls. -/
def afterChunks (backend : Stm32f4Sx128xPort) (t : Transfer) (calls : ℕ) (sent : Bool) :
    Stm32f4Sx128xPort :=
  { backend with
    stats.spiHalCalls := backend.stats.spiHalCalls + UInt32.ofNat calls
    stats.spiErrors := if sent then backend.stats.spiErrors else backend.stats.spiErrors + 1
    stats.spiBytesTransferred := if sent then backend.stats.spiBytesTransferred + t.length
      else backend.stats.spiBytesTransferred }

theorem transferred_sends {backend backend' : Stm32f4Sx128xPort} {offset : ℕ}
    {received received' : List UInt8} {sent : Bool} {tr : List HalAction}
    (hend : t.length.toNat ≤ offset)
    (h : Trace (backend.transferred t received) tr ((sent, received'), backend')) :
    ∃ log, tr = log.map (chunkCall backend.config) ∧
      Sends (fun answer => answer.1 = .ok) stm32f4Sx128xPortSpiScratchSize
        ((bytes t).drop offset) log sent ∧
      received' = (if t.rxData then received ++ returned log else received) ∧
      backend' = afterChunks backend t log.length sent := by
  obtain ⟨rfl, he⟩ := trace_pure_iff.mp h
  obtain ⟨⟨rfl, rfl⟩, rfl⟩ := And.imp_left Prod.mk.inj (Prod.mk.inj he)
  refine ⟨[], rfl, ?_, by simp [returned], by simp [afterChunks]⟩
  rw [List.drop_eq_nil_of_le (by rwa [length_bytes])]
  exact .done

theorem chunkCall_bytes (config : Stm32f4Sx128xPortConfig) (offset : ℕ)
    (answer : HalStatus × List UInt8) :
    chunkCall config (((bytes t).drop offset).take stm32f4Sx128xPortSpiScratchSize, answer) =
      ⟨.spiTransmitReceive config.spi
        (halTx t.txData offset (min (t.length.toNat - offset) stm32f4Sx128xPortSpiScratchSize))
        (min (t.length.toNat - offset) stm32f4Sx128xPortSpiScratchSize).toUInt16
        config.spiTimeoutMs, answer⟩ := by
  have hlength : (((bytes t).drop offset).take stm32f4Sx128xPortSpiScratchSize).length =
      min (t.length.toNat - offset) stm32f4Sx128xPortSpiScratchSize := by
    rw [List.length_take, List.length_drop, length_bytes, Nat.min_comm]
  rw [chunkCall, hlength, drop_bytes, take_halTx]

theorem drop_chunk (offset : ℕ) :
    (bytes t).drop (offset + min (t.length.toNat - offset) stm32f4Sx128xPortSpiScratchSize) =
      ((bytes t).drop offset).drop stm32f4Sx128xPortSpiScratchSize := by
  rw [← List.drop_drop]
  by_cases hmin : t.length.toNat - offset ≤ stm32f4Sx128xPortSpiScratchSize
  · rw [Nat.min_eq_left hmin, List.drop_eq_nil_of_le, List.drop_eq_nil_of_le]
    all_goals rw [List.length_drop, length_bytes]
    exact hmin
  · rw [Nat.min_eq_right (by omega)]

theorem transferChunks_sends {backend backend' : Stm32f4Sx128xPort} {rounds offset : ℕ}
    {received received' : List UInt8} {sent : Bool} {tr : List HalAction}
    (hrounds : t.length.toNat ≤ offset + rounds)
    (h : Trace (transferChunks backend t rounds offset received) tr
      ((sent, received'), backend')) :
    ∃ log, tr = log.map (chunkCall backend.config) ∧
      Sends (fun answer => answer.1 = .ok) stm32f4Sx128xPortSpiScratchSize
        ((bytes t).drop offset) log sent ∧
      received' = (if t.rxData then received ++ returned log else received) ∧
      backend' = afterChunks backend t log.length sent := by
  induction rounds generalizing backend offset received tr with
  | zero => exact transferred_sends hrounds h
  | succ rounds ih =>
    rw [transferChunks] at h
    split at h
    · rename_i hoffset
      obtain ⟨⟨status, rx⟩, t₁, t₂, h₁, h₂, rfl⟩ := trace_bind_iff.mp h
      obtain rfl := trace_ask_iff.mp h₁
      have hne : (bytes t).drop offset ≠ [] := by
        rw [ne_eq, List.drop_eq_nil_iff, length_bytes]
        omega
      rw [← chunkCall_bytes]
      dsimp only at h₂
      split at h₂
      · rename_i hstatus
        obtain ⟨rfl, he⟩ := trace_pure_iff.mp h₂
        obtain ⟨⟨rfl, rfl⟩, rfl⟩ := And.imp_left Prod.mk.inj (Prod.mk.inj he)
        refine ⟨[_], rfl, .failed hne hstatus, ?_, rfl⟩
        simp [returned]
      · rename_i hstatus
        obtain ⟨log, rfl, hsends, rfl, rfl⟩ := ih (by
          rw [stm32f4Sx128xPortSpiScratchSize]
          omega) h₂
        rw [drop_chunk] at hsends
        refine ⟨_ :: log, rfl, .next hne (not_not.mp hstatus) hsends, ?_, ?_⟩
        · cases t.rxData <;> simp [returned]
        · have hcount : backend.stats.spiHalCalls + 1 + UInt32.ofNat log.length =
              backend.stats.spiHalCalls + UInt32.ofNat (log.length + 1) := by
            rw [UInt32.ofNat_add, add_assoc, add_comm 1]
            rfl
          simp only [afterChunks, List.length_cons, ← hcount]
    · rename_i hoffset
      exact transferred_sends (Nat.not_lt.mp hoffset) h

/-- A transfer is refused at once, or the loop runs. -/
theorem spiTransfer_cases {backend backend' : Stm32f4Sx128xPort} {received : List UInt8}
    {sent : Bool} {tr : List HalAction} (hready : backend.initialized = true)
    (h : Trace (backend.spiTransfer t) tr ((sent, received), backend')) :
    (65535 < t.length ∧ tr = [] ∧ sent = false ∧ received = [] ∧
      backend' = { backend with
        stats.spiTransferCalls := backend.stats.spiTransferCalls + 1
        stats.spiErrors := backend.stats.spiErrors + 1 }) ∨
    (t.length ≤ 65535 ∧ ∃ log, tr = log.map (chunkCall backend.config) ∧
      Sends (fun answer => answer.1 = .ok) stm32f4Sx128xPortSpiScratchSize (bytes t) log sent ∧
      received = (if t.rxData then returned log else []) ∧
      backend' = afterChunks { backend with
        stats.spiTransferCalls := backend.stats.spiTransferCalls + 1 } t log.length sent) := by
  rw [spiTransfer, if_neg (not_not.mpr hready)] at h
  dsimp only at h
  split at h
  · rename_i hzero
    obtain ⟨rfl, he⟩ := trace_pure_iff.mp h
    obtain ⟨⟨rfl, rfl⟩, rfl⟩ := And.imp_left Prod.mk.inj (Prod.mk.inj he)
    have hbytes : bytes t = [] := by
      rw [← List.length_eq_zero_iff, length_bytes, hzero]
      rfl
    refine .inr ⟨by simp [hzero], [], rfl, ?_, by simp [returned], by simp [afterChunks, hzero]⟩
    rw [hbytes]
    exact .done
  split at h
  · rename_i hlarge
    obtain ⟨rfl, he⟩ := trace_pure_iff.mp h
    obtain ⟨⟨rfl, rfl⟩, rfl⟩ := And.imp_left Prod.mk.inj (Prod.mk.inj he)
    exact .inl ⟨hlarge, rfl, rfl, rfl, rfl⟩
  · rename_i hmax
    obtain ⟨log, rfl, hsends, rfl, rfl⟩ := transferChunks_sends (Nat.le_add_left _ 0) h
    rw [List.drop_zero] at hsends
    exact .inr ⟨UInt32.not_lt.mp hmax, log, rfl, hsends, by rw [List.nil_append], rfl⟩

/-- **A transfer of any length is its bytes in order**, in calls of the HAL of at most 64 bytes
each and as few of them as there can be, up to the first that is refused; the bytes that come back
are handed on in order, and the statistics say what was done.  One that does not fit in 16 bits is
refused and leaves the bus alone. -/
theorem spiTransfer_sends {backend backend' : Stm32f4Sx128xPort} {received : List UInt8}
    {sent : Bool} {tr : List HalAction} (hready : backend.initialized = true)
    (h : Trace (backend.spiTransfer t) tr ((sent, received), backend')) :
    (65535 < t.length → tr = [] ∧ sent = false ∧ received = [] ∧ backend' = { backend with
      stats.spiTransferCalls := backend.stats.spiTransferCalls + 1
      stats.spiErrors := backend.stats.spiErrors + 1 }) ∧
    (t.length ≤ 65535 → ∃ log, tr = log.map (chunkCall backend.config) ∧
      (∀ k e, log[k]? = some e → 0 < e.1.length ∧ e.1 = ((bytes t).drop (64 * k)).take 64) ∧
      Chunks.sent log <+: bytes t ∧
      (∀ e ∈ log.dropLast, e.2.1 = .ok) ∧ (sent = true ↔ ∀ e ∈ log, e.2.1 = .ok) ∧
      (sent = true → Chunks.sent log = bytes t ∧ log.length = (t.length.toNat + 63) / 64) ∧
      received = (if t.rxData then returned log else []) ∧
      backend' = afterChunks { backend with
        stats.spiTransferCalls := backend.stats.spiTransferCalls + 1 } t log.length sent) := by
  obtain ⟨hlarge, htr, hsent, hreceived, hbackend⟩ | ⟨hmax, log, rfl, hsends, rfl, rfl⟩ :=
    spiTransfer_cases hready h
  · exact ⟨fun _ => ⟨htr, hsent, hreceived, hbackend⟩,
      fun hmax => absurd hlarge (UInt32.not_lt.mpr hmax)⟩
  · refine ⟨fun hlarge => absurd hlarge (UInt32.not_lt.mpr hmax), fun _ => ?_⟩
    have hchunks : ∀ k e, log[k]? = some e →
        0 < e.1.length ∧ e.1 = ((bytes t).drop (64 * k)).take 64 := fun k e hk =>
      ⟨(hsends.sizes (by decide) e (List.mem_of_getElem? hk)).1, hsends.chunk hk⟩
    have hprefix := hsends.sent_isPrefix (by decide)
    have hok := hsends.ok_dropLast (by decide)
    refine ⟨log, rfl, hchunks, hprefix, hok, ?_, ?_, rfl, rfl⟩
    · cases sent with
      | true => exact iff_of_true rfl (hsends.whole (by decide)).2.2
      | false =>
        obtain ⟨-, before, e, rfl, he, -⟩ := hsends.cut
        refine iff_of_false Bool.false_ne_true fun hall => he ?_
        exact hall e (List.mem_append_right before (List.mem_singleton.mpr rfl))
    · rintro rfl
      obtain ⟨hsent, hlength, -⟩ := hsends.whole (by decide)
      rw [length_bytes] at hlength
      exact ⟨hsent, hlength⟩

/-- 70 bytes go out in two calls, and those that come back are put together again. -/
theorem spiTransfer_sends_twice : ∃ backend' tr log,
    Trace (spiTransfer ⟨⟨1, ⟨1, 1⟩, ⟨1, 2⟩, ⟨1, 4⟩, 8, 20⟩, {}, true⟩
      ⟨some (List.replicate 70 5), true, 70⟩) tr ((true, List.replicate 70 9), backend') ∧
    log.length = 2 ∧ Chunks.sent log = List.replicate 70 (5 : UInt8) ∧
    returned log = List.replicate 70 9 := by
  let backend : Stm32f4Sx128xPort := ⟨⟨1, ⟨1, 1⟩, ⟨1, 2⟩, ⟨1, 4⟩, 8, 20⟩, {}, true⟩
  let t : Transfer := ⟨some (List.replicate 70 5), true, 70⟩
  let log : List (List UInt8 × HalStatus × List UInt8) :=
    [(List.replicate 64 5, HalStatus.ok, List.replicate 64 9),
      (List.replicate 6 5, HalStatus.ok, List.replicate 6 9)]
  have htrace : Trace (backend.spiTransfer t) (log.map (chunkCall backend.config))
      ((true, List.replicate 70 9),
        afterChunks { backend with stats.spiTransferCalls := 1 } t 2 true) := by
    apply Trace.call
    apply Trace.call
    exact Trace.ret _
  obtain ⟨log', -, -, -, -, -, hall, hreceived, -⟩ :=
    (spiTransfer_sends rfl htrace).2 (by decide)
  obtain ⟨hsent, hlength⟩ := hall rfl
  exact ⟨_, _, log', htrace, hlength.trans (by decide), hsent, hreceived.symm⟩

end Stm32f4Sx128xPort

end RadioConnection
