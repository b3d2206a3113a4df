import RadioConnection.Link.Sx128xPacketRadio
import RadioConnection.Platform.ChipCommands

/-!
# The adapter on the radio

The adapter makes calls of the driver, the driver calls of the port, and the port
calls of the HAL, behind which there is the radio.

* `driverHandler`: the functions of `sx128x.c` as the answers to the calls of the
  adapter.
* `chipDriver`: what the adapter takes these calls to do to the radio.
* `chipDriver_of_chipPort`: **the driver does what the adapter takes it to do**, and
  `chipDriver_of_chipHal`: so the adapter runs on the pins of the STM32F4 as on the
  radio itself.
-/

namespace RadioConnection

open Interaction Prog Stm32f4Sx128xPort Sx128x

/-- The calls of the adapter, answered by the driver; a wait that the bound ends gives up.  The
clock of `stm32_time.c` is the tick that the port reads too. -/
def driverHandler (device : Sx128x) (bound : ℕ) :
    Handler DriverOp DriverOp.Ans PortOp PortOp.Ans Unit
  | .nowMs, _ => do
    let now ← port .timeMs
    pure (some (now, ()))
  | .elapsedMs sinceMs, _ => do
    let now ← port .timeMs
    pure (some (now - sinceMs, ()))
  | .clearIrqStatus mask, _ => do
    let result ← device.clearIrqStatus bound mask
    pure (result.map (·, ()))
  | .writeBuffer offset data, _ => do
    let result ← device.writeBuffer bound offset (some data) data.length.toUInt32
    pure (result.map (·, ()))
  | .setTx timeoutBase timeoutCount, _ => do
    let result ← device.setTx bound timeoutBase.toUInt32 timeoutCount
    pure (result.map (·, ()))
  | .setRx timeoutBase timeoutCount, _ => do
    let result ← device.setRx bound timeoutBase.toUInt32 timeoutCount
    pure (result.map (·, ()))
  | .setStandby, _ => do
    let result ← device.setStandby bound sx128xStandbyRc
    pure (result.map (·, ()))
  | .takeDio1Event, _ => do
    let taken ← device.takeDio1Event
    pure (some (taken, ()))
  | .getIrqStatus, _ => do
    let r ← device.getIrqStatus bound (some sx128xIrqNone)
    pure (r.map fun r => ((r.1, r.2.getD sx128xIrqNone), ()))
  | .getRxBufferStatus, _ => do
    let r ← device.getRxBufferStatus bound (some ⟨0, 0⟩)
    pure (r.map fun r => ((r.1, r.2.getD ⟨0, 0⟩), ()))
  | .readBuffer offset length, _ => do
    let r ← device.readBuffer bound offset (some []) length.toUInt32
    pure (r.map fun r => ((r.1, r.2.getD []), ()))
  | .getLoRaPacketStatus, _ => do
    let r ← device.getLoRaPacketStatus bound (some ⟨0, 0⟩)
    pure (r.map fun r => ((r.1, r.2.getD ⟨0, 0⟩), ()))
  | .refused, _ => pure (some ((), ()))

/-! ## The radio as the adapter sees it -/

/-- A command that is OK has been performed; one that fails has been heard in part. -/
def RadioChip.Commanded (chip : RadioChip) (command : Sx128xCommand) (parameters : List UInt8)
    (result : Sx128xResult) (chip' : RadioChip) : Prop :=
  (result = .ok → chip' = chip.perform command parameters) ∧
  (result ≠ .ok → ∃ part, part <+: command.opcode :: parameters ∧ chip' = chip.receive part)

def chipDriver : Env DriverOp DriverOp.Ans RadioChip
  | .clearIrqStatus mask, chip, result, chip' =>
    chip.Commanded .clearIrqStatus (writeU16Be mask) result chip'
  | .writeBuffer offset data, chip, result, chip' =>
    chip.Commanded .writeBuffer (offset :: bytes ⟨some data, false, data.length.toUInt32⟩) result
      chip'
  | .setTx timeoutBase timeoutCount, chip, result, chip' =>
    chip.Commanded .setTx (timeoutBase :: writeU16Be timeoutCount) result chip'
  | .setRx timeoutBase timeoutCount, chip, result, chip' =>
    chip.Commanded .setRx (timeoutBase :: writeU16Be timeoutCount) result chip'
  | .setStandby, chip, result, chip' =>
    chip.Commanded .setStandby [sx128xStandbyRc.toUInt8] result chip'
  | .getIrqStatus, chip, r, chip' => chip' = chip ∧ (r.1 = .ok → r.2 = chip.irqStatus)
  | .getRxBufferStatus, chip, r, chip' =>
    chip' = chip ∧ (r.1 = .ok → r.2 = ⟨chip.rxPayloadLength, chip.rxStart⟩)
  | .readBuffer offset length, chip, r, chip' => chip' = chip ∧ (r.1 = .ok →
    r.2 = (List.range length.toNat).map fun i => chip.buffer (offset + UInt8.ofNat i))
  | .getLoRaPacketStatus, chip, r, chip' => chip' = chip ∧ (r.1 = .ok →
    r.2 = ⟨-chip.rssi.toUInt16.toInt16, chip.snr.toInt8.toInt16⟩)
  | _, chip, _, chip' => chip' = chip

variable {device : Sx128x} {bound : ℕ} {reset chip : RadioChip} {s' : ChipBus}

/-! ## Writes -/

theorem commanded_of_transact {t : Transaction} {command : Sx128xCommand}
    {parameters : List UInt8} (hwire : t.wire = command.opcode :: parameters) {r : Sx128xResult}
    (h : Runs (chipPort reset) (device.transact bound t) ⟨chip, none⟩ (some r) s') :
    ∃ chip', s' = ⟨chip', none⟩ ∧ chip.Commanded command parameters r chip' := by
  rcases runs_transact h with ⟨hr, rfl⟩ | ⟨hr, part, hpart, rfl⟩ | ⟨hr, -, rfl⟩
  · obtain rfl := Option.some.inj hr
    exact ⟨_, rfl, fun _ => by rw [hwire, receive_write], fun hne => absurd rfl hne⟩
  · obtain rfl := Option.some.inj hr
    rw [hwire] at hpart
    exact ⟨_, rfl, (fun hok => by cases hok), fun _ => ⟨part, hpart, rfl⟩⟩
  · refine ⟨_, rfl, fun hok => absurd (congrArg some hok) hr, fun _ => ⟨[], List.nil_prefix, rfl⟩⟩

theorem commanded_rejected {command : Sx128xCommand} {parameters : List UInt8}
    {r result : Sx128xResult} (hr : result ≠ .ok)
    (h : Runs (chipPort reset) (pure (some result) : PortProg _) ⟨chip, none⟩ (some r) s') :
    ∃ chip', s' = ⟨chip', none⟩ ∧ chip.Commanded command parameters r chip' := by
  obtain ⟨he, rfl⟩ := runs_pure_iff.mp h
  obtain rfl := Option.some.inj he
  exact ⟨chip, rfl, fun hok => absurd hok hr, fun _ => ⟨[], List.nil_prefix, rfl⟩⟩

theorem commanded_of_writeCommand {command : Sx128xCommand} {parameters : List UInt8}
    {count : UInt32} (hcount : parameters.length = count.toNat) {r : Sx128xResult}
    (h : Runs (chipPort reset) (device.writeCommand bound command (some parameters) count)
      ⟨chip, none⟩ (some r) s') :
    ∃ chip', s' = ⟨chip', none⟩ ∧ chip.Commanded command parameters r chip' := by
  rw [writeCommand_eq] at h
  split at h
  · exact commanded_rejected (by decide) h
  split at h
  · exact commanded_rejected (by decide) h
  · exact commanded_of_transact (wire_write command hcount) h

theorem commanded_of_setTimeoutCommand {command : Sx128xCommand} {timeoutBase : UInt8}
    {timeoutCount : UInt16} {r : Sx128xResult}
    (h : Runs (chipPort reset) (device.setTimeoutCommand bound command timeoutBase.toUInt32
      timeoutCount) ⟨chip, none⟩ (some r) s') :
    ∃ chip', s' = ⟨chip', none⟩ ∧
      chip.Commanded command (timeoutBase :: writeU16Be timeoutCount) r chip' := by
  rw [setTimeoutCommand] at h
  split at h
  · exact commanded_rejected (by decide) h
  · have hbyte : timeoutBase.toUInt32.toUInt8 = timeoutBase := by simp
    rw [hbyte] at h
    exact commanded_of_writeCommand rfl h

theorem commanded_of_setStandby {r : Sx128xResult}
    (h : Runs (chipPort reset) (device.setStandby bound sx128xStandbyRc) ⟨chip, none⟩ (some r)
      s') :
    ∃ chip', s' = ⟨chip', none⟩ ∧
      chip.Commanded .setStandby [sx128xStandbyRc.toUInt8] r chip' := by
  rw [setStandby, if_neg (by decide)] at h
  exact commanded_of_writeCommand rfl h

theorem commanded_of_writeBuffer {offset : UInt8} {data : List UInt8} {length : UInt32}
    {r : Sx128xResult}
    (h : Runs (chipPort reset) (device.writeBuffer bound offset (some data) length)
      ⟨chip, none⟩ (some r) s') :
    ∃ chip', s' = ⟨chip', none⟩ ∧
      chip.Commanded .writeBuffer (offset :: bytes ⟨some data, false, length⟩) r chip' := by
  rw [writeBuffer_eq] at h
  split at h
  · exact commanded_rejected (by decide) h
  split at h
  · exact commanded_rejected (by decide) h
  · refine commanded_of_transact ?_ h
    rw [Transaction.wire, Transaction.transfers, List.flatMap_cons, List.flatMap_cons,
      List.flatMap_cons, List.flatMap_nil, bytes_some rfl, bytes_some rfl, List.append_nil]
    rfl

/-! ## Reads -/

theorem read_of_readCommand (hready : device.initialized = true) {command : Sx128xCommand}
    (hc : command ∈ [Sx128xCommand.getIrqStatus, .getRxBufferStatus, .getPacketStatus])
    {length : UInt32} (hlength : length ≠ 0) {r : Option (Sx128xResult × Option (List UInt8))}
    (h : Runs (chipPort reset) (device.readCommand bound command (some []) length) ⟨chip, none⟩
      r s') (hr : r ≠ none) :
    ∃ result data, r = some (result, data) ∧ s' = ⟨chip, none⟩ ∧
      (result = .ok → data = some ((List.range length.toNat).map (chip.response command))) := by
  obtain ⟨⟨result, data⟩, rfl⟩ := Option.ne_none_iff_exists'.mp hr
  refine ⟨result, data, rfl, runs_readCommand hready ?_ ?_ hlength h⟩
  · refine asks_of_mem ?_
    simp only [List.mem_cons, List.not_mem_nil, or_false] at hc ⊢
    rcases hc with rfl | rfl | rfl <;> simp
  · rintro rfl
    exact absurd hc (by decide)

theorem read_getIrqStatus (hready : device.initialized = true) {old status : UInt16}
    {result : Sx128xResult} {data : Option UInt16}
    (h : Runs (chipPort reset) (device.getIrqStatus bound (some old)) ⟨chip, none⟩
      (some (result, data)) s') (hdata : status = data.getD sx128xIrqNone) :
    s' = ⟨chip, none⟩ ∧ (result = .ok → status = chip.irqStatus) := by
  rw [getIrqStatus, if_neg (by simp)] at h
  obtain ⟨r, m, hread, h⟩ := runs_bind_iff.mp h
  have hr : r ≠ none := by
    rintro rfl
    cases (runs_pure_iff.mp h).1
  obtain ⟨result', response, rfl, rfl, hok⟩ := read_of_readCommand hready (by simp) (by decide)
    hread hr
  dsimp only at h
  split at h
  · rename_i hresult
    obtain ⟨he, rfl⟩ := runs_pure_iff.mp h
    obtain ⟨rfl, rfl⟩ := Prod.mk.inj (Option.some.inj he)
    obtain rfl := hok hresult
    exact ⟨rfl, fun _ => hdata.trans (readU16Be_writeU16Be chip.irqStatus)⟩
  · rename_i hresult
    obtain ⟨he, rfl⟩ := runs_pure_iff.mp h
    obtain ⟨rfl, rfl⟩ := Prod.mk.inj (Option.some.inj he)
    exact ⟨rfl, fun hr => absurd hr hresult⟩

theorem read_getRxBufferStatus (hready : device.initialized = true)
    {old status : Sx128xRxBufferStatus} {result : Sx128xResult}
    {data : Option Sx128xRxBufferStatus}
    (h : Runs (chipPort reset) (device.getRxBufferStatus bound (some old)) ⟨chip, none⟩
      (some (result, data)) s') (hdata : status = data.getD ⟨0, 0⟩) :
    s' = ⟨chip, none⟩ ∧ (result = .ok → status = ⟨chip.rxPayloadLength, chip.rxStart⟩) := by
  rw [getRxBufferStatus, if_neg (by simp)] at h
  obtain ⟨r, m, hread, h⟩ := runs_bind_iff.mp h
  have hr : r ≠ none := by
    rintro rfl
    cases (runs_pure_iff.mp h).1
  obtain ⟨result', response, rfl, rfl, hok⟩ := read_of_readCommand hready (by simp) (by decide)
    hread hr
  dsimp only at h
  split at h
  · rename_i hresult
    obtain ⟨he, rfl⟩ := runs_pure_iff.mp h
    obtain ⟨rfl, rfl⟩ := Prod.mk.inj (Option.some.inj he)
    obtain rfl := hok hresult
    exact ⟨rfl, fun _ => hdata⟩
  · rename_i hresult
    obtain ⟨he, rfl⟩ := runs_pure_iff.mp h
    obtain ⟨rfl, rfl⟩ := Prod.mk.inj (Option.some.inj he)
    exact ⟨rfl, fun hr => absurd hr hresult⟩

theorem read_getLoRaPacketStatus (hready : device.initialized = true)
    {old status : Sx128xLoRaPacketStatus} {result : Sx128xResult}
    {data : Option Sx128xLoRaPacketStatus}
    (h : Runs (chipPort reset) (device.getLoRaPacketStatus bound (some old)) ⟨chip, none⟩
      (some (result, data)) s') (hdata : status = data.getD ⟨0, 0⟩) :
    s' = ⟨chip, none⟩ ∧
      (result = .ok → status = ⟨-chip.rssi.toUInt16.toInt16, chip.snr.toInt8.toInt16⟩) := by
  rw [getLoRaPacketStatus, if_neg (by simp)] at h
  obtain ⟨r, m, hread, h⟩ := runs_bind_iff.mp h
  have hr : r ≠ none := by
    rintro rfl
    cases (runs_pure_iff.mp h).1
  obtain ⟨result', response, rfl, rfl, hok⟩ := read_of_readCommand hready (by simp) (by decide)
    hread hr
  dsimp only at h
  split at h
  · rename_i hresult
    obtain ⟨he, rfl⟩ := runs_pure_iff.mp h
    obtain ⟨rfl, rfl⟩ := Prod.mk.inj (Option.some.inj he)
    obtain rfl := hok hresult
    exact ⟨rfl, fun _ => hdata⟩
  · rename_i hresult
    obtain ⟨he, rfl⟩ := runs_pure_iff.mp h
    obtain ⟨rfl, rfl⟩ := Prod.mk.inj (Option.some.inj he)
    exact ⟨rfl, fun hr => absurd hr hresult⟩

theorem read_readBuffer (hready : device.initialized = true) {offset length : UInt8}
    {result : Sx128xResult} {data : Option (List UInt8)}
    (h : Runs (chipPort reset) (device.readBuffer bound offset (some []) length.toUInt32)
      ⟨chip, none⟩ (some (result, data)) s') :
    s' = ⟨chip, none⟩ ∧ (result = .ok → data =
      some ((List.range length.toNat).map fun i => chip.buffer (offset + UInt8.ofNat i))) := by
  by_cases hvalid : length.toUInt32 ≠ 0 ∧
      offset.toUInt32 + length.toUInt32 ≤ sx128xBufferSize
  · exact runs_readBuffer hready hvalid.1 hvalid.2 h
  · rw [readBuffer, if_neg (not_not.mpr hready), if_pos] at h
    · obtain ⟨he, rfl⟩ := runs_pure_iff.mp h
      obtain ⟨rfl, rfl⟩ := Prod.mk.inj (Option.some.inj he)
      exact ⟨rfl, fun hr => by cases hr⟩
    · rw [not_and_or, not_not, UInt32.not_le] at hvalid
      exact .inr hvalid

/-! ## The driver on the radio -/

theorem returned_of_map {α β : Type} {p : PortProg (Option α)} {f : α → β} {x : β}
    (h : Runs (chipPort reset) (do
      let r ← p
      pure (r.map fun r => (f r, ()))) ⟨chip, none⟩ (some (x, ())) s') :
    ∃ r, Runs (chipPort reset) p ⟨chip, none⟩ (some r) s' ∧ x = f r := by
  obtain ⟨r, m, hr, h⟩ := runs_bind_iff.mp h
  obtain ⟨he, rfl⟩ := runs_pure_iff.mp h
  obtain ⟨r, rfl, hx⟩ := Option.map_eq_some_iff.mp he.symm
  exact ⟨r, hr, (Prod.mk.inj hx).1.symm⟩

/-- **The driver does to the radio what the adapter takes it to do.** -/
theorem chipDriver_of_chipPort (hready : device.initialized = true) {o : DriverOp} {x : o.Ans}
    (h : Runs (chipPort reset) (driverHandler device bound o ()) ⟨chip, none⟩ (some (x, ())) s') :
    ∃ chip', s' = ⟨chip', none⟩ ∧ chipDriver o chip x chip' := by
  cases o with
  | clearIrqStatus mask =>
    obtain ⟨r, hr, rfl⟩ := returned_of_map h
    exact commanded_of_writeCommand rfl hr
  | writeBuffer offset data =>
    obtain ⟨r, hr, rfl⟩ := returned_of_map h
    exact commanded_of_writeBuffer hr
  | setTx timeoutBase timeoutCount =>
    obtain ⟨r, hr, rfl⟩ := returned_of_map h
    exact commanded_of_setTimeoutCommand hr
  | setRx timeoutBase timeoutCount =>
    obtain ⟨r, hr, rfl⟩ := returned_of_map h
    exact commanded_of_setTimeoutCommand hr
  | setStandby =>
    obtain ⟨r, hr, rfl⟩ := returned_of_map h
    exact commanded_of_setStandby hr
  | getIrqStatus =>
    obtain ⟨r, hr, rfl⟩ := returned_of_map h
    exact ⟨chip, read_getIrqStatus hready hr rfl |>.1, rfl, (read_getIrqStatus hready hr rfl).2⟩
  | getRxBufferStatus =>
    obtain ⟨r, hr, rfl⟩ := returned_of_map h
    obtain ⟨hs, hok⟩ := read_getRxBufferStatus hready hr rfl
    exact ⟨chip, hs, rfl, hok⟩
  | getLoRaPacketStatus =>
    obtain ⟨r, hr, rfl⟩ := returned_of_map h
    obtain ⟨hs, hok⟩ := read_getLoRaPacketStatus hready hr rfl
    exact ⟨chip, hs, rfl, hok⟩
  | readBuffer offset length =>
    obtain ⟨r, hr, rfl⟩ := returned_of_map h
    obtain ⟨hs, hok⟩ := read_readBuffer hready hr
    refine ⟨chip, hs, rfl, fun hresult => ?_⟩
    rw [hok hresult]
    rfl
  | nowMs =>
    obtain ⟨now, m, hnow, h⟩ := runs_bind_iff.mp h
    obtain rfl : m = ⟨chip, none⟩ := runs_ask_iff.mp hnow
    exact ⟨chip, (runs_pure_iff.mp h).2, rfl⟩
  | elapsedMs sinceMs =>
    obtain ⟨now, m, hnow, h⟩ := runs_bind_iff.mp h
    obtain rfl : m = ⟨chip, none⟩ := runs_ask_iff.mp hnow
    exact ⟨chip, (runs_pure_iff.mp h).2, rfl⟩
  | takeDio1Event =>
    obtain ⟨taken, m, htake, h⟩ := runs_bind_iff.mp h
    rw [Sx128x.takeDio1Event, if_pos hready] at htake
    obtain rfl : m = ⟨chip, none⟩ := runs_ask_iff.mp htake
    exact ⟨chip, (runs_pure_iff.mp h).2, rfl⟩
  | refused => exact ⟨chip, (runs_pure_iff.mp h).2, rfl⟩

/-- Everything below the adapter, with the radio. -/
def driverStack (config : Stm32f4Sx128xPortConfig) (device : Sx128x) (bound : ℕ)
    (reset : RadioChip) : Env DriverOp DriverOp.Ans (Unit × Stm32f4Sx128xPort × ChipBus) :=
  ((chipHal config reset).through portHandler).through (driverHandler device bound)

/-- The backend of a port that was started, and a radio that is not selected. -/
def AtRest (config : Stm32f4Sx128xPortConfig) (q : Unit × Stm32f4Sx128xPort × ChipBus)
    (chip : RadioChip) : Prop :=
  (q.2.1.initialized = true ∧ q.2.1.config = config) ∧ q.2.2 = ⟨chip, none⟩

theorem chipDriver_of_driverStack {config : Stm32f4Sx128xPortConfig} {o : DriverOp} {x : o.Ans}
    {q q' : Unit × Stm32f4Sx128xPort × ChipBus} (hw : Wired config)
    (htouched : config.reset.isTouched config.reset = true) (hready : device.initialized = true)
    (h : driverStack config device bound reset o q x q') (hq : AtRest config q chip) :
    ∃ chip', chipDriver o chip x chip' ∧ AtRest config q' chip' := by
  obtain ⟨hb, hs⟩ := hq
  obtain ⟨hruns, hb'⟩ := runs_chipPort hw htouched hb h
  rw [hs] at hruns
  obtain ⟨chip', hs', hchip⟩ := chipDriver_of_chipPort hready hruns
  exact ⟨chip', hchip, hb', hs'⟩

/-- **The adapter runs on the pins of the STM32F4 as on the radio itself.** -/
theorem chipDriver_of_chipHal {config : Stm32f4Sx128xPortConfig} {α : Type} {p : DriverProg α}
    {a : α} {b b' : Stm32f4Sx128xPort} (hw : Wired config)
    (htouched : config.reset.isTouched config.reset = true) (hb : b.initialized = true)
    (hconfig : b.config = config) (hready : device.initialized = true)
    (h : Runs (chipHal config reset) (interp portHandler (interp (driverHandler device bound) p ())
      b) ⟨chip, none⟩ (some (some (a, ()), b')) s') :
    ∃ chip', s' = ⟨chip', none⟩ ∧ Runs chipDriver p chip a chip' := by
  have hstack : Runs (driverStack config device bound reset) p ((), b, ⟨chip, none⟩) a
      ((), b', s') := runs_interp_iff.mp (runs_interp_iff.mp h)
  have hrest : AtRest config ((), b, ⟨chip, none⟩) chip := ⟨⟨hb, hconfig⟩, rfl⟩
  have hstep : ∀ o q x q' t, driverStack config device bound reset o q x q' → AtRest config q t →
      ∃ t', chipDriver o t x t' ∧ AtRest config q' t' := fun _ _ _ _ _ =>
    chipDriver_of_driverStack hw htouched hready
  obtain ⟨chip', hruns, -, hs⟩ := hstack.map hstep hrest
  exact ⟨chip', hs, hruns⟩

end RadioConnection
