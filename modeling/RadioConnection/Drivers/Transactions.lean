import RadioConnection.Drivers.Sx128x

/-!
# The driver's transactions

A command of the radio is one transaction: BUSY is waited for, NSS goes low, the
opcode and the command's other transfers follow each other until one fails, and
NSS goes high again.  `sx128x.c` writes this out five times, in
`sx128x_write_command`, `sx128x_read_command`, `sx128x_get_status`,
`sx128x_write_buffer` and `sx128x_read_buffer`.

* `transact`: a transaction as one program, and `sequence`: several of them, each
  after the OK of the one before.
* `writeCommand_eq`, `readCommand_eq`, `getStatus_eq`, `writeBuffer_eq` and
  `readBuffer_eq`: each of the five is its guards and then `transact`.
* `configure_eq`: the configuration is the sequence of its eight commands.
* `Sx128xCall.run_does`: **every call that makes commands rejects its arguments or
  makes the transactions of `Sx128xCall.transactions`.**
-/

namespace RadioConnection

open Interaction

/-- A command as the radio receives it: its opcode and the transfers that follow. -/
structure Transaction where
  command : Sx128xCommand
  rxData : Bool
  arguments : List Transfer
  deriving DecidableEq, Repr

/-- The transfers of a transaction, the opcode first. -/
def Transaction.transfers (t : Transaction) : List Transfer :=
  ⟨some [t.command.opcode], t.rxData, 1⟩ :: t.arguments

def writeTransaction (command : Sx128xCommand) (parameters : Option (List UInt8))
    (parameterCount : UInt32) : Transaction :=
  ⟨command, false, if 0 < parameterCount then [⟨parameters, false, parameterCount⟩] else []⟩

def readTransaction (command : Sx128xCommand) (responseLength : UInt32) : Transaction :=
  ⟨command, true, [⟨some [sx128xSpiNop], true, 1⟩, ⟨none, true, responseLength⟩]⟩

/-- The 24 bits of the radio's frequency, `frequency_hz * 2^18 / 52 MHz`. -/
def rfFrequencyTransaction (frequencyHz : UInt32) : Transaction :=
  let frequencyRegister := ((frequencyHz.toUInt64 <<< 18) / sx128xXtalFrequencyHz).toUInt32
  writeTransaction .setRfFrequency (some [(frequencyRegister >>> 16).toUInt8,
    (frequencyRegister >>> 8).toUInt8, frequencyRegister.toUInt8]) 3

namespace Sx128x

/-- Transfers one after the other, until one fails. -/
def attempt : List Transfer → PortProg Bool
  | [] => pure true
  | t :: ts => do
    let (sent, _) ← port (.spiTransfer t)
    if ¬ sent then pure false else attempt ts

/-- The one shape of all commands: wait for BUSY, select, transfer, release. -/
def transact (device : Sx128x) (bound : Nat) (t : Transaction) :
    PortProg (Option Sx128xResult) := do
  let result ← device.waitWhileBusy bound
  if result ≠ some .ok then pure result
  else
    port (.nssWrite false)
    let sent ← attempt t.transfers
    port (.nssWrite true)
    pure (some (if sent then .ok else .spiError))

/-- Transactions one after the other, as long as each is OK. -/
def sequence (device : Sx128x) (bound : Nat) :
    List Transaction → Option Sx128xResult → PortProg (Option Sx128xResult)
  | [], result => pure result
  | t :: ts, result => do
    let result ← andThen result (device.transact bound t)
    device.sequence bound ts result

open Sx128xCall (first)

variable {device : Sx128x} {bound : Nat}

/-- The next transfer of a transaction, whatever is done with the bytes it receives. -/
theorem attempt_cons_bind {α : Type} (t : Transfer) (ts : List Transfer) (k : Bool → PortProg α) :
    attempt (t :: ts) >>= k =
      port (.spiTransfer t) >>= fun x => if x.1 then attempt ts >>= k else k false := by
  simp only [attempt, bind_assoc]
  refine bind_congr fun x => ?_
  obtain ⟨sent, received⟩ := x
  cases sent <;> simp

theorem attempt_nil_bind {α : Type} (k : Bool → PortProg α) : attempt [] >>= k = k true :=
  pure_bind true k

theorem first_guard {α : Type} {c : Prop} [Decidable c] (result : Sx128xResult) (x : α)
    (p : PortProg (Option (Sx128xResult × α))) :
    first (if c then pure (some (result, x)) else p) =
      if c then pure (some result) else first p := by
  split <;> rfl

theorem writeCommand_eq (command : Sx128xCommand) (parameters : Option (List UInt8))
    (parameterCount : UInt32) :
    device.writeCommand bound command parameters parameterCount =
      if ¬ device.initialized then pure (some .notInitialized)
      else if 0 < parameterCount ∧ parameters = none then pure (some .invalidArgument)
      else device.transact bound (writeTransaction command parameters parameterCount) := by
  rw [writeCommand, transact]
  congr 2
  refine bind_congr fun result => ?_
  split
  · rfl
  · refine bind_congr fun _ => ?_
    rw [Transaction.transfers, attempt_cons_bind]
    refine bind_congr fun x => ?_
    by_cases hx : x.1
    · by_cases hcount : 0 < parameterCount
      · simp only [hx, not_true_eq_false, if_false, hcount, if_true, writeTransaction,
          attempt_cons_bind, attempt_nil_bind, spiTransfer]
        refine bind_congr fun y => ?_
        by_cases hy : y.1 <;> simp [hy]
      · simp [hx, hcount, writeTransaction, attempt]
    · simp [hx]

theorem readCommand_eq (command : Sx128xCommand) (response : Option (List UInt8))
    (responseLength : UInt32) :
    first (device.readCommand bound command response responseLength) =
      if ¬ device.initialized then pure (some .notInitialized)
      else if response = none ∨ responseLength = 0 then pure (some .invalidArgument)
      else device.transact bound (readTransaction command responseLength) := by
  rw [readCommand, first_guard, first_guard, transact, first, map_bind]
  congr 2
  refine bind_congr fun result => ?_
  split
  · cases result <;> simp
  · rw [map_bind]
    refine bind_congr fun _ => ?_
    simp only [Transaction.transfers, readTransaction, attempt_cons_bind, attempt_nil_bind,
      map_bind, spiTransfer]
    refine bind_congr fun x => ?_
    by_cases hx : x.1
    · simp only [hx, not_true_eq_false, if_false, if_true, map_bind]
      refine bind_congr fun y => ?_
      by_cases hy : y.1
      · simp only [hy, not_true_eq_false, if_false, if_true, map_bind]
        refine bind_congr fun z => ?_
        by_cases hz : z.1 <;> simp [hz]
      · simp [hy]
    · simp [hx]

theorem getStatus_eq (status : Option UInt8) :
    first (device.getStatus bound status) =
      if ¬ device.initialized then pure (some .notInitialized)
      else if status = none then pure (some .invalidArgument)
      else device.transact bound ⟨.getStatus, true, []⟩ := by
  rw [getStatus, first_guard, first_guard, transact, first, map_bind]
  congr 2
  refine bind_congr fun result => ?_
  split
  · cases result <;> simp
  · rw [map_bind]
    refine bind_congr fun _ => ?_
    simp only [Transaction.transfers, attempt_cons_bind, attempt_nil_bind, map_bind, spiTransfer]
    refine bind_congr fun x => ?_
    by_cases hx : x.1 <;> simp [hx]

theorem writeBuffer_eq (offset : UInt8) (data : Option (List UInt8)) (length : UInt32) :
    device.writeBuffer bound offset data length =
      if ¬ device.initialized then pure (some .notInitialized)
      else if data = none ∨ length = 0 ∨ sx128xBufferSize < offset.toUInt32 + length then
        pure (some .invalidArgument)
      else device.transact bound
        ⟨.writeBuffer, false, [⟨some [offset], false, 1⟩, ⟨data, false, length⟩]⟩ := by
  rw [writeBuffer, transact]
  congr 2
  refine bind_congr fun result => ?_
  split
  · rfl
  · refine bind_congr fun _ => ?_
    simp only [Transaction.transfers, attempt_cons_bind, attempt_nil_bind, spiTransfer]
    refine bind_congr fun x => ?_
    by_cases hx : x.1
    · simp only [hx, not_true_eq_false, if_false, if_true]
      refine bind_congr fun y => ?_
      by_cases hy : y.1
      · simp only [hy, not_true_eq_false, if_false, if_true]
        refine bind_congr fun z => ?_
        by_cases hz : z.1 <;> simp [hz]
      · simp [hy]
    · simp [hx]

theorem readBuffer_eq (offset : UInt8) (data : Option (List UInt8)) (length : UInt32) :
    first (device.readBuffer bound offset data length) =
      if ¬ device.initialized then pure (some .notInitialized)
      else if data = none ∨ length = 0 ∨ sx128xBufferSize < offset.toUInt32 + length then
        pure (some .invalidArgument)
      else device.transact bound ⟨.readBuffer, true, [⟨some [offset], true, 1⟩,
        ⟨some [sx128xSpiNop], true, 1⟩, ⟨none, true, length⟩]⟩ := by
  rw [readBuffer, first_guard, first_guard, transact, first, map_bind]
  congr 2
  refine bind_congr fun result => ?_
  split
  · cases result <;> simp
  · rw [map_bind]
    refine bind_congr fun _ => ?_
    simp only [Transaction.transfers, attempt_cons_bind, attempt_nil_bind, map_bind,
      spiTransfer]
    refine bind_congr fun x => ?_
    by_cases hx : x.1
    · simp only [hx, not_true_eq_false, if_false, if_true, map_bind]
      refine bind_congr fun y => ?_
      by_cases hy : y.1
      · simp only [hy, not_true_eq_false, if_false, if_true, map_bind]
        refine bind_congr fun z => ?_
        by_cases hz : z.1
        · simp only [hz, not_true_eq_false, if_false, if_true, map_bind]
          refine bind_congr fun w => ?_
          by_cases hw : w.1 <;> simp [hw]
        · simp [hz]
      · simp [hy]
    · simp [hx]

/-! ## Every command is a sequence of transactions -/

theorem sequence_ok_cons (t : Transaction) (ts : List Transaction) :
    device.sequence bound (t :: ts) (some .ok) =
      device.transact bound t >>= device.sequence bound ts := by
  rw [sequence, andThen, if_pos rfl]

theorem sequence_of_ne_ok {result : Option Sx128xResult} (h : result ≠ some .ok)
    (ts : List Transaction) : device.sequence bound ts result = pure result := by
  induction ts with
  | nil => rfl
  | cons t ts ih => rw [sequence, andThen, if_neg h, pure_bind, ih]

theorem sequence_singleton (t : Transaction) :
    device.sequence bound [t] (some .ok) = device.transact bound t := by
  rw [sequence_ok_cons]
  exact bind_pure (device.transact bound t)

/-- A result that a command gives before it waits for BUSY. -/
def Rejected (result : Sx128xResult) : Prop :=
  result = .notInitialized ∨ result = .invalidArgument ∨ result = .outOfRange

/-- `p` rejects its arguments, or makes the transactions of `plan`. -/
def Does (device : Sx128x) (bound : Nat) (p : PortProg (Option Sx128xResult))
    (plan : List Transaction) : Prop :=
  (∃ result, Rejected result ∧ p = pure (some result)) ∨
  (device.initialized = true ∧ p = device.sequence bound plan (some .ok))

theorem Does.guard {p : PortProg (Option Sx128xResult)} {plan : List Transaction} {c : Prop}
    [Decidable c] {result : Sx128xResult} (hresult : Rejected result)
    (h : ¬ c → device.Does bound p plan) :
    device.Does bound (if c then pure (some result) else p) plan := by
  by_cases hc : c
  · rw [if_pos hc]
    exact .inl ⟨result, hresult, rfl⟩
  · rw [if_neg hc]
    exact h hc

theorem does_transact (h : ¬ ¬ device.initialized = true) (t : Transaction) :
    device.Does bound (device.transact bound t) [t] :=
  .inr ⟨not_not.mp h, (sequence_singleton t).symm⟩

theorem does_writeCommand (command : Sx128xCommand) (parameters : Option (List UInt8))
    (parameterCount : UInt32) :
    device.Does bound (device.writeCommand bound command parameters parameterCount)
      [writeTransaction command parameters parameterCount] := by
  rw [writeCommand_eq]
  exact .guard (.inl rfl) fun h => .guard (.inr (.inl rfl)) fun _ => does_transact h _

theorem does_readCommand (command : Sx128xCommand) (response : Option (List UInt8))
    (responseLength : UInt32) :
    device.Does bound (first (device.readCommand bound command response responseLength))
      [readTransaction command responseLength] := by
  rw [readCommand_eq]
  exact .guard (.inl rfl) fun h => .guard (.inr (.inl rfl)) fun _ => does_transact h _

/-- A getter makes the transactions of its command, whatever it does with the response. -/
theorem first_bind {α β : Type} (p : PortProg (Option (Sx128xResult × α)))
    {k : Option (Sx128xResult × α) → PortProg (Option (Sx128xResult × β))}
    (hk : ∀ x, first (k x) = pure (x.map Prod.fst)) : first (p >>= k) = first p := by
  rw [first, map_bind, first, map_eq_pure_bind]
  exact bind_congr hk

theorem first_ite_ok {β : Type} (result : Sx128xResult) (x y : β) :
    first (if result = .ok then pure (some (result, x)) else pure (some (result, y))) =
      pure (some result) := by
  split <;> rfl

theorem does_getIrqStatus (irqStatus : Option UInt16) :
    device.Does bound (first (device.getIrqStatus bound irqStatus))
      [readTransaction .getIrqStatus 2] := by
  rw [getIrqStatus, first_guard]
  refine .guard (.inr (.inl rfl)) fun _ => ?_
  rw [first_bind]
  · exact does_readCommand .getIrqStatus (some []) 2
  · rintro (_ | ⟨result, response⟩)
    · rfl
    · exact first_ite_ok result _ _

theorem does_getRxBufferStatus (status : Option Sx128xRxBufferStatus) :
    device.Does bound (first (device.getRxBufferStatus bound status))
      [readTransaction .getRxBufferStatus 2] := by
  rw [getRxBufferStatus, first_guard]
  refine .guard (.inr (.inl rfl)) fun _ => ?_
  rw [first_bind]
  · exact does_readCommand .getRxBufferStatus (some []) 2
  · rintro (_ | ⟨result, response⟩)
    · rfl
    · exact first_ite_ok result _ _

theorem does_getLoRaPacketStatus (status : Option Sx128xLoRaPacketStatus) :
    device.Does bound (first (device.getLoRaPacketStatus bound status))
      [readTransaction .getPacketStatus sx128xLoRaPacketStatusSize] := by
  rw [getLoRaPacketStatus, first_guard]
  refine .guard (.inr (.inl rfl)) fun _ => ?_
  rw [first_bind]
  · exact does_readCommand .getPacketStatus (some []) sx128xLoRaPacketStatusSize
  · rintro (_ | ⟨result, response⟩)
    · rfl
    · exact first_ite_ok result _ _

/-! ## The configuration -/

def configureTransactions (config : Sx128xLoRaConfig) : List Transaction :=
  [writeTransaction .setStandby (some [sx128xStandbyRc.toUInt8]) 1,
    writeTransaction .setPacketType (some [sx128xPacketTypeLoRa.toUInt8]) 1,
    rfFrequencyTransaction config.frequencyHz,
    writeTransaction .setBufferBaseAddress (some [config.txBaseAddress, config.rxBaseAddress]) 2,
    writeTransaction .setModulationParams (some [config.spreadingFactor.toUInt8,
      config.bandwidth.toUInt8, config.codingRate.toUInt8]) 3,
    writeTransaction .setPacketParams (some [config.preambleSymbols, config.headerType.toUInt8,
      config.payloadLength, config.crcMode.toUInt8, config.iqMode.toUInt8]) 5,
    writeTransaction .setTxParams (some [(config.txPowerDbm.toInt16 + 18).toUInt16.toUInt8,
      config.rampTime.toUInt8]) 2,
    writeTransaction .setDioIrqParams (some (writeU16Be config.irqMask ++
      writeU16Be config.dio1Mask ++ writeU16Be sx128xIrqNone ++ writeU16Be sx128xIrqNone)) 8]

theorem writeCommand_of_ready (hready : device.initialized = true) (command : Sx128xCommand)
    (parameters : List UInt8) (parameterCount : UInt32) :
    device.writeCommand bound command (some parameters) parameterCount =
      device.transact bound (writeTransaction command (some parameters) parameterCount) := by
  rw [writeCommand_eq, if_neg (not_not.mpr hready), if_neg (fun h => nomatch h.2)]

theorem configure_eq {config : Sx128xLoRaConfig} (hready : device.initialized = true)
    (hvalid : loRaConfigIsValid (some config) = true) :
    device.configure bound config =
      device.sequence bound (configureTransactions config) (some .ok) := by
  simp only [loRaConfigIsValid, Bool.and_eq_true, decide_eq_true_eq] at hvalid
  obtain ⟨⟨⟨⟨⟨hmin, hmax⟩, hpreamble⟩, hpayload⟩, hpowerMin⟩, hpowerMax⟩ := hvalid
  have hfrequency : ¬ (config.frequencyHz < sx128xRfFrequencyMinHz ∨
      sx128xRfFrequencyMaxHz < config.frequencyHz) := by
    rintro (h | h)
    · exact UInt32.not_lt.mpr hmin h
    · exact UInt32.not_lt.mpr hmax h
  have hlengths : ¬ (config.preambleSymbols = 0 ∨ config.payloadLength = 0) := by
    rintro (h | h)
    · rw [h] at hpreamble
      exact absurd hpreamble (by decide)
    · rw [h] at hpayload
      exact absurd hpayload (by decide)
  have hpower : ¬ (config.txPowerDbm < sx128xTxPowerMinDbm ∨
      sx128xTxPowerMaxDbm < config.txPowerDbm) := by
    rintro (h | h)
    · exact Int8.not_lt.mpr hpowerMin h
    · exact Int8.not_lt.mpr hpowerMax h
  rw [configure, setStandby, setPacketType, setRfFrequency, setBufferBaseAddress,
    setLoRaModulationParams, setLoRaPacketParams, setTxParams, setDioIrqParams,
    if_neg hfrequency, if_neg hlengths, if_neg hpower]
  simp only [writeCommand_of_ready hready, configureTransactions, sequence_ok_cons, sequence,
    bind_pure]
  rfl

theorem configure_of_not_ready (config : Sx128xLoRaConfig) (hready : ¬ device.initialized = true) :
    device.configure bound config = pure (some .notInitialized) := by
  have hfirst : device.setStandby bound sx128xStandbyRc = pure (some .notInitialized) := by
    rw [setStandby, writeCommand_eq, if_pos hready]
    rfl
  have hnext : ∀ p, andThen (some .notInitialized) p = pure (some .notInitialized) := by
    intro p
    rw [andThen, if_neg (by decide)]
  simp only [configure, hfirst, hnext, pure_bind]

theorem does_configureLoRa (config : Option Sx128xLoRaConfig) :
    device.Does bound (device.configureLoRa bound config)
      (config.elim [] configureTransactions) := by
  cases config with
  | none => exact .inl ⟨.invalidArgument, .inr (.inl rfl), rfl⟩
  | some config =>
    refine .guard (.inr (.inl rfl)) fun hvalid => ?_
    by_cases hready : device.initialized = true
    · exact .inr ⟨hready, configure_eq hready (not_not.mp hvalid)⟩
    · exact .inl ⟨.notInitialized, .inl rfl, configure_of_not_ready config hready⟩

end Sx128x

/-! ## The calls -/

namespace Sx128xCall

/-- The transactions that a call is to make. -/
def transactions : Sx128xCall → List Transaction
  | hardwareReset => []
  | waitWhileBusy => []
  | writeCommand command parameters count => [writeTransaction command parameters count]
  | readCommand command _ length => [readTransaction command length]
  | getStatus _ => [⟨.getStatus, true, []⟩]
  | setStandby mode => [writeTransaction .setStandby (some [mode.toUInt8]) 1]
  | setPacketType packetType => [writeTransaction .setPacketType (some [packetType.toUInt8]) 1]
  | setRfFrequency frequencyHz => [rfFrequencyTransaction frequencyHz]
  | setBufferBaseAddress tx rx => [writeTransaction .setBufferBaseAddress (some [tx, rx]) 2]
  | setLoRaModulationParams spreadingFactor bandwidth codingRate =>
    [writeTransaction .setModulationParams
      (some [spreadingFactor.toUInt8, bandwidth.toUInt8, codingRate.toUInt8]) 3]
  | setLoRaPacketParams preamble header payload crc iq =>
    [writeTransaction .setPacketParams
      (some [preamble, header.toUInt8, payload, crc.toUInt8, iq.toUInt8]) 5]
  | setTxParams power ramp =>
    [writeTransaction .setTxParams
      (some [(power.toInt16 + 18).toUInt16.toUInt8, ramp.toUInt8]) 2]
  | setDioIrqParams irq dio1 dio2 dio3 =>
    [writeTransaction .setDioIrqParams (some (Sx128x.writeU16Be irq ++ Sx128x.writeU16Be dio1 ++
      Sx128x.writeU16Be dio2 ++ Sx128x.writeU16Be dio3)) 8]
  | getIrqStatus _ => [readTransaction .getIrqStatus 2]
  | clearIrqStatus irqMask =>
    [writeTransaction .clearIrqStatus (some (Sx128x.writeU16Be irqMask)) 2]
  | writeBuffer offset data length =>
    [⟨.writeBuffer, false, [⟨some [offset], false, 1⟩, ⟨data, false, length⟩]⟩]
  | readBuffer offset _ length =>
    [⟨.readBuffer, true, [⟨some [offset], true, 1⟩, ⟨some [sx128xSpiNop], true, 1⟩,
      ⟨none, true, length⟩]⟩]
  | getRxBufferStatus _ => [readTransaction .getRxBufferStatus 2]
  | getLoRaPacketStatus _ => [readTransaction .getPacketStatus sx128xLoRaPacketStatusSize]
  | setTx base count =>
    [writeTransaction .setTx (some (base.toUInt8 :: Sx128x.writeU16Be count)) 3]
  | setRx base count =>
    [writeTransaction .setRx (some (base.toUInt8 :: Sx128x.writeU16Be count)) 3]
  | configureLoRa config => config.elim [] Sx128x.configureTransactions
  | takeDio1Event => []

variable {device : Sx128x} {bound : Nat}

/-- The calls that touch the radio's lines only to reset it, to wait for it or to ask for its
interrupt. -/
def IsQuiet : Sx128xCall → Prop
  | hardwareReset => True
  | waitWhileBusy => True
  | takeDio1Event => True
  | _ => False

open Sx128x in
/-- **Every other call rejects its arguments or makes its transactions.** -/
theorem run_does (call : Sx128xCall) (hquiet : ¬ call.IsQuiet) :
    ∃ p, call.run device bound = returns p ∧ device.Does bound p call.transactions := by
  cases call with
  | hardwareReset => exact absurd trivial hquiet
  | waitWhileBusy => exact absurd trivial hquiet
  | takeDio1Event => exact absurd trivial hquiet
  | writeCommand command parameters count => exact ⟨_, rfl, does_writeCommand _ _ _⟩
  | readCommand command response length => exact ⟨_, rfl, does_readCommand _ _ _⟩
  | getStatus status =>
    refine ⟨_, rfl, ?_⟩
    rw [getStatus_eq]
    exact .guard (.inl rfl) fun h => .guard (.inr (.inl rfl)) fun _ => does_transact h _
  | setStandby mode => exact ⟨_, rfl, .guard (.inr (.inl rfl)) fun _ => does_writeCommand _ _ _⟩
  | setPacketType packetType =>
    exact ⟨_, rfl, .guard (.inr (.inl rfl)) fun _ => does_writeCommand _ _ _⟩
  | setRfFrequency frequencyHz =>
    exact ⟨_, rfl, .guard (.inr (.inr rfl)) fun _ => does_writeCommand _ _ _⟩
  | setBufferBaseAddress tx rx => exact ⟨_, rfl, does_writeCommand _ _ _⟩
  | setLoRaModulationParams spreadingFactor bandwidth codingRate =>
    exact ⟨_, rfl, does_writeCommand _ _ _⟩
  | setLoRaPacketParams preamble header payload crc iq =>
    exact ⟨_, rfl, .guard (.inr (.inl rfl)) fun _ => does_writeCommand _ _ _⟩
  | setTxParams power ramp =>
    exact ⟨_, rfl, .guard (.inr (.inr rfl)) fun _ => does_writeCommand _ _ _⟩
  | setDioIrqParams irq dio1 dio2 dio3 => exact ⟨_, rfl, does_writeCommand _ _ _⟩
  | getIrqStatus irqStatus => exact ⟨_, rfl, does_getIrqStatus irqStatus⟩
  | clearIrqStatus irqMask => exact ⟨_, rfl, does_writeCommand _ _ _⟩
  | writeBuffer offset data length =>
    refine ⟨_, rfl, ?_⟩
    rw [writeBuffer_eq]
    exact .guard (.inl rfl) fun h => .guard (.inr (.inl rfl)) fun _ => does_transact h _
  | readBuffer offset data length =>
    refine ⟨_, rfl, ?_⟩
    rw [readBuffer_eq]
    exact .guard (.inl rfl) fun h => .guard (.inr (.inl rfl)) fun _ => does_transact h _
  | getRxBufferStatus status => exact ⟨_, rfl, does_getRxBufferStatus status⟩
  | getLoRaPacketStatus status => exact ⟨_, rfl, does_getLoRaPacketStatus status⟩
  | setTx base count => exact ⟨_, rfl, .guard (.inr (.inl rfl)) fun _ => does_writeCommand _ _ _⟩
  | setRx base count => exact ⟨_, rfl, .guard (.inr (.inl rfl)) fun _ => does_writeCommand _ _ _⟩
  | configureLoRa config => exact ⟨_, rfl, does_configureLoRa config⟩

end Sx128xCall

end RadioConnection
