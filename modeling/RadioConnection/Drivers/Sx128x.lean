import RadioConnection.Drivers.Sx128xTypes
import RadioConnection.Lib.Interaction

/-!
# The SX128x driver

`sx128x.c`: every function of the driver is a program over the calls of its port,
`sx128x_port_if.h`, which may answer them in any way.

* `PortOp`: the calls of the port.
* A pointer is an `Option`, `none` where it is `NULL`; a function that writes
  through one returns what stands there afterwards.
* `waitWhileBusy` has a bound on the number of its polls and returns `none` when
  the bound ends it, as does every function that waits.  What is said of a
  function that returns is said for every bound.
* `Sx128xCall`: a call of the driver once it is initialised, and `run`, what the
  call does.
-/

namespace RadioConnection

def sx128xResetPulseMs : UInt32 := 1
def sx128xResetSettleMs : UInt32 := 10
def sx128xSpiNop : UInt8 := 0x00
def sx128xXtalFrequencyHz : UInt64 := 52000000
def sx128xRfFrequencyMinHz : UInt32 := 2400000000
def sx128xRfFrequencyMaxHz : UInt32 := 2500000000
def sx128xBufferSize : UInt32 := 256
def sx128xLoRaPacketStatusSize : UInt32 := 5
def sx128xTxPowerMinDbm : Int8 := -18
def sx128xTxPowerMaxDbm : Int8 := 13

/-! ## The calls of the port -/

/-- One transfer: the bytes to send, if any, whether the received bytes are kept, and the
number of bytes. -/
structure Transfer where
  txData : Option (List UInt8)
  rxData : Bool
  length : UInt32
  deriving DecidableEq, Repr

inductive PortOp
  | spiTransfer (transfer : Transfer)
  | nssWrite (high : Bool)
  | resetWrite (high : Bool)
  | busyRead
  | delayMs (ms : UInt32)
  | timeMs
  | takeDio1Event
  deriving DecidableEq

/-- The answers to a call; a transfer also answers with the bytes it has received. -/
abbrev PortOp.Ans : PortOp → Type
  | spiTransfer _ => Bool × List UInt8
  | nssWrite _ => Unit
  | resetWrite _ => Unit
  | busyRead => Bool
  | delayMs _ => Unit
  | timeMs => UInt32
  | takeDio1Event => Bool

/-- A program of the driver. -/
abbrev PortProg : Type → Type := Interaction.Prog PortOp PortOp.Ans

/-- A call of the port with its answer. -/
abbrev PortAction : Type := Interaction.Action PortOp PortOp.Ans

def port (o : PortOp) : PortProg o.Ans := Interaction.Prog.ask o

structure Sx128x where
  busyTimeoutMs : UInt32
  initialized : Bool
  deriving DecidableEq, Repr

namespace Sx128x

def spiTransfer (txData : Option (List UInt8)) (rxData : Bool) (length : UInt32) :
    PortProg (Bool × List UInt8) := port (.spiTransfer ⟨txData, rxData, length⟩)

def writeU16Be (value : UInt16) : List UInt8 := [(value >>> 8).toUInt8, (value &&& 0x00FF).toUInt8]

def readU16Be (source : List UInt8) : UInt16 :=
  ((source.getD 0 0).toUInt16 <<< 8) ||| (source.getD 1 0).toUInt16

/-- `sx128x_init`, with a device and a port that are not `NULL`; `portIsValid` says whether
every function of the port is there. -/
def init (portIsValid : Bool) (busyTimeoutMs : UInt32) : PortProg (Sx128xResult × Option Sx128x) :=
  if ¬ portIsValid then pure (.invalidPort, none)
  else if busyTimeoutMs = 0 then pure (.invalidArgument, none)
  else do
    port (.nssWrite true)
    port (.resetWrite true)
    pure (.ok, some ⟨busyTimeoutMs, true⟩)

/-! ## The wait for BUSY -/

/-- The loop of `sx128x_wait_while_busy`, for at most `bound` polls. -/
def pollBusy (device : Sx128x) (startMs : UInt32) : Nat → PortProg (Option Sx128xResult)
  | 0 => pure none
  | bound + 1 => do
    if ← port .busyRead then
      let currentMs ← port .timeMs
      if device.busyTimeoutMs ≤ currentMs - startMs then pure (some .busyTimeout)
      else
        port (.delayMs 1)
        pollBusy device startMs bound
    else pure (some .ok)

def waitWhileBusy (device : Sx128x) (bound : Nat) : PortProg (Option Sx128xResult) :=
  if ¬ device.initialized then pure (some .notInitialized)
  else do
    let startMs ← port .timeMs
    device.pollBusy startMs bound

def hardwareReset (device : Sx128x) (bound : Nat) : PortProg (Option Sx128xResult) :=
  if ¬ device.initialized then pure (some .notInitialized)
  else do
    port (.nssWrite true)
    port (.resetWrite false)
    port (.delayMs sx128xResetPulseMs)
    port (.resetWrite true)
    port (.delayMs sx128xResetSettleMs)
    device.waitWhileBusy bound

/-! ## Commands -/

def writeCommand (device : Sx128x) (bound : Nat) (command : Sx128xCommand)
    (parameters : Option (List UInt8)) (parameterCount : UInt32) :
    PortProg (Option Sx128xResult) :=
  if ¬ device.initialized then pure (some .notInitialized)
  else if 0 < parameterCount ∧ parameters = none then pure (some .invalidArgument)
  else do
    let result ← device.waitWhileBusy bound
    if result ≠ some .ok then pure result
    else
      port (.nssWrite false)
      let result ← do
        let (sent, _) ← spiTransfer (some [command.opcode]) false 1
        if ¬ sent then pure .spiError
        else if 0 < parameterCount then
          let (sent, _) ← spiTransfer parameters false parameterCount
          if ¬ sent then pure .spiError else pure .ok
        else pure .ok
      port (.nssWrite true)
      pure (some result)

def readCommand (device : Sx128x) (bound : Nat) (command : Sx128xCommand)
    (response : Option (List UInt8)) (responseLength : UInt32) :
    PortProg (Option (Sx128xResult × Option (List UInt8))) :=
  if ¬ device.initialized then pure (some (.notInitialized, response))
  else if response = none ∨ responseLength = 0 then pure (some (.invalidArgument, response))
  else do
    let result ← device.waitWhileBusy bound
    if result ≠ some .ok then pure (result.map fun result => (result, response))
    else
      port (.nssWrite false)
      let (result, response) ← do
        let (sent, _) ← spiTransfer (some [command.opcode]) true 1
        if ¬ sent then pure (.spiError, response)
        else
          let (sent, _) ← spiTransfer (some [sx128xSpiNop]) true 1
          if ¬ sent then pure (.spiError, response)
          else
            let (sent, received) ← spiTransfer none true responseLength
            if ¬ sent then pure (.spiError, some received) else pure (.ok, some received)
      port (.nssWrite true)
      pure (some (result, response))

def getStatus (device : Sx128x) (bound : Nat) (status : Option UInt8) :
    PortProg (Option (Sx128xResult × Option UInt8)) :=
  if ¬ device.initialized then pure (some (.notInitialized, status))
  else if status = none then pure (some (.invalidArgument, status))
  else do
    let result ← device.waitWhileBusy bound
    if result ≠ some .ok then pure (result.map fun result => (result, status))
    else
      port (.nssWrite false)
      let (sent, received) ← spiTransfer (some [Sx128xCommand.getStatus.opcode]) true 1
      let result := if ¬ sent then .spiError else .ok
      port (.nssWrite true)
      pure (some (result, status.map fun old => received.headD old))

def setStandby (device : Sx128x) (bound : Nat) (mode : UInt32) : PortProg (Option Sx128xResult) :=
  if mode ≠ sx128xStandbyRc ∧ mode ≠ sx128xStandbyXosc then pure (some .invalidArgument)
  else device.writeCommand bound .setStandby (some [mode.toUInt8]) 1

def setPacketType (device : Sx128x) (bound : Nat) (packetType : UInt32) :
    PortProg (Option Sx128xResult) :=
  if packetType < sx128xPacketTypeGfsk ∨ sx128xPacketTypeBle < packetType then
    pure (some .invalidArgument)
  else device.writeCommand bound .setPacketType (some [packetType.toUInt8]) 1

def setRfFrequency (device : Sx128x) (bound : Nat) (frequencyHz : UInt32) :
    PortProg (Option Sx128xResult) :=
  if frequencyHz < sx128xRfFrequencyMinHz ∨ sx128xRfFrequencyMaxHz < frequencyHz then
    pure (some .outOfRange)
  else
    let frequencyRegister := ((frequencyHz.toUInt64 <<< 18) / sx128xXtalFrequencyHz).toUInt32
    device.writeCommand bound .setRfFrequency
      (some [(frequencyRegister >>> 16).toUInt8, (frequencyRegister >>> 8).toUInt8,
        frequencyRegister.toUInt8]) 3

def setBufferBaseAddress (device : Sx128x) (bound : Nat) (txBaseAddress rxBaseAddress : UInt8) :
    PortProg (Option Sx128xResult) :=
  device.writeCommand bound .setBufferBaseAddress (some [txBaseAddress, rxBaseAddress]) 2

def setLoRaModulationParams (device : Sx128x) (bound : Nat)
    (spreadingFactor bandwidth codingRate : UInt32) : PortProg (Option Sx128xResult) :=
  device.writeCommand bound .setModulationParams
    (some [spreadingFactor.toUInt8, bandwidth.toUInt8, codingRate.toUInt8]) 3

def setLoRaPacketParams (device : Sx128x) (bound : Nat) (preambleSymbols : UInt8)
    (headerType : UInt32) (payloadLength : UInt8) (crcMode iqMode : UInt32) :
    PortProg (Option Sx128xResult) :=
  if preambleSymbols = 0 ∨ payloadLength = 0 then pure (some .invalidArgument)
  else device.writeCommand bound .setPacketParams
    (some [preambleSymbols, headerType.toUInt8, payloadLength, crcMode.toUInt8, iqMode.toUInt8]) 5

def setTxParams (device : Sx128x) (bound : Nat) (powerDbm : Int8) (rampTime : UInt32) :
    PortProg (Option Sx128xResult) :=
  if powerDbm < sx128xTxPowerMinDbm ∨ sx128xTxPowerMaxDbm < powerDbm then pure (some .outOfRange)
  else device.writeCommand bound .setTxParams
    (some [(powerDbm.toInt16 + 18).toUInt16.toUInt8, rampTime.toUInt8]) 2

def setDioIrqParams (device : Sx128x) (bound : Nat)
    (irqMask dio1Mask dio2Mask dio3Mask : UInt16) : PortProg (Option Sx128xResult) :=
  device.writeCommand bound .setDioIrqParams
    (some (writeU16Be irqMask ++ writeU16Be dio1Mask ++ writeU16Be dio2Mask ++
      writeU16Be dio3Mask)) 8

def getIrqStatus (device : Sx128x) (bound : Nat) (irqStatus : Option UInt16) :
    PortProg (Option (Sx128xResult × Option UInt16)) :=
  if irqStatus = none then pure (some (.invalidArgument, irqStatus))
  else do
    -- The bytes of `response` are not set yet, and are not read unless the command succeeds.
    match ← device.readCommand bound .getIrqStatus (some []) 2 with
    | none => pure none
    | some (result, response) =>
      if result = .ok then pure (some (result, some (readU16Be (response.getD []))))
      else pure (some (result, irqStatus))

def clearIrqStatus (device : Sx128x) (bound : Nat) (irqMask : UInt16) :
    PortProg (Option Sx128xResult) :=
  device.writeCommand bound .clearIrqStatus (some (writeU16Be irqMask)) 2

def writeBuffer (device : Sx128x) (bound : Nat) (offset : UInt8) (data : Option (List UInt8))
    (length : UInt32) : PortProg (Option Sx128xResult) :=
  if ¬ device.initialized then pure (some .notInitialized)
  else if data = none ∨ length = 0 ∨ sx128xBufferSize < offset.toUInt32 + length then
    pure (some .invalidArgument)
  else do
    let result ← device.waitWhileBusy bound
    if result ≠ some .ok then pure result
    else
      port (.nssWrite false)
      let result ← do
        let (sent, _) ← spiTransfer (some [Sx128xCommand.writeBuffer.opcode]) false 1
        if ¬ sent then pure .spiError
        else
          let (sent, _) ← spiTransfer (some [offset]) false 1
          if ¬ sent then pure .spiError
          else
            let (sent, _) ← spiTransfer data false length
            if ¬ sent then pure .spiError else pure .ok
      port (.nssWrite true)
      pure (some result)

def readBuffer (device : Sx128x) (bound : Nat) (offset : UInt8) (data : Option (List UInt8))
    (length : UInt32) : PortProg (Option (Sx128xResult × Option (List UInt8))) :=
  if ¬ device.initialized then pure (some (.notInitialized, data))
  else if data = none ∨ length = 0 ∨ sx128xBufferSize < offset.toUInt32 + length then
    pure (some (.invalidArgument, data))
  else do
    let result ← device.waitWhileBusy bound
    if result ≠ some .ok then pure (result.map fun result => (result, data))
    else
      port (.nssWrite false)
      let (result, data) ← do
        let (sent, _) ← spiTransfer (some [Sx128xCommand.readBuffer.opcode]) true 1
        if ¬ sent then pure (.spiError, data)
        else
          let (sent, _) ← spiTransfer (some [offset]) true 1
          if ¬ sent then pure (.spiError, data)
          else
            let (sent, _) ← spiTransfer (some [sx128xSpiNop]) true 1
            if ¬ sent then pure (.spiError, data)
            else
              let (sent, received) ← spiTransfer none true length
              if ¬ sent then pure (.spiError, some received) else pure (.ok, some received)
      port (.nssWrite true)
      pure (some (result, data))

def getRxBufferStatus (device : Sx128x) (bound : Nat) (status : Option Sx128xRxBufferStatus) :
    PortProg (Option (Sx128xResult × Option Sx128xRxBufferStatus)) :=
  if status = none then pure (some (.invalidArgument, status))
  else do
    match ← device.readCommand bound .getRxBufferStatus (some []) 2 with
    | none => pure none
    | some (result, response) =>
      let response := response.getD []
      if result = .ok then pure (some (result, some ⟨response.getD 0 0, response.getD 1 0⟩))
      else pure (some (result, status))

def getLoRaPacketStatus (device : Sx128x) (bound : Nat) (status : Option Sx128xLoRaPacketStatus) :
    PortProg (Option (Sx128xResult × Option Sx128xLoRaPacketStatus)) :=
  if status = none then pure (some (.invalidArgument, status))
  else do
    match ← device.readCommand bound .getPacketStatus (some []) sx128xLoRaPacketStatusSize with
    | none => pure none
    | some (result, response) =>
      let response := response.getD []
      if result = .ok then
        pure (some (result, some ⟨-(response.getD 0 0).toUInt16.toInt16,
          (response.getD 1 0).toInt8.toInt16⟩))
      else pure (some (result, status))

def timeoutBaseIsValid (timeoutBase : UInt32) : Bool :=
  timeoutBase == sx128xTimeoutBase15625Us.toUInt32 ||
  timeoutBase == sx128xTimeoutBase625Us.toUInt32 ||
  timeoutBase == sx128xTimeoutBase1Ms.toUInt32 ||
  timeoutBase == sx128xTimeoutBase4Ms.toUInt32

def setTimeoutCommand (device : Sx128x) (bound : Nat) (command : Sx128xCommand)
    (timeoutBase : UInt32) (timeoutCount : UInt16) : PortProg (Option Sx128xResult) :=
  if ¬ timeoutBaseIsValid timeoutBase then pure (some .invalidArgument)
  else device.writeCommand bound command (some (timeoutBase.toUInt8 :: writeU16Be timeoutCount)) 3

def setTx (device : Sx128x) (bound : Nat) (timeoutBase : UInt32) (timeoutCount : UInt16) :
    PortProg (Option Sx128xResult) := device.setTimeoutCommand bound .setTx timeoutBase timeoutCount

def setRx (device : Sx128x) (bound : Nat) (timeoutBase : UInt32) (timeoutCount : UInt16) :
    PortProg (Option Sx128xResult) := device.setTimeoutCommand bound .setRx timeoutBase timeoutCount

/-! ## The configuration -/

def loRaConfigIsValid (config : Option Sx128xLoRaConfig) : Bool :=
  match config with
  | none => false
  | some config =>
    sx128xRfFrequencyMinHz ≤ config.frequencyHz && config.frequencyHz ≤ sx128xRfFrequencyMaxHz &&
    0 < config.preambleSymbols && 0 < config.payloadLength &&
    sx128xTxPowerMinDbm ≤ config.txPowerDbm && config.txPowerDbm ≤ sx128xTxPowerMaxDbm

/-- The next command of `sx128x_configure_lora`, made only after an OK. -/
def andThen (result : Option Sx128xResult) (next : PortProg (Option Sx128xResult)) :
    PortProg (Option Sx128xResult) := if result = some .ok then next else pure result

/-- `sx128x_configure_lora` with a configuration that it accepts. -/
def configure (device : Sx128x) (bound : Nat) (config : Sx128xLoRaConfig) :
    PortProg (Option Sx128xResult) := do
  let result ← device.setStandby bound sx128xStandbyRc
  let result ← andThen result (device.setPacketType bound sx128xPacketTypeLoRa)
  let result ← andThen result (device.setRfFrequency bound config.frequencyHz)
  let result ← andThen result
    (device.setBufferBaseAddress bound config.txBaseAddress config.rxBaseAddress)
  let result ← andThen result
    (device.setLoRaModulationParams bound config.spreadingFactor config.bandwidth config.codingRate)
  let result ← andThen result
    (device.setLoRaPacketParams bound config.preambleSymbols config.headerType
      config.payloadLength config.crcMode config.iqMode)
  let result ← andThen result (device.setTxParams bound config.txPowerDbm config.rampTime)
  andThen result
    (device.setDioIrqParams bound config.irqMask config.dio1Mask sx128xIrqNone sx128xIrqNone)

def configureLoRa (device : Sx128x) (bound : Nat) (config : Option Sx128xLoRaConfig) :
    PortProg (Option Sx128xResult) :=
  match config with
  | none => pure (some .invalidArgument)
  | some config =>
    if ¬ loRaConfigIsValid (some config) then pure (some .invalidArgument)
    else device.configure bound config

def takeDio1Event (device : Sx128x) : PortProg Bool :=
  if device.initialized then port .takeDio1Event else pure false

end Sx128x

/-! ## The calls of the driver -/

/-- A call of the driver after `sx128x_init`. -/
inductive Sx128xCall
  | hardwareReset
  | waitWhileBusy
  | writeCommand (command : Sx128xCommand) (parameters : Option (List UInt8))
      (parameterCount : UInt32)
  | readCommand (command : Sx128xCommand) (response : Option (List UInt8))
      (responseLength : UInt32)
  | getStatus (status : Option UInt8)
  | setStandby (mode : UInt32)
  | setPacketType (packetType : UInt32)
  | setRfFrequency (frequencyHz : UInt32)
  | setBufferBaseAddress (txBaseAddress rxBaseAddress : UInt8)
  | setLoRaModulationParams (spreadingFactor bandwidth codingRate : UInt32)
  | setLoRaPacketParams (preambleSymbols : UInt8) (headerType : UInt32) (payloadLength : UInt8)
      (crcMode iqMode : UInt32)
  | setTxParams (powerDbm : Int8) (rampTime : UInt32)
  | setDioIrqParams (irqMask dio1Mask dio2Mask dio3Mask : UInt16)
  | getIrqStatus (irqStatus : Option UInt16)
  | clearIrqStatus (irqMask : UInt16)
  | writeBuffer (offset : UInt8) (data : Option (List UInt8)) (length : UInt32)
  | readBuffer (offset : UInt8) (data : Option (List UInt8)) (length : UInt32)
  | getRxBufferStatus (status : Option Sx128xRxBufferStatus)
  | getLoRaPacketStatus (status : Option Sx128xLoRaPacketStatus)
  | setTx (timeoutBase : UInt32) (timeoutCount : UInt16)
  | setRx (timeoutBase : UInt32) (timeoutCount : UInt16)
  | configureLoRa (config : Option Sx128xLoRaConfig)
  | takeDio1Event
  deriving DecidableEq, Repr

/-- What a call returns, apart from what it writes through a pointer. -/
inductive Sx128xReturn
  | result (result : Sx128xResult)
  | event (taken : Bool)
  deriving DecidableEq, Repr

namespace Sx128xCall

/-- A function that returns a result. -/
def returns (p : PortProg (Option Sx128xResult)) : PortProg (Option Sx128xReturn) :=
  Option.map .result <$> p

/-- The result of a function that also writes through a pointer. -/
def first {α : Type} (p : PortProg (Option (Sx128xResult × α))) : PortProg (Option Sx128xResult) :=
  Option.map Prod.fst <$> p

def run (device : Sx128x) (bound : Nat) : Sx128xCall → PortProg (Option Sx128xReturn)
  | hardwareReset => returns (device.hardwareReset bound)
  | waitWhileBusy => returns (device.waitWhileBusy bound)
  | writeCommand command parameters count =>
    returns (device.writeCommand bound command parameters count)
  | readCommand command response length =>
    returns (first (device.readCommand bound command response length))
  | getStatus status => returns (first (device.getStatus bound status))
  | setStandby mode => returns (device.setStandby bound mode)
  | setPacketType packetType => returns (device.setPacketType bound packetType)
  | setRfFrequency frequencyHz => returns (device.setRfFrequency bound frequencyHz)
  | setBufferBaseAddress tx rx => returns (device.setBufferBaseAddress bound tx rx)
  | setLoRaModulationParams spreadingFactor bandwidth codingRate =>
    returns (device.setLoRaModulationParams bound spreadingFactor bandwidth codingRate)
  | setLoRaPacketParams preamble header payload crc iq =>
    returns (device.setLoRaPacketParams bound preamble header payload crc iq)
  | setTxParams power ramp => returns (device.setTxParams bound power ramp)
  | setDioIrqParams irq dio1 dio2 dio3 =>
    returns (device.setDioIrqParams bound irq dio1 dio2 dio3)
  | getIrqStatus irqStatus => returns (first (device.getIrqStatus bound irqStatus))
  | clearIrqStatus irqMask => returns (device.clearIrqStatus bound irqMask)
  | writeBuffer offset data length => returns (device.writeBuffer bound offset data length)
  | readBuffer offset data length => returns (first (device.readBuffer bound offset data length))
  | getRxBufferStatus status => returns (first (device.getRxBufferStatus bound status))
  | getLoRaPacketStatus status => returns (first (device.getLoRaPacketStatus bound status))
  | setTx base count => returns (device.setTx bound base count)
  | setRx base count => returns (device.setRx bound base count)
  | configureLoRa config => returns (device.configureLoRa bound config)
  | takeDio1Event => (fun taken => some (.event taken)) <$> device.takeDio1Event

end Sx128xCall

end RadioConnection
