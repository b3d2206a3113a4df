import Mathlib.Logic.Basic

/-!
# The types of the SX128x driver

`sx128x_types.h` and `sx128x_commands.h`.  An enumeration whose values the driver
sends on without a look at them is its value, as C keeps it in no range.
-/

namespace RadioConnection

inductive Sx128xResult
  | ok | invalidArgument | invalidPort | notInitialized | busyTimeout | spiError | outOfRange
  deriving DecidableEq, Repr

def Sx128xResult.code : Sx128xResult → UInt16
  | ok => 0
  | invalidArgument => 1
  | invalidPort => 2
  | notInitialized => 3
  | busyTimeout => 4
  | spiError => 5
  | outOfRange => 6

structure Sx128xRxBufferStatus where
  payloadLength : UInt8
  startBufferPointer : UInt8
  deriving DecidableEq, Repr

structure Sx128xLoRaPacketStatus where
  rssiDbmX2 : Int16
  snrDbX4 : Int16
  deriving DecidableEq, Repr

def sx128xIrqNone : UInt16 := 0x0000
def sx128xIrqTxDone : UInt16 := 0x0001
def sx128xIrqRxDone : UInt16 := 0x0002
def sx128xIrqCrcError : UInt16 := 0x0040
def sx128xIrqRxTxTimeout : UInt16 := 0x4000
def sx128xIrqAll : UInt16 := 0xFFFF
def sx128xTimeoutBase15625Us : UInt8 := 0x00
def sx128xTimeoutBase625Us : UInt8 := 0x01
def sx128xTimeoutBase1Ms : UInt8 := 0x02
def sx128xTimeoutBase4Ms : UInt8 := 0x03

inductive Sx128xCommand
  | getStatus | writeRegister | readRegister | writeBuffer | readBuffer | setSleep | setStandby
  | setFs | setTx | setRx | setPacketType | getPacketType | setRfFrequency | setTxParams
  | setBufferBaseAddress | setModulationParams | setPacketParams | getRxBufferStatus
  | getPacketStatus | getRssiInst | setDioIrqParams | getIrqStatus | clearIrqStatus
  | setRegulatorMode | setSaveContext
  deriving DecidableEq, Repr

def Sx128xCommand.opcode : Sx128xCommand → UInt8
  | getStatus => 0xC0
  | writeRegister => 0x18
  | readRegister => 0x19
  | writeBuffer => 0x1A
  | readBuffer => 0x1B
  | setSleep => 0x84
  | setStandby => 0x80
  | setFs => 0xC1
  | setTx => 0x83
  | setRx => 0x82
  | setPacketType => 0x8A
  | getPacketType => 0x03
  | setRfFrequency => 0x86
  | setTxParams => 0x8E
  | setBufferBaseAddress => 0x8F
  | setModulationParams => 0x8B
  | setPacketParams => 0x8C
  | getRxBufferStatus => 0x17
  | getPacketStatus => 0x1D
  | getRssiInst => 0x1F
  | setDioIrqParams => 0x8D
  | getIrqStatus => 0x15
  | clearIrqStatus => 0x97
  | setRegulatorMode => 0x96
  | setSaveContext => 0xD5

def sx128xStandbyRc : UInt32 := 0x00
def sx128xStandbyXosc : UInt32 := 0x01

def sx128xPacketTypeGfsk : UInt32 := 0x00
def sx128xPacketTypeLoRa : UInt32 := 0x01
def sx128xPacketTypeBle : UInt32 := 0x04

structure Sx128xLoRaConfig where
  frequencyHz : UInt32
  spreadingFactor : UInt32
  bandwidth : UInt32
  codingRate : UInt32
  preambleSymbols : UInt8
  headerType : UInt32
  payloadLength : UInt8
  crcMode : UInt32
  iqMode : UInt32
  txPowerDbm : Int8
  rampTime : UInt32
  txBaseAddress : UInt8
  rxBaseAddress : UInt8
  irqMask : UInt16
  dio1Mask : UInt16
  deriving DecidableEq, Repr

end RadioConnection
