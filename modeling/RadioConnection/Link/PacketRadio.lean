import RadioConnection.Link.Packet
import RadioConnection.Lib.Interaction
import RadioConnection.Lib.RingBuffer

/-!
# What the link service sees of its environment

`packet_radio_if.h` and `radio_time_if.h`: the service reaches its radio and its
clock through tables of function pointers.  Here a call through them is a
`LinkOp`, and the service is a program over these calls, so that "every
behaviour of the radio and of the clock" is every answer to every call.

Two calls are not to the radio or the clock.  `LinkOp.published` marks in a trace the
moment at which `duplex_link_push_event` is handed an event, and says whether the
queue had room for it; the service logs an event at the same moment.
`LinkOp.logRetry` is the call of `duplex_link_log` about a retry.  The radio and the
clock do not see these two.
-/

namespace RadioConnection

inductive PacketRadioState
  | uninitialized | idle | tx | rx | error
  deriving DecidableEq, Repr

inductive PacketRadioEventType
  | none | txDone | rxDone | rxTimeout | crcError | deviceError
  deriving DecidableEq, Repr

structure PacketRadioEvent where
  type : PacketRadioEventType
  deviceErrorCode : UInt16
  deriving DecidableEq, Repr

/-- A received frame: `data` is the first `length` bytes of the source's buffer. -/
structure PacketRadioRxFrame where
  data : List UInt8
  rssiDbmX2 : Int16
  snrDbX4 : Int16
  deriving DecidableEq

/-! ## The events of the service -/

inductive DuplexLinkEventType
  | none | requestReceived | exchangeSucceeded | exchangeFailed | duplicateSuppressed
  | invalidPacket | deviceError
  deriving DecidableEq, Repr

inductive DuplexLinkInvalidReason
  | none | decode | source | messageType | ackSequence | rxFrame
  deriving DecidableEq, Repr

structure DuplexLinkEvent where
  type : DuplexLinkEventType := .none
  packet : LinkPacket := .zero
  invalidReason : DuplexLinkInvalidReason := .none
  packetStatus : LinkPacketStatus := .ok
  deviceErrorCode : UInt16 := 0
  attempts : UInt8 := 0
  rttMs : UInt32 := 0
  rssiDbmX2 : Int16 := 0
  snrDbX4 : Int16 := 0
  deriving DecidableEq

/-! ## The calls of the service -/

inductive LinkOp
  | nowMs
  | elapsedMs (sinceMs : UInt32)
  | radioProcess
  | takeEvent
  | tryStartTx (data : List UInt8)
  | tryStartRx (timeoutMs : UInt32)
  | readRxFrame
  | recover
  | published (event : DuplexLinkEvent) (stored : Bool)
  | logRetry (sequence : UInt16) (retryCount maxRetries : UInt8)
  deriving DecidableEq

abbrev LinkOp.Ans : LinkOp → Type
  | nowMs => UInt32
  | elapsedMs _ => UInt32
  | radioProcess => Unit
  | takeEvent => Option PacketRadioEvent
  | tryStartTx _ => Bool
  | tryStartRx _ => Bool
  | readRxFrame => Option PacketRadioRxFrame
  | recover => Bool
  | published _ _ => Unit
  | logRetry _ _ _ => Unit

abbrev LinkProg : Type → Type := Interaction.Prog LinkOp LinkOp.Ans

/-- A call of the link service with its answer. -/
abbrev LinkAction : Type := Interaction.Action LinkOp LinkOp.Ans

namespace LinkProg

open Interaction (Prog)

def nowMs : LinkProg UInt32 := Prog.ask LinkOp.nowMs
def elapsedMs (sinceMs : UInt32) : LinkProg UInt32 := Prog.ask (LinkOp.elapsedMs sinceMs)
def radioProcess : LinkProg Unit := Prog.ask LinkOp.radioProcess
def takeEvent : LinkProg (Option PacketRadioEvent) := Prog.ask LinkOp.takeEvent
def tryStartTx (data : List UInt8) : LinkProg Bool := Prog.ask (LinkOp.tryStartTx data)
def tryStartRx (timeoutMs : UInt32) : LinkProg Bool := Prog.ask (LinkOp.tryStartRx timeoutMs)
def readRxFrame : LinkProg (Option PacketRadioRxFrame) := Prog.ask LinkOp.readRxFrame
def recover : LinkProg Bool := Prog.ask LinkOp.recover
def published (event : DuplexLinkEvent) (stored : Bool) : LinkProg Unit :=
  Prog.ask (LinkOp.published event stored)
def logRetry (sequence : UInt16) (retryCount maxRetries : UInt8) : LinkProg Unit :=
  Prog.ask (LinkOp.logRetry sequence retryCount maxRetries)

end LinkProg

end RadioConnection
