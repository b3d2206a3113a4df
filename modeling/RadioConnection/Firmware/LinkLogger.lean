import RadioConnection.Link.Service
import RadioConnection.Platform.Sx128xPort

/-!
# The log of a link node

`stm32_logger.c` and `stm32f4_uart_logger_backend.c`, and what the link service logs
through them: a node writes its log to the UART that the application writes to.

* `NodeOp`: the calls of the firmware.  Those of the composition go to the HAL; the
  application and the logger ask for the tick and write to the UART.
* `Stm32Logger.vlog`: a line is put together in the buffer of the logger, cut to fit,
  and handed to the UART.
* `LinkOp.logLines` and `initializedLine`: the lines of `duplex_link_service.c`.
* `vlogBytes_eq`: **no line of the service is cut.**
-/

namespace RadioConnection

open Interaction Prog

/-! ## The calls of the firmware -/

inductive NodeOp
  | hal (o : HalOp)
  /-- `HAL_GetTick`, called by the application. -/
  | getTick
  | uartTransmit (uart : ℕ) (data : List UInt8) (timeoutMs : UInt32)
  deriving DecidableEq

abbrev NodeOp.Ans : NodeOp → Type
  | hal o => o.Ans
  | getTick => UInt32
  | uartTransmit _ _ _ => HalStatus

abbrev NodeProg : Type → Type := Prog NodeOp NodeOp.Ans

abbrev NodeAction : Type := Action NodeOp NodeOp.Ans

def node (o : NodeOp) : NodeProg o.Ans := Prog.ask o

def onHal {α : Type} (p : HalProg α) : NodeProg α := p.embed .hal fun _ x => x

/-- The characters of a text of the source, which are all ASCII. -/
def ascii (text : String) : List UInt8 := text.toList.map fun c => c.toNat.toUInt8

theorem ascii_append (text text' : String) : ascii (text ++ text') = ascii text ++ ascii text' := by
  rw [ascii, String.toList_append, List.map_append]
  rfl

theorem length_ascii (text : String) : (ascii text).length = text.length := by
  rw [ascii, List.length_map, String.length_toList]

/-! ## The logger -/

inductive RadioLogLevel
  | none | error | warn | info | debug | trace
  deriving DecidableEq, Repr

namespace RadioLogLevel

def code : RadioLogLevel → ℕ
  | none => 0
  | error => 1
  | warn => 2
  | info => 3
  | debug => 4
  | trace => 5

/-- `stm32_logger_level_to_string`. -/
def name : RadioLogLevel → String
  | error => "ERROR"
  | warn => "WARN"
  | info => "INFO"
  | debug => "DEBUG"
  | trace => "TRACE"
  | none => "NONE"

end RadioLogLevel

def stm32LoggerBufferSize : ℕ := 192

/-- The logger with its backend. -/
structure Stm32Logger where
  minLevel : RadioLogLevel
  uart : ℕ
  timeoutMs : UInt32
  deriving DecidableEq, Repr

namespace Stm32Logger

/-- `stm32f4_uart_logger_backend_init` and `stm32_logger_init`; `none` without a handle. -/
def init (uart : Option ℕ) (timeoutMs : UInt32) (minLevel : RadioLogLevel) : Option Stm32Logger :=
  uart.map fun uart => ⟨minLevel, uart, timeoutMs⟩

def isEnabled (logger : Stm32Logger) (level : RadioLogLevel) : Bool :=
  level ≠ .none && level.code ≤ logger.minLevel.code

/-- What `stm32_logger_vlog` leaves in its buffer: both `snprintf` cut what they write. -/
def vlogBytes (level : RadioLogLevel) (tag message : String) : List UInt8 :=
  let head := ascii ("[" ++ level.name ++ "] [" ++ tag ++ "] ")
  let maxContent := stm32LoggerBufferSize - 2
  let used := min head.length maxContent
  head.take used ++ (ascii message).take (maxContent - used) ++ ascii "\n"

/-- The loop of `stm32f4_uart_logger_backend_write`, for at most so many rounds. -/
def writeLoop (logger : Stm32Logger) : ℕ → List UInt8 → NodeProg Unit
  | 0, _ => pure ()
  | rounds + 1, data =>
    if data.length = 0 then pure ()
    else do
      let status ← node (.uartTransmit logger.uart (data.take 65535) logger.timeoutMs)
      if status ≠ .ok then pure () else writeLoop logger rounds (data.drop 65535)

/-- `stm32_logger_vlog`. -/
def vlog (logger : Stm32Logger) (level : RadioLogLevel) (tag message : String) : NodeProg Unit :=
  if ¬ logger.isEnabled level then pure ()
  else
    let data := vlogBytes level tag message
    writeLoop logger data.length data

def vlogAll (logger : Stm32Logger) (tag : String) : List (RadioLogLevel × String) → NodeProg Unit
  | [] => pure ()
  | line :: lines => do
    vlog logger line.1 tag line.2
    vlogAll logger tag lines

theorem length_vlogBytes (level : RadioLogLevel) (tag message : String) :
    0 < (vlogBytes level tag message).length ∧
      (vlogBytes level tag message).length < stm32LoggerBufferSize := by
  simp only [vlogBytes, stm32LoggerBufferSize, List.length_append, List.length_take, length_ascii]
  change 0 < _ + 1 ∧ _ + 1 < 192
  omega

theorem vlogBytes_of_le {level : RadioLogLevel} {tag message : String}
    (h : level.name.length + tag.length + message.length ≤ 184) :
    vlogBytes level tag message =
      ascii ("[" ++ level.name ++ "] [" ++ tag ++ "] " ++ message ++ "\n") := by
  have hhead : (ascii ("[" ++ level.name ++ "] [" ++ tag ++ "] ")).length =
      level.name.length + tag.length + 6 := by
    rw [length_ascii]
    simp only [String.length_append]
    change 1 + _ + 3 + _ + 2 = _
    omega
  have hroom : (ascii message).length ≤ stm32LoggerBufferSize - 2 -
      (level.name.length + tag.length + 6) := by
    rw [length_ascii, stm32LoggerBufferSize]
    omega
  rw [vlogBytes, ascii_append _ "\n", ascii_append _ message, hhead,
    min_eq_left (by rw [stm32LoggerBufferSize]; omega), List.take_of_length_le hhead.le,
    List.take_of_length_le hroom]

end Stm32Logger

/-! ## The lines of the service -/

/-- `DUPLEX_LINK_TAG`. -/
def duplexLinkTag : String := "DUPLEX_LINK"

def DuplexLinkRole.code : DuplexLinkRole → ℕ
  | initiator => 0
  | responder => 1

def DuplexLinkEventType.code : DuplexLinkEventType → ℕ
  | none => 0
  | requestReceived => 1
  | exchangeSucceeded => 2
  | exchangeFailed => 3
  | duplicateSuppressed => 4
  | invalidPacket => 5
  | deviceError => 6

/-- What `duplex_link_service_init` logs at its end. -/
def initializedLine (config : DuplexLinkConfig) : RadioLogLevel × String :=
  (.info, "Initialized role=" ++ toString config.role.code ++
    " local=" ++ toString config.localNodeId.toNat ++ " peer=" ++ toString config.peerNodeId.toNat ++
    " timeout=" ++ toString config.responseTimeoutMs.toNat ++
    " ms retries=" ++ toString config.maxRetries.toNat)

/-- What `duplex_link_push_event` logs about an event for which it has no room. -/
def queueFullLine (event : DuplexLinkEvent) : RadioLogLevel × String :=
  (.warn, "Event queue full, dropping event=" ++ toString event.type.code)

/-- What `duplex_link_finish_failed_exchange` logs about the event that it has pushed. -/
def exchangeFailedLine (event : DuplexLinkEvent) : RadioLogLevel × String :=
  (.warn, "Exchange failed seq=" ++ toString event.packet.sequence.toNat ++
    " attempts=" ++ toString event.attempts.toNat)

/-- What `duplex_link_handle_initiator_frame` logs about the event that it has pushed. -/
def exchangeOkLine (event : DuplexLinkEvent) : RadioLogLevel × String :=
  (.info, "Exchange OK seq=" ++ toString event.packet.sequence.toNat ++
    " ack=" ++ toString event.packet.acknowledgedSequence.toNat ++
    " attempts=" ++ toString event.attempts.toNat ++ " rtt=" ++ toString event.rttMs.toNat ++
    " ms rssi_x2=" ++ toString event.rssiDbmX2.toInt ++ " snr_x4=" ++ toString event.snrDbX4.toInt)

/-- What `duplex_link_retry_or_fail` logs about a retry. -/
def retryLine (sequence : UInt16) (retryCount maxRetries : UInt8) : RadioLogLevel × String :=
  (.warn, "Retry seq=" ++ toString sequence.toNat ++ " retry=" ++ toString retryCount.toNat ++
    "/" ++ toString maxRetries.toNat)

/-- The lines of the service about an event, right behind its push, and about a retry. -/
def LinkOp.logLines : LinkOp → List (RadioLogLevel × String)
  | published event stored =>
    (if stored then [] else [queueFullLine event]) ++
      (if event.type = .exchangeFailed then [exchangeFailedLine event]
      else if event.type = .exchangeSucceeded then [exchangeOkLine event] else [])
  | logRetry sequence retryCount maxRetries => [retryLine sequence retryCount maxRetries]
  | _ => []

def lineText (line : RadioLogLevel × String) : List UInt8 :=
  ascii ("[" ++ line.1.name ++ "] [" ++ duplexLinkTag ++ "] " ++ line.2 ++ "\n")

theorem length_toString_nat {n k : ℕ} (h : n < 10 ^ k) (hk : 0 < k) : (toString n).length ≤ k := by
  rw [show toString n = n.repr from rfl, ← String.length_toList, Nat.toList_repr]
  exact (Nat.length_toDigits_le_iff (by decide) hk).mpr h

theorem length_toString_int16 (value : Int16) : (toString value.toInt).length ≤ 6 := by
  have hle := value.le_toInt
  have hlt := value.toInt_lt
  rw [Int.toString_eq_repr, Int.repr_eq_if]
  split
  · rename_i hnonneg
    exact (length_toString_nat (n := value.toInt.toNat) (k := 5) (by omega) (by decide)).trans
      (by decide)
  · have hdigits := length_toString_nat (n := (-value.toInt).toNat) (k := 5) (by omega) (by decide)
    rw [String.length_append]
    exact Nat.add_le_add_left hdigits 1

/-- A warning or a message that fits the buffer of the logger. -/
def IsShort (line : RadioLogLevel × String) : Prop :=
  (line.1 = .warn ∨ line.1 = .info) ∧ line.2.length ≤ 160

theorem length_toString_uint8 (value : UInt8) : (toString value.toNat).length ≤ 3 :=
  length_toString_nat (value.toNat_lt.trans (by decide)) (by decide)

theorem length_toString_uint16 (value : UInt16) : (toString value.toNat).length ≤ 5 :=
  length_toString_nat (value.toNat_lt.trans (by decide)) (by decide)

theorem length_toString_uint32 (value : UInt32) : (toString value.toNat).length ≤ 10 :=
  length_toString_nat (value.toNat_lt.trans (by decide)) (by decide)

theorem isShort_initializedLine (config : DuplexLinkConfig) : IsShort (initializedLine config) := by
  have hrole : (toString config.role.code).length = 1 := by cases config.role <;> rfl
  have hlocal := length_toString_uint8 config.localNodeId
  have hpeer := length_toString_uint8 config.peerNodeId
  have htimeout := length_toString_uint32 config.responseTimeoutMs
  have hretries := length_toString_uint8 config.maxRetries
  refine ⟨.inr rfl, ?_⟩
  simp only [initializedLine, String.length_append]
  change 17 + _ + 7 + _ + 6 + _ + 9 + _ + 12 + _ ≤ 160
  omega

theorem isShort_queueFullLine (event : DuplexLinkEvent) : IsShort (queueFullLine event) := by
  refine ⟨.inl rfl, ?_⟩
  rw [queueFullLine]
  cases event.type <;> decide

theorem isShort_exchangeFailedLine (event : DuplexLinkEvent) :
    IsShort (exchangeFailedLine event) := by
  have hsequence := length_toString_uint16 event.packet.sequence
  have hattempts := length_toString_uint8 event.attempts
  refine ⟨.inl rfl, ?_⟩
  simp only [exchangeFailedLine, String.length_append]
  change 20 + _ + 10 + _ ≤ 160
  omega

theorem isShort_exchangeOkLine (event : DuplexLinkEvent) : IsShort (exchangeOkLine event) := by
  have hsequence := length_toString_uint16 event.packet.sequence
  have hacknowledged := length_toString_uint16 event.packet.acknowledgedSequence
  have hattempts := length_toString_uint8 event.attempts
  have hrtt := length_toString_uint32 event.rttMs
  have hrssi := length_toString_int16 event.rssiDbmX2
  have hsnr := length_toString_int16 event.snrDbX4
  refine ⟨.inr rfl, ?_⟩
  simp only [exchangeOkLine, String.length_append]
  change 16 + _ + 5 + _ + 10 + _ + 5 + _ + 12 + _ + 8 + _ ≤ 160
  omega

theorem isShort_retryLine (sequence : UInt16) (retryCount maxRetries : UInt8) :
    IsShort (retryLine sequence retryCount maxRetries) := by
  have hsequence := length_toString_uint16 sequence
  have hretry := length_toString_uint8 retryCount
  have hmax := length_toString_uint8 maxRetries
  refine ⟨.inl rfl, ?_⟩
  simp only [retryLine, String.length_append]
  change 10 + _ + 7 + _ + 1 + _ ≤ 160
  omega

theorem isShort_logLines {o : LinkOp} : ∀ line ∈ o.logLines, IsShort line := by
  cases o with
  | published event stored =>
    intro line hline
    rw [LinkOp.logLines] at hline
    obtain hline | hline := List.mem_append.mp hline
    · split at hline
      · cases hline
      · exact List.mem_singleton.mp hline ▸ isShort_queueFullLine event
    · split at hline
      · exact List.mem_singleton.mp hline ▸ isShort_exchangeFailedLine event
      split at hline
      · exact List.mem_singleton.mp hline ▸ isShort_exchangeOkLine event
      · cases hline
  | logRetry sequence retryCount maxRetries =>
    exact List.forall_mem_singleton.mpr (isShort_retryLine sequence retryCount maxRetries)
  | _ => exact List.forall_mem_nil _

/-- **No line of the service is cut.** -/
theorem vlogBytes_eq {line : RadioLogLevel × String} (h : IsShort line) :
    Stm32Logger.vlogBytes line.1 duplexLinkTag line.2 = lineText line := by
  obtain ⟨hlevel, hlength⟩ := h
  have hname : line.1.name.length = 4 := by
    obtain hlevel | hlevel := hlevel <;> rw [hlevel] <;> rfl
  refine Stm32Logger.vlogBytes_of_le ?_
  rw [hname]
  change 4 + 11 + _ ≤ 184
  omega

end RadioConnection
