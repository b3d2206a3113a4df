import RadioConnection.Firmware.LinkComposition

/-!
# The firmware of a link node

`app_main.c`, `node_config.h` and `board_validation.c` of the STM32F401: the start
of a node and one turn of its main loop, with the lines that the application and the
link service write to the UART.

* `loggedHandler`, `initLogged` and `processLogged`: the calls of the composition, with
  what the service logs.
* `u32Digits_eq`: **a number is written in decimal, within the ten bytes of the
  buffer**, and `flatten_eventPieces`: what is shown for an event.
* `appMainInit` and `appMainProcess`: the program, and `LinkNode.Run`: its runs.
-/

namespace RadioConnection

open Interaction Prog

/-! ## The board -/

/-- What the firmware of a node is built with. -/
structure LinkNodeBoard where
  /-- `NODE_CONFIG_DUPLEX_ROLE`. -/
  duplexRole : DuplexLinkRole
  hspi1 : SpiHandle
  huart2 : UartHandle
  deriving DecidableEq

/-- `NODE_CONFIG_NAME`. -/
def nodeConfigName : DuplexLinkRole → String
  | .initiator => "Node A"
  | .responder => "Node B"

/-- The pins of the radio in `main.h`. -/
def mainPins : BlackpillF401ccSx128xPins where
  nss := ⟨gpioA, 0x0010⟩
  busy := ⟨gpioB, 0x0004⟩
  dio1 := ⟨gpioB, 0x0002⟩
  reset := ⟨gpioB, 0x0001⟩

/-- `stm32f401_board_validation_run`. -/
def boardValidationRun (board : LinkNodeBoard) : Bool :=
  board.hspi1.instanceOf = .spi1 && board.huart2.instanceOf = .usart2 &&
  mainPins.nss = ⟨gpioA, 0x0010⟩ && mainPins.reset = ⟨gpioB, 0x0001⟩ &&
  mainPins.dio1 = ⟨gpioB, 0x0002⟩ && mainPins.busy = ⟨gpioB, 0x0004⟩

/-! ## Lines -/

def appUartTimeoutMs : UInt32 := 100
def appTxIntervalMs : UInt32 := 1000

/-- `app_hex_digit`. -/
def appHexDigit (value : UInt8) : UInt8 :=
  let value := value &&& 0x0F
  if value < 10 then 0x30 + value else 0x41 + (value - 10)

/-- The line of `app_uart_write_radio_status`. -/
def radioStatusLine (status : UInt8) : List UInt8 :=
  ((ascii "[SX128X] GetStatus=0x00\r\n").set 21 (appHexDigit (status >>> 4))).set 22
    (appHexDigit status)

/-! ## Numbers -/

/-- The loop of `app_uart_write_u32` with `room` bytes left in front of what it has written; `none`
where it would write in front of its buffer. -/
def decimalLoop : ℕ → UInt32 → List UInt8 → Option (List UInt8)
  | 0, _, _ => none
  | room + 1, value, written =>
    let written := (0x30 + value % 10).toUInt8 :: written
    if value / 10 ≠ 0 then decimalLoop room (value / 10) written else some written

/-- What `app_uart_write_u32` writes. -/
def u32Digits (value : UInt32) : List UInt8 := (decimalLoop 10 value []).getD []

/-- What `app_uart_write_i32` writes. -/
def i32Pieces (value : Int32) : List (List UInt8) :=
  if value < 0 then [ascii "-", u32Digits (-value).toUInt32] else [u32Digits value.toUInt32]

theorem digit_toUInt8 (value : UInt32) :
    (0x30 + value % 10).toUInt8 = (value.toNat % 10).digitChar.toNat.toUInt8 := by
  have hlt : value.toNat % 10 < 10 := Nat.mod_lt _ (by decide)
  have h : value % 10 = UInt32.ofNat (value.toNat % 10) := by
    apply UInt32.toNat_inj.mp
    rw [UInt32.toNat_mod, UInt32.toNat_ofNat']
    exact (Nat.mod_eq_of_lt (hlt.trans (by decide))).symm
  rw [h]
  interval_cases value.toNat % 10 <;> rfl

theorem decimalLoop_eq {room : ℕ} {value : UInt32} (written : List UInt8)
    (h : value.toNat < 10 ^ room) (hroom : room ≠ 0) : decimalLoop room value written =
      some ((Nat.toDigits 10 value.toNat).map (fun c => c.toNat.toUInt8) ++ written) := by
  induction room generalizing value written with
  | zero => exact absurd rfl hroom
  | succ room ih =>
    have hdiv : (value / 10).toNat = value.toNat / 10 := by simp
    have hzero : value / 10 = 0 ↔ value.toNat < 10 := by
      rw [← UInt32.toNat_inj, hdiv]
      simp
    rw [decimalLoop, digit_toUInt8]
    split
    · rename_i hmore
      have hge : 10 ≤ value.toNat := by
        rw [ne_eq, hzero] at hmore
        omega
      rw [ih _ (by rw [hdiv]; rw [pow_succ] at h; omega) (by rintro rfl; omega), hdiv,
        Nat.toDigits_of_base_le (by decide) hge, List.map_append, List.append_assoc]
      rfl
    · rename_i hlast
      have hlt : value.toNat < 10 := hzero.mp (not_not.mp hlast)
      rw [Nat.toDigits_of_lt_base hlt, Nat.mod_eq_of_lt hlt]
      rfl

/-- **A number is written in decimal**, and within the buffer. -/
theorem u32Digits_eq (value : UInt32) : u32Digits value = ascii (toString value.toNat) := by
  have hlt : value.toNat < 10 ^ 10 := value.toNat_lt.trans (by decide)
  rw [u32Digits, decimalLoop_eq [] hlt (by decide), List.append_nil, Option.getD_some, ascii]
  rw [show toString value.toNat = value.toNat.repr from rfl, Nat.toList_repr]

theorem toNat_toUInt32_of_nonneg {value : Int32} (h : 0 ≤ value.toInt) :
    value.toUInt32.toNat = value.toInt.toNat :=
  Int32.toNat_toUInt32_of_le (Int32.le_iff_toInt_le.mpr h)

theorem i32Pieces_eq (value : Int16) :
    (i32Pieces value.toInt32).flatten = ascii (toString value.toInt) := by
  have hle := value.le_toInt
  have hlt := value.toInt_lt
  have hvalue : value.toInt32.toInt = value.toInt := value.toInt_toInt32
  have hnegative : value.toInt32 < 0 ↔ ¬ 0 ≤ value.toInt := by
    rw [Int32.lt_iff_toInt_lt, hvalue, Int32.toInt_zero]
    omega
  rw [i32Pieces, Int.toString_eq_repr, Int.repr_eq_if]
  split
  · rename_i h
    have hbelow := hnegative.mp h
    have hneg : (-value.toInt32).toInt = -value.toInt := by
      rw [Int32.toInt_neg, hvalue]
      exact Int.bmod_eq_of_le (by omega) (by omega)
    rw [if_neg hbelow, ascii_append, List.flatten_cons, List.flatten_cons, List.flatten_nil,
      List.append_nil, u32Digits_eq, toNat_toUInt32_of_nonneg (by omega), hneg]
    rfl
  · rename_i h
    have hnonneg : 0 ≤ value.toInt := not_not.mp (hnegative.not.mp h)
    rw [if_pos hnonneg, List.flatten_cons, List.flatten_nil, List.append_nil, u32Digits_eq,
      toNat_toUInt32_of_nonneg (hvalue ▸ hnonneg), hvalue]
    rfl

theorem length_u32Digits (value : UInt32) : (u32Digits value).length ≤ 10 := by
  have hlt : value.toNat < 10 ^ 10 := value.toNat_lt.trans (by decide)
  rw [u32Digits, decimalLoop_eq [] hlt (by decide), List.append_nil, Option.getD_some,
    List.length_map]
  exact (Nat.length_toDigits_le_iff (by decide) (by decide)).mpr hlt

theorem length_i32Pieces {value : Int32} : ∀ piece ∈ i32Pieces value, piece.length ≤ 10 := by
  rw [i32Pieces]
  split
  · exact List.forall_mem_cons.mpr ⟨by decide, List.forall_mem_singleton.mpr (length_u32Digits _)⟩
  · exact List.forall_mem_singleton.mpr (length_u32Digits _)

/-! ## Events -/

def DuplexLinkInvalidReason.code : DuplexLinkInvalidReason → UInt32
  | none => 0
  | decode => 1
  | source => 2
  | messageType => 3
  | ackSequence => 4
  | rxFrame => 5

/-- What `app_process_link_events` writes about an event, call by call. -/
def eventPieces (event : DuplexLinkEvent) : List (List UInt8) :=
  match event.type with
  | .requestReceived =>
    [ascii "[RX] request seq=", u32Digits event.packet.sequence.toUInt32,
      ascii " len=", u32Digits event.packet.payloadLength.toUInt32,
      ascii " payload=", event.packet.payload.toList.take event.packet.payloadLength.toNat,
      ascii " rssi_x2="] ++ i32Pieces event.rssiDbmX2.toInt32 ++
    [ascii " snr_x4="] ++ i32Pieces event.snrDbX4.toInt32 ++ [ascii "\r\n"]
  | .exchangeSucceeded =>
    [ascii "[APP] exchange OK ack=", u32Digits event.packet.acknowledgedSequence.toUInt32,
      ascii " attempts=", u32Digits event.attempts.toUInt32,
      ascii " rtt_ms=", u32Digits event.rttMs,
      ascii " rssi_x2="] ++ i32Pieces event.rssiDbmX2.toInt32 ++
    [ascii " snr_x4="] ++ i32Pieces event.snrDbX4.toInt32 ++ [ascii "\r\n"]
  | .exchangeFailed =>
    [ascii "[APP] exchange FAILED seq=", u32Digits event.packet.sequence.toUInt32,
      ascii " attempts=", u32Digits event.attempts.toUInt32, ascii "\r\n"]
  | .duplicateSuppressed =>
    [ascii "[RX] duplicate suppressed seq=", u32Digits event.packet.sequence.toUInt32,
      ascii "\r\n"]
  | .invalidPacket =>
    [ascii "[RX] invalid packet reason=", u32Digits event.invalidReason.code, ascii "\r\n"]
  | .deviceError =>
    [ascii "[SX128X] device error=", u32Digits event.deviceErrorCode.toUInt32, ascii "\r\n"]
  | .none => []

def DuplexLinkEvent.line (event : DuplexLinkEvent) : List UInt8 :=
  match event.type with
  | .requestReceived =>
    ascii ("[RX] request seq=" ++ toString event.packet.sequence.toNat ++
      " len=" ++ toString event.packet.payloadLength.toNat ++ " payload=") ++
    event.packet.payload.toList.take event.packet.payloadLength.toNat ++
    ascii (" rssi_x2=" ++ toString event.rssiDbmX2.toInt ++
      " snr_x4=" ++ toString event.snrDbX4.toInt ++ "\r\n")
  | .exchangeSucceeded =>
    ascii ("[APP] exchange OK ack=" ++ toString event.packet.acknowledgedSequence.toNat ++
      " attempts=" ++ toString event.attempts.toNat ++ " rtt_ms=" ++ toString event.rttMs.toNat ++
      " rssi_x2=" ++ toString event.rssiDbmX2.toInt ++
      " snr_x4=" ++ toString event.snrDbX4.toInt ++ "\r\n")
  | .exchangeFailed =>
    ascii ("[APP] exchange FAILED seq=" ++ toString event.packet.sequence.toNat ++
      " attempts=" ++ toString event.attempts.toNat ++ "\r\n")
  | .duplicateSuppressed =>
    ascii ("[RX] duplicate suppressed seq=" ++ toString event.packet.sequence.toNat ++ "\r\n")
  | .invalidPacket =>
    ascii ("[RX] invalid packet reason=" ++ toString event.invalidReason.code.toNat ++ "\r\n")
  | .deviceError =>
    ascii ("[SX128X] device error=" ++ toString event.deviceErrorCode.toNat ++ "\r\n")
  | .none => []

theorem flatten_eventPieces (event : DuplexLinkEvent) :
    (eventPieces event).flatten = event.line := by
  rw [eventPieces, DuplexLinkEvent.line]
  cases event.type with
  | none => rfl
  | _ =>
    simp only [List.flatten_append, List.flatten_cons, List.flatten_nil, i32Pieces_eq,
      u32Digits_eq, ascii_append, UInt8.toNat_toUInt32, UInt16.toNat_toUInt32, List.append_assoc,
      List.append_nil]

theorem length_eventPieces (event : DuplexLinkEvent) :
    ∀ piece ∈ eventPieces event, piece.length ≤ 30 := by
  have hdigits (value : UInt32) : (u32Digits value).length ≤ 30 :=
    (length_u32Digits value).trans (by decide)
  have hsigned (value : Int32) : ∀ piece ∈ i32Pieces value, piece.length ≤ 30 :=
    fun piece h => (length_i32Pieces piece h).trans (by decide)
  have hpayload :
      (event.packet.payload.toList.take event.packet.payloadLength.toNat).length ≤ 30 := by
    rw [List.length_take, Vector.length_toList]
    exact (min_le_right _ _).trans (by decide)
  rw [eventPieces]
  cases event.type with
  | none => exact List.forall_mem_nil _
  | requestReceived =>
    simp only [List.forall_mem_append, List.forall_mem_cons, hdigits, hpayload, true_and]
    exact ⟨⟨⟨⟨by decide, hsigned _⟩, by decide⟩, hsigned _⟩, by decide⟩
  | exchangeSucceeded =>
    simp only [List.forall_mem_append, List.forall_mem_cons, hdigits, true_and]
    exact ⟨⟨⟨⟨by decide, hsigned _⟩, by decide⟩, hsigned _⟩, by decide⟩
  | _ =>
    simp only [List.forall_mem_cons, hdigits, true_and]
    decide

/-! ## The composition with its log -/

namespace Stm32f401LinkComposition

/-- A call of the service, with the lines that the service logs then. -/
def loggedHandler (logger : Stm32Logger) (device : Sx128x) (bound : ℕ) :
    Handler LinkOp LinkOp.Ans NodeOp NodeOp.Ans (Sx128xPacketRadio × Stm32f4Sx128xPort) :=
  fun o s => do
    logger.vlogAll duplexLinkTag o.logLines
    onHal (linkHandler device bound o s)

/-- `stm32f401_link_composition_init`, with the line that ends `duplex_link_service_init`. -/
def initLogged (bound : ℕ) (config : Stm32f401LinkCompositionConfig) :
    NodeProg (Option (Option Stm32f401LinkComposition)) := do
  let started ← onHal (init bound config)
  match started with
  | some (some composition) => do
    composition.logger.vlogAll duplexLinkTag [initializedLine config.link]
    pure (some (some composition))
  | _ => pure started

/-- `stm32f401_link_composition_process`, with the lines of the service. -/
def processLogged (composition : Stm32f401LinkComposition) (bound : ℕ) :
    NodeProg (Option Stm32f401LinkComposition) :=
  if ¬ composition.initialized then pure (some composition)
  else do
    let r ← interp (loggedHandler composition.logger composition.radioDevice bound)
      (composition.linkService.process bound)
      (composition.packetRadioAdapter, composition.radioPortBackend)
    pure (r.bind fun r => r.1.map fun service => composition.updated service r.2)

end Stm32f401LinkComposition

/-! ## The program -/

/-- The statics of `app_main.c`, once `app_main_init` has returned true. -/
structure LinkNode where
  linkComposition : Stm32f401LinkComposition
  lastTxMs : UInt32

namespace LinkNode

variable (board : LinkNodeBoard) (bound : ℕ)

/-- `app_uart_write_bytes`, and `app_uart_write` with the characters of its text.  The status of
the HAL is ignored. -/
def appUartWriteBytes (data : List UInt8) : NodeProg Unit :=
  if data.length = 0 ∨ 65535 < data.length then pure ()
  else do
    let _ ← node (.uartTransmit board.huart2.address data appUartTimeoutMs)
    pure ()

def appUartWrite (text : String) : NodeProg Unit := appUartWriteBytes board (ascii text)

/-- Calls of `app_uart_write_bytes` one after another. -/
def writeAll : List (List UInt8) → NodeProg Unit
  | [] => pure ()
  | piece :: pieces => do
    appUartWriteBytes board piece
    writeAll pieces

/-- `app_process_link_events`, for at most so many rounds of its loop. -/
def appProcessLinkEvents :
    ℕ → Stm32f401LinkComposition → NodeProg (Option Stm32f401LinkComposition)
  | 0, _ => pure none
  | rounds + 1, composition =>
    match composition.takeEvent with
    | none => pure (some composition)
    | some (event, composition) => do
      writeAll board (eventPieces event)
      appProcessLinkEvents rounds composition

/-- `g_initiator_payload`. -/
def initiatorPayload : List UInt8 := ascii "NODE-A-DATA-0001"

/-- `g_responder_payload`. -/
def responderPayload : List UInt8 :=
  [0x42, 0x2D, 0x52, 0x45, 0x53, 0x50, 0x4F, 0x4E, 0x53, 0x45, 0x2D, 0x44, 0x41, 0x54, 0x41, 0x21]

/-- The end of `app_main_init`. -/
def appMainReady (composition : Stm32f401LinkComposition) :
    NodeProg (Option (Option LinkNode)) := do
  let lastTxMs ← node .getTick
  appUartWrite board "[SX128X] init OK freq=2445000000 sf=6 bw=812500\r\n"
  appUartWrite board "[LINK] service ready\r\n"
  pure (some (some ⟨composition, lastTxMs⟩))

/-- `app_main_init` once the composition has started. -/
def appMainStarted (composition : Stm32f401LinkComposition) :
    NodeProg (Option (Option LinkNode)) := do
  let r ← onHal (interp portHandler (composition.radioDevice.getStatus bound (some 0))
    composition.radioPortBackend)
  match r with
  | some (some (result, status), backend) =>
    if result ≠ .ok then do
      appUartWrite board "[SX128X] GetStatus FAILED\r\n"
      pure (some none)
    else do
      appUartWriteBytes board (radioStatusLine (status.getD 0))
      let composition := { composition with radioPortBackend := backend }
      if board.duplexRole = .responder then
        let (accepted, composition) := composition.setResponsePayload responderPayload
        if ¬ accepted then do
          appUartWrite board "[LINK] response payload setup FAILED\r\n"
          pure (some none)
        else appMainReady board composition
      else appMainReady board composition
  | _ => pure none

/-- `app_main_init`: `some none` when it fails, `none` when the bound ends a wait. -/
def appMainInit : NodeProg (Option (Option LinkNode)) := do
  appUartWrite board "\r\n[BOOT] STM32F401 SX128x link\r\n"
  appUartWrite board ("[BOOT] role=" ++ nodeConfigName board.duplexRole ++ "\r\n")
  if ¬ boardValidationRun board then do
    appUartWrite board "[BOARD] validation FAILED\r\n"
    pure (some none)
  else do
    appUartWrite board "[BOARD] validation OK\r\n"
    match Stm32f401LinkComposition.configInitDefaults board.hspi1 board.huart2
        board.duplexRole with
    | none => do
      appUartWrite board "[LINK] config initialization FAILED\r\n"
      pure (some none)
    | some config => do
      appUartWrite board "[SX128X] initialization started\r\n"
      let started ← Stm32f401LinkComposition.initLogged bound config
      match started with
      | none => pure none
      | some none => do
        appUartWrite board "[SX128X] initialization FAILED\r\n"
        pure (some none)
      | some (some composition) => appMainStarted board bound composition

/-- The part of `app_main_process` that only an initiator has.  A start logs nothing. -/
def appMainTransmit (n : LinkNode) : NodeProg (Option LinkNode) := do
  let nowMs ← node .getTick
  if appTxIntervalMs ≤ nowMs - n.lastTxMs then do
    let started ← onHal (n.linkComposition.startData bound initiatorPayload)
    match started with
    | none => pure none
    | some (false, composition) => pure (some { n with linkComposition := composition })
    | some (true, composition) => do
      appUartWrite board "[TX] DATA started payload=NODE-A-DATA-0001\r\n"
      pure (some ⟨composition, nowMs⟩)
  else pure (some n)

/-- `app_main_process` of a node that was initialized; one that was not does nothing.  `none` when
the bound ends a wait or a loop. -/
def appMainProcess (n : LinkNode) : NodeProg (Option LinkNode) := do
  let processed ← n.linkComposition.processLogged bound
  match processed with
  | none => pure none
  | some composition => do
    let reported ← appProcessLinkEvents board bound composition
    match reported with
    | none => pure none
    | some composition =>
      let n := { n with linkComposition := composition }
      if board.duplexRole = .initiator then appMainTransmit board bound n else pure (some n)

/-- The runs of the firmware: the start, and turns of the main loop. -/
inductive Run : List NodeAction → LinkNode → Prop
  | init {tr : List NodeAction} {n : LinkNode} :
      Trace (appMainInit board bound) tr (some (some n)) → Run tr n
  | process {tr tr' : List NodeAction} {n n' : LinkNode} :
      Run tr n → Trace (appMainProcess board bound n) tr' (some n') → Run (tr ++ tr') n'

end LinkNode

end RadioConnection
