import RadioConnection.Platform.SpiPins

/-!
# The radio behind the port

What the driver is for: the radio as the set of registers and the buffer that its
commands act on.  The radio hears the bytes between a fall and the next rise of
NSS, answers each with one of its own, and acts when NSS rises.  It is a part of the
board and not of the repository: `RadioChip.perform` and `RadioChip.response` are what
is assumed of it, and everything below them is the code.

* `RadioChip.receive`: what the radio does with a period of bytes, and
  `RadioChip.reply`: the byte that it sends next.
* `chipPort`: the radio as an environment of the driver's port, `chipHal`: as one of
  the HAL.  A transfer may fail at any byte.
* `chipPort_of_chipHal`: **on the port of the STM32F4 the driver runs as on the
  abstract port**, however a transfer is cut into chunks.
-/

namespace RadioConnection

open Interaction Prog Stm32f4Sx128xPort Sx128x

/-! ## The radio -/

inductive RadioMode
  | standby
  | tx (timeoutBase : UInt8) (timeoutCount : UInt16)
  | rx (timeoutBase : UInt8) (timeoutCount : UInt16)
  deriving DecidableEq, Repr

structure RadioChip where
  mode : RadioMode
  packetType : UInt8
  /-- In steps of 52 MHz / 2^18. -/
  frequency : ℕ
  txBaseAddress : UInt8
  rxBaseAddress : UInt8
  /-- Spreading factor, bandwidth and coding rate. -/
  modulation : List UInt8
  /-- Preamble, header, payload length, CRC and IQ. -/
  packetParams : List UInt8
  txPowerDbm : ℤ
  rampTime : UInt8
  irqMask : UInt16
  dio1Mask : UInt16
  dio2Mask : UInt16
  dio3Mask : UInt16
  irqStatus : UInt16
  buffer : UInt8 → UInt8
  rxPayloadLength : UInt8
  rxStart : UInt8
  rssi : UInt8
  snr : UInt8
  status : UInt8

def commandOf (opcode : UInt8) : Option Sx128xCommand :=
  [.getStatus, .writeRegister, .readRegister, .writeBuffer, .readBuffer, .setSleep, .setStandby,
    .setFs, .setTx, .setRx, .setPacketType, .getPacketType, .setRfFrequency, .setTxParams,
    .setBufferBaseAddress, .setModulationParams, .setPacketParams, .getRxBufferStatus,
    .getPacketStatus, .getRssiInst, .setDioIrqParams, .getIrqStatus, .clearIrqStatus,
    .setRegulatorMode, .setSaveContext].find? fun command => command.opcode = opcode

@[simp] theorem commandOf_opcode (command : Sx128xCommand) :
    commandOf command.opcode = some command := by
  cases command <;> rfl

namespace RadioChip

/-- A setting, which the radio only heeds in standby. -/
def configured (chip set : RadioChip) : RadioChip := if chip.mode = .standby then set else chip

/-- `data` written to the buffer, whose addresses wrap around. -/
def write (buffer : UInt8 → UInt8) (offset : UInt8) (data : List UInt8) : UInt8 → UInt8 :=
  fun address => data.getD (address - offset).toNat (buffer address)

/-- The assumed command set: a complete command of the LoRa packet type takes effect at once and
fully, a setting only in standby; an interrupt bit is cleared by a one; a start of a transmission
or a reception is not refused.  What the driver never sends, and a command cut short, does
nothing. -/
def perform (chip : RadioChip) : Sx128xCommand → List UInt8 → RadioChip
  | .setStandby, [_] => { chip with mode := .standby }
  | .setPacketType, [packetType] =>
    chip.configured { chip with packetType := packetType, modulation := [], packetParams := [] }
  | .setRfFrequency, [high, middle, low] =>
    chip.configured { chip with
      frequency := high.toNat * 65536 + middle.toNat * 256 + low.toNat }
  | .setBufferBaseAddress, [tx, rx] =>
    chip.configured { chip with txBaseAddress := tx, rxBaseAddress := rx }
  | .setModulationParams, [spreadingFactor, bandwidth, codingRate] =>
    chip.configured { chip with modulation := [spreadingFactor, bandwidth, codingRate] }
  | .setPacketParams, [preamble, header, payloadLength, crc, iq] =>
    chip.configured { chip with packetParams := [preamble, header, payloadLength, crc, iq] }
  | .setTxParams, [power, rampTime] =>
    chip.configured { chip with txPowerDbm := (power.toNat : ℤ) - 18, rampTime := rampTime }
  | .setDioIrqParams, [irqHigh, irqLow, dio1High, dio1Low, dio2High, dio2Low, dio3High, dio3Low] =>
    { chip with
      irqMask := readU16Be [irqHigh, irqLow]
      dio1Mask := readU16Be [dio1High, dio1Low]
      dio2Mask := readU16Be [dio2High, dio2Low]
      dio3Mask := readU16Be [dio3High, dio3Low] }
  | .clearIrqStatus, [high, low] =>
    { chip with irqStatus := chip.irqStatus &&& ~~~ readU16Be [high, low] }
  | .writeBuffer, offset :: data => { chip with buffer := write chip.buffer offset data }
  | .setTx, [base, high, low] => { chip with mode := .tx base (readU16Be [high, low]) }
  | .setRx, [base, high, low] => { chip with mode := .rx base (readU16Be [high, low]) }
  | _, _ => chip

/-- What the radio does with the bytes of one period. -/
def receive (chip : RadioChip) : List UInt8 → RadioChip
  | [] => chip
  | opcode :: arguments => (commandOf opcode).elim chip fun command =>
    chip.perform command arguments

/-- What the radio is assumed to say to a command that reads: its interrupts, where the packet that
it received last is, and how strong that was. -/
def response (chip : RadioChip) (command : Sx128xCommand) (index : ℕ) : UInt8 :=
  match command with
  | .getIrqStatus => (writeU16Be chip.irqStatus).getD index 0
  | .getRxBufferStatus => [chip.rxPayloadLength, chip.rxStart].getD index 0
  | .getPacketStatus => [chip.rssi, chip.snr].getD index 0
  | _ => chip.status

/-- The byte that the radio sends after it has heard `heard`: the status first, and behind the
opcode, for `readBuffer` also behind the offset, and one byte more what the command asks for. -/
def reply (chip : RadioChip) : List UInt8 → UInt8
  | [] => chip.status
  | opcode :: arguments => (commandOf opcode).elim chip.status fun command =>
    match command, arguments with
    | .readBuffer, offset :: _ :: rest => chip.buffer (offset + UInt8.ofNat rest.length)
    | .readBuffer, _ => chip.status
    | command, _ :: rest => chip.response command rest.length
    | _, [] => chip.status

/-- The bytes that the radio sends while it hears `data`. -/
def replies (chip : RadioChip) (heard : List UInt8) : List UInt8 → List UInt8
  | [] => []
  | b :: data => chip.reply heard :: chip.replies (heard ++ [b]) data

theorem replies_append (chip : RadioChip) (heard data data' : List UInt8) :
    chip.replies heard (data ++ data') =
      chip.replies heard data ++ chip.replies (heard ++ data) data' := by
  induction data generalizing heard with
  | nil => rw [List.nil_append, List.append_nil, replies, List.nil_append]
  | cons b data ih =>
    rw [List.cons_append, replies, replies, ih, List.append_assoc, List.singleton_append]
    rfl

end RadioChip

/-- The radio, and the bytes it has heard since NSS fell. -/
structure ChipBus where
  chip : RadioChip
  heard : Option (List UInt8)

namespace ChipBus

/-- Bytes on the bus, which only a selected radio hears and answers. -/
def Exchanged (s : ChipBus) (data received : List UInt8) (s' : ChipBus) : Prop :=
  match s.heard with
  | none => s' = s
  | some heard =>
    received = s.chip.replies heard data ∧ s' = { s with heard := some (heard ++ data) }

def select (s : ChipBus) (high : Bool) : ChipBus :=
  if high then ⟨s.heard.elim s.chip s.chip.receive, none⟩ else ⟨s.chip, some (s.heard.getD [])⟩

end ChipBus

/-- The radio on the driver's port: `reset` is what its reset line makes of it. -/
def chipPort (reset : RadioChip) : Env PortOp PortOp.Ans ChipBus
  | .spiTransfer t, s, x, s' => ∃ data received, data <+: bytes t ∧ (x.1 = true → data = bytes t) ∧
      s.Exchanged data received s' ∧ x.2 = if t.rxData then received else []
  | .nssWrite high, s, _, s' => s' = s.select high
  | .resetWrite high, s, _, s' => s' = if high then s else ⟨reset, none⟩
  | _, s, _, s' => s' = s

/-- The radio on the pins and the SPI of the microcontroller. -/
def chipHal (config : Stm32f4Sx128xPortConfig) (reset : RadioChip) : Env HalOp HalOp.Ans ChipBus
  | .spiTransmitReceive _ txData _ _, s, x, s' => ∃ data, data <+: txData ∧
      (x.1 = .ok → data = txData) ∧ s.Exchanged data x.2 s'
  | .gpioWritePin pin set, s, _, s' =>
    s' = if config.nss.isTouched pin then s.select set
      else if config.reset.isTouched pin && !set then ⟨reset, none⟩ else s
  | _, s, _, s' => s' = s

/-! ## The port does not change what the radio hears -/

variable {config : Stm32f4Sx128xPortConfig} {reset : RadioChip}

theorem ChipBus.exchanged_nil (s : ChipBus) : s.Exchanged [] [] s := by
  obtain ⟨chip, heard⟩ := s
  cases heard with
  | none => rfl
  | some heard => exact ⟨rfl, by rw [List.append_nil]⟩

theorem ChipBus.Exchanged.append {s m s' : ChipBus} {data data' received received' : List UInt8}
    (h : s.Exchanged data received m) (h' : m.Exchanged data' received' s') :
    s.Exchanged (data ++ data') (received ++ received') s' := by
  obtain ⟨chip, heard⟩ := s
  cases heard with
  | none =>
    obtain rfl := h
    exact h'
  | some heard =>
    obtain ⟨rfl, rfl⟩ := h
    obtain ⟨rfl, rfl⟩ := h'
    exact ⟨(chip.replies_append heard data data').symm, by rw [List.append_assoc]⟩

theorem exchanged_of_sends {xs : List UInt8} {log : List (List UInt8 × HalStatus × List UInt8)}
    {sent : Bool} {n : ℕ} {s s' : ChipBus}
    (h : Chunks.Sends (fun answer : HalStatus × List UInt8 => answer.1 = .ok) n xs log sent)
    (hp : (chipHal config reset).Path s (log.map (chunkCall config)) s') :
    ∃ data, data <+: xs ∧ (sent = true → data = xs) ∧ s.Exchanged data (returned log) s' := by
  induction h generalizing s with
  | done =>
    obtain rfl := hp
    exact ⟨[], List.prefix_rfl, fun _ => rfl, s'.exchanged_nil⟩
  | @failed xs b _ _ =>
    obtain ⟨m, ⟨data, hdata, -, hx⟩, rfl⟩ := hp
    refine ⟨data, hdata.trans (List.take_prefix n xs), (fun hf => by cases hf), ?_⟩
    rw [returned, List.map_singleton, List.flatten_singleton]
    exact hx
  | @next xs b log all _ hb _ ih =>
    obtain ⟨m, ⟨data, -, hall, hx⟩, hp⟩ := hp
    obtain rfl := hall hb
    obtain ⟨rest, hrest, hsent, hx'⟩ := ih hp
    refine ⟨xs.take n ++ rest, ?_, ?_, ?_⟩
    · conv_rhs => rw [← List.take_append_drop n xs]
      exact (List.prefix_append_right_inj _).mpr hrest
    · intro ht
      rw [hsent ht, List.take_append_drop]
    · rw [returned, List.map_cons, List.flatten_cons]
      exact hx.append hx'

theorem path_inward {tr : List HalAction} {s s' : ChipBus} (h : tr.all (·.1.isInward) = true)
    (hp : (chipHal config reset).Path s tr s') : s' = s := by
  induction tr generalizing s with
  | nil => exact hp
  | cons a tr ih =>
    rw [List.all_cons, Bool.and_eq_true] at h
    obtain ⟨m, hm, hp⟩ := hp
    have ha := h.1
    obtain ⟨o, x⟩ := a
    have hms : m = s := by
      cases o with
      | spiTransmitReceive spi txData size timeoutMs => cases ha
      | gpioWritePin written set => cases ha
      | gpioReadPin pin => cases ha
      | _ => exact hm
    rw [ih h.2 hp, hms]

/-- **The port does what the driver takes a port to do**: each of its calls, made of calls of the
HAL, is one call of the abstract port. -/
theorem chipPort_of_answer {b b' : Stm32f4Sx128xPort} {s s' : ChipBus} {o : PortOp} {x : o.Ans}
    (hw : Wired config) (htouched : config.reset.isTouched config.reset = true)
    (hb : b.initialized = true) (hconfig : b.config = config)
    (h : Runs (chipHal config reset) (Stm32f4Sx128xPort.answer o b) s (x, b') s') :
    chipPort reset o s x s' ∧ b'.initialized = true ∧ b'.config = config := by
  obtain ⟨tr, ht, hp⟩ := h
  obtain ⟨hconfig', hb', hshape⟩ := trace_answer (a := ⟨o, x⟩) hb ht
  refine ⟨?_, hb', hconfig'.trans hconfig⟩
  cases o with
  | spiTransfer t =>
    obtain ⟨sent, received⟩ := x
    obtain ⟨-, rfl, rfl, rfl, -⟩ | ⟨-, log, rfl, hsends, rfl, -⟩ := spiTransfer_cases hb ht
    · obtain rfl := hp
      exact ⟨[], [], List.nil_prefix, (fun hf => by cases hf), s'.exchanged_nil, by simp⟩
    · rw [hconfig] at hp
      obtain ⟨data, hdata, hall, hx⟩ := exchanged_of_sends hsends hp
      exact ⟨data, _, hdata, hall, hx, rfl⟩
  | nssWrite high =>
    cases hshape with
    | nssWrite =>
      obtain ⟨m, hm, rfl⟩ := hp
      rw [hconfig, chipHal, if_pos hw.nss] at hm
      exact hm
    | inward ho => cases ho
  | resetWrite high =>
    cases hshape with
    | resetWrite =>
      obtain ⟨m, hm, rfl⟩ := hp
      rw [hconfig, chipHal, if_neg (by simp [hw.reset]), htouched] at hm
      cases high <;> exact hm
    | inward ho => cases ho
  | busyRead =>
    cases hshape with
    | busyRead =>
      obtain ⟨m, rfl, rfl⟩ := hp
      rfl
    | inward ho => cases ho
  | delayMs ms =>
    cases hshape with
    | inward _ hinward => exact path_inward hinward hp
  | timeMs =>
    cases hshape with
    | inward _ hinward => exact path_inward hinward hp
  | takeDio1Event =>
    cases hshape with
    | inward _ hinward => exact path_inward hinward hp

theorem runs_chipPort {α : Type} {p : PortProg α} {a : α} {q q' : Stm32f4Sx128xPort × ChipBus}
    (hw : Wired config) (htouched : config.reset.isTouched config.reset = true)
    (hb : q.1.initialized = true ∧ q.1.config = config)
    (h : Runs ((chipHal config reset).through portHandler) p q a q') :
    Runs (chipPort reset) p q.2 a q'.2 ∧ q'.1.initialized = true ∧ q'.1.config = config := by
  have hstep : ∀ o (q : Stm32f4Sx128xPort × ChipBus) x q' t,
      (chipHal config reset).through portHandler o q x q' →
      (q.1.initialized = true ∧ q.1.config = config) ∧ q.2 = t →
      ∃ t', chipPort reset o t x t' ∧ (q'.1.initialized = true ∧ q'.1.config = config) ∧
        q'.2 = t' := by
    rintro o ⟨b, s⟩ x ⟨b', s'⟩ t ⟨tr, ht, hp⟩ ⟨⟨hb, hconfig⟩, rfl⟩
    obtain ⟨r, hr, he⟩ := trace_map_iff.mp ht
    obtain rfl := Option.some.inj he
    obtain ⟨ho, hb', hconfig'⟩ := chipPort_of_answer hw htouched hb hconfig ⟨tr, hr, hp⟩
    exact ⟨s', ho, ⟨hb', hconfig'⟩, rfl⟩
  obtain ⟨t', hruns, hb', rfl⟩ := h.map hstep ⟨hb, rfl⟩
  exact ⟨hruns, hb'⟩

/-- **On the port of the STM32F4 the driver runs as on the abstract port**, however its transfers
are cut into chunks. -/
theorem chipPort_of_chipHal {α : Type} {p : PortProg α} {a : α} {b b' : Stm32f4Sx128xPort}
    {s s' : ChipBus} (hw : Wired config)
    (htouched : config.reset.isTouched config.reset = true) (hb : b.initialized = true)
    (hconfig : b.config = config)
    (h : Runs (chipHal config reset) (interp portHandler p b) s (some (a, b')) s') :
    Runs (chipPort reset) p s a s' :=
  (runs_chipPort hw htouched ⟨hb, hconfig⟩ (runs_interp_iff.mp h)).1

/-- The HAL when nothing fails, BUSY stays low and DIO1 has had `produced` edges. -/
def steadyHal (config : Stm32f4Sx128xPortConfig) (reset : RadioChip) (produced : UInt32) :
    (o : HalOp) → ChipBus → o.Ans × ChipBus
  | .spiTransmitReceive _ txData _ _, s =>
    ((.ok, s.heard.elim [] fun heard => s.chip.replies heard txData),
      { s with heard := s.heard.map (· ++ txData) })
  | .gpioWritePin pin set, s =>
    ((), if config.nss.isTouched pin then s.select set
      else if config.reset.isTouched pin && !set then ⟨reset, none⟩ else s)
  | .gpioReadPin _, s => (false, s)
  | .delay _, s => ((), s)
  | .getTick, s => (0, s)
  | .loadProduced, s => (produced, s)
  | .loadConsumed, s => (0, s)
  | .storeConsumed _, s => ((), s)

theorem chipHal_of_steadyHal {produced : UInt32} {o : HalOp} {s s' : ChipBus} {x : o.Ans}
    (h : Env.ofFun (steadyHal config reset produced) o s x s') : chipHal config reset o s x s' := by
  cases o with
  | spiTransmitReceive spi txData size timeoutMs =>
    obtain ⟨chip, heard⟩ := s
    obtain ⟨rfl, rfl⟩ := Prod.mk.inj h
    refine ⟨txData, List.prefix_rfl, fun _ => rfl, ?_⟩
    cases heard with
    | none => rfl
    | some heard => exact ⟨rfl, rfl⟩
  | gpioWritePin pin set => exact (Prod.mk.inj h).2.symm
  | _ => exact (Prod.mk.inj h).2.symm

theorem runs_steadyHal {α : Type} (config : Stm32f4Sx128xPortConfig) (reset : RadioChip)
    (produced : UInt32) (p : HalProg α) (s : ChipBus) :
    Runs (chipHal config reset) p s (exec (steadyHal config reset produced) p s).1
      (exec (steadyHal config reset produced) p s).2 := by
  have hstep : ∀ o s x s' t, Env.ofFun (steadyHal config reset produced) o s x s' → s = t →
      ∃ t', chipHal config reset o t x t' ∧ s' = t' := by
    rintro o s x s' t h rfl
    exact ⟨s', chipHal_of_steadyHal h, rfl⟩
  obtain ⟨t', hruns, rfl⟩ := (exec_runs (steadyHal config reset produced) p s).map hstep rfl
  exact hruns

theorem runs_of_exec {α : Type} {produced : UInt32} {p : HalProg α} {s s' : ChipBus} {x : α}
    (h : exec (steadyHal config reset produced) p s = (x, s')) (hs : s'.heard = none) :
    Runs (chipHal config reset) p s x ⟨s'.chip, none⟩ := by
  have hruns := runs_steadyHal config reset produced p s
  rw [h] at hruns
  obtain ⟨chip, heard⟩ := s'
  obtain rfl : heard = none := hs
  exact hruns

end RadioConnection
