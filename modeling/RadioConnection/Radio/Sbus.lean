import RadioConnection.Radio.Protocol

/-!
# The SBUS parser

`sbus_protocol.c`: 25 bytes from a header to a footer, with a time-out between
bytes, and the sixteen channels taken out of a bit buffer.

* `sbusDecodeFrom_eq_some`: the loops never run out of bits when there are enough of them.
-/

namespace RadioConnection

def sbusFrameSize : UInt8 := 25
def sbusHeaderByte : UInt8 := 0x0F
def sbusFooterByte : UInt8 := 0x00
def sbusChannelCount : Nat := 16
def sbusChannelDataSize : Nat := 22
def sbusFlagsIndex : Nat := 23
def sbusFooterIndex : Nat := 24
def sbusInterByteTimeoutMs : UInt32 := 5
def sbusFlagFrameLost : UInt8 := 0x04
def sbusFlagFailsafe : UInt8 := 0x08

inductive SbusParserState
  | waitHeader | readFrame
  deriving DecidableEq, Repr

structure SbusProtocolContext where
  parserState : SbusParserState
  frameBuffer : Vector UInt8 25
  framePos : UInt8
  lastByteTimeMs : UInt32
  latestFrame : RcInputFrame
  frameReady : Bool
  receivedFrames : UInt32
  validFrames : UInt32
  malformedFrames : UInt32
  timeoutResets : UInt32
  deriving DecidableEq

/-! ## The channels -/

/-- The inner loop of `sbus_decode_channels`; `none` when the data runs out. -/
def sbusRefill : List UInt8 → UInt32 → UInt8 → Option (List UInt8 × UInt32 × UInt8)
  | [], bitBuffer, bitsAvailable =>
    if bitsAvailable < 11 then none else some ([], bitBuffer, bitsAvailable)
  | byte :: data, bitBuffer, bitsAvailable =>
    if bitsAvailable < 11 then
      sbusRefill data (bitBuffer ||| (byte.toUInt32 <<< bitsAvailable.toUInt32)) (bitsAvailable + 8)
    else some (byte :: data, bitBuffer, bitsAvailable)

/-- The outer loop, for the `count` channels from `channel` on. -/
def sbusDecodeFrom : (count channel : Nat) → List UInt8 → UInt32 → UInt8 →
    Vector UInt16 rcMaxChannels → Option (Vector UInt16 rcMaxChannels)
  | 0, _, _, _, _, channels => some channels
  | count + 1, channel, data, bitBuffer, bitsAvailable, channels =>
    match sbusRefill data bitBuffer bitsAvailable with
    | none => none
    | some (data, bitBuffer, bitsAvailable) =>
      sbusDecodeFrom count (channel + 1) data (bitBuffer >>> 11) (bitsAvailable - 11)
        (channels.setIfInBounds channel (bitBuffer &&& 0x07FF).toUInt16)

/-- `sbus_decode_channels`; `none` when it returns false. -/
def sbusDecodeChannels (channelData : List UInt8) : Option RcInputFrame :=
  if channelData.length ≠ sbusChannelDataSize then none
  else
    (sbusDecodeFrom sbusChannelCount 0 channelData 0 0 RcInputFrame.zero.channels).map fun channels =>
      { RcInputFrame.zero with
        channels := channels
        channelCount := UInt8.ofNat sbusChannelCount }

theorem sbusRefill_eq_some (data : List UInt8) (bitBuffer : UInt32) (bitsAvailable : UInt8)
    (h : 11 ≤ bitsAvailable.toNat + 8 * data.length) :
    ∃ data' bitBuffer' bitsAvailable',
      sbusRefill data bitBuffer bitsAvailable = some (data', bitBuffer', bitsAvailable') ∧
        11 ≤ bitsAvailable'.toNat ∧
        bitsAvailable'.toNat + 8 * data'.length = bitsAvailable.toNat + 8 * data.length := by
  induction data generalizing bitBuffer bitsAvailable with
  | nil =>
    have hge : ¬ bitsAvailable < 11 := by
      rw [UInt8.lt_iff_toNat_lt]
      exact Nat.not_lt.mpr (by simpa using h)
    exact ⟨[], bitBuffer, bitsAvailable, if_neg hge, by simpa using h, rfl⟩
  | cons byte data ih =>
    by_cases hlt : bitsAvailable < 11
    · have hlt' : bitsAvailable.toNat < 11 := UInt8.lt_iff_toNat_lt.mp hlt
      have hadd : (bitsAvailable + 8).toNat = bitsAvailable.toNat + 8 := by
        rw [UInt8.toNat_add]
        show (bitsAvailable.toNat + 8) % 256 = _
        omega
      rw [List.length_cons] at h ⊢
      obtain ⟨data', bitBuffer', bits', heq, hbits, hsum⟩ :=
        ih (bitBuffer ||| (byte.toUInt32 <<< bitsAvailable.toUInt32)) (bitsAvailable + 8) (by omega)
      refine ⟨data', bitBuffer', bits', ?_, hbits, by omega⟩
      rw [sbusRefill, if_pos hlt, heq]
    · have hge : 11 ≤ bitsAvailable.toNat := Nat.not_lt.mp fun hn =>
        hlt (UInt8.lt_iff_toNat_lt.mpr hn)
      exact ⟨byte :: data, bitBuffer, bitsAvailable, if_neg hlt, hge, rfl⟩

/-- **Enough bytes always decode.** -/
theorem sbusDecodeFrom_eq_some (count channel : Nat) (data : List UInt8) (bitBuffer : UInt32)
    (bitsAvailable : UInt8) (channels : Vector UInt16 rcMaxChannels)
    (h : 11 * count ≤ bitsAvailable.toNat + 8 * data.length) :
    ∃ channels', sbusDecodeFrom count channel data bitBuffer bitsAvailable channels =
      some channels' := by
  induction count generalizing channel data bitBuffer bitsAvailable channels with
  | zero => exact ⟨channels, rfl⟩
  | succ count ih =>
    obtain ⟨data', bitBuffer', bits', heq, hbits, hsum⟩ :=
      sbusRefill_eq_some data bitBuffer bitsAvailable (by omega)
    have hsub : (bits' - 11).toNat = bits'.toNat - 11 :=
      UInt8.toNat_sub_of_le bits' 11 (UInt8.le_iff_toNat_le.mpr hbits)
    rw [sbusDecodeFrom, heq]
    exact ih _ _ _ _ _ (by omega)

/-! ## The parser -/

namespace SbusProtocolContext

/-- `memset`. -/
def zero : SbusProtocolContext where
  parserState := .waitHeader
  frameBuffer := Vector.replicate _ 0
  framePos := 0
  lastByteTimeMs := 0
  latestFrame := .zero
  frameReady := false
  receivedFrames := 0
  validFrames := 0
  malformedFrames := 0
  timeoutResets := 0

/-- `sbus_parser_reset`. -/
def parserReset (context : SbusProtocolContext) : SbusProtocolContext :=
  { context with parserState := .waitHeader, framePos := 0, lastByteTimeMs := 0 }

/-- `sbus_protocol_reset`. -/
def reset (context : SbusProtocolContext) : SbusProtocolContext :=
  { parserReset context with frameReady := false }

/-- `sbus_protocol_init`. -/
def init : SbusProtocolContext := zero.reset

/-- `sbus_start_frame`. -/
def startFrame (context : SbusProtocolContext) (nowMs : UInt32) : SbusProtocolContext :=
  { context with
    frameBuffer := context.frameBuffer.setIfInBounds 0 sbusHeaderByte
    framePos := 1
    lastByteTimeMs := nowMs
    parserState := .readFrame }

/-- The byte at an index of the buffer. -/
def bufferAt (context : SbusProtocolContext) (i : Nat) : UInt8 :=
  (context.frameBuffer[i]?).getD 0

/-- The part of `sbus_protocol_process_byte` that has 25 bytes in the buffer. -/
def processFrame (context : SbusProtocolContext) (nowMs : UInt32) :
    RadioParseResult × SbusProtocolContext :=
  let context := { context with receivedFrames := context.receivedFrames + 1 }
  let malformed := parserReset { context with malformedFrames := context.malformedFrames + 1 }
  if context.bufferAt sbusFooterIndex ≠ sbusFooterByte then
    -- the byte in the place of the footer may be the next header
    if context.bufferAt sbusFooterIndex = sbusHeaderByte then (.error, startFrame malformed nowMs)
    else (.error, malformed)
  else
    match sbusDecodeChannels ((context.frameBuffer.toList.drop 1).take sbusChannelDataSize) with
    | none => (.error, malformed) -- never: the data has 22 bytes
    | some frame =>
      let flags := context.bufferAt sbusFlagsIndex
      (.frameReady, parserReset { context with
        latestFrame := { frame with
          protocol := .sbus
          frameValid := true
          frameLost := flags &&& sbusFlagFrameLost ≠ 0
          failsafe := flags &&& sbusFlagFailsafe ≠ 0 }
        frameReady := true
        validFrames := context.validFrames + 1 })

def checkInterByteTimeout (context : SbusProtocolContext) (nowMs : UInt32) : SbusProtocolContext :=
  if context.parserState = .readFrame ∧
      sbusInterByteTimeoutMs ≤ nowMs - context.lastByteTimeMs then
    parserReset { context with timeoutResets := context.timeoutResets + 1 }
  else context

/-- `sbus_protocol_process_byte`. -/
def processByte (context : SbusProtocolContext) (byte : UInt8) (nowMs : UInt32) :
    RadioParseResult × SbusProtocolContext :=
  let context := checkInterByteTimeout context nowMs
  if context.parserState = .waitHeader then
    if byte ≠ sbusHeaderByte then (.idle, context)
    else (.inProgress, startFrame context nowMs)
  else if sbusFrameSize ≤ context.framePos then
    (.error, parserReset { context with malformedFrames := context.malformedFrames + 1 })
  else
    let context := { context with
      frameBuffer := context.frameBuffer.setIfInBounds context.framePos.toNat byte
      framePos := context.framePos + 1
      lastByteTimeMs := nowMs }
    if context.framePos < sbusFrameSize then (.inProgress, context)
    else processFrame context nowMs

/-- `sbus_protocol_get_frame`. -/
def getFrame (context : SbusProtocolContext) : Option RcInputFrame × SbusProtocolContext :=
  if ¬ context.frameReady then (none, context)
  else (some context.latestFrame, { context with frameReady := false })

end SbusProtocolContext

/-- The functions that `sbus_protocol_init` installs. -/
def sbusProtocol : RadioProtocol SbusProtocolContext where
  type := .sbus
  reset := SbusProtocolContext.reset
  processByte := SbusProtocolContext.processByte
  getFrame := SbusProtocolContext.getFrame

end RadioConnection
