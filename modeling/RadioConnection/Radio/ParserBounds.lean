import RadioConnection.Lib.CheckedBuffer
import RadioConnection.Radio.Crsf
import RadioConnection.Radio.SbusFrames

/-!
# The buffers of the byte parsers

`crsf_protocol_process_byte` and `sbus_protocol_process_byte` once more, with
every access to the frame buffer and every 8-bit sum checked.  `none` stands
for an access outside the buffer, for a counter that wraps and, for SBUS, for
the two branches that should never be taken.

* `InBounds`: the positions of a parser inside a frame.
* `processByteChecked_eq`: inside these bounds the checks change nothing.
* `parsers_in_bounds`: in every run the bounds hold and no check fails.
-/

namespace RadioConnection

open CheckedBuffer

namespace CrsfProtocolContext

/-! ## CRSF -/

/-- The part of `crsf_protocol_process_byte` that has a whole frame in the buffer. -/
def processFrameChecked (ctx : CrsfProtocolContext) :
    Option (RadioParseResult × CrsfProtocolContext) := do
  let ctx := { ctx with receivedFrames := ctx.receivedFrames + 1 }
  let frameType ← read ctx.frameBuffer 2
  let crcDataLen ← sub ctx.expectedLength 1
  let crcPos ← sub ctx.framePos 1
  let expectedCrc ← read ctx.frameBuffer crcPos.toNat
  let crcData ← span ctx.frameBuffer 2 crcDataLen.toNat
  let calculatedCrc := crsfCrc8DvbS2 crcData.toList
  if calculatedCrc ≠ expectedCrc then
    some (.error, reset { ctx with crcErrors := ctx.crcErrors + 1 })
  else if frameType = crsfFrameTypeParameterPing then
    if ctx.expectedLength ≠ crsfExtendedPingFrameLength then
      some (.error, parserReset { ctx with lengthErrors := ctx.lengthErrors + 1 })
    else do
      let destination ← read ctx.frameBuffer 3
      let origin ← read ctx.frameBuffer 4
      if destination = crsfAddressFlightCtrl ∨ destination = 0 then
        some (.idle, parserReset { ctx with devicePingPending := true, devicePingOrigin := origin })
      else some (.idle, parserReset ctx)
  else if frameType = crsfFrameTypeRcChannelsPacked then do
    let payload ← span ctx.frameBuffer 3 22
    let ctx := { ctx with
      latestFrame := crsfRcFrame payload
      validFrames := ctx.validFrames + 1 }
    some (.frameReady, { reset ctx with frameReady := true })
  else some (.inProgress, reset { ctx with unsupportedFrames := ctx.unsupportedFrames + 1 })

/-- `crsf_protocol_process_byte`. -/
def processByteChecked (ctx : CrsfProtocolContext) (byte : UInt8) :
    Option (RadioParseResult × CrsfProtocolContext) :=
  match ctx.parserState with
  | .waitAddress =>
    if byte = crsfAddressFlightCtrl ∨ byte = crsfAddressCrsfReceiver then do
      let frameBuffer ← write ctx.frameBuffer 0 byte
      some (.inProgress, { ctx with
        frameBuffer := frameBuffer
        framePos := 1
        parserState := .waitLength })
    else some (.inProgress, ctx)
  | .waitLength =>
    if byte < 2 ∨ crsfMaxFrameSize - 2 < byte.toNat then
      some (.error, reset { ctx with lengthErrors := ctx.lengthErrors + 1 })
    else do
      let frameBuffer ← write ctx.frameBuffer 1 byte
      some (.inProgress, { ctx with
        expectedLength := byte
        frameBuffer := frameBuffer
        framePos := 2
        parserState := .readPayload })
  | .readPayload => do
    let frameBuffer ← write ctx.frameBuffer ctx.framePos.toNat byte
    let framePos ← add ctx.framePos 1
    let ctx := { ctx with frameBuffer := frameBuffer, framePos := framePos }
    let frameSize ← add ctx.expectedLength 2
    if frameSize ≤ ctx.framePos then processFrameChecked ctx
    else some (.inProgress, ctx)

/-- The positions inside a frame. -/
structure InBounds (ctx : CrsfProtocolContext) : Prop where
  started : ctx.parserState = .readPayload → 2 ≤ ctx.framePos.toNat
  unfinished : ctx.parserState = .readPayload →
    ctx.framePos.toNat < ctx.expectedLength.toNat + 2
  fits : ctx.parserState = .readPayload → ctx.expectedLength.toNat + 2 ≤ crsfMaxFrameSize
  length : ctx.parserState = .readPayload → ctx.frameBuffer[1] = ctx.expectedLength

variable {ctx : CrsfProtocolContext} {w : List UInt8}

theorem Tracks.inBounds (h : Tracks ctx w) : InBounds ctx := by
  cases h with
  | address hs => constructor <;> (rw [hs]; exact nofun)
  | length a hs => constructor <;> (rw [hs]; exact nofun)
  | payload a l body hs ha hl hbody hlength hpos hb =>
    obtain ⟨hmin, hmax⟩ := hl
    refine ⟨fun _ => ?_, fun _ => ?_, fun _ => ?_, fun _ => ?_⟩
    · omega
    · rw [hlength]
      omega
    · rw [hlength]
      exact Nat.add_le_add_right hmax 2
    · have hbyte := bufferAt_eq hb (show 1 < (a :: l :: body).length by simp)
      rw [hlength]
      exact hbyte

theorem read_frameBuffer (ctx : CrsfProtocolContext) {i : ℕ} (hi : i < 64) :
    read ctx.frameBuffer i = some (ctx.bufferAt i) := by
  rw [read_eq_some _ hi, bufferAt, Vector.getElem?_eq_getElem hi, Option.getD_some]

/-- The payload stays inside the buffer whatever the length of the frame is. -/
theorem span_payload (ctx : CrsfProtocolContext) :
    span ctx.frameBuffer 3 22 = some ctx.payload := by
  rw [span_eq_some ctx.frameBuffer (by decide), payload]
  congr 2
  funext i
  rw [bufferAt, Vector.getElem?_eq_getElem (show 3 + i.val < 64 by omega), Option.getD_some]

theorem span_crcData (ctx : CrsfProtocolContext) (hmin : 1 ≤ ctx.expectedLength.toNat)
    (hmax : ctx.expectedLength.toNat + 2 ≤ 64) :
    ∃ crcData, span ctx.frameBuffer 2 (ctx.expectedLength - 1).toNat = some crcData ∧
      crcData.toList = ctx.crcData := by
  have hlength : (ctx.expectedLength - 1).toNat = ctx.expectedLength.toNat - 1 :=
    UInt8.toNat_sub_of_le _ 1 (UInt8.le_iff_toNat_le.mpr hmin)
  have hfits : 2 + (ctx.expectedLength - 1).toNat ≤ 64 := by omega
  have hspan := span_eq_some ctx.frameBuffer hfits
  refine ⟨_, hspan, ?_⟩
  rw [toList_span hfits hspan, crcData, hlength]

theorem processFrameChecked_eq (hpos : 1 ≤ ctx.framePos.toNat) (hpos' : ctx.framePos.toNat ≤ 64)
    (hmin : 1 ≤ ctx.expectedLength.toNat) (hmax : ctx.expectedLength.toNat + 2 ≤ 64) :
    processFrameChecked ctx = some (processFrame ctx) := by
  have hcrcPos : (ctx.framePos - 1).toNat = ctx.framePos.toNat - 1 :=
    UInt8.toNat_sub_of_le _ 1 (UInt8.le_iff_toNat_le.mpr hpos)
  obtain ⟨crcData, hspan, hcrc⟩ := span_crcData ctx hmin hmax
  have hread : ∀ {i}, i < 64 → read ctx.frameBuffer i = some (ctx.bufferAt i) :=
    read_frameBuffer ctx
  rw [processFrameChecked, processFrame]
  simp only [hread (show 2 < 64 by decide), hread (show 3 < 64 by decide),
    hread (show 4 < 64 by decide), hread (show (ctx.framePos - 1).toNat < 64 by omega),
    sub_eq_some (b := 1) hmin, sub_eq_some (b := 1) hpos, hspan, hcrc, span_payload,
    Option.bind_eq_bind, Option.bind_some]
  -- every access is now the one of `processFrame`
  simp only [apply_ite some]
  rfl

/-- **Inside the bounds no check of a byte fails.** -/
theorem processByteChecked_eq (h : InBounds ctx) (byte : UInt8) :
    processByteChecked ctx byte = some (processByte ctx byte) := by
  cases hs : ctx.parserState with
  | waitAddress =>
    rw [processByteChecked, processByte, hs]
    simp only [write_eq_some ctx.frameBuffer (show 0 < 64 by decide), apply_ite some]
    rfl
  | waitLength =>
    rw [processByteChecked, processByte, hs]
    simp only [write_eq_some ctx.frameBuffer (show 1 < 64 by decide), apply_ite some]
    rfl
  | readPayload =>
    have hmin := h.started hs
    have hend := h.unfinished hs
    have hmax : ctx.expectedLength.toNat + 2 ≤ 64 := h.fits hs
    have hnext : (ctx.framePos + 1).toNat = ctx.framePos.toNat + 1 := by
      rw [UInt8.toNat_add]
      show (ctx.framePos.toNat + 1) % 256 = _
      omega
    have hframe :
        processFrameChecked (ctx.receive byte) = some (processFrame (ctx.receive byte)) := by
      refine processFrameChecked_eq ?_ ?_ ?_ hmax
      · show 1 ≤ (ctx.framePos + 1).toNat
        omega
      · show (ctx.framePos + 1).toNat ≤ 64
        omega
      · show 1 ≤ ctx.expectedLength.toNat
        omega
    have hpos : add ctx.framePos 1 = some (ctx.framePos + 1) :=
      add_eq_some (show ctx.framePos.toNat + 1 < 256 by omega)
    have hsize : add ctx.expectedLength 2 = some (ctx.expectedLength + 2) :=
      add_eq_some (show ctx.expectedLength.toNat + 2 < 256 by omega)
    rw [processByteChecked, processByte, hs]
    simp only [write_eq_some ctx.frameBuffer (show ctx.framePos.toNat < 64 by omega), hpos, hsize,
      Option.bind_eq_bind, Option.bind_some, apply_ite some]
    rw [← hframe, receive, hs]

/-- The context after the bytes; `none` when a check fails. -/
def feedChecked (ctx : CrsfProtocolContext) (bytes : List (UInt8 × UInt32)) :
    Option CrsfProtocolContext :=
  bytes.foldlM (fun ctx b => (processByteChecked ctx b.1).map Prod.snd) ctx

def feedTimed (ctx : CrsfProtocolContext) (bytes : List (UInt8 × UInt32)) : CrsfProtocolContext :=
  bytes.foldl (fun ctx b => (processByte ctx b.1).2) ctx

theorem feedChecked_eq (h : Tracks ctx w) (bytes : List (UInt8 × UInt32)) :
    feedChecked ctx bytes = some (feedTimed ctx bytes) := by
  refine foldlM_eq_some (I := fun ctx => ∃ w, Tracks ctx w) ?_ ⟨w, h⟩ bytes
  intro ctx b ⟨w, h⟩
  rw [processByteChecked_eq h.inBounds]
  exact ⟨rfl, _, processByte_tracks h b.1⟩

end CrsfProtocolContext

namespace SbusProtocolContext

/-! ## SBUS -/

/-- `sbus_start_frame`. -/
def startFrameChecked (context : SbusProtocolContext) (nowMs : UInt32) :
    Option SbusProtocolContext := do
  let frameBuffer ← write context.frameBuffer 0 sbusHeaderByte
  some { context with
    frameBuffer := frameBuffer
    framePos := 1
    lastByteTimeMs := nowMs
    parserState := .readFrame }

/-- The part of `sbus_protocol_process_byte` that has 25 bytes in the buffer. -/
def processFrameChecked (context : SbusProtocolContext) (nowMs : UInt32) :
    Option (RadioParseResult × SbusProtocolContext) := do
  let context := { context with receivedFrames := context.receivedFrames + 1 }
  let malformed := parserReset { context with malformedFrames := context.malformedFrames + 1 }
  let footer ← read context.frameBuffer sbusFooterIndex
  if footer ≠ sbusFooterByte then
    if footer = sbusHeaderByte then do
      let started ← startFrameChecked malformed nowMs
      some (.error, started)
    else some (.error, malformed)
  else do
    let channelData ← span context.frameBuffer 1 sbusChannelDataSize
    match sbusDecodeChannels channelData.toList with
    | none => none -- the branch of the decode failure
    | some frame => do
      let flags ← read context.frameBuffer sbusFlagsIndex
      some (.frameReady, parserReset { context with
        latestFrame := { frame with
          protocol := .sbus
          frameValid := true
          frameLost := flags &&& sbusFlagFrameLost ≠ 0
          failsafe := flags &&& sbusFlagFailsafe ≠ 0 }
        frameReady := true
        validFrames := context.validFrames + 1 })

/-- `sbus_protocol_process_byte`. -/
def processByteChecked (context : SbusProtocolContext) (byte : UInt8) (nowMs : UInt32) :
    Option (RadioParseResult × SbusProtocolContext) :=
  let context := checkInterByteTimeout context nowMs
  if context.parserState = .waitHeader then
    if byte ≠ sbusHeaderByte then some (.idle, context)
    else do
      let started ← startFrameChecked context nowMs
      some (.inProgress, started)
  else if sbusFrameSize ≤ context.framePos then none -- the branch of the overflow
  else do
    let frameBuffer ← write context.frameBuffer context.framePos.toNat byte
    let framePos ← add context.framePos 1
    let context := { context with
      frameBuffer := frameBuffer
      framePos := framePos
      lastByteTimeMs := nowMs }
    if context.framePos < sbusFrameSize then some (.inProgress, context)
    else processFrameChecked context nowMs

/-- The positions inside a frame. -/
structure InBounds (context : SbusProtocolContext) : Prop where
  started : context.parserState = .readFrame → 1 ≤ context.framePos.toNat
  unfinished : context.parserState = .readFrame → context.framePos.toNat ≤ 24
  header : context.parserState = .readFrame → context.frameBuffer[0] = sbusHeaderByte

variable {context : SbusProtocolContext} {part : List TimedByte}

theorem Tracks.inBounds (h : Tracks context part) (hp : FramePart part) : InBounds context := by
  cases h with
  | waitHeader hs => constructor <;> (rw [hs]; exact nofun)
  | readFrame part last hs hpos hb htime =>
    have hlength := hp.length
    rw [List.length_append, List.length_singleton] at hlength
    refine ⟨fun _ => ?_, fun _ => ?_, fun _ => ?_⟩
    · omega
    · omega
    · have hfirst : ∃ first rest, part ++ [last] = first :: rest :=
        List.exists_cons_of_ne_nil (List.concat_ne_nil last part)
      obtain ⟨first, rest, heq⟩ := hfirst
      rw [heq] at hb hp
      have hheader : first.1 = sbusHeaderByte := hp.header first rfl
      have hbyte := congrArg (fun l : List UInt8 => l[0]?) hb
      simp only [List.getElem?_take, Nat.zero_lt_succ, if_pos, List.map_cons] at hbyte
      rw [Vector.getElem?_toList, Vector.getElem?_eq_getElem (by decide)] at hbyte
      exact (Option.some.inj hbyte).trans hheader

theorem startFrameChecked_eq (context : SbusProtocolContext) (nowMs : UInt32) :
    startFrameChecked context nowMs = some (startFrame context nowMs) := by
  rw [startFrameChecked, write_eq_some context.frameBuffer (by decide)]
  rfl

theorem read_frameBuffer (context : SbusProtocolContext) {i : ℕ} (hi : i < 25) :
    read context.frameBuffer i = some (context.bufferAt i) := by
  rw [read_eq_some _ hi, bufferAt, Vector.getElem?_eq_getElem hi, Option.getD_some]

theorem span_channelData (context : SbusProtocolContext) :
    ∃ channelData, span context.frameBuffer 1 sbusChannelDataSize = some channelData ∧
      channelData.toList = (context.frameBuffer.toList.drop 1).take sbusChannelDataSize ∧
      sbusDecodeChannels channelData.toList = some { RcInputFrame.zero with
        channels := sbusChannels channelData.toList
        channelCount := UInt8.ofNat sbusChannelCount } := by
  have hfits : 1 + sbusChannelDataSize ≤ 25 := by decide
  have hspan := span_eq_some context.frameBuffer hfits
  exact ⟨_, hspan, toList_span hfits hspan, sbusDecodeChannels_eq Vector.length_toList⟩

theorem processFrameChecked_eq (context : SbusProtocolContext) (nowMs : UInt32) :
    processFrameChecked context nowMs = some (processFrame context nowMs) := by
  obtain ⟨channelData, hspan, hdata, hdecode⟩ := span_channelData context
  have hread : ∀ {i}, i < 25 → read context.frameBuffer i = some (context.bufferAt i) :=
    read_frameBuffer context
  rw [processFrameChecked, processFrame]
  simp only [hread (show sbusFooterIndex < 25 by decide),
    hread (show sbusFlagsIndex < 25 by decide), hspan, startFrameChecked_eq, ← hdata, hdecode,
    Option.bind_eq_bind, Option.bind_some, apply_ite some]
  rfl

theorem checkInterByteTimeout_inBounds (h : InBounds context) (nowMs : UInt32) :
    InBounds (checkInterByteTimeout context nowMs) := by
  rw [checkInterByteTimeout]
  split_ifs
  · constructor <;> intro hstate <;> cases hstate
  · exact h

/-- **Inside the bounds no check of a byte fails.** -/
theorem processByteChecked_eq (h : InBounds context) (byte : UInt8) (nowMs : UInt32) :
    processByteChecked context byte nowMs = some (processByte context byte nowMs) := by
  have hbounds := checkInterByteTimeout_inBounds h nowMs
  rw [processByteChecked, processByte_eq]
  generalize checkInterByteTimeout context nowMs = context at hbounds
  dsimp only
  by_cases hs : context.parserState = .waitHeader
  · rw [if_pos hs, if_pos hs, startFrameChecked_eq]
    simp only [apply_ite some]
    rfl
  · have hs' : context.parserState = .readFrame := by
      cases hstate : context.parserState with
      | waitHeader => exact absurd hstate hs
      | readFrame => rfl
    have hend := hbounds.unfinished hs'
    have hroom : ¬ sbusFrameSize ≤ context.framePos := by
      rw [UInt8.le_iff_toNat_le]
      show ¬ 25 ≤ context.framePos.toNat
      omega
    have hpos : add context.framePos 1 = some (context.framePos + 1) :=
      add_eq_some (show context.framePos.toNat + 1 < 256 by omega)
    have hlt : context.framePos.toNat < 25 := by omega
    have hwrite := write_eq_some context.frameBuffer hlt byte
    rw [if_neg hs, if_neg hs, if_neg hroom, if_neg hroom, hwrite, hpos]
    simp only [Option.bind_eq_bind, Option.bind_some, processFrameChecked_eq, apply_ite some]
    rfl

/-- The context after the bytes; `none` when a check fails. -/
def feedTimedChecked (context : SbusProtocolContext) (bytes : List TimedByte) :
    Option SbusProtocolContext :=
  bytes.foldlM (fun context b => (processByteChecked context b.1 b.2).map Prod.snd) context

theorem feedTimedChecked_eq (h : Tracks context part) (hp : FramePart part)
    (bytes : List TimedByte) :
    feedTimedChecked context bytes = some (feedTimed context bytes) := by
  refine foldlM_eq_some (I := fun context => ∃ part, Tracks context part ∧ FramePart part) ?_
    ⟨part, h, hp⟩ bytes
  intro context b ⟨part, h, hp⟩
  rw [processByteChecked_eq (h.inBounds hp)]
  exact ⟨rfl, _, (processByte_tracks h hp b.1 b.2).1, hp.advance b⟩

end SbusProtocolContext

/-! ## Every run -/

/-- **The byte parsers never index outside their buffers**, and the branches that they keep for
this are never taken. -/
theorem parsers_in_bounds :
    (∀ {ctx w}, CrsfProtocolContext.Reach ctx w →
      ctx.InBounds ∧ ∀ bytes, ctx.feedChecked bytes = some (ctx.feedTimed bytes)) ∧
      ∀ {context history}, SbusProtocolContext.Reach context history →
        context.InBounds ∧
          ∀ bytes, context.feedTimedChecked bytes = some (context.feedTimed bytes) := by
  constructor
  · intro ctx w h
    exact ⟨h.tracks.inBounds, CrsfProtocolContext.feedChecked_eq h.tracks⟩
  · intro context history h
    obtain ⟨part, htracks, hpart, -⟩ := h.tracks
    exact ⟨htracks.inBounds hpart, SbusProtocolContext.feedTimedChecked_eq htracks hpart⟩

/-- The longest CRSF frame, and an SBUS frame whose footer is the next header. -/
theorem parsers_in_bounds_longest :
    CrsfProtocolContext.init.feedChecked
        (((0xC8, 0) : UInt8 × UInt32) :: List.replicate 63 (62, 1)) =
          some (CrsfProtocolContext.init.feedTimed ((0xC8, 0) :: List.replicate 63 (62, 1))) ∧
      SbusProtocolContext.init.feedTimedChecked (List.replicate 60 (0x0F, 7)) =
        some (SbusProtocolContext.init.feedTimed (List.replicate 60 (0x0F, 7))) :=
  ⟨(parsers_in_bounds.1 .init).2 _, (parsers_in_bounds.2 .init).2 _⟩

end RadioConnection
