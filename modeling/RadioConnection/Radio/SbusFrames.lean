import RadioConnection.Radio.Sbus

/-!
# The frames of the SBUS parser

The parser against the history of the bytes that it has consumed, each with the
time that it was given.

* `sbusDecodeChannels_eq`: the channels are the groups of 11 bits of the data,
  least significant first.
* `Tracks`: the bytes of the frame in progress, as the context holds them.
* `processByte_tracks`: what one byte does to them, and what it returns.
* `frameReady_exactly`: the parser accepts exactly the framed 25 bytes.
-/

namespace RadioConnection

/-! ## The channels of the data -/

/-- The bytes as one number, the first byte least significant. -/
def littleEndian (data : List UInt8) : ℕ := Nat.ofDigits 256 (data.map UInt8.toNat)

/-- The group of 11 bits at place `i`. -/
def channelBits (data : List UInt8) (i : ℕ) : UInt16 :=
  UInt16.ofNat (littleEndian data / 2 ^ (11 * i) % 2 ^ 11)

/-- The bits that are still to be taken out: those of the buffer, then those of the data. -/
def pendingBits (data : List UInt8) (bitBuffer : UInt32) (bitsAvailable : UInt8) : ℕ :=
  bitBuffer.toNat + 2 ^ bitsAvailable.toNat * littleEndian data

theorem toNat_or_shiftLeft_of_lt {bitBuffer : UInt32} {n : UInt8} (x : UInt32)
    (hbuffer : bitBuffer.toNat < 2 ^ n.toNat) (hn : n.toNat < 32)
    (hfits : x.toNat * 2 ^ n.toNat < 2 ^ 32) :
    (bitBuffer ||| (x <<< n.toUInt32)).toNat = 2 ^ n.toNat * x.toNat + bitBuffer.toNat := by
  have hmod : n.toNat % 32 = n.toNat := Nat.mod_eq_of_lt hn
  rw [UInt32.toNat_or, UInt32.toNat_shiftLeft, UInt8.toNat_toUInt32, hmod, Nat.shiftLeft_eq,
    Nat.mod_eq_of_lt hfits, Nat.mul_comm, Nat.or_comm, Nat.two_pow_add_eq_or_of_lt hbuffer]

theorem toNat_or_shiftLeft {bitBuffer : UInt32} {bitsAvailable : UInt8} (byte : UInt8)
    (hbuffer : bitBuffer.toNat < 2 ^ bitsAvailable.toNat) (hbits : bitsAvailable.toNat < 11) :
    (bitBuffer ||| (byte.toUInt32 <<< bitsAvailable.toUInt32)).toNat =
      2 ^ bitsAvailable.toNat * byte.toNat + bitBuffer.toNat := by
  have hbyte : byte.toNat < 2 ^ 8 := byte.toNat_lt
  have hpow : 2 ^ bitsAvailable.toNat ≤ 2 ^ 10 :=
    Nat.pow_le_pow_right (by decide) (by omega)
  refine toNat_or_shiftLeft_of_lt byte.toUInt32 hbuffer (by omega) ?_
  rw [UInt8.toNat_toUInt32]
  calc byte.toNat * 2 ^ bitsAvailable.toNat
      ≤ 2 ^ 8 * 2 ^ 10 := Nat.mul_le_mul hbyte.le hpow
    _ < 2 ^ 32 := by decide

/-- One byte moves from the data to the buffer. -/
theorem pendingBits_or {bitBuffer : UInt32} {bitsAvailable : UInt8} (data : List UInt8)
    (byte : UInt8) (hbuffer : bitBuffer.toNat < 2 ^ bitsAvailable.toNat)
    (hbits : bitsAvailable.toNat < 11) :
    (bitBuffer ||| (byte.toUInt32 <<< bitsAvailable.toUInt32)).toNat <
        2 ^ (bitsAvailable + 8).toNat ∧
      pendingBits data (bitBuffer ||| (byte.toUInt32 <<< bitsAvailable.toUInt32))
          (bitsAvailable + 8) =
        pendingBits (byte :: data) bitBuffer bitsAvailable := by
  have hadd : (bitsAvailable + 8).toNat = bitsAvailable.toNat + 8 := by
    rw [UInt8.toNat_add]
    show (bitsAvailable.toNat + 8) % 256 = _
    omega
  have hvalue := toNat_or_shiftLeft byte hbuffer hbits
  have hpow : 2 ^ (bitsAvailable.toNat + 8) = 2 ^ bitsAvailable.toNat * 256 := pow_add ..
  have hbyte : byte.toNat < 256 := byte.toNat_lt
  constructor
  · rw [hvalue, hadd, hpow]
    nlinarith
  · simp only [pendingBits, littleEndian, List.map_cons, Nat.ofDigits_cons, hvalue, hadd, hpow]
    ring

theorem sbusRefill_pendingBits {data data' : List UInt8} {bitBuffer bitBuffer' : UInt32}
    {bitsAvailable bitsAvailable' : UInt8}
    (h : sbusRefill data bitBuffer bitsAvailable = some (data', bitBuffer', bitsAvailable'))
    (hbuffer : bitBuffer.toNat < 2 ^ bitsAvailable.toNat) :
    11 ≤ bitsAvailable'.toNat ∧ bitBuffer'.toNat < 2 ^ bitsAvailable'.toNat ∧
      pendingBits data' bitBuffer' bitsAvailable' = pendingBits data bitBuffer bitsAvailable := by
  induction data generalizing bitBuffer bitsAvailable with
  | nil =>
    rw [sbusRefill] at h
    split_ifs at h with hlt
    obtain ⟨rfl, rfl, rfl⟩ := h
    exact ⟨Nat.not_lt.mp fun hn => hlt (UInt8.lt_iff_toNat_lt.mpr hn), hbuffer, rfl⟩
  | cons byte data ih =>
    rw [sbusRefill] at h
    split_ifs at h with hlt
    · obtain ⟨hbuffer', hmoved⟩ :=
        pendingBits_or data byte hbuffer (UInt8.lt_iff_toNat_lt.mp hlt)
      obtain ⟨hbits, hbuf, hpending⟩ := ih h hbuffer'
      exact ⟨hbits, hbuf, hpending.trans hmoved⟩
    · obtain ⟨rfl, rfl, rfl⟩ := h
      exact ⟨Nat.not_lt.mp fun hn => hlt (UInt8.lt_iff_toNat_lt.mpr hn), hbuffer, rfl⟩

theorem pendingBits_shiftRight (data : List UInt8) {bitBuffer : UInt32} {bitsAvailable : UInt8}
    (hbits : 11 ≤ bitsAvailable.toNat) (hbuffer : bitBuffer.toNat < 2 ^ bitsAvailable.toNat) :
    (bitBuffer >>> 11).toNat < 2 ^ (bitsAvailable - 11).toNat ∧
      pendingBits data (bitBuffer >>> 11) (bitsAvailable - 11) =
        pendingBits data bitBuffer bitsAvailable / 2 ^ 11 ∧
      (bitBuffer &&& 0x07FF).toUInt16 =
        UInt16.ofNat (pendingBits data bitBuffer bitsAvailable % 2 ^ 11) := by
  have hsub : (bitsAvailable - 11).toNat = bitsAvailable.toNat - 11 :=
    UInt8.toNat_sub_of_le bitsAvailable 11 (UInt8.le_iff_toNat_le.mpr hbits)
  have hshift : (bitBuffer >>> 11).toNat = bitBuffer.toNat / 2 ^ 11 := by
    rw [UInt32.toNat_shiftRight]
    exact Nat.shiftRight_eq_div_pow _ _
  have hpow : 2 ^ bitsAvailable.toNat = 2 ^ 11 * 2 ^ (bitsAvailable.toNat - 11) := by
    rw [← pow_add, Nat.add_sub_cancel' hbits]
  have hpending : pendingBits data bitBuffer bitsAvailable =
      bitBuffer.toNat + 2 ^ 11 * (2 ^ (bitsAvailable.toNat - 11) * littleEndian data) := by
    rw [pendingBits, hpow, Nat.mul_assoc]
  refine ⟨?_, ?_, ?_⟩
  · rw [hshift, hsub]
    exact Nat.div_lt_of_lt_mul (hpow ▸ hbuffer)
  · rw [hpending, Nat.add_mul_div_left _ _ (by decide), pendingBits, hshift, hsub]
  · rw [hpending, Nat.add_mul_mod_self_left]
    apply UInt16.toNat_inj.mp
    rw [UInt32.toNat_toUInt16, UInt32.toNat_and, UInt16.toNat_ofNat']
    exact congrArg (· % 2 ^ 16) (Nat.and_two_pow_sub_one_eq_mod bitBuffer.toNat 11)

/-- The channels that the outer loop stores, and those that it leaves. -/
theorem sbusDecodeFrom_getElem {count channel : ℕ} {data : List UInt8} {bitBuffer : UInt32}
    {bitsAvailable : UInt8} {channels channels' : Vector UInt16 rcMaxChannels}
    (h : sbusDecodeFrom count channel data bitBuffer bitsAvailable channels = some channels')
    (hbuffer : bitBuffer.toNat < 2 ^ bitsAvailable.toNat) (i : ℕ) (hi : i < rcMaxChannels) :
    channels'[i] =
      if channel ≤ i ∧ i < channel + count then
        UInt16.ofNat
          (pendingBits data bitBuffer bitsAvailable / 2 ^ (11 * (i - channel)) % 2 ^ 11)
      else channels[i] := by
  induction count generalizing channel data bitBuffer bitsAvailable channels with
  | zero =>
    obtain rfl := Option.some.inj h
    rw [if_neg (by omega)]
  | succ count ih =>
    rw [sbusDecodeFrom] at h
    cases hrefill : sbusRefill data bitBuffer bitsAvailable with
    | none =>
      rw [hrefill] at h
      cases h
    | some refilled =>
      obtain ⟨data', bitBuffer', bitsAvailable'⟩ := refilled
      rw [hrefill] at h
      obtain ⟨hbits, hbuf, hpending⟩ := sbusRefill_pendingBits hrefill hbuffer
      obtain ⟨hbuf', hrest, hchannel⟩ := pendingBits_shiftRight data' hbits hbuf
      rw [ih h hbuf', hrest, hpending]
      rw [hpending] at hchannel
      by_cases hfirst : i = channel
      · subst hfirst
        rw [if_neg (by omega), if_pos (by omega), Vector.getElem_setIfInBounds_self, hchannel,
          Nat.sub_self, Nat.mul_zero, pow_zero, Nat.div_one]
      · rw [Vector.getElem_setIfInBounds_ne hi (Ne.symm hfirst)]
        by_cases hlater : channel + 1 ≤ i ∧ i < channel + 1 + count
        · have hexp : 11 * (i - channel) = 11 + 11 * (i - (channel + 1)) := by omega
          rw [if_pos hlater, if_pos (by omega), hexp, pow_add, Nat.div_div_eq_div_mul]
        · rw [if_neg hlater, if_neg (by omega)]

def sbusChannels (data : List UInt8) : Vector UInt16 rcMaxChannels :=
  Vector.ofFn fun i => if i.val < sbusChannelCount then channelBits data i else 0

theorem sbusDecodeFrom_start {data : List UInt8} (h : data.length = sbusChannelDataSize) :
    sbusDecodeFrom sbusChannelCount 0 data 0 0 RcInputFrame.zero.channels =
      some (sbusChannels data) := by
  obtain ⟨channels, hchannels⟩ := sbusDecodeFrom_eq_some sbusChannelCount 0 data 0 0
    RcInputFrame.zero.channels (by rw [h]; decide)
  rw [hchannels, Option.some_inj]
  apply Vector.ext
  intro i hi
  have hpending : pendingBits data 0 0 = littleEndian data := by
    rw [pendingBits]
    show 0 + 2 ^ 0 * littleEndian data = _
    rw [pow_zero, Nat.one_mul, Nat.zero_add]
  have hzero : RcInputFrame.zero.channels[i] = 0 := Vector.getElem_replicate hi
  rw [sbusDecodeFrom_getElem hchannels (by decide) i hi, hpending, hzero, sbusChannels,
    Vector.getElem_ofFn]
  simp only [Nat.zero_le, true_and, Nat.zero_add, Nat.sub_zero, channelBits]

/-- **The channels are the groups of 11 bits of the data.** -/
theorem sbusDecodeChannels_eq {data : List UInt8} (h : data.length = sbusChannelDataSize) :
    sbusDecodeChannels data = some { RcInputFrame.zero with
      channels := sbusChannels data
      channelCount := UInt8.ofNat sbusChannelCount } := by
  rw [sbusDecodeChannels, if_neg (not_not.mpr h), sbusDecodeFrom_start h]
  rfl

/-- The frame that the data and the flags decode to. -/
def sbusFrame (data : List UInt8) (flags : UInt8) : RcInputFrame :=
  { RcInputFrame.zero with
    channels := sbusChannels data
    channelCount := UInt8.ofNat sbusChannelCount
    protocol := .sbus
    frameValid := true
    frameLost := flags.toNat.testBit 2
    failsafe := flags.toNat.testBit 3 }

theorem flag_eq_testBit (flags mask : UInt8) (i : ℕ) (hmask : mask.toNat = 2 ^ i) :
    decide (flags &&& mask ≠ 0) = flags.toNat.testBit i := by
  have hand : (flags &&& mask).toNat = (flags.toNat.testBit i).toNat * 2 ^ i := by
    rw [UInt8.toNat_and, hmask, Nat.and_two_pow]
  cases hbit : flags.toNat.testBit i with
  | false =>
    rw [hbit, Bool.toNat_false, Nat.zero_mul] at hand
    exact decide_eq_false (not_not.mpr (UInt8.toNat_inj.mp hand))
  | true =>
    rw [hbit, Bool.toNat_true, Nat.one_mul] at hand
    refine decide_eq_true fun hzero => ?_
    rw [hzero] at hand
    exact absurd hand.symm (Nat.two_pow_pos i).ne'

namespace SbusProtocolContext

/-! ## The bytes of the frame in progress -/

/-- A byte, and the clock of the call that takes it. -/
abbrev TimedByte := UInt8 × UInt32

/-- The time-out has passed since the last byte of the part. -/
def Late (part : List TimedByte) (nowMs : UInt32) : Prop :=
  ∃ last ∈ part.getLast?, sbusInterByteTimeoutMs ≤ nowMs - last.2

instance (part : List TimedByte) (nowMs : UInt32) : Decidable (Late part nowMs) :=
  inferInstanceAs (Decidable (∃ last ∈ part.getLast?, _))

/-- The part of a frame that the time-out leaves. -/
def fresh (part : List TimedByte) (nowMs : UInt32) : List TimedByte :=
  if Late part nowMs then [] else part

/-- The part of a frame after one more byte. -/
def advance (part : List TimedByte) (b : TimedByte) : List TimedByte :=
  if fresh part b.2 ≠ [] ∧ (fresh part b.2).length < 24 then fresh part b.2 ++ [b]
  else if b.1 = sbusHeaderByte then [b]
  else []

def resultOf (part : List TimedByte) (b : TimedByte) : RadioParseResult :=
  if fresh part b.2 = [] then (if b.1 = sbusHeaderByte then .inProgress else .idle)
  else if (fresh part b.2).length < 24 then .inProgress
  else if b.1 = sbusFooterByte then .frameReady
  else .error

structure FramePart (part : List TimedByte) : Prop where
  length : part.length ≤ 24
  header : ∀ first ∈ part.head?, first.1 = sbusHeaderByte
  gaps : part.IsChain fun b b' => b'.2 - b.2 < sbusInterByteTimeoutMs

/-- `part` is the part of a frame that the context holds. -/
inductive Tracks (context : SbusProtocolContext) : List TimedByte → Prop
  | waitHeader (hs : context.parserState = .waitHeader) : Tracks context []
  | readFrame (part : List TimedByte) (last : TimedByte) (hs : context.parserState = .readFrame)
      (hpos : context.framePos.toNat = part.length + 1)
      (hb : context.frameBuffer.toList.take (part.length + 1) = (part ++ [last]).map Prod.fst)
      (htime : context.lastByteTimeMs = last.2) : Tracks context (part ++ [last])

variable {context : SbusProtocolContext} {part : List TimedByte}

theorem late_append (part : List TimedByte) (last : TimedByte) (nowMs : UInt32) :
    Late (part ++ [last]) nowMs ↔ sbusInterByteTimeoutMs ≤ nowMs - last.2 := by
  unfold Late
  rw [List.getLast?_concat]
  exact ⟨fun ⟨_, hlast, h⟩ => Option.some.inj hlast ▸ h, fun h => ⟨last, rfl, h⟩⟩

theorem framePart_nil : FramePart [] := ⟨by decide, nofun, .nil⟩

theorem FramePart.fresh (h : FramePart part) (nowMs : UInt32) : FramePart (fresh part nowMs) := by
  unfold SbusProtocolContext.fresh
  split_ifs
  · exact framePart_nil
  · exact h

theorem not_late_fresh (part : List TimedByte) (nowMs : UInt32) :
    ∀ last ∈ (fresh part nowMs).getLast?, nowMs - last.2 < sbusInterByteTimeoutMs := by
  unfold fresh
  intro last hlast
  split_ifs at hlast with hlate
  · nomatch hlast
  · exact UInt32.not_le.mp fun hle => hlate ⟨last, hlast, hle⟩

theorem FramePart.advance (h : FramePart part) (b : TimedByte) : FramePart (advance part b) := by
  unfold SbusProtocolContext.advance
  split_ifs with hshort hheader
  · have hfresh := h.fresh b.2
    refine ⟨?_, ?_, ?_⟩
    · rw [List.length_append]
      exact hshort.2
    · rw [List.head?_append_of_ne_nil _ hshort.1]
      exact hfresh.header
    · refine hfresh.gaps.append (.singleton b) ?_
      intro last hlast first hfirst
      obtain rfl := Option.some.inj hfirst
      exact not_late_fresh part b.2 last hlast
  · exact ⟨by simp, fun first hfirst => Option.some.inj hfirst ▸ hheader, .singleton b⟩
  · exact framePart_nil

/-! ## One byte -/

theorem take_setIfInBounds (buffer : Vector UInt8 25) {n : ℕ} (hn : n < 25) (byte : UInt8) :
    (buffer.setIfInBounds n byte).toList.take (n + 1) = buffer.toList.take n ++ [byte] := by
  rw [Vector.toList_setIfInBounds, List.take_succ_eq_append_getElem (by simpa using hn),
    List.take_set_of_le (le_refl n)]
  simp

theorem checkInterByteTimeout_tracks (h : Tracks context part) (nowMs : UInt32) :
    Tracks (checkInterByteTimeout context nowMs) (fresh part nowMs) := by
  cases h with
  | waitHeader hs =>
    have hstate : ¬ (context.parserState = .readFrame ∧
        sbusInterByteTimeoutMs ≤ nowMs - context.lastByteTimeMs) := by
      rw [hs]
      exact fun h => nomatch h.1
    rw [checkInterByteTimeout, if_neg hstate, fresh, if_neg (fun ⟨_, hlast, _⟩ => nomatch hlast)]
    exact .waitHeader hs
  | readFrame part last hs hpos hb htime =>
    rw [checkInterByteTimeout, fresh, htime]
    by_cases hlate : sbusInterByteTimeoutMs ≤ nowMs - last.2
    · rw [if_pos ⟨hs, hlate⟩, if_pos ((late_append part last nowMs).mpr hlate)]
      exact .waitHeader rfl
    · rw [if_neg (fun h => hlate h.2), if_neg ((late_append part last nowMs).not.mpr hlate)]
      exact .readFrame part last hs hpos hb htime

theorem startFrame_tracks (context : SbusProtocolContext) {byte : UInt8} (nowMs : UInt32)
    (hbyte : byte = sbusHeaderByte) : Tracks (startFrame context nowMs) [(byte, nowMs)] := by
  subst hbyte
  exact .readFrame [] _ rfl rfl (take_setIfInBounds context.frameBuffer (by decide) _) rfl

def receive (context : SbusProtocolContext) (byte : UInt8) (nowMs : UInt32) :
    SbusProtocolContext :=
  { context with
    frameBuffer := context.frameBuffer.setIfInBounds context.framePos.toNat byte
    framePos := context.framePos + 1
    lastByteTimeMs := nowMs }

theorem processByte_eq (context : SbusProtocolContext) (byte : UInt8) (nowMs : UInt32) :
    processByte context byte nowMs =
      let context := checkInterByteTimeout context nowMs
      if context.parserState = .waitHeader then
        if byte ≠ sbusHeaderByte then (.idle, context)
        else (.inProgress, startFrame context nowMs)
      else if sbusFrameSize ≤ context.framePos then
        (.error, parserReset { context with malformedFrames := context.malformedFrames + 1 })
      else if context.framePos + 1 < sbusFrameSize then (.inProgress, receive context byte nowMs)
      else processFrame (receive context byte nowMs) nowMs := rfl

theorem processByte_readFrame {last : TimedByte} {nowMs : UInt32} (byte : UInt8)
    (h : Tracks (checkInterByteTimeout context nowMs) (part ++ [last])) (hlength : part.length < 24) :
    processByte context byte nowMs =
      if part.length < 23 then
        (.inProgress, receive (checkInterByteTimeout context nowMs) byte nowMs)
      else processFrame (receive (checkInterByteTimeout context nowMs) byte nowMs) nowMs := by
  rw [processByte_eq]
  generalize checkInterByteTimeout context nowMs = context at h
  dsimp only
  generalize hwhole : part ++ [last] = whole at h
  cases h with
  | waitHeader => simp at hwhole
  | readFrame part' last' hs hpos hb htime =>
    obtain ⟨rfl, -⟩ := List.append_inj' hwhole rfl
    have hroom : ¬ sbusFrameSize ≤ context.framePos := by
      rw [UInt8.le_iff_toNat_le, hpos]
      show ¬ 25 ≤ part.length + 1
      omega
    have hmore : context.framePos + 1 < sbusFrameSize ↔ part.length < 23 := by
      rw [UInt8.lt_iff_toNat_lt, UInt8.toNat_add, hpos]
      show (part.length + 1 + 1) % 256 < 25 ↔ _
      omega
    rw [hs, if_neg nofun, if_neg hroom]
    exact if_congr hmore rfl rfl

theorem receive_tracks {last : TimedByte} (byte : UInt8) (nowMs : UInt32)
    (h : Tracks context (part ++ [last])) (hlength : part.length < 24) :
    Tracks (receive context byte nowMs) (part ++ [last] ++ [(byte, nowMs)]) := by
  generalize hwhole : part ++ [last] = whole at h
  cases h with
  | waitHeader => simp at hwhole
  | readFrame part' last' hs hpos hb htime =>
    obtain ⟨rfl, -⟩ := List.append_inj' hwhole rfl
    have hlen : (part ++ [last']).length = part.length + 1 := List.length_append
    refine .readFrame _ _ hs ?_ ?_ rfl
    · show (context.framePos + 1).toNat = _
      rw [UInt8.toNat_add, hpos, hlen]
      show (part.length + 1 + 1) % 256 = _
      omega
    · show (context.frameBuffer.setIfInBounds context.framePos.toNat byte).toList.take _ = _
      rw [hlen, hpos, take_setIfInBounds _ (by omega), hb]
      simp only [List.map_append, List.map_cons, List.map_nil]

/-! ## The last byte of a frame -/

theorem bufferAt_eq_toList (context : SbusProtocolContext) (i : ℕ) :
    context.bufferAt i = (context.frameBuffer.toList[i]?).getD 0 := by
  rw [bufferAt, Vector.getElem?_toList]

theorem processFrame_eq {data : List UInt8} {flags footer : UInt8} (nowMs : UInt32)
    (hb : context.frameBuffer.toList = sbusHeaderByte :: (data ++ [flags, footer]))
    (hdata : data.length = sbusChannelDataSize) :
    processFrame context nowMs =
      let context := { context with receivedFrames := context.receivedFrames + 1 }
      let malformed := parserReset { context with malformedFrames := context.malformedFrames + 1 }
      if footer = sbusFooterByte then
        (.frameReady, parserReset { context with
          latestFrame := sbusFrame data flags
          frameReady := true
          validFrames := context.validFrames + 1 })
      else if footer = sbusHeaderByte then (.error, startFrame malformed nowMs)
      else (.error, malformed) := by
  have hflags : context.bufferAt sbusFlagsIndex = flags := by
    rw [bufferAt_eq_toList, hb]
    show ((data ++ [flags, footer])[22]?).getD 0 = flags
    rw [← show data.length = 22 from hdata, List.getElem?_append_right le_rfl, Nat.sub_self]
    rfl
  have hfooter : context.bufferAt sbusFooterIndex = footer := by
    rw [bufferAt_eq_toList, hb]
    show ((data ++ [flags, footer])[23]?).getD 0 = footer
    rw [← show data.length + 1 = 23 from congrArg (· + 1) hdata,
      List.getElem?_append_right (Nat.le_succ _), Nat.succ_sub le_rfl, Nat.sub_self]
    rfl
  have htake : (context.frameBuffer.toList.drop 1).take sbusChannelDataSize = data := by
    rw [hb]
    exact List.take_left' hdata
  have hlost : decide (flags &&& sbusFlagFrameLost ≠ 0) = flags.toNat.testBit 2 :=
    flag_eq_testBit flags sbusFlagFrameLost 2 rfl
  have hfailsafe : decide (flags &&& sbusFlagFailsafe ≠ 0) = flags.toNat.testBit 3 :=
    flag_eq_testBit flags sbusFlagFailsafe 3 rfl
  unfold processFrame
  dsimp only
  have hflags' : ∀ n, bufferAt { context with receivedFrames := n } sbusFlagsIndex = flags :=
    fun _ => hflags
  have hfooter' : ∀ n, bufferAt { context with receivedFrames := n } sbusFooterIndex = footer :=
    fun _ => hfooter
  rw [hflags', hfooter', htake, sbusDecodeChannels_eq hdata]
  by_cases hzero : footer = sbusFooterByte
  · rw [if_neg (not_not.mpr hzero), if_pos hzero]
    dsimp only
    rw [hlost, hfailsafe]
    rfl
  · rw [if_pos hzero, if_neg hzero]

theorem FramePart.split (h : FramePart part) (hlength : part.length = 24) :
    ∃ data flags, data.length = sbusChannelDataSize ∧
      part.map Prod.fst = sbusHeaderByte :: (data ++ [flags]) := by
  cases part with
  | nil => nomatch hlength
  | cons first rest =>
    have hrest : rest.length = 23 := Nat.succ.inj hlength
    obtain rfl | ⟨data, flags, rfl⟩ := List.eq_nil_or_concat' rest
    · nomatch hrest
    refine ⟨data.map Prod.fst, flags.1, ?_, ?_⟩
    · rw [List.length_append] at hrest
      rw [List.length_map]
      exact Nat.succ.inj hrest
    · rw [List.map_cons, List.map_append, h.header first rfl]
      rfl

theorem processByte_last {last : TimedByte} (byte : UInt8) (nowMs : UInt32)
    (h : Tracks (checkInterByteTimeout context nowMs) (part ++ [last]))
    (hp : FramePart (part ++ [last])) (hlength : part.length = 23) :
    ∃ data flags, data.length = sbusChannelDataSize ∧
      (part ++ [last]).map Prod.fst = sbusHeaderByte :: (data ++ [flags]) ∧
      processByte context byte nowMs =
        let context := receive (checkInterByteTimeout context nowMs) byte nowMs
        let context := { context with receivedFrames := context.receivedFrames + 1 }
        let malformed := parserReset { context with malformedFrames := context.malformedFrames + 1 }
        if byte = sbusFooterByte then
          (.frameReady, parserReset { context with
            latestFrame := sbusFrame data flags
            frameReady := true
            validFrames := context.validFrames + 1 })
        else if byte = sbusHeaderByte then (.error, startFrame malformed nowMs)
        else (.error, malformed) := by
  have hwhole : (part ++ [last]).length = 24 := by rw [List.length_append, hlength]; rfl
  obtain ⟨data, flags, hdata, hbytes⟩ := hp.split hwhole
  refine ⟨data, flags, hdata, hbytes, ?_⟩
  rw [processByte_readFrame byte h (by omega), if_neg (by omega)]
  refine processFrame_eq nowMs ?_ hdata
  have hreceived := receive_tracks byte nowMs h (by omega)
  generalize hframe : part ++ [last] ++ [(byte, nowMs)] = frame at hreceived
  cases hreceived with
  | waitHeader => simp at hframe
  | readFrame part' last' hs hpos hb htime =>
    obtain ⟨rfl, -⟩ := List.append_inj' hframe rfl
    have hall : (receive (checkInterByteTimeout context nowMs) byte nowMs).frameBuffer.toList.length
        ≤ (part ++ [last]).length + 1 := by
      rw [hwhole, Vector.length_toList]
    rw [List.take_of_length_le hall, ← hframe, List.map_append, hbytes] at hb
    rw [hb]
    simp

/-- **One byte moves the part of the frame**, and its result depends on the part alone. -/
theorem processByte_tracks (h : Tracks context part) (hp : FramePart part) (byte : UInt8)
    (nowMs : UInt32) :
    Tracks (processByte context byte nowMs).2 (advance part (byte, nowMs)) ∧
      (processByte context byte nowMs).1 = resultOf part (byte, nowMs) := by
  have hchecked := checkInterByteTimeout_tracks h nowMs
  have hfresh := hp.fresh nowMs
  unfold advance resultOf
  dsimp only
  rcases List.eq_nil_or_concat' (fresh part nowMs) with hnil | ⟨rest, last, hlast⟩
  · rw [hnil] at hchecked ⊢
    have hs : (checkInterByteTimeout context nowMs).parserState = .waitHeader := by
      generalize checkInterByteTimeout context nowMs = checked at hchecked
      generalize hempty : ([] : List TimedByte) = empty at hchecked
      cases hchecked with
      | waitHeader hs => exact hs
      | readFrame => simp at hempty
    have hempty : ¬ (([] : List TimedByte) ≠ [] ∧ ([] : List TimedByte).length < 24) :=
      fun h => h.1 rfl
    rw [processByte_eq]
    dsimp only
    rw [hs, if_pos rfl, if_neg hempty, if_pos rfl]
    by_cases hheader : byte = sbusHeaderByte
    · rw [if_neg (not_not.mpr hheader), if_pos hheader, if_pos hheader]
      exact ⟨startFrame_tracks _ nowMs hheader, rfl⟩
    · rw [if_pos hheader, if_neg hheader, if_neg hheader]
      exact ⟨.waitHeader hs, rfl⟩
  · rw [hlast] at hchecked hfresh ⊢
    have hne : rest ++ [last] ≠ [] := by simp
    have hlen : (rest ++ [last]).length = rest.length + 1 := List.length_append
    have hmax := hfresh.length
    rw [if_neg hne]
    by_cases hshort : (rest ++ [last]).length < 24
    · rw [if_pos ⟨hne, hshort⟩, if_pos hshort,
        processByte_readFrame byte hchecked (by omega), if_pos (by omega)]
      exact ⟨receive_tracks byte nowMs hchecked (by omega), rfl⟩
    · obtain ⟨data, flags, hdata, hbytes, heq⟩ :=
        processByte_last byte nowMs hchecked hfresh (by omega)
      rw [if_neg (fun h => hshort h.2), if_neg hshort, heq]
      dsimp only
      by_cases hzero : byte = sbusFooterByte
      · rw [if_pos hzero, if_neg (by rw [hzero]; decide), if_pos hzero]
        exact ⟨.waitHeader rfl, rfl⟩
      · rw [if_neg hzero, if_neg hzero]
        by_cases hheader : byte = sbusHeaderByte
        · rw [if_pos hheader, if_pos hheader]
          exact ⟨startFrame_tracks _ nowMs hheader, rfl⟩
        · rw [if_neg hheader, if_neg hheader]
          exact ⟨.waitHeader rfl, rfl⟩

/-! ## Runs of bytes -/

def results (context : SbusProtocolContext) : List TimedByte → List RadioParseResult
  | [] => []
  | b :: bytes =>
    (processByte context b.1 b.2).1 :: results (processByte context b.1 b.2).2 bytes

def feedTimed (context : SbusProtocolContext) (bytes : List TimedByte) : SbusProtocolContext :=
  bytes.foldl (fun context b => (processByte context b.1 b.2).2) context

/-- What the parts say about the results. -/
def outcomes (part : List TimedByte) : List TimedByte → List RadioParseResult
  | [] => []
  | b :: bytes => resultOf part b :: outcomes (advance part b) bytes

/-- **The parts simulate the parser.** -/
theorem results_eq_outcomes (h : Tracks context part) (hp : FramePart part)
    (bytes : List TimedByte) :
    Tracks (feedTimed context bytes) (bytes.foldl advance part) ∧
      results context bytes = outcomes part bytes := by
  induction bytes generalizing context part with
  | nil => exact ⟨h, rfl⟩
  | cons b bytes ih =>
    obtain ⟨htracks, hresult⟩ := processByte_tracks h hp b.1 b.2
    obtain ⟨hall, hresults⟩ := ih htracks (hp.advance b)
    exact ⟨hall, by rw [results, outcomes, hresult, hresults]⟩

theorem outcomes_append (part bytes bytes' : List TimedByte) :
    outcomes part (bytes ++ bytes') =
      outcomes part bytes ++ outcomes (bytes.foldl advance part) bytes' := by
  induction bytes generalizing part with
  | nil => rfl
  | cons b bytes ih => exact congrArg (resultOf part b :: ·) (ih (advance part b))

/-- A context, and the bytes that it has consumed since the initialisation. -/
inductive Reach : SbusProtocolContext → List TimedByte → Prop
  | init : Reach .init []
  | processByte {context : SbusProtocolContext} {history : List TimedByte} (byte : UInt8)
      (nowMs : UInt32) (h : Reach context history) :
      Reach (processByte context byte nowMs).2 (history ++ [(byte, nowMs)])
  | getFrame {context : SbusProtocolContext} {history : List TimedByte}
      (h : Reach context history) : Reach (getFrame context).2 history
  | reset {context : SbusProtocolContext} {history : List TimedByte}
      (h : Reach context history) : Reach context.reset history

theorem advance_suffix (part : List TimedByte) (b : TimedByte) :
    advance part b <:+ part ++ [b] := by
  unfold advance
  have hfresh : fresh part b.2 <:+ part := by
    unfold fresh
    split_ifs
    · exact List.nil_suffix
    · exact List.suffix_rfl
  split_ifs
  · obtain ⟨dropped, hdropped⟩ := hfresh
    exact ⟨dropped, by rw [← List.append_assoc, hdropped]⟩
  · exact List.suffix_append part [b]
  · exact List.nil_suffix

theorem foldl_advance_suffix (bytes part : List TimedByte) :
    bytes.foldl advance part <:+ part ++ bytes := by
  induction bytes generalizing part with
  | nil => rw [List.append_nil]; exact List.suffix_rfl
  | cons b bytes ih =>
    obtain ⟨dropped, hdropped⟩ := advance_suffix part b
    refine (ih (advance part b)).trans ⟨dropped, ?_⟩
    rw [← List.append_assoc, hdropped, List.append_assoc, List.singleton_append]

theorem FramePart.foldl (h : FramePart part) (bytes : List TimedByte) :
    FramePart (bytes.foldl SbusProtocolContext.advance part) := by
  induction bytes generalizing part with
  | nil => exact h
  | cons b bytes ih => exact ih (h.advance b)

theorem getFrame_tracks (h : Tracks context part) : Tracks (getFrame context).2 part := by
  unfold getFrame
  split_ifs
  · cases h with
    | waitHeader hs => exact .waitHeader hs
    | readFrame part last hs hpos hb htime => exact .readFrame part last hs hpos hb htime
  · exact h

/-- **A reachable context holds the end of its history.** -/
theorem Reach.tracks {history : List TimedByte} (h : Reach context history) :
    ∃ part, Tracks context part ∧ FramePart part ∧ part <:+ history := by
  induction h with
  | init => exact ⟨[], .waitHeader rfl, framePart_nil, List.nil_suffix⟩
  | processByte byte nowMs _ ih =>
    obtain ⟨part, htracks, hpart, hsuffix⟩ := ih
    refine ⟨advance part (byte, nowMs), (processByte_tracks htracks hpart byte nowMs).1,
      hpart.advance _, (advance_suffix part _).trans ?_⟩
    obtain ⟨earlier, rfl⟩ := hsuffix
    exact ⟨earlier, (List.append_assoc ..).symm⟩
  | getFrame _ ih =>
    obtain ⟨part, htracks, hpart, hsuffix⟩ := ih
    exact ⟨part, getFrame_tracks htracks, hpart, hsuffix⟩
  | reset _ _ => exact ⟨[], .waitHeader rfl, framePart_nil, List.nil_suffix⟩

/-! ## Frames -/

/-- A whole frame: header, data, flags and footer, without a pause of the time-out. -/
structure IsFrame (frame : List TimedByte) (data : List UInt8) (flags : UInt8) : Prop where
  bytes : frame.map Prod.fst = sbusHeaderByte :: (data ++ [flags, sbusFooterByte])
  data : data.length = sbusChannelDataSize
  gaps : frame.IsChain fun b b' => b'.2 - b.2 < sbusInterByteTimeoutMs

theorem IsFrame.length_eq {frame : List TimedByte} {data : List UInt8} {flags : UInt8}
    (h : IsFrame frame data flags) : frame.length = 25 := by
  rw [← List.length_map Prod.fst, h.bytes, List.length_cons, List.length_append, h.data]
  rfl

theorem IsFrame.eq_of_bytes {frame : List TimedByte} {data data' : List UInt8}
    {flags flags' : UInt8} (h : IsFrame frame data flags)
    (hbytes : frame.map Prod.fst = sbusHeaderByte :: (data' ++ [flags', sbusFooterByte])) :
    data = data' ∧ flags = flags' := by
  have hrest := (List.cons.inj (h.bytes.symm.trans hbytes)).2
  obtain ⟨hdata, hlast⟩ := List.append_inj' hrest rfl
  exact ⟨hdata, (List.cons.inj hlast).1⟩

theorem frame_of_ready {byte : UInt8} {nowMs : UInt32} (h : Tracks context part)
    (hp : FramePart part) (hready : (processByte context byte nowMs).1 = .frameReady) :
    ∃ frame data flags, frame <:+ part ++ [(byte, nowMs)] ∧ IsFrame frame data flags ∧
      (getFrame (processByte context byte nowMs).2).1 = some (sbusFrame data flags) := by
  have hchecked := checkInterByteTimeout_tracks h nowMs
  have hfresh := hp.fresh nowMs
  have hresult := (processByte_tracks h hp byte nowMs).2
  rw [hready] at hresult
  unfold resultOf at hresult
  dsimp only at hresult
  split_ifs at hresult with hnil hheader hshort hzero
  have hlength : (fresh part nowMs).length = 24 := by
    have := hfresh.length
    omega
  obtain hempty | ⟨rest, last, hlast⟩ := List.eq_nil_or_concat' (fresh part nowMs)
  · exact absurd hempty hnil
  · rw [hlast] at hchecked
    have hrest : rest.length = 23 := by
      rw [hlast, List.length_append] at hlength
      exact Nat.succ.inj hlength
    obtain ⟨data, flags, hdata, hbytes, heq⟩ :=
      processByte_last byte nowMs hchecked (hlast ▸ hfresh) hrest
    refine ⟨fresh part nowMs ++ [(byte, nowMs)], data, flags, ?_, ⟨?_, hdata, ?_⟩, ?_⟩
    · unfold fresh
      split_ifs
      · exact List.suffix_append part _
      · exact List.suffix_rfl
    · rw [List.map_append, hlast, hbytes, hzero]
      simp
    · refine hfresh.gaps.append (.singleton _) ?_
      intro last hlast first hfirst
      obtain rfl := Option.some.inj hfirst
      exact not_late_fresh part nowMs last hlast
    · rw [heq]
      dsimp only
      rw [if_pos hzero]
      rfl

theorem fresh_of_gaps {b : TimedByte} {bytes : List TimedByte}
    (h : (part ++ b :: bytes).IsChain fun b b' => b'.2 - b.2 < sbusInterByteTimeoutMs) :
    fresh part b.2 = part := by
  refine if_neg fun ⟨last, hlast, hlate⟩ => ?_
  have hgap := (List.isChain_append.mp h).2.2 last hlast b rfl
  exact absurd hlate (UInt32.not_le.mpr hgap)

theorem outcomes_middle {bytes : List TimedByte} (hne : part ≠ [])
    (hlength : (part ++ bytes).length ≤ 24)
    (hgaps : (part ++ bytes).IsChain fun b b' => b'.2 - b.2 < sbusInterByteTimeoutMs) :
    outcomes part bytes = List.replicate bytes.length .inProgress ∧
      bytes.foldl advance part = part ++ bytes := by
  induction bytes generalizing part with
  | nil => exact ⟨rfl, (List.append_nil part).symm⟩
  | cons b bytes ih =>
    have hfresh := fresh_of_gaps hgaps
    have hshort : part.length < 24 := by
      rw [List.length_append, List.length_cons] at hlength
      omega
    have hadvance : advance part b = part ++ [b] := by
      rw [advance, hfresh, if_pos ⟨hne, hshort⟩]
    have hresult : resultOf part b = .inProgress := by
      rw [resultOf, hfresh, if_neg hne, if_pos hshort]
    have hassoc : part ++ b :: bytes = part ++ [b] ++ bytes := by simp
    rw [hassoc] at hlength hgaps
    obtain ⟨hresults, hparts⟩ := ih (by simp) hlength hgaps
    constructor
    · rw [outcomes, hresult, hadvance, hresults, List.length_cons, List.replicate_succ]
    · rw [List.foldl_cons, hadvance, hparts, hassoc]

theorem outcomes_frame {frame : List TimedByte} {data : List UInt8} {flags : UInt8}
    (h : IsFrame frame data flags) (hfresh : ∀ first ∈ frame.head?, fresh part first.2 = []) :
    outcomes part frame = List.replicate 24 .inProgress ++ [.frameReady] ∧
      frame.foldl advance part = [] := by
  have hlength := h.length_eq
  obtain ⟨bytes, last, rfl⟩ : ∃ bytes last, frame = bytes ++ [last] := by
    obtain rfl | hconcat := List.eq_nil_or_concat' frame
    · nomatch hlength
    · exact hconcat
  have hbytes : bytes.length = 24 := by
    rw [List.length_append] at hlength
    exact Nat.succ.inj hlength
  cases bytes with
  | nil => nomatch hbytes
  | cons first middle =>
    have hmiddle : middle.length = 23 := Nat.succ.inj hbytes
    have hassoc : first :: middle ++ [last] = [first] ++ (middle ++ [last]) := rfl
    have hfirst : first.1 = sbusHeaderByte := (List.cons.inj h.bytes).1
    have hlast : last.1 = sbusFooterByte := by
      have hsplit : (first :: middle).map Prod.fst ++ [last.1] =
          sbusHeaderByte :: (data ++ [flags]) ++ [sbusFooterByte] := by
        simpa using h.bytes
      exact List.singleton_inj.mp (List.append_inj' hsplit rfl).2
    have hempty : fresh part first.2 = [] := hfresh first rfl
    have hnone : ¬ (([] : List TimedByte) ≠ [] ∧ ([] : List TimedByte).length < 24) :=
      fun h => h.1 rfl
    have hbegin : advance part first = [first] := by
      rw [advance, hempty, if_neg hnone, if_pos hfirst]
    have hstart : resultOf part first = .inProgress := by
      rw [resultOf, hempty, if_pos rfl, if_pos hfirst]
    have hgaps : ([first] ++ middle).IsChain fun b b' => b'.2 - b.2 < sbusInterByteTimeoutMs :=
      (List.isChain_append.mp h.gaps).1
    obtain ⟨hresults, hparts⟩ := outcomes_middle (by simp) (by simp [hmiddle]) hgaps
    have hwhole : fresh ([first] ++ middle) last.2 = [first] ++ middle := fresh_of_gaps h.gaps
    have hfull : ¬ ([first] ++ middle).length < 24 := by simp [hmiddle]
    have hheader : ¬ last.1 = sbusHeaderByte := by
      rw [hlast]
      decide
    constructor
    · rw [hassoc, List.singleton_append, outcomes, hstart, hbegin, outcomes_append, hresults,
        hparts, outcomes, resultOf, hwhole, if_neg (by simp), if_neg hfull, if_pos hlast, hmiddle]
      rfl
    · rw [hassoc, List.singleton_append, List.foldl_cons, hbegin, List.foldl_append, hparts,
        List.foldl_cons, List.foldl_nil, advance, hwhole, if_neg (fun h => hfull h.2),
        if_neg hheader]

/-- **The parser accepts exactly the framed 25 bytes.** -/
theorem frameReady_exactly {context : SbusProtocolContext} {history : List TimedByte}
    (h : Reach context history) :
    (∀ byte nowMs, (processByte context byte nowMs).1 = .frameReady →
      ∃ frame data flags, frame <:+ history ++ [(byte, nowMs)] ∧ IsFrame frame data flags ∧
        (getFrame (processByte context byte nowMs).2).1 = some (sbusFrame data flags)) ∧
      ∀ frame data flags, IsFrame frame data flags →
        (context.parserState = .waitHeader ∨
          ∃ first ∈ frame.head?, ∃ last ∈ history.getLast?,
            sbusInterByteTimeoutMs ≤ first.2 - last.2) →
        results context frame = List.replicate 24 .inProgress ++ [.frameReady] := by
  obtain ⟨part, htracks, hpart, hsuffix⟩ := h.tracks
  constructor
  · intro byte nowMs hready
    obtain ⟨frame, data, flags, hframe, hrest⟩ := frame_of_ready htracks hpart hready
    refine ⟨frame, data, flags, hframe.trans ?_, hrest⟩
    obtain ⟨earlier, rfl⟩ := hsuffix
    exact ⟨earlier, (List.append_assoc ..).symm⟩
  · intro frame data flags hframe hstart
    rw [(results_eq_outcomes htracks hpart frame).2]
    refine (outcomes_frame hframe ?_).1
    intro first hfirst
    rcases hstart with hwait | ⟨first', hfirst', last, hlast, hlate⟩
    · cases htracks with
      | waitHeader => exact if_neg fun ⟨_, hlast, _⟩ => nomatch hlast
      | readFrame _ _ hs => rw [hs] at hwait; nomatch hwait
    · obtain rfl := Option.some.inj (hfirst.symm.trans hfirst')
      obtain hnil | hne := eq_or_ne part []
      · rw [hnil]
        exact ite_self _
      · obtain ⟨earlier, rfl⟩ := hsuffix
        rw [List.getLast?_append_of_ne_nil _ hne] at hlast
        exact if_pos ⟨last, hlast, hlate⟩

/-- A frame behind the overflow of the clock. -/
def wrappedFrame : List TimedByte := (0x0F, 3) :: List.replicate 24 (0x00, 3)

/-- A header before the overflow is given up when the frame begins. -/
theorem frameReady_exactly_wrapped :
    results (processByte .init 0x0F 0xFFFFFFFE).2 wrappedFrame =
      List.replicate 24 .inProgress ++ [.frameReady] := by
  have hreach : Reach (processByte .init 0x0F 0xFFFFFFFE).2 [(0x0F, 0xFFFFFFFE)] :=
    .processByte 0x0F 0xFFFFFFFE .init
  refine (frameReady_exactly hreach).2 wrappedFrame (List.replicate 22 0) 0 ⟨rfl, rfl, ?_⟩ ?_
  · decide
  · exact .inr ⟨_, rfl, _, rfl, by decide⟩

end SbusProtocolContext

end RadioConnection
