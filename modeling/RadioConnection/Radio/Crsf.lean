import RadioConnection.Radio.Protocol

/-!
# The CRSF parser

`crsf_protocol.c`: a byte machine with three states, a buffer that is never
cleared, and a dispatch on the type of a frame whose CRC is right.

* `Tracks`: the bytes of the frame in progress, as the context holds them.
* `processByte_tracks`: what one byte does to them.
* `frameReady_iff`: when a byte publishes a frame, and with which channels.
* `publishesExactly_iff`: that this is a well-formed frame, unless its length
  is wrong.
-/

namespace RadioConnection

def crsfMaxFrameSize : Nat := 64
def crsfAddressFlightCtrl : UInt8 := 0xC8
def crsfAddressCrsfReceiver : UInt8 := 0xEC
def crsfFrameTypeRcChannelsPacked : UInt8 := 0x16
def crsfFrameTypeParameterPing : UInt8 := 0x28
def crsfExtendedPingFrameLength : UInt8 := 4
def crsfRcChannelCount : UInt8 := 16

/-! ## The checksum -/

/-- One step of the inner loop of `crsf_crc8_dvb_s2`. -/
def crsfCrc8Bit (crc : UInt8) : UInt8 :=
  if crc &&& 0x80 ≠ 0 then (crc <<< 1) ^^^ 0xD5 else crc <<< 1

def crsfCrc8Byte (crc byte : UInt8) : UInt8 := crsfCrc8Bit^[8] (crc ^^^ byte)

def crsfCrc8DvbS2 (data : List UInt8) : UInt8 := data.foldl crsfCrc8Byte 0

/-! ## The context -/

inductive CrsfParserState
  | waitAddress | waitLength | readPayload
  deriving DecidableEq, Repr

structure CrsfProtocolContext where
  parserState : CrsfParserState
  frameBuffer : Vector UInt8 64
  framePos : UInt8
  expectedLength : UInt8
  latestFrame : RcInputFrame
  frameReady : Bool
  devicePingPending : Bool
  devicePingOrigin : UInt8
  receivedFrames : UInt32
  validFrames : UInt32
  crcErrors : UInt32
  lengthErrors : UInt32
  unsupportedFrames : UInt32
  deriving DecidableEq

/-- `crsf_decode_rc_channels`, of the payload `p`. -/
def crsfDecodeRcChannels (p : Vector UInt8 22) : Vector UInt16 rcMaxChannels :=
  let channel (value : Nat) : UInt16 := UInt16.ofNat (value &&& 0x07FF)
  let b (i : Fin 22) : Nat := p[i].toNat
  #v[channel (b 0 ||| b 1 <<< 8),
    channel (b 1 >>> 3 ||| b 2 <<< 5),
    channel (b 2 >>> 6 ||| b 3 <<< 2 ||| b 4 <<< 10),
    channel (b 4 >>> 1 ||| b 5 <<< 7),
    channel (b 5 >>> 4 ||| b 6 <<< 4),
    channel (b 6 >>> 7 ||| b 7 <<< 1 ||| b 8 <<< 9),
    channel (b 8 >>> 2 ||| b 9 <<< 6),
    channel (b 9 >>> 5 ||| b 10 <<< 3),
    channel (b 11 ||| b 12 <<< 8),
    channel (b 12 >>> 3 ||| b 13 <<< 5),
    channel (b 13 >>> 6 ||| b 14 <<< 2 ||| b 15 <<< 10),
    channel (b 15 >>> 1 ||| b 16 <<< 7),
    channel (b 16 >>> 4 ||| b 17 <<< 4),
    channel (b 17 >>> 7 ||| b 18 <<< 1 ||| b 19 <<< 9),
    channel (b 19 >>> 2 ||| b 20 <<< 6),
    channel (b 20 >>> 5 ||| b 21 <<< 3),
    0, 0]

/-- The frame that a payload decodes to, with the flags that the parser sets. -/
def crsfRcFrame (p : Vector UInt8 22) : RcInputFrame :=
  { RcInputFrame.zero with
    channels := crsfDecodeRcChannels p
    channelCount := crsfRcChannelCount
    protocol := .crsf
    frameValid := true
    failsafe := false
    frameLost := false }

namespace CrsfProtocolContext

/-- `memset`. -/
def zero : CrsfProtocolContext where
  parserState := .waitAddress
  frameBuffer := Vector.replicate _ 0
  framePos := 0
  expectedLength := 0
  latestFrame := .zero
  frameReady := false
  devicePingPending := false
  devicePingOrigin := 0
  receivedFrames := 0
  validFrames := 0
  crcErrors := 0
  lengthErrors := 0
  unsupportedFrames := 0

/-- `crsf_parser_reset`. -/
def parserReset (ctx : CrsfProtocolContext) : CrsfProtocolContext :=
  { ctx with parserState := .waitAddress, framePos := 0, expectedLength := 0 }

/-- `crsf_protocol_reset`. -/
def reset (ctx : CrsfProtocolContext) : CrsfProtocolContext :=
  { ctx with
    parserState := .waitAddress, framePos := 0, expectedLength := 0
    frameReady := false, devicePingPending := false, devicePingOrigin := 0 }

/-- `crsf_protocol_init`. -/
def init : CrsfProtocolContext := zero.reset

/-- The byte at an index of the buffer. -/
def bufferAt (ctx : CrsfProtocolContext) (i : Nat) : UInt8 := (ctx.frameBuffer[i]?).getD 0

/-- The 22 bytes from the third on. -/
def payload (ctx : CrsfProtocolContext) : Vector UInt8 22 :=
  Vector.ofFn fun i => ctx.bufferAt (3 + i.val)

/-- The type and the payload of the frame in the buffer, as the CRC takes them. -/
def crcData (ctx : CrsfProtocolContext) : List UInt8 :=
  (ctx.frameBuffer.toList.drop 2).take (ctx.expectedLength.toNat - 1)

/-- The part of `crsf_protocol_process_byte` that has a whole frame in the buffer. -/
def processFrame (ctx : CrsfProtocolContext) : RadioParseResult × CrsfProtocolContext :=
  let ctx := { ctx with receivedFrames := ctx.receivedFrames + 1 }
  let frameType := ctx.bufferAt 2
  let expectedCrc := ctx.bufferAt (ctx.framePos - 1).toNat
  let calculatedCrc := crsfCrc8DvbS2 ctx.crcData
  if calculatedCrc ≠ expectedCrc then
    (.error, reset { ctx with crcErrors := ctx.crcErrors + 1 })
  else if frameType = crsfFrameTypeParameterPing then
    if ctx.expectedLength ≠ crsfExtendedPingFrameLength then
      (.error, parserReset { ctx with lengthErrors := ctx.lengthErrors + 1 })
    else
      let destination := ctx.bufferAt 3
      let origin := ctx.bufferAt 4
      if destination = crsfAddressFlightCtrl ∨ destination = 0 then
        (.idle, parserReset { ctx with devicePingPending := true, devicePingOrigin := origin })
      else (.idle, parserReset ctx)
  else if frameType = crsfFrameTypeRcChannelsPacked then
    -- decoding cannot fail, and the length is not looked at
    let ctx := { ctx with
      latestFrame := crsfRcFrame ctx.payload
      validFrames := ctx.validFrames + 1 }
    (.frameReady, { reset ctx with frameReady := true })
  else (.inProgress, reset { ctx with unsupportedFrames := ctx.unsupportedFrames + 1 })

def receive (ctx : CrsfProtocolContext) (byte : UInt8) : CrsfProtocolContext :=
  { ctx with
    frameBuffer := ctx.frameBuffer.setIfInBounds ctx.framePos.toNat byte
    framePos := ctx.framePos + 1 }

/-- `crsf_protocol_process_byte`. -/
def processByte (ctx : CrsfProtocolContext) (byte : UInt8) :
    RadioParseResult × CrsfProtocolContext :=
  match ctx.parserState with
  | .waitAddress =>
    if byte = crsfAddressFlightCtrl ∨ byte = crsfAddressCrsfReceiver then
      (.inProgress, { ctx with
        frameBuffer := ctx.frameBuffer.setIfInBounds 0 byte
        framePos := 1
        parserState := .waitLength })
    else (.inProgress, ctx)
  | .waitLength =>
    if byte < 2 ∨ crsfMaxFrameSize - 2 < byte.toNat then
      (.error, reset { ctx with lengthErrors := ctx.lengthErrors + 1 })
    else
      (.inProgress, { ctx with
        expectedLength := byte
        frameBuffer := ctx.frameBuffer.setIfInBounds 1 byte
        framePos := 2
        parserState := .readPayload })
  | .readPayload =>
    let ctx := ctx.receive byte
    if ctx.expectedLength + 2 ≤ ctx.framePos then processFrame ctx
    else (.inProgress, ctx)

/-- `crsf_protocol_get_frame`. -/
def getFrame (ctx : CrsfProtocolContext) : Option RcInputFrame × CrsfProtocolContext :=
  if ¬ ctx.frameReady then (none, ctx)
  else (some ctx.latestFrame, { ctx with frameReady := false })

/-- `crsf_protocol_take_device_ping`. -/
def takeDevicePing (ctx : CrsfProtocolContext) : Option UInt8 × CrsfProtocolContext :=
  if ¬ ctx.devicePingPending then (none, ctx)
  else (some ctx.devicePingOrigin, { ctx with devicePingPending := false, devicePingOrigin := 0 })

end CrsfProtocolContext

/-- The functions that `crsf_protocol_init` installs; the clock is not read. -/
def crsfProtocol : RadioProtocol CrsfProtocolContext where
  type := .crsf
  reset := CrsfProtocolContext.reset
  processByte ctx byte _ := ctx.processByte byte
  getFrame := CrsfProtocolContext.getFrame

namespace CrsfProtocolContext

/-! ## The bytes of the frame in progress -/

def IsAddress (byte : UInt8) : Prop :=
  byte = crsfAddressFlightCtrl ∨ byte = crsfAddressCrsfReceiver

instance (byte : UInt8) : Decidable (IsAddress byte) :=
  inferInstanceAs (Decidable (_ ∨ _))

def IsLength (byte : UInt8) : Prop := 2 ≤ byte.toNat ∧ byte.toNat ≤ 62

instance (byte : UInt8) : Decidable (IsLength byte) := inferInstanceAs (Decidable (_ ∧ _))

/-- `w` is the part of a frame that the context holds. -/
inductive Tracks (ctx : CrsfProtocolContext) : List UInt8 → Prop
  | address (hs : ctx.parserState = .waitAddress) : Tracks ctx []
  | length (a : UInt8) (hs : ctx.parserState = .waitLength) (ha : IsAddress a)
      (hb : ctx.frameBuffer.toList.take 1 = [a]) : Tracks ctx [a]
  | payload (a l : UInt8) (body : List UInt8) (hs : ctx.parserState = .readPayload)
      (ha : IsAddress a) (hl : IsLength l) (hbody : body.length < l.toNat)
      (hlength : ctx.expectedLength = l) (hpos : ctx.framePos.toNat = body.length + 2)
      (hb : ctx.frameBuffer.toList.take (body.length + 2) = a :: l :: body) :
      Tracks ctx (a :: l :: body)

/-- The part of a frame after one more byte. -/
def advance : List UInt8 → UInt8 → List UInt8
  | [], byte => if IsAddress byte then [byte] else []
  | [a], byte => if IsLength byte then [a, byte] else []
  | a :: l :: body, byte => if l.toNat ≤ body.length + 1 then [] else a :: l :: (body ++ [byte])

theorem take_set (buffer : Vector UInt8 64) {n : ℕ} (hn : n < 64) (byte : UInt8) :
    (buffer.setIfInBounds n byte).toList.take (n + 1) = buffer.toList.take n ++ [byte] := by
  rw [Vector.toList_setIfInBounds, List.take_succ_eq_append_getElem (by simpa using hn),
    List.take_set_of_le (le_refl n)]
  simp

theorem bufferAt_eq {ctx : CrsfProtocolContext} {n i : ℕ} {w : List UInt8}
    (hw : ctx.frameBuffer.toList.take n = w) (hi : i < w.length) :
    ctx.bufferAt i = w.get ⟨i, hi⟩ := by
  subst hw
  simp only [List.length_take, Vector.length_toList] at hi
  simp [bufferAt, show i < 64 by omega]

theorem processFrame_parserState (ctx : CrsfProtocolContext) :
    (processFrame ctx).2.parserState = .waitAddress := by
  unfold processFrame
  dsimp only
  split_ifs <;> rfl

/-! ## One byte -/

variable {ctx : CrsfProtocolContext} {a l byte : UInt8} {body w : List UInt8}

theorem isLength_iff : IsLength byte ↔ ¬ (byte < 2 ∨ crsfMaxFrameSize - 2 < byte.toNat) := by
  rw [UInt8.lt_iff_toNat_lt]
  show 2 ≤ byte.toNat ∧ byte.toNat ≤ 62 ↔ ¬ (byte.toNat < 2 ∨ 62 < byte.toNat)
  omega

theorem processByte_address (hs : ctx.parserState = .waitAddress) (ha : IsAddress byte) :
    processByte ctx byte = (.inProgress, { ctx with
      frameBuffer := ctx.frameBuffer.setIfInBounds 0 byte
      framePos := 1
      parserState := .waitLength }) := by
  unfold processByte
  rw [hs]
  exact if_pos ha

theorem processByte_not_address (hs : ctx.parserState = .waitAddress) (ha : ¬ IsAddress byte) :
    processByte ctx byte = (.inProgress, ctx) := by
  unfold processByte
  rw [hs]
  exact if_neg ha

theorem processByte_length (hs : ctx.parserState = .waitLength) (hl : IsLength byte) :
    processByte ctx byte = (.inProgress, { ctx with
      expectedLength := byte
      frameBuffer := ctx.frameBuffer.setIfInBounds 1 byte
      framePos := 2
      parserState := .readPayload }) := by
  unfold processByte
  rw [hs]
  exact if_neg (isLength_iff.mp hl)

theorem processByte_not_length (hs : ctx.parserState = .waitLength) (hl : ¬ IsLength byte) :
    processByte ctx byte =
      (.error, reset { ctx with lengthErrors := ctx.lengthErrors + 1 }) := by
  unfold processByte
  rw [hs]
  exact if_pos (not_not.mp fun h => hl (isLength_iff.mpr h))

theorem processByte_payload (hs : ctx.parserState = .readPayload) (hl : IsLength ctx.expectedLength)
    (hpos : ctx.framePos.toNat = body.length + 2) (hbody : body.length < ctx.expectedLength.toNat) :
    processByte ctx byte =
      if ctx.expectedLength.toNat ≤ body.length + 1 then processFrame (receive ctx byte)
      else (.inProgress, receive ctx byte) := by
  obtain ⟨-, hmax⟩ := hl
  have hcomplete : ctx.expectedLength + 2 ≤ ctx.framePos + 1 ↔
      ctx.expectedLength.toNat ≤ body.length + 1 := by
    rw [UInt8.le_iff_toNat_le, UInt8.toNat_add, UInt8.toNat_add, hpos]
    show (ctx.expectedLength.toNat + 2) % 256 ≤ (body.length + 2 + 1) % 256 ↔ _
    omega
  unfold processByte
  rw [hs]
  exact if_congr hcomplete rfl rfl

/-- **One byte moves the part of the frame**, whatever the buffer held before. -/
theorem processByte_tracks (h : Tracks ctx w) (byte : UInt8) :
    Tracks (processByte ctx byte).2 (advance w byte) := by
  cases h with
  | address hs =>
    show Tracks _ (if IsAddress byte then [byte] else [])
    by_cases ha : IsAddress byte
    · rw [processByte_address hs ha, if_pos ha]
      exact .length byte rfl ha (take_set ctx.frameBuffer (by omega) byte)
    · rw [processByte_not_address hs ha, if_neg ha]
      exact .address hs
  | length a hs ha hb =>
    show Tracks _ (if IsLength byte then [a, byte] else [])
    by_cases hl : IsLength byte
    · rw [processByte_length hs hl, if_pos hl]
      have hlt : (0 : ℕ) < byte.toNat := by
        have := hl.1
        omega
      refine .payload a byte [] rfl ha hl hlt rfl rfl ?_
      rw [List.length_nil, zero_add, take_set ctx.frameBuffer (by omega) byte, hb]
      rfl
    · rw [processByte_not_length hs hl, if_neg hl]
      exact .address rfl
  | payload a l body hs ha hl hbody hlength hpos hb =>
    show Tracks _ (if l.toNat ≤ body.length + 1 then [] else a :: l :: (body ++ [byte]))
    subst hlength
    rw [processByte_payload hs hl hpos hbody]
    have hmax := hl.2
    split
    · exact .address (processFrame_parserState _)
    · have hlen : (body ++ [byte]).length = body.length + 1 := by simp
      refine .payload a ctx.expectedLength (body ++ [byte]) hs ha hl (by omega) rfl ?_ ?_
      · show (ctx.framePos + 1).toNat = _
        rw [UInt8.toNat_add, hpos, hlen]
        show (body.length + 2 + 1) % 256 = _
        omega
      · show (ctx.frameBuffer.setIfInBounds ctx.framePos.toNat byte).toList.take _ = _
        rw [hpos, hlen, take_set ctx.frameBuffer (by omega) byte, hb]
        rfl

/-! ## A whole frame -/

/-- The buffer when the last byte of a frame has come. -/
structure Holds (ctx : CrsfProtocolContext) (body : List UInt8) (byte : UInt8) : Prop where
  crcData : ctx.crcData = body
  expectedCrc : ctx.bufferAt (ctx.framePos - 1).toNat = byte
  bytes : ∀ i (hi : i < body.length), ctx.bufferAt (2 + i) = body.get ⟨i, hi⟩

theorem receive_holds (hl : IsLength ctx.expectedLength)
    (hpos : ctx.framePos.toNat = body.length + 2)
    (hb : ctx.frameBuffer.toList.take (body.length + 2) = a :: ctx.expectedLength :: body)
    (hlen : body.length + 1 = ctx.expectedLength.toNat) (byte : UInt8) :
    Holds (ctx.receive byte) body byte := by
  have hmax := hl.2
  have htake : (ctx.receive byte).frameBuffer.toList.take (body.length + 3) =
      a :: ctx.expectedLength :: (body ++ [byte]) := by
    show (ctx.frameBuffer.setIfInBounds ctx.framePos.toNat byte).toList.take _ = _
    rw [hpos, take_set ctx.frameBuffer (by omega) byte, hb]
    rfl
  have hlast : ((ctx.receive byte).framePos - 1).toNat = body.length + 2 := by
    show (ctx.framePos + 1 - 1).toNat = _
    rw [UInt8.add_sub_cancel, hpos]
  refine ⟨?_, ?_, ?_⟩
  · have hdrop : (ctx.receive byte).crcData =
        (((ctx.receive byte).frameBuffer.toList.take (body.length + 3)).drop 2).take
          (ctx.expectedLength.toNat - 1) := by
      rw [List.drop_take, List.take_take, min_eq_left (by omega)]
      rfl
    rw [hdrop, htake, ← hlen]
    simp
  · rw [hlast, bufferAt_eq htake (by simp)]
    simp
  · intro i hi
    rw [bufferAt_eq htake (by simp; omega)]
    simp [Nat.add_comm 2 i, hi]

theorem processFrame_ready (hh : Holds ctx body byte) (hne : body ≠ []) :
    (processFrame ctx).1 = .frameReady ↔
      byte = crsfCrc8DvbS2 body ∧ body.head? = some crsfFrameTypeRcChannelsPacked := by
  have htype : body.head? = some (ctx.bufferAt 2) := by
    have hpos : 0 < body.length := List.length_pos_iff.mpr hne
    rw [List.head?_eq_getElem?, List.getElem?_eq_getElem hpos]
    exact congrArg some (hh.bytes 0 hpos).symm
  rw [htype, ← hh.expectedCrc, ← hh.crcData]
  have hother : ∀ type, ctx.bufferAt 2 = type → type ≠ crsfFrameTypeRcChannelsPacked →
      some (ctx.bufferAt 2) ≠ some crsfFrameTypeRcChannelsPacked := by
    intro type htype hne heq
    exact hne (htype.symm.trans (Option.some.inj heq))
  unfold processFrame
  dsimp only
  split_ifs with hcrc hping hlen hdest hrc
  · exact ⟨nofun, fun h => absurd h.1.symm hcrc⟩
  · exact ⟨nofun, fun h => absurd h.2 (hother _ hping (by decide))⟩
  · exact ⟨nofun, fun h => absurd h.2 (hother _ hping (by decide))⟩
  · exact ⟨nofun, fun h => absurd h.2 (hother _ hping (by decide))⟩
  · exact ⟨fun _ => ⟨(not_not.mp hcrc).symm, congrArg some hrc⟩, fun _ => rfl⟩
  · exact ⟨nofun, fun h => absurd (Option.some.inj h.2) hrc⟩

theorem processFrame_getFrame (h : (processFrame ctx).1 = .frameReady) :
    (processFrame ctx).2.getFrame.1 = some (crsfRcFrame ctx.payload) := by
  unfold processFrame at h ⊢
  dsimp only at h ⊢
  split_ifs at h ⊢
  rfl

/-! ## Frames -/

/-- `w` is a whole frame with a right CRC; `body` is its type and payload. -/
structure IsFrame (w : List UInt8) (l : UInt8) (body : List UInt8) : Prop where
  length : body.length + 1 = l.toNat
  bytes : ∃ a, IsAddress a ∧ w = a :: l :: (body ++ [crsfCrc8DvbS2 body])

theorem append_isFrame (ha : IsAddress a) {l' : UInt8} {body' : List UInt8} :
    IsFrame (a :: l :: body ++ [byte]) l' body' ↔
      l' = l ∧ body' = body ∧ body.length + 1 = l.toNat ∧ byte = crsfCrc8DvbS2 body := by
  constructor
  · intro ⟨hlen, a', ha', heq⟩
    simp only [List.cons_append, List.cons.injEq] at heq
    obtain ⟨rfl, rfl, happ⟩ := heq
    obtain ⟨rfl, hcrc⟩ := List.append_inj' happ rfl
    exact ⟨rfl, rfl, hlen, List.head_eq_of_cons_eq hcrc⟩
  · rintro ⟨rfl, rfl, hlen, rfl⟩
    exact ⟨hlen, a, ha, rfl⟩

theorem processByte_complete (h : Tracks ctx (a :: l :: body))
    (hlen : body.length + 1 = l.toNat) (byte : UInt8) :
    Holds (ctx.receive byte) body byte ∧ body ≠ [] ∧
      processByte ctx byte = processFrame (ctx.receive byte) := by
  cases h with
  | payload a l body hs ha hl hbody hlength hpos hb =>
    subst hlength
    have hmin := hl.1
    refine ⟨receive_holds hl hpos hb hlen byte, ?_, ?_⟩
    · intro hnil
      rw [hnil] at hlen
      simp only [List.length_nil] at hlen
      omega
    · rw [processByte_payload hs hl hpos hbody, if_pos (by omega)]

/-- **A byte publishes a frame when it completes one of type `0x16`**, of any length. -/
theorem frameReady_iff (h : Tracks ctx w) (byte : UInt8) :
    (processByte ctx byte).1 = .frameReady ↔
      ∃ l body, IsFrame (w ++ [byte]) l body ∧
        body.head? = some crsfFrameTypeRcChannelsPacked := by
  cases h with
  | address hs =>
    have hnot : (processByte ctx byte).1 ≠ .frameReady := by
      by_cases ha : IsAddress byte
      · rw [processByte_address hs ha]
        nofun
      · rw [processByte_not_address hs ha]
        nofun
    refine ⟨fun hr => absurd hr hnot, ?_⟩
    intro ⟨l, body, ⟨_, a, _, heq⟩, _⟩
    simp at heq
  | length a hs ha hb =>
    have hnot : (processByte ctx byte).1 ≠ .frameReady := by
      by_cases hl : IsLength byte
      · rw [processByte_length hs hl]
        nofun
      · rw [processByte_not_length hs hl]
        nofun
    refine ⟨fun hr => absurd hr hnot, ?_⟩
    intro ⟨l, body, ⟨_, a, _, heq⟩, _⟩
    simp at heq
  | payload a l body hs ha hl hbody hlength hpos hb =>
    by_cases hlen : body.length + 1 = l.toNat
    · obtain ⟨hholds, hne, heq⟩ :=
        processByte_complete (.payload a l body hs ha hl hbody hlength hpos hb) hlen byte
      rw [heq, processFrame_ready hholds hne]
      constructor
      · intro ⟨hcrc, hrc⟩
        exact ⟨l, body, (append_isFrame ha).mpr ⟨rfl, rfl, hlen, hcrc⟩, hrc⟩
      · intro ⟨l', body', hframe, hrc⟩
        obtain ⟨rfl, rfl, -, hcrc⟩ := (append_isFrame ha).mp hframe
        exact ⟨hcrc, hrc⟩
    · subst hlength
      rw [processByte_payload hs hl hpos hbody, if_neg (by omega)]
      refine ⟨nofun, ?_⟩
      intro ⟨l', body', hframe, _⟩
      obtain ⟨-, -, hlen', -⟩ := (append_isFrame ha).mp hframe
      exact absurd hlen' hlen

/-! ## RC channels frames -/

def rcFrameHead (a : UInt8) (p : Vector UInt8 22) : List UInt8 :=
  a :: 24 :: crsfFrameTypeRcChannelsPacked :: p.toList

def rcFrameCrc (p : Vector UInt8 22) : UInt8 :=
  crsfCrc8DvbS2 (crsfFrameTypeRcChannelsPacked :: p.toList)

/-- `w` is a well-formed RC channels frame with the payload `p`. -/
def IsRcFrame (w : List UInt8) (p : Vector UInt8 22) : Prop :=
  ∃ a, IsAddress a ∧ w = rcFrameHead a p ++ [rcFrameCrc p]

theorem isRcFrame_iff {p : Vector UInt8 22} :
    IsRcFrame w p ↔ IsFrame w 24 (crsfFrameTypeRcChannelsPacked :: p.toList) := by
  constructor
  · intro ⟨a, ha, heq⟩
    exact ⟨by simp, a, ha, heq⟩
  · intro ⟨_, a, ha, heq⟩
    exact ⟨a, ha, heq⟩

theorem IsFrame.isRcFrame (h : IsFrame w 24 body)
    (hrc : body.head? = some crsfFrameTypeRcChannelsPacked) : ∃ p, IsRcFrame w p := by
  cases body with
  | nil => cases hrc
  | cons type payload =>
    obtain rfl : type = crsfFrameTypeRcChannelsPacked := Option.some.inj hrc
    have hlen : payload.length + 1 + 1 = 24 := h.length
    have hsize : payload.toArray.size = 22 := by
      rw [List.size_toArray]
      omega
    exact ⟨⟨payload.toArray, hsize⟩, isRcFrame_iff.mpr h⟩

theorem getFrame_of_isRcFrame (h : Tracks ctx w) (byte : UInt8) {p : Vector UInt8 22}
    (hp : IsRcFrame (w ++ [byte]) p) :
    (processByte ctx byte).1 = .frameReady ∧
      (processByte ctx byte).2.getFrame.1 = some (crsfRcFrame p) := by
  have hready := (frameReady_iff h byte).mpr ⟨_, _, isRcFrame_iff.mp hp, rfl⟩
  refine ⟨hready, ?_⟩
  obtain ⟨a, -, heq⟩ := hp
  obtain ⟨rfl, -⟩ := List.append_inj' heq rfl
  obtain ⟨hholds, -, hbyte⟩ := processByte_complete h (by simp) byte
  have hpayload : (ctx.receive byte).payload = p := by
    ext i hi
    simp only [payload, Vector.getElem_ofFn]
    have hb := hholds.bytes (i + 1) (by simp; omega)
    rw [show 3 + i = 2 + (i + 1) by omega, hb]
    simp
  rw [hbyte] at hready ⊢
  rw [processFrame_getFrame hready, hpayload]

/-! ## Every reachable context -/

/-- The contexts of a run, with the bytes since the parser left `waitAddress`. -/
inductive Reach : CrsfProtocolContext → List UInt8 → Prop
  | init : Reach init []
  | byte {ctx : CrsfProtocolContext} {w : List UInt8} (h : Reach ctx w) (byte : UInt8) :
      Reach (processByte ctx byte).2
        (if (processByte ctx byte).2.parserState = .waitAddress then [] else w ++ [byte])
  | getFrame {ctx : CrsfProtocolContext} {w : List UInt8} (h : Reach ctx w) :
      Reach ctx.getFrame.2 w
  | takeDevicePing {ctx : CrsfProtocolContext} {w : List UInt8} (h : Reach ctx w) :
      Reach ctx.takeDevicePing.2 w
  | reset {ctx : CrsfProtocolContext} {w : List UInt8} (h : Reach ctx w) : Reach ctx.reset []

theorem Tracks.congr {ctx' : CrsfProtocolContext} (h : Tracks ctx w)
    (hs : ctx'.parserState = ctx.parserState) (hb : ctx'.frameBuffer = ctx.frameBuffer)
    (hpos : ctx'.framePos = ctx.framePos) (hl : ctx'.expectedLength = ctx.expectedLength) :
    Tracks ctx' w := by
  cases h with
  | address h => exact .address (hs.trans h)
  | length a h ha htake => exact .length a (hs.trans h) ha (by rw [hb, htake])
  | payload a l body h ha hlen hbody hlength hp htake =>
    exact .payload a l body (hs.trans h) ha hlen hbody (hl.trans hlength) (by rw [hpos, hp])
      (by rw [hb, htake])

theorem tracks_nil_iff (h : Tracks ctx w) : ctx.parserState = .waitAddress ↔ w = [] := by
  cases h with
  | address hs => exact ⟨fun _ => rfl, fun _ => hs⟩
  | length a hs => simp [hs]
  | payload a l body hs => simp [hs]

theorem advance_eq (w : List UInt8) (byte : UInt8) :
    advance w byte = [] ∨ advance w byte = w ++ [byte] := by
  match w with
  | [] =>
    by_cases ha : IsAddress byte
    · exact .inr (if_pos ha)
    · exact .inl (if_neg ha)
  | [a] =>
    by_cases hl : IsLength byte
    · exact .inr (if_pos hl)
    · exact .inl (if_neg hl)
  | a :: l :: body =>
    by_cases hlen : l.toNat ≤ body.length + 1
    · exact .inl (if_pos hlen)
    · exact .inr (if_neg hlen)

theorem foldl_body (b l : UInt8) (body bytes : List UInt8)
    (h : body.length + bytes.length < l.toNat) :
    bytes.foldl advance (b :: l :: body) = b :: l :: (body ++ bytes) := by
  induction bytes generalizing body with
  | nil => simp
  | cons byte bytes ih =>
    rw [List.length_cons] at h
    have hstep : advance (b :: l :: body) byte = b :: l :: (body ++ [byte]) := if_neg (by omega)
    rw [List.foldl_cons, hstep, ih (body ++ [byte]) (by simp; omega)]
    simp

theorem Reach.tracks (h : Reach ctx w) : Tracks ctx w := by
  induction h with
  | init => exact .address rfl
  | @byte ctx w _ byte ih =>
    have hnext := processByte_tracks ih byte
    split
    · rename_i hs
      exact .address hs
    · rename_i hs
      rcases advance_eq w byte with hnil | happ
      · exact absurd ((tracks_nil_iff hnext).mpr hnil) hs
      · exact happ ▸ hnext
  | @getFrame ctx w _ ih =>
    refine ih.congr ?_ ?_ ?_ ?_ <;> (unfold CrsfProtocolContext.getFrame; split_ifs <;> rfl)
  | @takeDevicePing ctx w _ ih =>
    refine ih.congr ?_ ?_ ?_ ?_ <;> (unfold CrsfProtocolContext.takeDevicePing; split_ifs <;> rfl)
  | reset => exact .address rfl

theorem Reach.step (h : Reach ctx w) (byte : UInt8) :
    Reach (processByte ctx byte).2 (advance w byte) := by
  have hnext := tracks_nil_iff (processByte_tracks h.tracks byte)
  have hbyte := h.byte byte
  rcases advance_eq w byte with hnil | happ
  · rw [if_pos (hnext.mpr hnil)] at hbyte
    exact hnil ▸ hbyte
  · have hne : advance w byte ≠ [] := by
      rw [happ]
      exact List.append_ne_nil_of_right_ne_nil w (List.cons_ne_nil byte [])
    rw [if_neg (fun hs => hne (hnext.mp hs))] at hbyte
    exact happ ▸ hbyte

theorem Reach.feed (h : Reach ctx w) (nowMs : UInt32) (bytes : List UInt8) :
    Reach (crsfProtocol.feed nowMs ctx bytes) (bytes.foldl advance w) := by
  induction bytes generalizing ctx w with
  | nil => exact h
  | cons byte bytes ih => exact ih (h.step byte)

/-- The next byte publishes exactly a well-formed RC channels frame, with its channels. -/
structure PublishesExactly (ctx : CrsfProtocolContext) (w : List UInt8) (byte : UInt8) :
    Prop where
  ready : (processByte ctx byte).1 = .frameReady ↔ ∃ p, IsRcFrame (w ++ [byte]) p
  channels : ∀ p, IsRcFrame (w ++ [byte]) p →
    (processByte ctx byte).2.getFrame.1 = some (crsfRcFrame p)

/-- **Exactly the well-formed RC channels frames are published, unless a frame of type `0x16`
with a right CRC has another length.** -/
theorem publishesExactly_iff (h : Reach ctx w) (byte : UInt8) :
    PublishesExactly ctx w byte ↔
      ¬ ∃ l body, IsFrame (w ++ [byte]) l body ∧
        body.head? = some crsfFrameTypeRcChannelsPacked ∧ l ≠ 24 := by
  have hready := frameReady_iff h.tracks byte
  constructor
  · intro hp ⟨l, body, hframe, hrc, hne⟩
    obtain ⟨p, hrcFrame⟩ := hp.ready.mp (hready.mpr ⟨l, body, hframe, hrc⟩)
    obtain ⟨-, a, -, heq⟩ := isRcFrame_iff.mp hrcFrame
    obtain ⟨-, a', -, heq'⟩ := hframe
    rw [heq] at heq'
    exact hne (List.cons.inj (List.cons.inj heq').2).1.symm
  · intro hnot
    refine ⟨⟨?_, ?_⟩, fun p hp => (getFrame_of_isRcFrame h.tracks byte hp).2⟩
    · intro hr
      obtain ⟨l, body, hframe, hrc⟩ := hready.mp hr
      have hl : l = 24 := by
        by_contra hne
        exact hnot ⟨l, body, hframe, hrc, hne⟩
      exact (hl ▸ hframe).isRcFrame hrc
    · intro ⟨p, hp⟩
      exact (getFrame_of_isRcFrame h.tracks byte hp).1

/-- The first 25 bytes of the frame with every channel at its centre. -/
def centredPrefix : List UInt8 :=
  [0xC8, 0x18, 0x16, 0xE0, 0x03, 0x1F, 0xF8, 0xC0, 0x07, 0x3E, 0xF0, 0x81, 0x0F, 0x7C, 0xE0, 0x03,
    0x1F, 0xF8, 0xC0, 0x07, 0x3E, 0xF0, 0x81, 0x0F, 0x7C]

theorem publishesExactly_iff_centred :
    ∃ ctx, Reach ctx centredPrefix ∧ PublishesExactly ctx centredPrefix 0xAD := by
  have hreach : Reach (crsfProtocol.feed 0 init centredPrefix) centredPrefix :=
    Reach.init.feed 0 centredPrefix
  refine ⟨_, hreach, (publishesExactly_iff hreach 0xAD).mpr ?_⟩
  intro ⟨l, body, ⟨_, a, _, heq⟩, _, hne⟩
  exact hne (List.cons.inj (List.cons.inj heq).2).1.symm

/-- A frame of type `0x16` with no payload publishes whatever the buffer holds. -/
theorem short_frame_published :
    ¬ ∀ ctx w byte, Reach ctx w → PublishesExactly ctx w byte := by
  intro h
  have hreach : Reach (crsfProtocol.feed 0 init [0xC8, 2, 0x16]) [0xC8, 2, 0x16] :=
    Reach.init.feed 0 [0xC8, 2, 0x16]
  have hready : (processByte (crsfProtocol.feed 0 init [0xC8, 2, 0x16]) 0xD3).1 = .frameReady := by
    decide
  obtain ⟨p, a, -, heq⟩ := (h _ _ 0xD3 hreach).ready.mp hready
  exact absurd (List.cons.inj (List.cons.inj heq).2).1 (by decide)

/-! ## Inside a frame -/

variable {bytes : List UInt8}

/-- The counters of whole frames and of wrong checksums are equal. -/
structure SameCounts (ctx ctx' : CrsfProtocolContext) : Prop where
  receivedFrames : ctx'.receivedFrames = ctx.receivedFrames
  crcErrors : ctx'.crcErrors = ctx.crcErrors

theorem processByte_sameCounts (h : Tracks ctx w) (hne : advance w byte ≠ []) :
    SameCounts ctx (processByte ctx byte).2 := by
  cases h with
  | address hs =>
    by_cases ha : IsAddress byte
    · rw [processByte_address hs ha]
      exact ⟨rfl, rfl⟩
    · rw [processByte_not_address hs ha]
      exact ⟨rfl, rfl⟩
  | length a hs ha hb =>
    by_cases hl : IsLength byte
    · rw [processByte_length hs hl]
      exact ⟨rfl, rfl⟩
    · exact absurd (if_neg hl) hne
  | payload a l body hs ha hl hbody hlength hpos hb =>
    have hlong : ¬ l.toNat ≤ body.length + 1 := fun hle => hne (if_pos hle)
    subst hlength
    rw [processByte_payload hs hl hpos hbody, if_neg hlong]
    exact ⟨rfl, rfl⟩

theorem processByte_inProgress (h : Tracks ctx w) (hne : advance w byte ≠ []) :
    (processByte ctx byte).1 = .inProgress := by
  cases h with
  | address hs =>
    by_cases ha : IsAddress byte
    · rw [processByte_address hs ha]
    · exact absurd (if_neg ha) hne
  | length a hs ha hb =>
    by_cases hl : IsLength byte
    · rw [processByte_length hs hl]
    · exact absurd (if_neg hl) hne
  | payload a l body hs ha hl hbody hlength hpos hb =>
    have hlong : ¬ l.toNat ≤ body.length + 1 := fun hle => hne (if_pos hle)
    subst hlength
    rw [processByte_payload hs hl hpos hbody, if_neg hlong]

theorem Tracks.feed (nowMs : UInt32) (h : Tracks ctx w) (bytes : List UInt8) :
    Tracks (crsfProtocol.feed nowMs ctx bytes) (bytes.foldl advance w) := by
  induction bytes generalizing ctx w with
  | nil => exact h
  | cons byte bytes ih => exact ih (processByte_tracks h byte)

theorem feed_concat (nowMs : UInt32) (ctx : CrsfProtocolContext) (bytes : List UInt8) (byte : UInt8) :
    crsfProtocol.feed nowMs ctx (bytes ++ [byte]) =
      (processByte (crsfProtocol.feed nowMs ctx bytes) byte).2 := by
  rw [RadioProtocol.feed_append]
  rfl

theorem feed_sameCounts (nowMs : UInt32) (h : Tracks ctx w)
    (hne : ∀ k, 0 < k → k ≤ bytes.length → (bytes.take k).foldl advance w ≠ []) :
    SameCounts ctx (crsfProtocol.feed nowMs ctx bytes) := by
  induction bytes generalizing ctx w with
  | nil => exact ⟨rfl, rfl⟩
  | cons byte bytes ih =>
    have hbyte := processByte_sameCounts h (hne 1 Nat.one_pos (Nat.succ_pos _))
    have hrest := ih (processByte_tracks h byte) fun k hk hle =>
      hne (k + 1) (Nat.succ_pos k) (Nat.succ_le_succ hle)
    exact ⟨hrest.receivedFrames.trans hbyte.receivedFrames,
      hrest.crcErrors.trans hbyte.crcErrors⟩

theorem results_inProgress (nowMs : UInt32) (h : Tracks ctx w)
    (hne : ∀ k, 0 < k → k ≤ bytes.length → (bytes.take k).foldl advance w ≠ []) :
    crsfProtocol.results nowMs ctx bytes = List.replicate bytes.length .inProgress := by
  induction bytes generalizing ctx w with
  | nil => rfl
  | cons byte bytes ih =>
    have hbyte := processByte_inProgress h (hne 1 Nat.one_pos (Nat.succ_pos _))
    have hrest := ih (processByte_tracks h byte) fun k hk hle =>
      hne (k + 1) (Nat.succ_pos k) (Nat.succ_le_succ hle)
    exact congrArg₂ List.cons hbyte hrest

theorem foldl_part (ha : IsAddress a) (hl : IsLength l) (hbody : body.length < l.toNat) :
    (a :: l :: body).foldl advance [] = a :: l :: body := by
  have hfirst : advance [] a = [a] := if_pos ha
  have hsecond : advance [a] l = [a, l] := if_pos hl
  rw [List.foldl_cons, hfirst, List.foldl_cons, hsecond]
  exact foldl_body a l [] body (by simpa using hbody)

theorem foldl_take (ha : IsAddress a) (hl : IsLength l) (hbody : body.length < l.toNat) {k : ℕ} :
    ((a :: l :: body).take k).foldl advance [] = (a :: l :: body).take k := by
  match k with
  | 0 => rfl
  | 1 => exact if_pos ha
  | k + 2 =>
    have htake : (a :: l :: body).take (k + 2) = a :: l :: body.take k := rfl
    have hlength : (body.take k).length ≤ body.length := List.length_take_le' k body
    rw [htake]
    exact foldl_part ha hl (by omega)

theorem foldl_take_ne_nil (ha : IsAddress a) (hl : IsLength l) (hbody : body.length < l.toNat)
    {k : ℕ} (hpos : 0 < k) (hk : k ≤ (a :: l :: body).length) :
    ((a :: l :: body).take k).foldl advance [] ≠ [] := by
  rw [foldl_take ha hl hbody]
  intro hnil
  have hzero := congrArg List.length hnil
  rw [List.length_take, Nat.min_eq_left hk] at hzero
  exact absurd hzero hpos.ne'

theorem feed_part (nowMs : UInt32) (h : Tracks ctx []) (ha : IsAddress a) (hl : IsLength l)
    (hbody : body.length < l.toNat) :
    Tracks (crsfProtocol.feed nowMs ctx (a :: l :: body)) (a :: l :: body) := by
  have htracks := h.feed nowMs (a :: l :: body)
  rwa [foldl_part ha hl hbody] at htracks

end CrsfProtocolContext

end RadioConnection
