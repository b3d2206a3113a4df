import RadioConnection.Radio.Telemetry
import RadioConnection.Radio.DevicePing

/-!
# Encoded frames in the parser

What the encoders of `crsf_telemetry.c` frame, fed to the parser of `crsf_protocol.c`.

* `encodeFrame_isFrame`: the bytes are a frame with a right CRC.
* `frame_taken`: the parser stays inside the frame up to its last byte, and counts it.
* `encoded_taken`: so it does with every encoded frame.
-/

namespace RadioConnection

namespace CrsfProtocolContext

variable {ctx : CrsfProtocolContext} {w body bytes : List UInt8} {a l byte : UInt8}

/-! ## A whole frame -/

/-- The context takes the frame: it is inside the frame until the last byte, and then has
counted it without an error. -/
structure Takes (ctx : CrsfProtocolContext) (frame : List UInt8) : Prop where
  inside : ∀ k, 0 < k → k < frame.length →
    (crsfProtocol.feed 0 ctx (frame.take k)).parserState ≠ .waitAddress
  done : (crsfProtocol.feed 0 ctx frame).parserState = .waitAddress
  receivedFrames : (crsfProtocol.feed 0 ctx frame).receivedFrames = ctx.receivedFrames + 1
  crcErrors : (crsfProtocol.feed 0 ctx frame).crcErrors = ctx.crcErrors

theorem processFrame_counts
    (hcrc : crsfCrc8DvbS2 ctx.crcData = ctx.bufferAt (ctx.framePos - 1).toNat) :
    (processFrame ctx).2.receivedFrames = ctx.receivedFrames + 1 ∧
      (processFrame ctx).2.crcErrors = ctx.crcErrors := by
  have hok : ¬ (crsfCrc8DvbS2 (crcData { ctx with receivedFrames := ctx.receivedFrames + 1 }) ≠
      bufferAt { ctx with receivedFrames := ctx.receivedFrames + 1 } (ctx.framePos - 1).toNat) :=
    not_not.mpr hcrc
  unfold processFrame
  dsimp only
  rw [if_neg hok]
  split_ifs <;> exact ⟨rfl, rfl⟩

/-- **The parser takes a frame with a right CRC.** -/
theorem frame_taken (h : Tracks ctx []) (hl : IsLength l) {frame : List UInt8}
    (hframe : IsFrame frame l body) : Takes ctx frame := by
  obtain ⟨hlen, a, ha, rfl⟩ := hframe
  have hbody : body.length < l.toNat := by omega
  have hsplit : a :: l :: (body ++ [crsfCrc8DvbS2 body]) =
      (a :: l :: body) ++ [crsfCrc8DvbS2 body] := rfl
  have hinside : ∀ k, 0 < k → k ≤ (a :: l :: body).length →
      ((a :: l :: body).take k).foldl advance [] ≠ [] :=
    fun k hpos hk => foldl_take_ne_nil ha hl hbody hpos hk
  have hcounts := feed_sameCounts 0 h hinside
  have htracks := feed_part 0 h ha hl hbody
  have hlast := feed_concat 0 ctx (a :: l :: body) (crsfCrc8DvbS2 body)
  generalize crsfProtocol.feed 0 ctx (a :: l :: body) = before at hcounts htracks hlast
  obtain ⟨hholds, -, hbyte⟩ := processByte_complete htracks hlen (crsfCrc8DvbS2 body)
  obtain ⟨hreceived, herrors⟩ := processFrame_counts (by rw [hholds.crcData, hholds.expectedCrc])
  rw [hsplit]
  refine ⟨?_, ?_, ?_, ?_⟩
  · intro k hpos hk
    have hk' : k ≤ (a :: l :: body).length := by
      rw [List.length_append, List.length_singleton] at hk
      omega
    have hpart := h.feed 0 ((a :: l :: body).take k)
    rw [List.take_append_of_le_length hk']
    exact fun hs => hinside k hpos hk' ((tracks_nil_iff hpart).mp hs)
  · rw [hlast, hbyte]
    exact processFrame_parserState _
  · rw [hlast, hbyte, hreceived]
    exact congrArg (· + 1) hcounts.receivedFrames
  · rw [hlast, hbyte, herrors]
    exact hcounts.crcErrors

/-! ## Encoded frames -/

/-- **What the encoders frame is a frame with a right CRC.** -/
theorem encodeFrame_isFrame {head payload frame : List UInt8} {outCapacity : UInt32}
    (hhead : head ≠ []) (hmax : head.length + payload.length + 3 ≤ 64)
    (h : encodeFrame head payload outCapacity = some frame) :
    IsLength (UInt8.ofNat (head.length + payload.length + 1)) ∧
      IsFrame frame (UInt8.ofNat (head.length + payload.length + 1)) (head ++ payload) := by
  have hpos : 0 < head.length := List.length_pos_iff.mpr hhead
  have hnat : (UInt8.ofNat (head.length + payload.length + 1)).toNat =
      head.length + payload.length + 1 :=
    UInt8.toNat_ofNat_of_lt' (lt_of_lt_of_le (by omega : _ < 63) (by decide))
  rw [encodeFrame_eq hmax] at h
  split_ifs at h
  obtain rfl := Option.some.inj h
  refine ⟨?_, ?_, crsfAddressFlightController, .inl rfl, rfl⟩
  · unfold IsLength
    rw [hnat]
    omega
  · rw [hnat, List.length_append]

/-- The last byte of an RC channels frame publishes it. -/
structure Publishes (ctx : CrsfProtocolContext) (frame : List UInt8) (p : Vector UInt8 22) :
    Prop where
  ready : ∃ head crc, frame = head ++ [crc] ∧
    (processByte (crsfProtocol.feed 0 ctx head) crc).1 = .frameReady
  channels : (crsfProtocol.feed 0 ctx frame).getFrame.1 = some (crsfRcFrame p)

theorem rcFrame_published (h : Tracks ctx []) {frame : List UInt8} {p : Vector UInt8 22}
    (hframe : IsFrame frame 24 (crsfFrameTypeRcChannelsPacked :: p.toList)) :
    Publishes ctx frame p := by
  obtain ⟨a, ha, rfl⟩ := isRcFrame_iff.mpr hframe
  have hbody : (crsfFrameTypeRcChannelsPacked :: p.toList).length < (24 : UInt8).toNat := by
    rw [List.length_cons, Vector.length_toList]
    decide
  have hpart : Tracks (crsfProtocol.feed 0 ctx (rcFrameHead a p)) (rcFrameHead a p) :=
    feed_part 0 h ha (by decide) hbody
  obtain ⟨hready, hget⟩ := getFrame_of_isRcFrame hpart (rcFrameCrc p) ⟨a, ha, rfl⟩
  refine ⟨⟨_, _, rfl, hready⟩, ?_⟩
  rw [feed_concat]
  exact hget

theorem ping_waits (h : Tracks ctx []) {frame : List UInt8} {destination origin : UInt8}
    (hd : destination = crsfAddressFlightCtrl ∨ destination = 0)
    (hframe : IsFrame frame 4 [crsfFrameTypeParameterPing, destination, origin]) :
    (crsfProtocol.feed 0 ctx frame).takeDevicePing.1 = some origin := by
  have hcopy := hframe
  obtain ⟨-, a, ha, rfl⟩ := hframe
  have hsplit : a :: 4 :: ([crsfFrameTypeParameterPing, destination, origin] ++
      [crsfCrc8DvbS2 [crsfFrameTypeParameterPing, destination, origin]]) =
        [a, 4, crsfFrameTypeParameterPing, destination, origin] ++
          [crsfCrc8DvbS2 [crsfFrameTypeParameterPing, destination, origin]] := rfl
  rw [hsplit] at hcopy ⊢
  have hbody : [crsfFrameTypeParameterPing, destination, origin].length < (4 : UInt8).toNat :=
    (by decide : 3 < (4 : UInt8).toNat)
  have hpart := feed_part 0 h ha (by decide : IsLength 4) hbody
  have hend := (frameEnd_ping ⟨destination, hd, hcopy⟩).1
  rw [feed_concat, processByte_ping hpart, pendingAfter, hend]
  rfl

/-- **The parser takes what the encoders frame**, whatever its buffer held before. -/
theorem encoded_taken (hs : ctx.parserState = .waitAddress)
    (frameType destination origin : UInt8) (payload : List UInt8) (outCapacity : UInt32)
    (frame : List UInt8) :
    (payload.length ≤ 60 →
      crsfTelemetryEncodeBroadcast frameType payload outCapacity = some frame →
      Takes ctx frame ∧ (frameType = 0x16 → ∀ p : Vector UInt8 22, payload = p.toList →
        Publishes ctx frame p)) ∧
    (payload.length ≤ 58 →
      crsfTelemetryEncodeExtended frameType destination origin payload outCapacity = some frame →
      Takes ctx frame ∧ (frameType = 0x28 → payload = [] →
        (destination = 0xC8 ∨ destination = 0) →
        (crsfProtocol.feed 0 ctx frame).takeDevicePing.1 = some origin)) := by
  have htracks : Tracks ctx [] := .address hs
  constructor
  · intro hmax hencode
    have hlength : [frameType].length + payload.length + 3 ≤ 64 := by
      rw [List.length_singleton]
      omega
    obtain ⟨hl, hframe⟩ := encodeFrame_isFrame (List.cons_ne_nil _ _) hlength hencode
    refine ⟨frame_taken htracks hl hframe, ?_⟩
    intro htype p hp
    subst htype hp
    rw [Vector.length_toList] at hframe
    exact rcFrame_published htracks hframe
  · intro hmax hencode
    have hlength : [frameType, destination, origin].length + payload.length + 3 ≤ 64 := by
      show 3 + payload.length + 3 ≤ 64
      omega
    obtain ⟨hl, hframe⟩ := encodeFrame_isFrame (List.cons_ne_nil _ _) hlength hencode
    refine ⟨frame_taken htracks hl hframe, ?_⟩
    intro htype hnil hd
    subst htype hnil
    exact ping_waits htracks hd hframe

def pingFrame : List UInt8 := [0xC8, 4, 0x28, 0, 0xEA, 0x54]

theorem encoded_taken_ping : (crsfProtocol.feed 0 init pingFrame).takeDevicePing.1 = some 0xEA := by
  have htaken := @encoded_taken init rfl 0x28 0 0xEA [] 64 pingFrame
  exact (htaken.2 (by decide) (by decide +kernel)).2 rfl rfl (.inr rfl)

end CrsfProtocolContext

end RadioConnection
