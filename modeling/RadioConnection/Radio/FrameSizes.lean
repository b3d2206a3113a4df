import RadioConnection.Radio.TelemetryService

/-!
# The sizes of encoded frames

The two framing encoders with the length of their payload as a `size_t` of its own, as
a caller gives it, and with every byte that they store.  The sums of their checks have
32 bits, so the largest lengths pass them.

* `encodeFrame_eq_encodeInto`: for the payloads of the other encoders they are
  `encodeFrame`, and so `slotOf_queueCustomBroadcast` puts a custom frame of the
  service where the source stores it.
* `refused_iff`: which lengths do not pass the checks.
* `frameSizes_iff`: when the checks are those of exact arithmetic.
-/

namespace RadioConnection

/-! ## The stores of an encoder -/

/-- An index of `out_frame`, and what is stored there. -/
abbrev FrameWrite := ℕ × UInt8

/-- The stores of `bytes` from an index on. -/
def writesAt (index : ℕ) (bytes : List UInt8) : List FrameWrite :=
  (bytes.zipIdx index).map Prod.swap

def store (outFrame : ℕ → UInt8) (writes : List FrameWrite) : ℕ → UInt8 :=
  writes.foldl (fun frame write => Function.update frame write.1 write.2) outFrame

/-- What an encoder returns, the bytes that it stores in `out_frame`, and what it stores in
`*out_length`. -/
structure EncodeResult where
  result : Bool
  writes : List FrameWrite
  outLength : Option UInt32

/-- `frame_length_field` and `total_length`, as the source adds them up. -/
def frameLengthField (head : List UInt8) (payloadLength : UInt32) : UInt32 :=
  UInt32.ofNat head.length + payloadLength + crsfCrcSize

def totalLength (head : List UInt8) (payloadLength : UInt32) : UInt32 :=
  frameLengthField head payloadLength + 2

/-- The three checks. -/
def Refused (head : List UInt8) (payloadLength outCapacity : UInt32) : Prop :=
  0xFF < frameLengthField head payloadLength ∨
    crsfTelemetryMaxFrameSize < totalLength head payloadLength ∨
    outCapacity < totalLength head payloadLength

instance (head : List UInt8) (payloadLength outCapacity : UInt32) :
    Decidable (Refused head payloadLength outCapacity) := inferInstanceAs (Decidable (_ ∨ _ ∨ _))

def dataWrites (head : List UInt8) (payload : ℕ → UInt8) (payloadLength : UInt32) :
    List FrameWrite :=
  let header := writesAt 0
    ([crsfAddressFlightController, (frameLengthField head payloadLength).toUInt8] ++ head)
  if 0 < payloadLength then
    header ++ writesAt (2 + head.length) ((List.range payloadLength.toNat).map payload)
  else header

/-- The two framing encoders: `head` is what stands between the length and the payload. -/
def encodeInto (head : List UInt8) (payload : ℕ → UInt8) (payloadLength : UInt32)
    (outFrame : ℕ → UInt8) (outCapacity : UInt32) : EncodeResult :=
  if Refused head payloadLength outCapacity then ⟨false, [], none⟩
  else
    let writes := dataWrites head payload payloadLength
    let crc := crsfCrc8DvbS2 ((List.range (UInt32.ofNat head.length + payloadLength).toNat).map
      fun i => store outFrame writes (2 + i))
    ⟨true, writes ++ [((totalLength head payloadLength - 1).toNat, crc)],
      some (totalLength head payloadLength)⟩

/-- `crsf_telemetry_encode_broadcast`. -/
def encodeBroadcastInto (frameType : UInt8) (payload : ℕ → UInt8) (payloadLength : UInt32)
    (outFrame : ℕ → UInt8) (outCapacity : UInt32) : EncodeResult :=
  encodeInto [frameType] payload payloadLength outFrame outCapacity

/-- `crsf_telemetry_encode_extended`. -/
def encodeExtendedInto (frameType destination origin : UInt8) (payload : ℕ → UInt8)
    (payloadLength : UInt32) (outFrame : ℕ → UInt8) (outCapacity : UInt32) : EncodeResult :=
  encodeInto [frameType, destination, origin] payload payloadLength outFrame outCapacity

theorem writesAt_append (index : ℕ) (bytes bytes' : List UInt8) :
    writesAt index (bytes ++ bytes') =
      writesAt index bytes ++ writesAt (index + bytes.length) bytes' := by
  rw [writesAt, List.zipIdx_append, List.map_append]
  rfl

theorem map_fst_writesAt (index : ℕ) (bytes : List UInt8) :
    (writesAt index bytes).map Prod.fst = List.range' index bytes.length := by
  rw [writesAt, List.map_map]
  exact List.zipIdx_map_snd index bytes

theorem store_writesAt (outFrame : ℕ → UInt8) (index : ℕ) (bytes : List UInt8) (k : ℕ) :
    store outFrame (writesAt index bytes) k =
      if index ≤ k ∧ k < index + bytes.length then bytes.getD (k - index) 0 else outFrame k := by
  induction bytes generalizing outFrame index with
  | nil => rw [if_neg (by rw [List.length_nil]; omega)]; rfl
  | cons byte bytes ih =>
    show store (Function.update outFrame index byte) (writesAt (index + 1) bytes) k = _
    rw [ih, List.length_cons]
    rcases Nat.lt_trichotomy k index with hlt | rfl | hgt
    · rw [if_neg (by omega), if_neg (by omega), Function.update_of_ne hlt.ne]
    · rw [if_neg (by omega), if_pos (by omega), Function.update_self, Nat.sub_self]
      rfl
    · by_cases hin : k < index + 1 + bytes.length
      · have hsub : k - index = k - (index + 1) + 1 := by omega
        rw [if_pos ⟨hgt, hin⟩, if_pos (by omega), hsub]
        rfl
      · rw [if_neg (by omega), if_neg (by omega), Function.update_of_ne hgt.ne']

theorem map_store_writesAt (outFrame : ℕ → UInt8) (before bytes : List UInt8) :
    ((List.range bytes.length).map fun i =>
      store outFrame (writesAt 0 (before ++ bytes)) (before.length + i)) = bytes := by
  apply List.ext_getElem
  · rw [List.length_map, List.length_range]
  · intro i hi hi'
    rw [List.getElem_map, List.getElem_range, store_writesAt, List.length_append,
      if_pos (by omega), Nat.sub_zero, List.getD_append_right _ _ _ _ (Nat.le_add_right _ _),
      Nat.add_sub_cancel_left, List.getD_eq_getElem _ _ hi']

/-! ## The checks -/

/-- The sums do not wrap around, or wrap around beyond the capacity. -/
def Unwrapped (headLength : ℕ) (payloadLength outCapacity : UInt32) : Prop :=
  headLength + payloadLength.toNat + 1 < 2 ^ 32 ∨
    outCapacity.toNat + 2 ^ 32 < headLength + payloadLength.toNat + 3

instance (headLength : ℕ) (payloadLength outCapacity : UInt32) :
    Decidable (Unwrapped headLength payloadLength outCapacity) :=
  inferInstanceAs (Decidable (_ ∨ _))

variable {head : List UInt8} {payload : ℕ → UInt8} {payloadLength outCapacity : UInt32}
  {outFrame : ℕ → UInt8}

theorem toNat_ofNat_length (hhead : head.length ≤ 61) :
    (UInt32.ofNat head.length).toNat = head.length :=
  UInt32.toNat_ofNat_of_lt' (lt_of_le_of_lt hhead (by decide))

theorem toNat_frameLengthField (hhead : head.length ≤ 61) :
    (frameLengthField head payloadLength).toNat =
      (head.length + payloadLength.toNat + 1) % 2 ^ 32 := by
  have hone : crsfCrcSize.toNat = 1 := rfl
  rw [frameLengthField]
  rw [UInt32.toNat_add, UInt32.toNat_add, toNat_ofNat_length hhead, hone]
  omega

theorem toNat_totalLength (hhead : head.length ≤ 61) :
    (totalLength head payloadLength).toNat =
      (head.length + payloadLength.toNat + 3) % 2 ^ 32 := by
  have htwo : (2 : UInt32).toNat = 2 := rfl
  rw [totalLength]
  rw [UInt32.toNat_add, toNat_frameLengthField hhead, htwo]
  omega

/-- **Which lengths are refused**: not those that fit, nor those whose sums wrap around. -/
theorem refused_iff (hpos : 0 < head.length) (hhead : head.length ≤ 61) :
    Refused head payloadLength outCapacity ↔
      min 64 outCapacity.toNat < head.length + payloadLength.toNat + 3 ∧
        Unwrapped head.length payloadLength outCapacity := by
  have hlt : payloadLength.toNat < 2 ^ 32 := payloadLength.toNat_lt
  have hcapacity : outCapacity.toNat < 2 ^ 32 := outCapacity.toNat_lt
  have hbyte : (0xFF : UInt32).toNat = 255 := rfl
  have hmax : crsfTelemetryMaxFrameSize.toNat = 64 := rfl
  rw [Refused, Unwrapped]
  rw [UInt32.lt_iff_toNat_lt, UInt32.lt_iff_toNat_lt, UInt32.lt_iff_toNat_lt,
    toNat_frameLengthField hhead, toNat_totalLength hhead, hbyte, hmax]
  omega

theorem encodeInto_of_refused (h : Refused head payloadLength outCapacity) :
    encodeInto head payload payloadLength outFrame outCapacity = ⟨false, [], none⟩ := if_pos h

/-! ## A frame that fits -/

/-- The bytes of a frame. -/
def frameBytes (head : List UInt8) (payload : ℕ → UInt8) (payloadLength : ℕ) : List UInt8 :=
  let body := (List.range payloadLength).map payload
  [crsfAddressFlightController, UInt8.ofNat (head.length + payloadLength + 1)] ++
    (head ++ body) ++ [crsfCrc8DvbS2 (head ++ body)]

theorem length_frameBytes (head : List UInt8) (payload : ℕ → UInt8) (n : ℕ) :
    (frameBytes head payload n).length = head.length + n + 3 := by
  simp only [frameBytes, List.length_append, List.length_cons, List.length_nil, List.length_map,
    List.length_range]
  omega

theorem dataWrites_eq (hhead : head.length ≤ 61) :
    dataWrites head payload payloadLength =
      writesAt 0 ([crsfAddressFlightController,
        UInt8.ofNat (head.length + payloadLength.toNat + 1)] ++
          (head ++ (List.range payloadLength.toNat).map payload)) := by
  have hfield : (frameLengthField head payloadLength).toUInt8 =
      UInt8.ofNat (head.length + payloadLength.toNat + 1) := by
    apply UInt8.toNat_inj.mp
    rw [UInt32.toNat_toUInt8, toNat_frameLengthField hhead, UInt8.toNat_ofNat']
    omega
  unfold dataWrites
  dsimp only
  rw [hfield, ← List.append_assoc, writesAt_append 0 ([_, _] ++ head), Nat.zero_add,
    List.length_append]
  split_ifs with hpos
  · rfl
  · have hzero : payloadLength.toNat = 0 := Nat.eq_zero_of_not_pos fun hn =>
      hpos (UInt32.lt_iff_toNat_lt.mpr hn)
    rw [hzero]
    exact (List.append_nil _).symm

theorem toNat_lastIndex (hhead : head.length ≤ 61)
    (hfits : head.length + payloadLength.toNat + 3 ≤ 64) :
    (totalLength head payloadLength - 1).toNat = 2 + (head.length + payloadLength.toNat) := by
  have htotal := @toNat_totalLength head payloadLength hhead
  have hone : (1 : UInt32) ≤ totalLength head payloadLength := by
    rw [UInt32.le_iff_toNat_le, htotal]
    show 1 ≤ _
    omega
  rw [UInt32.toNat_sub_of_le _ _ hone, htotal]
  show _ - 1 = _
  omega

/-- **A frame that fits is stored byte by byte, once each.** -/
theorem encodeInto_of_fits (hpos : 0 < head.length)
    (hfits : head.length + payloadLength.toNat + 3 ≤ min 64 outCapacity.toNat) :
    encodeInto head payload payloadLength outFrame outCapacity =
      ⟨true, writesAt 0 (frameBytes head payload payloadLength.toNat),
        some (totalLength head payloadLength)⟩ := by
  have hmax : head.length + payloadLength.toNat + 3 ≤ 64 := hfits.trans (min_le_left _ _)
  have hhead : head.length ≤ 61 := by omega
  have haccepted : ¬ Refused head payloadLength outCapacity := fun hrefused =>
    absurd ((refused_iff hpos hhead).mp hrefused).1 (Nat.not_lt.mpr hfits)
  have hdata : (UInt32.ofNat head.length + payloadLength).toNat =
      (head ++ (List.range payloadLength.toNat).map payload).length := by
    rw [List.length_append, List.length_map, List.length_range, UInt32.toNat_add,
      toNat_ofNat_length hhead]
    omega
  let before := [crsfAddressFlightController,
    UInt8.ofNat (head.length + payloadLength.toNat + 1)]
  have hcrc := map_store_writesAt outFrame before
    (head ++ (List.range payloadLength.toNat).map payload)
  have hlength : before.length + (head.length + payloadLength.toNat) =
      (before ++ (head ++ (List.range payloadLength.toNat).map payload)).length := by
    rw [List.length_append, List.length_append, List.length_map, List.length_range]
  rw [encodeInto]
  rw [if_neg haccepted, dataWrites_eq hhead, hdata, toNat_lastIndex hhead hmax]
  dsimp only
  change EncodeResult.mk true (writesAt 0 (before ++ _) ++ [(before.length + _, crsfCrc8DvbS2
    ((List.range _).map fun i => store outFrame (writesAt 0 (before ++ _)) (before.length + i)))])
    _ = _
  rw [hcrc, frameBytes, writesAt_append 0 (before ++ (head ++ _)), Nat.zero_add, hlength]
  rfl

/-- **For a payload that does not wrap the sums around, this is `encodeFrame`.** -/
theorem encodeFrame_eq_encodeInto (hpos : 0 < head.length) (hhead : head.length ≤ 61)
    {bytes : List UInt8} (hlength : head.length + bytes.length + 1 < 2 ^ 32)
    (outFrame : ℕ → UInt8) : encodeFrame head bytes outCapacity =
      let encoded :=
        encodeInto head (bytes.getD · 0) (UInt32.ofNat bytes.length) outFrame outCapacity
      if encoded.result then
        some ((List.range (head.length + bytes.length + 3)).map (store outFrame encoded.writes))
      else none := by
  have hbytes : (UInt32.ofNat bytes.length).toNat = bytes.length :=
    UInt32.toNat_ofNat_of_lt' (lt_of_le_of_lt (by omega : _ ≤ 2 ^ 32 - 1) (by decide))
  by_cases hfits : head.length + bytes.length + 3 ≤ min 64 outCapacity.toNat
  · obtain ⟨hmax, hcapacity⟩ := le_min_iff.mp hfits
    have hpayload : (List.range bytes.length).map (bytes.getD · 0) = bytes := by
      apply List.ext_getElem
      · rw [List.length_map, List.length_range]
      · intro i hi hi'
        rw [List.getElem_map, List.getElem_range, List.getD_eq_getElem _ _ hi']
    have hread := map_store_writesAt outFrame [] (frameBytes head (bytes.getD · 0) bytes.length)
    simp only [length_frameBytes, List.length_nil, Nat.zero_add, List.nil_append] at hread
    rw [encodeInto_of_fits hpos (by rwa [hbytes]), encodeFrame_eq_some hmax hcapacity]
    dsimp only
    rw [if_pos rfl, hbytes, hread, frameBytes, hpayload]
  · have hrefused : Refused head (UInt32.ofNat bytes.length) outCapacity :=
      (refused_iff hpos hhead).mpr ⟨by omega, .inl (by omega)⟩
    have hnone : encodeFrame head bytes outCapacity = none := if_pos hrefused
    rw [encodeInto_of_refused hrefused, hnone]
    rfl

/-! ## Exact checks -/

/-- The checks are those of exact arithmetic for a frame of `size` bytes: what fits is stored, and
its length is reported; what does not fit leaves the buffer and the length. -/
structure SizeChecked (size : ℕ) (outCapacity : UInt32) (encoded : EncodeResult) : Prop where
  result : encoded.result = true ↔ size ≤ min 64 outCapacity.toNat
  accepted : encoded.result = true → encoded.writes.map Prod.fst = List.range size ∧
    encoded.outLength.map UInt32.toNat = some size
  refused : encoded.result = false → encoded.writes = [] ∧ encoded.outLength = none

/-- **The checks are exact unless the sums wrap around.** -/
theorem sizeChecked_iff (hpos : 0 < head.length) (hhead : head.length ≤ 61) :
    SizeChecked (head.length + payloadLength.toNat + 3) outCapacity
        (encodeInto head payload payloadLength outFrame outCapacity) ↔
      Unwrapped head.length payloadLength outCapacity := by
  by_cases hfits : head.length + payloadLength.toNat + 3 ≤ min 64 outCapacity.toNat
  · have hmax : head.length + payloadLength.toNat + 3 ≤ 64 := hfits.trans (min_le_left _ _)
    rw [encodeInto_of_fits hpos hfits]
    refine iff_of_true ⟨iff_of_true rfl hfits, fun _ => ⟨?_, ?_⟩, nofun⟩ (.inl (by omega))
    · rw [map_fst_writesAt, length_frameBytes, List.range_eq_range']
    · rw [Option.map_some, toNat_totalLength hhead, Nat.mod_eq_of_lt (by omega)]
  · have hrefused := @refused_iff head payloadLength outCapacity hpos hhead
    rw [and_iff_right (Nat.not_le.mp hfits)] at hrefused
    rw [← hrefused]
    constructor
    · intro hchecked
      by_contra haccepted
      have hresult :
          (encodeInto head payload payloadLength outFrame outCapacity).result = true := by
        rw [encodeInto, if_neg haccepted]
      exact hfits (hchecked.result.mp hresult)
    · intro h
      rw [encodeInto_of_refused h]
      exact ⟨iff_of_false nofun hfits, nofun, fun _ => ⟨rfl, rfl⟩⟩

/-! ## The custom frame -/

/-- What `crsf_telemetry_service_queue_custom_broadcast` stores in: `custom_frame` with the memory
behind it, and three more fields. -/
structure CustomSlot where
  customFrame : ℕ → UInt8
  customFrameLength : UInt32
  customPending : Bool
  encodeErrors : UInt32

def CustomSlot.encode (slot : CustomSlot) (frameType : UInt8) (payload : ℕ → UInt8)
    (payloadLength : UInt32) : EncodeResult :=
  encodeBroadcastInto frameType payload payloadLength slot.customFrame crsfTelemetryMaxFrameSize

/-- `crsf_telemetry_service_queue_custom_broadcast`. -/
def CustomSlot.queueCustomBroadcast (slot : CustomSlot) (frameType : UInt8) (payload : ℕ → UInt8)
    (payloadLength : UInt32) : Bool × CustomSlot :=
  let encoded := slot.encode frameType payload payloadLength
  let slot := { slot with customFrame := store slot.customFrame encoded.writes }
  if ¬ encoded.result then (false, { slot with encodeErrors := slot.encodeErrors + 1 })
  else (true, { slot with
    customFrameLength := encoded.outLength.getD 0
    customPending := true })

/-- The service has the frame, the flag and the count of the slot. -/
structure SlotOf (service : CrsfTelemetryService) (slot : CustomSlot) : Prop where
  frame : service.customFrame =
    (List.range slot.customFrameLength.toNat).map slot.customFrame
  pending : service.customPending = slot.customPending
  encodeErrors : service.stats.encodeErrors = slot.encodeErrors

/-- **The slot is that of the service**, for a payload that does not wrap the sums around. -/
theorem slotOf_queueCustomBroadcast {service : CrsfTelemetryService} {slot : CustomSlot}
    (h : SlotOf service slot) (frameType : UInt8) {bytes : List UInt8}
    (hlength : bytes.length + 2 < 2 ^ 32) :
    (service.queueCustomBroadcast frameType bytes).1 =
        (slot.queueCustomBroadcast frameType (bytes.getD · 0) (UInt32.ofNat bytes.length)).1 ∧
      SlotOf (service.queueCustomBroadcast frameType bytes).2
        (slot.queueCustomBroadcast frameType (bytes.getD · 0) (UInt32.ofNat bytes.length)).2 := by
  have hpos : 0 < [frameType].length := Nat.one_pos
  have hhead : [frameType].length ≤ 61 := (by decide : 1 ≤ 61)
  have hbytes : (UInt32.ofNat bytes.length).toNat = bytes.length :=
    UInt32.toNat_ofNat_of_lt' (lt_of_le_of_lt (by omega : _ ≤ 2 ^ 32 - 1) (by decide))
  have hsame := @encodeFrame_eq_encodeInto [frameType] crsfTelemetryMaxFrameSize hpos hhead
    bytes (by rw [List.length_singleton]; omega) slot.customFrame
  unfold CrsfTelemetryService.queueCustomBroadcast crsfTelemetryEncodeBroadcast
    CustomSlot.queueCustomBroadcast CustomSlot.encode encodeBroadcastInto
  rw [hsame]
  by_cases hfits : [frameType].length + (UInt32.ofNat bytes.length).toNat + 3 ≤
      min 64 crsfTelemetryMaxFrameSize.toNat
  · have htotal : (totalLength [frameType] (UInt32.ofNat bytes.length)).toNat =
        [frameType].length + bytes.length + 3 := by
      rw [toNat_totalLength hhead, hbytes, List.length_singleton]
      omega
    rw [encodeInto_of_fits hpos hfits]
    refine ⟨rfl, ?_, rfl, h.encodeErrors⟩
    show _ = (List.range (totalLength [frameType] (UInt32.ofNat bytes.length)).toNat).map _
    rw [htotal]
    rfl
  · have hrefused : Refused [frameType] (UInt32.ofNat bytes.length) crsfTelemetryMaxFrameSize :=
      (refused_iff hpos hhead).mpr
        ⟨Nat.not_le.mp hfits, .inl (by rw [hbytes, List.length_singleton]; omega)⟩
    rw [encodeInto_of_refused hrefused]
    exact ⟨rfl, h.frame, h.pending, congrArg (· + 1) h.encodeErrors⟩

theorem mem_dataWrites (head : List UInt8) (payload : ℕ → UInt8) {index : ℕ}
    (hbefore : 2 + head.length ≤ index) (hbehind : index < 2 + head.length + payloadLength.toNat) :
    index ∈ (dataWrites head payload payloadLength).map Prod.fst := by
  have hpos : 0 < payloadLength := UInt32.lt_iff_toNat_lt.mpr (by show 0 < _; omega)
  unfold dataWrites
  dsimp only
  rw [if_pos hpos, List.map_append, map_fst_writesAt, map_fst_writesAt, List.length_map,
    List.length_range]
  exact List.mem_append_right _ (List.mem_range'_1.mpr ⟨hbefore, hbehind⟩)

/-- The call stays inside of `custom_frame`, and a refused call only counts itself. -/
structure CustomChecked (slot : CustomSlot) (frameType : UInt8) (payload : ℕ → UInt8)
    (payloadLength : UInt32) : Prop where
  inside : ∀ write ∈ (slot.encode frameType payload payloadLength).writes, write.1 < 64
  refused : (slot.queueCustomBroadcast frameType payload payloadLength).1 = false →
    (slot.queueCustomBroadcast frameType payload payloadLength).2 =
      { slot with encodeErrors := slot.encodeErrors + 1 }

/-- An accepted payload whose sums wrap around is copied beyond `custom_frame`. -/
theorem exists_write_beyond (slot : CustomSlot) {frameType : UInt8} (payload : ℕ → UInt8)
    {payloadLength : UInt32}
    (haccepted : ¬ Refused [frameType] payloadLength crsfTelemetryMaxFrameSize)
    (hwrapped : 2 ^ 32 ≤ payloadLength.toNat + 2) :
    ∃ write ∈ (slot.encode frameType payload payloadLength).writes, write.1 = 64 := by
  have hbehind : 64 < 2 + [frameType].length + payloadLength.toNat := by
    rw [List.length_singleton]
    omega
  obtain ⟨write, hwrite, hindex⟩ := List.mem_map.mp
    (@mem_dataWrites payloadLength [frameType] payload 64 (by decide : 2 + 1 ≤ 64) hbehind)
  refine ⟨write, ?_, hindex⟩
  rw [CustomSlot.encode, encodeBroadcastInto, encodeInto]
  rw [if_neg haccepted]
  exact List.mem_append_left _ hwrite

theorem customChecked_of_fits (slot : CustomSlot) {frameType : UInt8} (payload : ℕ → UInt8)
    {payloadLength : UInt32} (hfits : [frameType].length + payloadLength.toNat + 3 ≤
      min 64 crsfTelemetryMaxFrameSize.toNat) :
    CustomChecked slot frameType payload payloadLength := by
  have hmax : [frameType].length + payloadLength.toNat + 3 ≤ 64 := hfits.trans (min_le_left _ _)
  have hencode : slot.encode frameType payload payloadLength = _ :=
    encodeInto_of_fits Nat.one_pos hfits
  constructor
  · rw [hencode]
    intro write hwrite
    have hindex := List.mem_map_of_mem (f := Prod.fst) hwrite
    rw [map_fst_writesAt, length_frameBytes, ← List.range_eq_range', List.mem_range] at hindex
    exact hindex.trans_le hmax
  · rw [CustomSlot.queueCustomBroadcast, hencode]
    nofun

theorem customChecked_of_refused (slot : CustomSlot) {frameType : UInt8} (payload : ℕ → UInt8)
    {payloadLength : UInt32}
    (h : Refused [frameType] payloadLength crsfTelemetryMaxFrameSize) :
    CustomChecked slot frameType payload payloadLength := by
  have hencode : slot.encode frameType payload payloadLength = _ := encodeInto_of_refused h
  constructor
  · rw [hencode]
    nofun
  · rw [CustomSlot.queueCustomBroadcast, hencode]
    exact fun _ => rfl

theorem customChecked_iff (slot : CustomSlot) (frameType : UInt8) (payload : ℕ → UInt8)
    (payloadLength : UInt32) :
    CustomChecked slot frameType payload payloadLength ↔
      Unwrapped 1 payloadLength crsfTelemetryMaxFrameSize := by
  have hpos : 0 < [frameType].length := Nat.one_pos
  have hhead : [frameType].length ≤ 61 := (by decide : 1 ≤ 61)
  by_cases hfits : [frameType].length + payloadLength.toNat + 3 ≤
      min 64 crsfTelemetryMaxFrameSize.toNat
  · have hmax : [frameType].length + payloadLength.toNat + 3 ≤ 64 := hfits.trans (min_le_left _ _)
    rw [List.length_singleton] at hmax
    exact iff_of_true (customChecked_of_fits slot payload hfits) (.inl (by omega))
  · have hrefused := @refused_iff [frameType] payloadLength crsfTelemetryMaxFrameSize hpos hhead
    rw [and_iff_right (Nat.not_le.mp hfits), List.length_singleton] at hrefused
    rw [← hrefused]
    constructor
    · intro hchecked
      by_contra haccepted
      have hwrapped : 2 ^ 32 ≤ payloadLength.toNat + 2 := by
        have hnot := not_or.mp (hrefused.not.mp haccepted)
        omega
      obtain ⟨write, hwrite, hindex⟩ := exists_write_beyond slot payload haccepted hwrapped
      have hinside := hchecked.inside write hwrite
      rw [hindex] at hinside
      exact absurd hinside (by decide)
    · exact customChecked_of_refused slot payload

/-- **The size checks are exact, for a broadcast, an extended and a custom frame, unless their
sums wrap around.** -/
theorem frameSizes_iff (frameType destination origin : UInt8) (payload : ℕ → UInt8)
    (payloadLength : UInt32) (outFrame : ℕ → UInt8) (outCapacity : UInt32) (slot : CustomSlot) :
    (SizeChecked (payloadLength.toNat + 4) outCapacity
        (encodeBroadcastInto frameType payload payloadLength outFrame outCapacity) ↔
      Unwrapped 1 payloadLength outCapacity) ∧
    (SizeChecked (payloadLength.toNat + 6) outCapacity
        (encodeExtendedInto frameType destination origin payload payloadLength outFrame
          outCapacity) ↔
      Unwrapped 3 payloadLength outCapacity) ∧
    (CustomChecked slot frameType payload payloadLength ↔
      Unwrapped 1 payloadLength crsfTelemetryMaxFrameSize) := by
  refine ⟨?_, ?_, customChecked_iff slot frameType payload payloadLength⟩
  · have hsize : payloadLength.toNat + 4 = [frameType].length + payloadLength.toNat + 3 := by
      rw [List.length_singleton]
      omega
    rw [hsize]
    exact sizeChecked_iff Nat.one_pos (by decide : 1 ≤ 61)
  · have hsize : payloadLength.toNat + 6 =
        [frameType, destination, origin].length + payloadLength.toNat + 3 := by
      show _ = 3 + payloadLength.toNat + 3
      omega
    rw [hsize]
    exact sizeChecked_iff (by decide : 0 < 3) (by decide : 3 ≤ 61)

/-- The size of a frame with 0xFFFFFFFE bytes of payload wraps around to 2, and is accepted. -/
theorem largest_payload_accepted :
    ¬ ∀ (frameType : UInt8) (payload : ℕ → UInt8) (payloadLength : UInt32) (outFrame : ℕ → UInt8)
      (outCapacity : UInt32), SizeChecked (payloadLength.toNat + 4) outCapacity
        (encodeBroadcastInto frameType payload payloadLength outFrame outCapacity) := by
  intro h
  have hresult : (encodeBroadcastInto 0x7F (fun _ => 0) 0xFFFFFFFE (fun _ => 0) 64).result =
      true := by
    rw [encodeBroadcastInto, encodeInto]
    rw [if_neg (by decide)]
  exact absurd ((h 0x7F (fun _ => 0) 0xFFFFFFFE (fun _ => 0) 64).result.mp hresult) (by decide)

end RadioConnection
