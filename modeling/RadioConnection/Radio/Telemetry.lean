import RadioConnection.Radio.Crsf

/-!
# The telemetry encoders

`crsf_telemetry.c`: two encoders that frame a payload, and four that build the
payload of one kind of frame.  `size_t` has 32 bits, as on the target.

* `encodeFrame_eq_some`: what fits is framed.
* `boundedStringLength_lt_iff`: when a string ends inside its field.
* `crsfTelemetryEncodeDeviceInfo_cases`: which names can be sent.
-/

namespace RadioConnection

def crsfTelemetryMaxFrameSize : UInt32 := 64
def crsfTelemetryDeviceNameMax : ℕ := 31
def crsfTelemetryFlightModeMax : ℕ := 15
def crsfAddressFlightController : UInt8 := 0xC8
def crsfFrameTypeBatterySensor : UInt8 := 0x08
def crsfFrameTypeHeartbeat : UInt8 := 0x0B
def crsfFrameTypeFlightMode : UInt8 := 0x21
def crsfFrameTypeDeviceInfo : UInt8 := 0x29
def crsfCrcSize : UInt32 := 1
def crsfCapacityMax : UInt32 := 0xFFFFFF

structure CrsfBatteryTelemetry where
  voltageMv : UInt32
  currentMa : UInt32
  consumedMah : UInt32
  remainingPercent : UInt8
  deriving DecidableEq, Repr

structure CrsfDeviceInfo where
  name : Vector UInt8 (crsfTelemetryDeviceNameMax + 1)
  serialNumber : UInt32
  hardwareId : UInt32
  firmwareId : UInt32
  parameterCount : UInt8
  parameterVersion : UInt8
  deriving DecidableEq

/-! ## The fields of a payload -/

/-- `bounded_string_length`; the end of the list is a NUL. -/
def boundedStringLength : List UInt8 → ℕ → ℕ
  | [], _ => 0
  | _ :: _, 0 => 0
  | c :: text, maxLength + 1 => if c ≠ 0 then boundedStringLength text maxLength + 1 else 0

def writeU16Be (value : UInt16) : List UInt8 := [(value >>> 8).toUInt8, value.toUInt8]

def writeU24Be (value : UInt32) : List UInt8 :=
  [(value >>> 16).toUInt8, (value >>> 8).toUInt8, value.toUInt8]

def writeU32Be (value : UInt32) : List UInt8 :=
  [(value >>> 24).toUInt8, (value >>> 16).toUInt8, (value >>> 8).toUInt8, value.toUInt8]

def roundedTenthUnits (milliUnits : UInt32) : UInt16 :=
  let value := (milliUnits + 50) / 100
  if 0xFFFF < value then 0xFFFF else value.toUInt16

/-! ## Frames -/

/-- The two framing encoders: `head` is what stands between the length and the payload.  The
result is the first `*out_length` bytes of `out_frame`. -/
def encodeFrame (head payload : List UInt8) (outCapacity : UInt32) : Option (List UInt8) :=
  let frameLengthField := UInt32.ofNat head.length + UInt32.ofNat payload.length + crsfCrcSize
  let totalLength := frameLengthField + 2
  if 0xFF < frameLengthField ∨ crsfTelemetryMaxFrameSize < totalLength ∨
      outCapacity < totalLength then none
  else
    some (([crsfAddressFlightController, frameLengthField.toUInt8] ++ (head ++ payload) ++
      [crsfCrc8DvbS2 (head ++ payload)]).take totalLength.toNat)

def crsfTelemetryEncodeBroadcast (frameType : UInt8) (payload : List UInt8) (outCapacity : UInt32) :
    Option (List UInt8) :=
  encodeFrame [frameType] payload outCapacity

def crsfTelemetryEncodeExtended (frameType destination origin : UInt8) (payload : List UInt8)
    (outCapacity : UInt32) : Option (List UInt8) :=
  encodeFrame [frameType, destination, origin] payload outCapacity

def crsfTelemetryEncodeBattery (battery : CrsfBatteryTelemetry) (outCapacity : UInt32) :
    Option (List UInt8) :=
  let consumedMah :=
    if crsfCapacityMax < battery.consumedMah then crsfCapacityMax else battery.consumedMah
  crsfTelemetryEncodeBroadcast crsfFrameTypeBatterySensor
    (writeU16Be (roundedTenthUnits battery.voltageMv) ++
      writeU16Be (roundedTenthUnits battery.currentMa) ++
      writeU24Be consumedMah ++
      [if 100 < battery.remainingPercent then 100 else battery.remainingPercent])
    outCapacity

def crsfTelemetryEncodeHeartbeat (origin : UInt8) (outCapacity : UInt32) : Option (List UInt8) :=
  crsfTelemetryEncodeBroadcast crsfFrameTypeHeartbeat [0, origin] outCapacity

def crsfTelemetryEncodeFlightMode (flightMode : List UInt8) (outCapacity : UInt32) :
    Option (List UInt8) :=
  let length := boundedStringLength flightMode (crsfTelemetryFlightModeMax + 1)
  if length = 0 ∨ crsfTelemetryFlightModeMax < length then none
  else
    crsfTelemetryEncodeBroadcast crsfFrameTypeFlightMode (flightMode.take length ++ [0]) outCapacity

def crsfTelemetryEncodeDeviceInfo (destination : UInt8) (deviceInfo : CrsfDeviceInfo)
    (outCapacity : UInt32) : Option (List UInt8) :=
  let nameLength := boundedStringLength deviceInfo.name.toList (crsfTelemetryDeviceNameMax + 1)
  if nameLength = 0 ∨ crsfTelemetryDeviceNameMax < nameLength then none
  else
    crsfTelemetryEncodeExtended crsfFrameTypeDeviceInfo destination crsfAddressFlightController
      (deviceInfo.name.toList.take nameLength ++ [0] ++
        writeU32Be deviceInfo.serialNumber ++ writeU32Be deviceInfo.hardwareId ++
        writeU32Be deviceInfo.firmwareId ++
        [deviceInfo.parameterCount, deviceInfo.parameterVersion])
      outCapacity

/-! ## Strings -/

theorem boundedStringLength_lt_iff (text : List UInt8) :
    boundedStringLength text text.length < text.length ↔ 0 ∈ text := by
  induction text with
  | nil => exact ⟨fun h => absurd h (Nat.lt_irrefl 0), fun h => absurd h List.not_mem_nil⟩
  | cons c text ih =>
    rw [List.length_cons, boundedStringLength, List.mem_cons]
    by_cases hc : c = 0
    · rw [if_neg (not_not.mpr hc)]
      exact ⟨fun _ => .inl hc.symm, fun _ => Nat.succ_pos _⟩
    · rw [if_pos hc, Nat.succ_lt_succ_iff, ih]
      exact ⟨.inr, fun h => h.resolve_left (Ne.symm hc)⟩

theorem boundedStringLength_pos_iff {c : UInt8} {text : List UInt8} {maxLength : ℕ} :
    0 < boundedStringLength (c :: text) (maxLength + 1) ↔ c ≠ 0 := by
  rw [boundedStringLength]
  split
  · exact ⟨fun _ => ‹c ≠ 0›, fun _ => Nat.succ_pos _⟩
  · exact ⟨fun h => absurd h (Nat.lt_irrefl 0), fun h => absurd h ‹¬ c ≠ 0›⟩

theorem boundedStringLength_copy (text rest : List UInt8) {maxLength : ℕ}
    (h : boundedStringLength text maxLength < maxLength) :
    boundedStringLength (text.take (boundedStringLength text maxLength) ++ 0 :: rest) maxLength =
      boundedStringLength text maxLength := by
  induction text generalizing maxLength with
  | nil =>
    cases maxLength with
    | zero => rfl
    | succ maxLength => rfl
  | cons c text ih =>
    cases maxLength with
    | zero => exact absurd h (Nat.not_lt_zero _)
    | succ maxLength =>
      rw [boundedStringLength] at h ⊢
      by_cases hc : c = 0
      · rw [if_neg (not_not.mpr hc)]
        rfl
      · rw [if_pos hc] at h ⊢
        rw [List.take_succ_cons, List.cons_append, boundedStringLength, if_pos hc,
          ih (Nat.lt_of_succ_lt_succ h)]

theorem boundedStringLength_le_length (text : List UInt8) (maxLength : ℕ) :
    boundedStringLength text maxLength ≤ text.length := by
  induction text generalizing maxLength with
  | nil => exact Nat.zero_le _
  | cons c text ih =>
    cases maxLength with
    | zero => exact Nat.zero_le _
    | succ maxLength =>
      rw [boundedStringLength]
      split
      · exact Nat.succ_le_succ (ih maxLength)
      · exact Nat.zero_le _

theorem crsfTelemetryEncodeFlightMode_copy (flightMode rest : List UInt8) (outCapacity : UInt32)
    (h : boundedStringLength flightMode (crsfTelemetryFlightModeMax + 1) ≤
      crsfTelemetryFlightModeMax) :
    crsfTelemetryEncodeFlightMode
        (flightMode.take (boundedStringLength flightMode (crsfTelemetryFlightModeMax + 1)) ++
          0 :: rest) outCapacity =
      crsfTelemetryEncodeFlightMode flightMode outCapacity := by
  unfold crsfTelemetryEncodeFlightMode
  rw [boundedStringLength_copy flightMode rest (Nat.lt_succ_of_le h)]
  dsimp only
  rw [List.take_left' (List.length_take_of_le (boundedStringLength_le_length _ _))]

/-! ## What can be encoded -/

/-- A frame of at most 64 bytes depends on the capacity alone. -/
theorem encodeFrame_eq {head payload : List UInt8} {outCapacity : UInt32}
    (hmax : head.length + payload.length + 3 ≤ 64) :
    encodeFrame head payload outCapacity =
      if outCapacity.toNat < head.length + payload.length + 3 then none
      else some ([crsfAddressFlightController, UInt8.ofNat (head.length + payload.length + 1)] ++
        (head ++ payload) ++ [crsfCrc8DvbS2 (head ++ payload)]) := by
  have hfield : UInt32.ofNat head.length + UInt32.ofNat payload.length + crsfCrcSize =
      UInt32.ofNat (head.length + payload.length + 1) := by
    rw [UInt32.ofNat_add, UInt32.ofNat_add]
    rfl
  have hbyte : (UInt32.ofNat (head.length + payload.length + 1)).toUInt8 =
      UInt8.ofNat (head.length + payload.length + 1) := by
    apply UInt8.toNat_inj.mp
    simp
  have htotal : UInt32.ofNat (head.length + payload.length + 1) + 2 =
      UInt32.ofNat (head.length + payload.length + 3) :=
    (UInt32.ofNat_add (head.length + payload.length + 1) 2).symm
  have hnat : ∀ n ≤ 64, (UInt32.ofNat n).toNat = n := fun n hn =>
    UInt32.toNat_ofNat_of_lt' (lt_of_le_of_lt hn (by decide))
  have hfits : (0xFF < UInt32.ofNat (head.length + payload.length + 1) ∨
      crsfTelemetryMaxFrameSize < UInt32.ofNat (head.length + payload.length + 3) ∨
      outCapacity < UInt32.ofNat (head.length + payload.length + 3)) ↔
        outCapacity.toNat < head.length + payload.length + 3 := by
    simp only [UInt32.lt_iff_toNat_lt, hnat _ hmax, hnat _ (by omega : head.length +
      payload.length + 1 ≤ 64)]
    constructor
    · rintro (h | h | h)
      · exact absurd h (by simp; omega)
      · exact absurd h (Nat.not_lt.mpr hmax)
      · exact h
    · exact fun h => .inr (.inr h)
  unfold encodeFrame
  rw [hfield]
  dsimp only
  rw [htotal, if_congr hfits rfl rfl, hnat _ hmax, List.take_of_length_le (by simp; omega), hbyte]

/-- **What fits into the frame is framed.** -/
theorem encodeFrame_eq_some {head payload : List UInt8} {outCapacity : UInt32}
    (hmax : head.length + payload.length + 3 ≤ 64)
    (hcap : head.length + payload.length + 3 ≤ outCapacity.toNat) :
    encodeFrame head payload outCapacity =
      some ([crsfAddressFlightController, UInt8.ofNat (head.length + payload.length + 1)] ++
        (head ++ payload) ++ [crsfCrc8DvbS2 (head ++ payload)]) := by
  rw [encodeFrame_eq hmax, if_neg (Nat.not_lt.mpr hcap)]

theorem encodeFrame_ne_nil {head payload frame : List UInt8} {outCapacity : UInt32}
    (h : encodeFrame head payload outCapacity = some frame) : frame ≠ [] := by
  unfold encodeFrame at h
  dsimp only at h
  set field := UInt32.ofNat head.length + UInt32.ofNat payload.length + crsfCrcSize
  split at h
  · cases h
  · next hfits =>
    obtain rfl := Option.some.inj h
    have hsmall : field.toNat ≤ 255 := by
      have hle := UInt32.not_lt.mp (not_or.mp hfits).1
      exact UInt32.le_iff_toNat_le.mp hle
    have htotal : (field + 2).toNat = field.toNat + 2 := by
      rw [UInt32.toNat_add]
      exact Nat.mod_eq_of_lt (by simp; omega)
    rw [htotal]
    exact List.cons_ne_nil _ _

theorem encodeFrame_isSome {head payload : List UInt8}
    (h : head.length + payload.length ≤ 61) :
    ∃ frame, encodeFrame head payload crsfTelemetryMaxFrameSize = some frame ∧ frame ≠ [] :=
  ⟨_, encodeFrame_eq_some (Nat.add_le_add_right h 3) (Nat.add_le_add_right h 3),
    List.cons_ne_nil _ _⟩

theorem crsfTelemetryEncodeBattery_isSome (battery : CrsfBatteryTelemetry) :
    ∃ frame, crsfTelemetryEncodeBattery battery crsfTelemetryMaxFrameSize = some frame ∧
      frame ≠ [] := by
  unfold crsfTelemetryEncodeBattery
  apply encodeFrame_isSome
  simp [writeU16Be, writeU24Be]

theorem crsfTelemetryEncodeHeartbeat_isSome (origin : UInt8) :
    ∃ frame, crsfTelemetryEncodeHeartbeat origin crsfTelemetryMaxFrameSize = some frame ∧
      frame ≠ [] := by
  unfold crsfTelemetryEncodeHeartbeat
  apply encodeFrame_isSome
  simp

theorem crsfTelemetryEncodeFlightMode_isSome {flightMode : List UInt8}
    (hpos : 0 < boundedStringLength flightMode (crsfTelemetryFlightModeMax + 1))
    (hmax : boundedStringLength flightMode (crsfTelemetryFlightModeMax + 1) ≤
      crsfTelemetryFlightModeMax) :
    ∃ frame, crsfTelemetryEncodeFlightMode flightMode crsfTelemetryMaxFrameSize = some frame ∧
      frame ≠ [] := by
  have hlength : (flightMode.take
      (boundedStringLength flightMode (crsfTelemetryFlightModeMax + 1))).length ≤ 15 :=
    (List.length_take_le _ _).trans hmax
  unfold crsfTelemetryEncodeFlightMode
  dsimp only
  rw [if_neg (by omega)]
  apply encodeFrame_isSome
  simp only [List.length_append, List.length_singleton]
  omega

/-- **A device can say who it is exactly when its name ends inside the field.** -/
theorem crsfTelemetryEncodeDeviceInfo_cases (destination : UInt8) {deviceInfo : CrsfDeviceInfo}
    (hname : deviceInfo.name.head ≠ 0) :
    (0 ∈ deviceInfo.name ∧ ∃ frame,
      crsfTelemetryEncodeDeviceInfo destination deviceInfo crsfTelemetryMaxFrameSize = some frame ∧
        frame ≠ []) ∨
    (0 ∉ deviceInfo.name ∧
      crsfTelemetryEncodeDeviceInfo destination deviceInfo crsfTelemetryMaxFrameSize = none) := by
  have hlength : deviceInfo.name.toList.length = crsfTelemetryDeviceNameMax + 1 :=
    Vector.length_toList
  have hpos : 0 < boundedStringLength deviceInfo.name.toList (crsfTelemetryDeviceNameMax + 1) := by
    obtain ⟨c, text, heq⟩ := List.exists_cons_of_length_eq_add_one hlength
    rw [heq, boundedStringLength_pos_iff]
    have hc : deviceInfo.name.head = c := by
      simp [Vector.head, ← Vector.getElem_toList, heq]
    rwa [← hc]
  have hmem := boundedStringLength_lt_iff deviceInfo.name.toList
  rw [hlength, Vector.mem_toList_iff] at hmem
  have htake := List.length_take_le (boundedStringLength deviceInfo.name.toList
    (crsfTelemetryDeviceNameMax + 1)) deviceInfo.name.toList
  unfold crsfTelemetryEncodeDeviceInfo
  dsimp only
  by_cases hnul : 0 ∈ deviceInfo.name
  · have hmax := hmem.mpr hnul
    rw [if_neg (by omega)]
    refine .inl ⟨hnul, encodeFrame_isSome ?_⟩
    simp only [List.length_append, List.length_cons, List.length_nil, writeU32Be]
    change _ < 32 at hmax
    omega
  · have hmax := mt hmem.mp hnul
    rw [if_pos (by omega)]
    exact .inr ⟨hnul, rfl⟩

end RadioConnection
