import RadioConnection.Radio.Telemetry

/-!
# The fields of a battery frame

`crsf_telemetry_encode_battery` rounds to tenths and saturates.  The rounding adds 50
in 32 bits before the saturation, so the fifty largest voltages and currents become 0.

* `toNat_roundedTenthUnits`: the rounding of the source, with its wrap-around.
* `batteryFields_encoded`: the fields of an encoded frame.
* `battery_exact_iff`: when they are the exact ones.
-/

namespace RadioConnection

/-! ## Big-endian numbers -/

/-- The bytes as one number, the first byte most significant. -/
def bigEndian (bytes : List UInt8) : ℕ :=
  bytes.foldl (fun value byte => 256 * value + byte.toNat) 0

theorem bigEndian_writeU16Be (value : UInt16) : bigEndian (writeU16Be value) = value.toNat := by
  have hlt : value.toNat < 65536 := value.toNat_lt
  have hhigh : (value >>> 8).toUInt8.toNat = value.toNat / 2 ^ 8 % 2 ^ 8 := by
    rw [UInt16.toNat_toUInt8, UInt16.toNat_shiftRight]
    exact congrArg (· % 2 ^ 8) (Nat.shiftRight_eq_div_pow _ _)
  show 256 * (256 * 0 + (value >>> 8).toUInt8.toNat) + value.toUInt8.toNat = value.toNat
  rw [hhigh, UInt16.toNat_toUInt8]
  omega

theorem bigEndian_writeU24Be {value : UInt32} (h : value.toNat < 2 ^ 24) :
    bigEndian (writeU24Be value) = value.toNat := by
  have hbyte (n : UInt32) (hn : n.toNat < 32) :
      (value >>> n).toUInt8.toNat = value.toNat / 2 ^ n.toNat % 2 ^ 8 := by
    rw [UInt32.toNat_toUInt8, UInt32.toNat_shiftRight, Nat.mod_eq_of_lt hn,
      Nat.shiftRight_eq_div_pow]
  have hhigh := hbyte 16 (by decide)
  have hmiddle := hbyte 8 (by decide)
  show 256 * (256 * (256 * 0 + (value >>> 16).toUInt8.toNat) + (value >>> 8).toUInt8.toNat) +
    value.toUInt8.toNat = value.toNat
  rw [hhigh, hmiddle, UInt32.toNat_toUInt8]
  show 256 * (256 * (256 * 0 + value.toNat / 2 ^ 16 % 2 ^ 8) + value.toNat / 2 ^ 8 % 2 ^ 8) +
    value.toNat % 2 ^ 8 = value.toNat
  omega

/-! ## Rounding -/

/-- Half a tenth still fits on top of the value. -/
def RoundsUp (milliUnits : UInt32) : Prop := milliUnits.toNat + 50 < 2 ^ 32

instance (milliUnits : UInt32) : Decidable (RoundsUp milliUnits) :=
  inferInstanceAs (Decidable (_ < _))

theorem toNat_roundedTenthUnits (milliUnits : UInt32) :
    (roundedTenthUnits milliUnits).toNat =
      min 65535 ((milliUnits.toNat + 50) % 2 ^ 32 / 100) := by
  have hvalue : ((milliUnits + 50) / 100).toNat = (milliUnits.toNat + 50) % 2 ^ 32 / 100 := by
    rw [UInt32.toNat_div, UInt32.toNat_add]
    rfl
  have hlimit : 0xFFFF < (milliUnits + 50) / 100 ↔
      65535 < (milliUnits.toNat + 50) % 2 ^ 32 / 100 := by
    rw [UInt32.lt_iff_toNat_lt, hvalue]
    rfl
  unfold roundedTenthUnits
  dsimp only
  by_cases hlarge : 65535 < (milliUnits.toNat + 50) % 2 ^ 32 / 100
  · rw [if_pos (hlimit.mpr hlarge), min_eq_left hlarge.le]
    rfl
  · rw [if_neg (hlimit.not.mpr hlarge), UInt32.toNat_toUInt16, hvalue,
      min_eq_right (Nat.not_lt.mp hlarge)]
    omega

/-- **The rounding is exact unless its sum wraps around.** -/
theorem roundedTenthUnits_exact_iff (milliUnits : UInt32) :
    (roundedTenthUnits milliUnits).toNat = min 65535 ((milliUnits.toNat + 50) / 100) ↔
      RoundsUp milliUnits := by
  have hlt : milliUnits.toNat < 2 ^ 32 := milliUnits.toNat_lt
  rw [toNat_roundedTenthUnits]
  rw [RoundsUp]
  constructor
  · intro hexact
    by_contra hwrap
    -- the sum is 0 to 49, which is no tenth
    have hzero : (milliUnits.toNat + 50) % 2 ^ 32 / 100 = 0 := by omega
    rw [hzero] at hexact
    omega
  · intro hfits
    rw [Nat.mod_eq_of_lt hfits]

/-! ## The frame -/

structure BatteryFields where
  voltage : ℕ
  current : ℕ
  capacity : ℕ
  percentage : ℕ
  deriving DecidableEq, Repr

/-- The fields of a battery frame, behind its three bytes of header. -/
def batteryFields (frame : List UInt8) : BatteryFields where
  voltage := bigEndian ((frame.drop 3).take 2)
  current := bigEndian ((frame.drop 5).take 2)
  capacity := bigEndian ((frame.drop 7).take 3)
  percentage := bigEndian ((frame.drop 10).take 1)

/-- Rounded and saturated in exact arithmetic. -/
def exactFields (battery : CrsfBatteryTelemetry) : BatteryFields where
  voltage := min 65535 ((battery.voltageMv.toNat + 50) / 100)
  current := min 65535 ((battery.currentMa.toNat + 50) / 100)
  capacity := min (2 ^ 24 - 1) battery.consumedMah.toNat
  percentage := min 100 battery.remainingPercent.toNat

theorem toNat_capacity (consumedMah : UInt32) :
    (if crsfCapacityMax < consumedMah then crsfCapacityMax else consumedMah).toNat =
      min (2 ^ 24 - 1) consumedMah.toNat := by
  have hlimit : crsfCapacityMax < consumedMah ↔ 2 ^ 24 - 1 < consumedMah.toNat :=
    UInt32.lt_iff_toNat_lt
  split_ifs with hlarge
  · exact (min_eq_left (hlimit.mp hlarge).le).symm
  · exact (min_eq_right (Nat.not_lt.mp (hlimit.not.mp hlarge))).symm

theorem toNat_percentage (remainingPercent : UInt8) :
    (if 100 < remainingPercent then 100 else remainingPercent).toNat =
      min 100 remainingPercent.toNat := by
  have hlimit : 100 < remainingPercent ↔ 100 < remainingPercent.toNat := UInt8.lt_iff_toNat_lt
  split_ifs with hlarge
  · exact (min_eq_left (hlimit.mp hlarge).le).symm
  · exact (min_eq_right (Nat.not_lt.mp (hlimit.not.mp hlarge))).symm

/-- **The fields of an encoded battery**: two rounded by the source, two saturated. -/
theorem batteryFields_encoded (battery : CrsfBatteryTelemetry) {outCapacity : UInt32}
    (hcapacity : 12 ≤ outCapacity.toNat) :
    ∃ frame, crsfTelemetryEncodeBattery battery outCapacity = some frame ∧ frame.length = 12 ∧
      batteryFields frame =
        { exactFields battery with
          voltage := (roundedTenthUnits battery.voltageMv).toNat
          current := (roundedTenthUnits battery.currentMa).toNat } := by
  have hsmall : (if crsfCapacityMax < battery.consumedMah then crsfCapacityMax
      else battery.consumedMah).toNat < 2 ^ 24 := by
    rw [toNat_capacity]
    exact (min_le_left _ _).trans_lt (by decide)
  refine ⟨_, encodeFrame_eq_some (by simp [writeU16Be, writeU24Be]) ?_, ?_, ?_⟩
  · simp only [writeU16Be, writeU24Be, List.length_append, List.length_cons, List.length_nil]
    exact hcapacity
  · simp [writeU16Be, writeU24Be]
  · have hcapacityField := bigEndian_writeU24Be hsmall
    have hpercentage := toNat_percentage battery.remainingPercent
    rw [batteryFields, exactFields]
    rw [← bigEndian_writeU16Be, ← bigEndian_writeU16Be, ← toNat_capacity, ← hcapacityField,
      ← hpercentage]
    congr 1
    show 256 * 0 + _ = _
    rw [Nat.mul_zero, Nat.zero_add]

def EncodesExactly (battery : CrsfBatteryTelemetry) (outCapacity : UInt32) : Prop :=
  ∃ frame, crsfTelemetryEncodeBattery battery outCapacity = some frame ∧
    batteryFields frame = exactFields battery

/-- The voltage and the current may be rounded up. -/
def Roundable (battery : CrsfBatteryTelemetry) : Prop :=
  RoundsUp battery.voltageMv ∧ RoundsUp battery.currentMa

instance (battery : CrsfBatteryTelemetry) : Decidable (Roundable battery) :=
  inferInstanceAs (Decidable (_ ∧ _))

/-- No field of the first is larger. -/
structure BatteryFields.Below (fields fields' : BatteryFields) : Prop where
  voltage : fields.voltage ≤ fields'.voltage
  current : fields.current ≤ fields'.current
  capacity : fields.capacity ≤ fields'.capacity
  percentage : fields.percentage ≤ fields'.percentage

/-- No input of the first is larger. -/
structure CrsfBatteryTelemetry.Below (battery battery' : CrsfBatteryTelemetry) : Prop where
  voltageMv : battery.voltageMv ≤ battery'.voltageMv
  currentMa : battery.currentMa ≤ battery'.currentMa
  consumedMah : battery.consumedMah ≤ battery'.consumedMah
  remainingPercent : battery.remainingPercent ≤ battery'.remainingPercent

theorem exactFields_below {battery battery' : CrsfBatteryTelemetry} (h : battery.Below battery') :
    (exactFields battery).Below (exactFields battery') where
  voltage := min_le_min le_rfl
    (Nat.div_le_div_right (Nat.add_le_add_right (UInt32.le_iff_toNat_le.mp h.voltageMv) 50))
  current := min_le_min le_rfl
    (Nat.div_le_div_right (Nat.add_le_add_right (UInt32.le_iff_toNat_le.mp h.currentMa) 50))
  capacity := min_le_min le_rfl (UInt32.le_iff_toNat_le.mp h.consumedMah)
  percentage := min_le_min le_rfl (UInt8.le_iff_toNat_le.mp h.remainingPercent)

theorem encodesExactly_iff (battery : CrsfBatteryTelemetry) {outCapacity : UInt32}
    (hcapacity : 12 ≤ outCapacity.toNat) :
    EncodesExactly battery outCapacity ↔ Roundable battery := by
  obtain ⟨frame, hframe, -, hfields⟩ := batteryFields_encoded battery hcapacity
  constructor
  · rintro ⟨frame', hframe', hexact⟩
    obtain rfl := Option.some.inj (hframe.symm.trans hframe')
    rw [hfields] at hexact
    exact ⟨(roundedTenthUnits_exact_iff _).mp (congrArg BatteryFields.voltage hexact),
      (roundedTenthUnits_exact_iff _).mp (congrArg BatteryFields.current hexact)⟩
  · rintro ⟨hvoltage, hcurrent⟩
    refine ⟨frame, hframe, ?_⟩
    rw [hfields, (roundedTenthUnits_exact_iff _).mpr hvoltage,
      (roundedTenthUnits_exact_iff _).mpr hcurrent]
    rfl

/-- **A battery is encoded exactly when its voltage and its current may be rounded up**, and on
such batteries the fields are monotone. -/
theorem battery_exact_iff (battery : CrsfBatteryTelemetry) {outCapacity : UInt32}
    (hcapacity : 12 ≤ outCapacity.toNat) :
    (EncodesExactly battery outCapacity ↔ Roundable battery) ∧
      ∀ battery' frame frame', Roundable battery → Roundable battery' → battery.Below battery' →
        crsfTelemetryEncodeBattery battery outCapacity = some frame →
        crsfTelemetryEncodeBattery battery' outCapacity = some frame' →
        (batteryFields frame).Below (batteryFields frame') := by
  refine ⟨encodesExactly_iff battery hcapacity, ?_⟩
  intro battery' frame frame' hround hround' hbelow hframe hframe'
  obtain ⟨encoded, hencoded, hfields⟩ := (encodesExactly_iff battery hcapacity).mpr hround
  obtain ⟨encoded', hencoded', hfields'⟩ := (encodesExactly_iff battery' hcapacity).mpr hround'
  obtain rfl := Option.some.inj (hframe.symm.trans hencoded)
  obtain rfl := Option.some.inj (hframe'.symm.trans hencoded')
  rw [hfields, hfields']
  exact exactFields_below hbelow

def overVoltage : CrsfBatteryTelemetry := ⟨0xFFFFFFFF, 0, 0, 0⟩

theorem battery_exact_iff_overVoltage : ¬ EncodesExactly overVoltage 64 :=
  (battery_exact_iff overVoltage (by decide : 12 ≤ (64 : UInt32).toNat)).1.not.mpr (by decide)

/-- The largest voltage is encoded as zero. -/
theorem overVoltage_wraps :
    ¬ ∀ (battery : CrsfBatteryTelemetry) (outCapacity : UInt32), 12 ≤ outCapacity.toNat →
      EncodesExactly battery outCapacity := by
  intro h
  obtain ⟨frame, hframe, hexact⟩ := h overVoltage 64 (by decide)
  obtain ⟨frame', hframe', -, hfields⟩ :=
    batteryFields_encoded overVoltage (by decide : 12 ≤ (64 : UInt32).toNat)
  obtain rfl := Option.some.inj (hframe.symm.trans hframe')
  rw [hexact] at hfields
  exact absurd (congrArg BatteryFields.voltage hfields) (by decide)

end RadioConnection
