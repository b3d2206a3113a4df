import RadioConnection.Lib.Ramp
import RadioConnection.Radio.ChannelMapper

/-!
# Normalisation in exact arithmetic

The four modes of `rc_channel_mapper.c`, computed in 16 and 32 bits, against ramps over
the integers: an accepted entry leaves no room for an overflow or a division by zero.

* `Accepted`: what `rc_channel_map_entry_is_valid` accepts.
* `toInt_normalize`: the computed value is that of the ramp.
* `normalisation`: so it is bounded, monotone and exact at its ends, and so is the pulse.
-/

namespace RadioConnection

namespace RcChannelMapEntry

/-! ## Accepted entries -/

def oneSided (mode : RcChannelMode) : Prop := mode = .unipolar ∨ mode = .switch2pos

instance (mode : RcChannelMode) : Decidable (oneSided mode) := inferInstanceAs (Decidable (_ ∨ _))

/-- What an accepted entry has: its dead band lies inside of both spans. -/
structure Accepted (entry : RcChannelMapEntry) : Prop where
  source : 0 < entry.sourceChannel.toNat ∧ entry.sourceChannel.toNat ≤ rcMaxChannels
  function : entry.function ≠ .none
  lower : entry.rawMin.toNat + entry.deadband.toNat < entry.rawCenter.toNat
  upper : entry.rawCenter.toNat + entry.deadband.toNat < entry.rawMax.toNat

variable {entry : RcChannelMapEntry}

theorem accepted_of_isValid (h : entry.isValid = true) : Accepted entry := by
  rw [isValid] at h
  split_ifs at h with hsource hfunction hcenter
  rw [not_or, not_lt] at hsource
  rw [not_or, UInt16.not_le, UInt16.not_le] at hcenter
  have hlow := UInt16.lt_iff_toNat_lt.mp hcenter.1
  have hhigh := UInt16.lt_iff_toNat_lt.mp hcenter.2
  have hlowSub := UInt16.toNat_sub_of_le _ _ (UInt16.le_of_lt hcenter.1)
  have hhighSub := UInt16.toNat_sub_of_le _ _ (UInt16.le_of_lt hcenter.2)
  simp only [Bool.not_eq_true', Bool.or_eq_false_iff, decide_eq_false_iff_not, UInt16.not_le,
    UInt16.lt_iff_toNat_lt, hlowSub, hhighSub] at h
  refine ⟨⟨Nat.pos_of_ne_zero fun hz => hsource.1 (UInt8.toNat_inj.mp hz), hsource.2⟩, hfunction,
    by omega, by omega⟩

/-! ## Exact values -/

/-- The value of a channel at `x`, before a reversal. -/
def forward (entry : RcChannelMapEntry) (x : ℤ) : ℤ :=
  let center := toInt entry.rawCenter
  let deadband := toInt entry.deadband
  match entry.mode with
  | .centered =>
    Ramp.stick 1000 (toInt entry.rawMin) (center - deadband) (center + deadband)
      (toInt entry.rawMax) x
  | .unipolar => Ramp.rise 1000 (toInt entry.rawMin + deadband) (toInt entry.rawMax) x
  | .switch2pos => if center ≤ x then 1000 else 0
  | .switch3pos =>
    if x < center - deadband then -1000 else if center + deadband < x then 1000 else 0

def lowEnd (mode : RcChannelMode) : ℤ := if oneSided mode then 0 else -1000

/-- The value of a channel at `x`. -/
def exactValue (entry : RcChannelMapEntry) (x : ℤ) : ℤ :=
  if entry.reversed then lowEnd entry.mode + 1000 - entry.forward x else entry.forward x

/-- The pulse width for a value, before the clamp. -/
def exactPulse (mode : RcChannelMode) (value : ℤ) : ℤ :=
  if oneSided mode then 1000 + value else 1500 + value.tdiv 2

/-! ## No overflow -/

theorem toInt_nonneg (value : UInt16) : 0 ≤ toInt value := Int.natCast_nonneg _

theorem toInt_lt (value : UInt16) : toInt value < 65536 := Int.ofNat_lt.mpr value.toNat_lt

theorem toInt_le_toInt {a b : UInt16} : toInt a ≤ toInt b ↔ a ≤ b :=
  Int.ofNat_le.trans UInt16.le_iff_toNat_le.symm

theorem toInt_lt_toInt {a b : UInt16} : toInt a < toInt b ↔ a < b :=
  Int.ofNat_lt.trans UInt16.lt_iff_toNat_lt.symm

theorem toInt_sub {a b : UInt16} (h : b ≤ a) : toInt (a - b) = toInt a - toInt b := by
  unfold toInt
  rw [UInt16.toNat_sub_of_le _ _ h, Nat.cast_sub (UInt16.le_iff_toNat_le.mp h)]

theorem toInt_add {a b : UInt16} (h : toInt a + toInt b < 65536) :
    toInt (a + b) = toInt a + toInt b := by
  unfold toInt at h ⊢
  rw [UInt16.toNat_add, Nat.mod_eq_of_lt (by omega), Nat.cast_add]

theorem product_lt (x y : UInt16) : |(toInt x - toInt y) * 1000| < 2 ^ 31 := by
  have hx := toInt_nonneg x
  have hx' := toInt_lt x
  have hy := toInt_nonneg y
  have hy' := toInt_lt y
  rw [abs_lt]
  omega

theorem Accepted.bounds (h : Accepted entry) :
    toInt entry.rawMin + toInt entry.deadband < toInt entry.rawCenter ∧
      toInt entry.rawCenter + toInt entry.deadband < toInt entry.rawMax := by
  have hlower := h.lower
  have hupper := h.upper
  unfold toInt
  omega

theorem Accepted.lowerDeadband (h : Accepted entry) :
    toInt (entry.rawCenter - entry.deadband) = toInt entry.rawCenter - toInt entry.deadband := by
  apply toInt_sub
  have hlower := h.lower
  exact UInt16.le_iff_toNat_le.mpr (by omega)

theorem Accepted.upperDeadband (h : Accepted entry) :
    toInt (entry.rawCenter + entry.deadband) = toInt entry.rawCenter + toInt entry.deadband := by
  apply toInt_add
  have hupper := h.bounds.2
  have hmax := toInt_lt entry.rawMax
  omega

theorem Accepted.activeMin (h : Accepted entry) :
    toInt (entry.rawMin + entry.deadband) = toInt entry.rawMin + toInt entry.deadband := by
  apply toInt_add
  have hlower := h.bounds.1
  have hmax := toInt_lt entry.rawCenter
  omega

theorem toInt_ofInt {value : ℤ} (hlow : -1000 ≤ value) (hhigh : value ≤ 1000) :
    (Int16.ofInt value).toInt = value :=
  Int16.toInt_ofInt_of_le (by omega) (by omega)

theorem toInt_clampRaw {lo hi : UInt16} (h : toInt lo ≤ toInt hi) (rawValue : UInt16) :
    toInt (clampRaw rawValue lo hi) = max (toInt lo) (min (toInt rawValue) (toInt hi)) := by
  rw [clampRaw]
  split_ifs with hlo hhi
  · rw [max_eq_left (min_le_of_left_le (toInt_lt_toInt.mpr hlo).le)]
  · rw [min_eq_right (toInt_lt_toInt.mpr hhi).le, max_eq_right h]
  · rw [min_eq_left (toInt_le_toInt.mpr (UInt16.not_lt.mp hhi)),
      max_eq_right (toInt_le_toInt.mpr (UInt16.not_lt.mp hlo))]

/-! ## The modes -/

theorem toInt_quotient {lo hi x : ℤ} (hlt : lo < hi) (hlo : lo ≤ x) (hhi : x ≤ hi) :
    (Int16.ofInt (((x - lo) * rcNormalizedMax.toInt).tdiv (hi - lo))).toInt =
      Ramp.rise 1000 lo hi x := by
  have hnonneg := @Ramp.rise_nonneg 1000 lo hi x (by decide)
  have hle := @Ramp.rise_le 1000 lo hi x (by decide) hlt
  have hquotient : ((x - lo) * rcNormalizedMax.toInt).tdiv (hi - lo) = Ramp.rise 1000 lo hi x := by
    rw [Ramp.rise_of_between hlt hlo hhi]
    exact Int.tdiv_eq_ediv_of_nonneg (mul_nonneg (by omega) (by decide))
  rw [hquotient]
  exact toInt_ofInt (by omega) hle

theorem toInt_neg_quotient {lo hi x : ℤ} (hlt : lo < hi) (hlo : lo ≤ x) (hhi : x ≤ hi) :
    (Int16.ofInt ((-((hi - x) * rcNormalizedMax.toInt)).tdiv (hi - lo))).toInt =
      -Ramp.rise 1000 (-hi) (-lo) (-x) := by
  have hnonneg := @Ramp.rise_nonneg 1000 (-hi) (-lo) (-x) (by decide)
  have hle := @Ramp.rise_le 1000 (-hi) (-lo) (-x) (by decide) (by omega)
  have hquotient : ((hi - x) * rcNormalizedMax.toInt).tdiv (hi - lo) =
      Ramp.rise 1000 (-hi) (-lo) (-x) := by
    rw [Ramp.rise_of_between (by omega) (by omega) (by omega),
      Int.tdiv_eq_ediv_of_nonneg (mul_nonneg (by omega) (by decide)), neg_sub_neg, neg_sub_neg]
    rfl
  rw [Int.neg_tdiv, hquotient]
  exact toInt_ofInt (by omega) (by omega)

/-- The clamp of the source leaves a value between the limits of the entry. -/
theorem Accepted.clampRaw_bounds (h : Accepted entry) (rawValue : UInt16) :
    toInt entry.rawMin ≤ toInt (clampRaw rawValue entry.rawMin entry.rawMax) ∧
      toInt (clampRaw rawValue entry.rawMin entry.rawMax) ≤ toInt entry.rawMax := by
  obtain ⟨hlower, hupper⟩ := h.bounds
  have hdead := toInt_nonneg entry.deadband
  have hlimits : toInt entry.rawMin ≤ toInt entry.rawMax := by omega
  rw [toInt_clampRaw hlimits]
  exact ⟨le_max_left _ _, max_le hlimits (min_le_right _ _)⟩

theorem toInt_normalizeUnipolar (h : Accepted entry) (rawValue : UInt16) :
    (normalizeUnipolar rawValue entry).toInt =
      Ramp.rise 1000 (toInt entry.rawMin + toInt entry.deadband) (toInt entry.rawMax)
        (toInt rawValue) := by
  obtain ⟨hlower, hupper⟩ := h.bounds
  obtain ⟨hmin, hmax⟩ := h.clampRaw_bounds rawValue
  have hdead := toInt_nonneg entry.deadband
  have hlimits : toInt entry.rawMin ≤ toInt entry.rawMax := by omega
  have hclamp : Ramp.rise 1000 (toInt entry.rawMin + toInt entry.deadband) (toInt entry.rawMax)
      (toInt (clampRaw rawValue entry.rawMin entry.rawMax)) =
        Ramp.rise 1000 (toInt entry.rawMin + toInt entry.deadband) (toInt entry.rawMax)
          (toInt rawValue) := by
    rw [toInt_clampRaw hlimits]
    exact Ramp.rise_clamp (by omega) (by omega) le_rfl
  rw [← hclamp]
  rw [normalizeUnipolar]
  by_cases hlow : clampRaw rawValue entry.rawMin entry.rawMax ≤ entry.rawMin + entry.deadband
  · have hlow' := toInt_le_toInt.mpr hlow
    rw [h.activeMin] at hlow'
    rw [if_pos hlow, Ramp.rise_of_le hlow']
    rfl
  · have hhigh := toInt_lt_toInt.mpr (UInt16.not_le.mp hlow)
    rw [h.activeMin] at hhigh
    rw [if_neg hlow, h.activeMin]
    exact toInt_quotient (by omega) hhigh.le hmax

theorem toInt_normalizeCentered (h : Accepted entry) (rawValue : UInt16) :
    (normalizeCentered rawValue entry).toInt =
      Ramp.stick 1000 (toInt entry.rawMin) (toInt entry.rawCenter - toInt entry.deadband)
        (toInt entry.rawCenter + toInt entry.deadband) (toInt entry.rawMax) (toInt rawValue) := by
  obtain ⟨hlower, hupper⟩ := h.bounds
  obtain ⟨hmin, hmax⟩ := h.clampRaw_bounds rawValue
  have hdead := toInt_nonneg entry.deadband
  have hlimits : toInt entry.rawMin ≤ toInt entry.rawMax := by omega
  have hclamp := @Ramp.stick_clamp 1000 (toInt entry.rawMin) (toInt entry.rawMax) (toInt rawValue)
    (toInt entry.rawCenter - toInt entry.deadband) (toInt entry.rawCenter + toInt entry.deadband)
    (by omega) (by omega) (by omega)
  rw [← toInt_clampRaw hlimits] at hclamp
  rw [← hclamp]
  rw [normalizeCentered]
  dsimp only
  by_cases hbelow : clampRaw rawValue entry.rawMin entry.rawMax < entry.rawCenter - entry.deadband
  · have hbelow' := toInt_lt_toInt.mpr hbelow
    have hout : ¬ (entry.rawCenter - entry.deadband ≤ clampRaw rawValue entry.rawMin entry.rawMax ∧
        clampRaw rawValue entry.rawMin entry.rawMax ≤ entry.rawCenter + entry.deadband) :=
      fun hin => UInt16.not_le.mpr hbelow hin.1
    rw [h.lowerDeadband] at hbelow'
    rw [if_neg hout, if_pos hbelow, h.lowerDeadband, Ramp.stick_of_le (by omega) hbelow'.le]
    exact toInt_neg_quotient (by omega) hmin hbelow'.le
  · have hbelow' := toInt_le_toInt.mpr (UInt16.not_lt.mp hbelow)
    rw [h.lowerDeadband] at hbelow'
    by_cases habove : clampRaw rawValue entry.rawMin entry.rawMax ≤ entry.rawCenter + entry.deadband
    · have habove' := toInt_le_toInt.mpr habove
      rw [h.upperDeadband] at habove'
      rw [if_pos ⟨UInt16.not_lt.mp hbelow, habove⟩, Ramp.stick_of_dead hbelow' habove']
      rfl
    · have habove' := toInt_lt_toInt.mpr (UInt16.not_le.mp habove)
      rw [h.upperDeadband] at habove'
      rw [if_neg fun hin => habove hin.2, if_neg hbelow, h.upperDeadband,
        Ramp.stick_of_ge (by omega) habove'.le]
      exact toInt_quotient (by omega) habove'.le hmax

/-- **The computed value is the exact one**, before a reversal. -/
theorem toInt_normalize_forward (h : Accepted entry) (hreversed : entry.reversed = false)
    (rawValue : UInt16) : (entry.normalize rawValue).toInt = entry.forward (toInt rawValue) := by
  rw [normalize, applyReverse, forward]
  rw [hreversed]
  cases entry.mode with
  | centered => exact toInt_normalizeCentered h rawValue
  | unipolar => exact toInt_normalizeUnipolar h rawValue
  | switch2pos =>
    show (normalizeSwitch2pos rawValue entry).toInt = if _ ≤ _ then 1000 else 0
    rw [normalizeSwitch2pos, apply_ite Int16.toInt]
    exact if_congr toInt_le_toInt.symm rfl rfl
  | switch3pos =>
    show (normalizeSwitch3pos rawValue entry).toInt =
      if _ < _ then -1000 else if _ < _ then 1000 else 0
    rw [normalizeSwitch3pos, apply_ite Int16.toInt, apply_ite Int16.toInt, ← h.lowerDeadband,
      ← h.upperDeadband]
    exact if_congr toInt_lt_toInt.symm rfl (if_congr toInt_lt_toInt.symm rfl rfl)

/-! ## The exact values -/

theorem forward_bounds (h : Accepted entry) (x : ℤ) :
    lowEnd entry.mode ≤ entry.forward x ∧ entry.forward x ≤ 1000 := by
  obtain ⟨hlower, hupper⟩ := h.bounds
  have hdead := toInt_nonneg entry.deadband
  rw [forward]
  cases entry.mode with
  | centered =>
    exact ⟨Ramp.neg_le_stick (by decide) (by omega), Ramp.stick_le (by decide) (by omega)⟩
  | unipolar => exact ⟨Ramp.rise_nonneg (by decide), Ramp.rise_le (by decide) (by omega)⟩
  | switch2pos =>
    dsimp only
    split_ifs <;> decide
  | switch3pos =>
    dsimp only
    split_ifs <;> decide

/-- **The value does not fall.** -/
theorem forward_mono (h : Accepted entry) {x y : ℤ} (hxy : x ≤ y) :
    entry.forward x ≤ entry.forward y := by
  obtain ⟨hlower, hupper⟩ := h.bounds
  have hdead := toInt_nonneg entry.deadband
  unfold forward
  cases entry.mode with
  | centered => exact Ramp.stick_mono (by decide) (by omega) (by omega) hxy
  | unipolar => exact Ramp.rise_mono (by decide) (by omega) hxy
  | switch2pos =>
    dsimp only
    split_ifs <;> omega
  | switch3pos =>
    dsimp only
    split_ifs <;> omega

theorem forward_of_le_min (h : Accepted entry) {x : ℤ} (hx : x ≤ toInt entry.rawMin) :
    entry.forward x = lowEnd entry.mode := by
  obtain ⟨hlower, hupper⟩ := h.bounds
  have hdead := toInt_nonneg entry.deadband
  rw [forward]
  cases entry.mode with
  | centered =>
    show Ramp.stick 1000 _ _ _ _ x = -1000
    rw [Ramp.stick_of_le (by omega) (by omega), Ramp.rise_of_ge (by omega) (by omega)]
  | unipolar => exact Ramp.rise_of_le (by omega)
  | switch2pos => exact if_neg (by omega)
  | switch3pos => exact if_pos (by omega)

theorem forward_of_ge_max (h : Accepted entry) {x : ℤ} (hx : toInt entry.rawMax ≤ x) :
    entry.forward x = 1000 := by
  obtain ⟨hlower, hupper⟩ := h.bounds
  have hdead := toInt_nonneg entry.deadband
  rw [forward]
  cases entry.mode with
  | centered =>
    show Ramp.stick 1000 _ _ _ _ x = 1000
    rw [Ramp.stick_of_ge (by omega) (by omega), Ramp.rise_of_ge (by omega) (by omega)]
  | unipolar => exact Ramp.rise_of_ge (by omega) hx
  | switch2pos => exact if_pos (by omega)
  | switch3pos =>
    show (if x < _ then -1000 else if _ < x then 1000 else 0) = (1000 : ℤ)
    rw [if_neg (by omega), if_pos (by omega)]

theorem forward_of_dead (hmode : ¬ oneSided entry.mode) {x : ℤ}
    (hx : |x - toInt entry.rawCenter| ≤ toInt entry.deadband) : entry.forward x = 0 := by
  obtain ⟨hlow, hhigh⟩ := abs_le.mp hx
  rw [forward]
  cases hm : entry.mode with
  | centered => exact Ramp.stick_of_dead (by omega) (by omega)
  | unipolar => exact absurd (.inl hm) hmode
  | switch2pos => exact absurd (.inr hm) hmode
  | switch3pos =>
    show (if x < _ then -1000 else if _ < x then 1000 else 0) = (0 : ℤ)
    rw [if_neg (by omega), if_neg (by omega)]

/-! ## Reversal and pulses -/

theorem normalize_eq_applyReverse (entry : RcChannelMapEntry) (rawValue : UInt16) :
    entry.normalize rawValue =
      applyReverse ({ entry with reversed := false }.normalize rawValue) entry.mode
        entry.reversed := by
  rw [normalize]
  cases entry.mode <;> rfl

theorem toInt_applyReverse {value : Int16} {mode : RcChannelMode}
    (hlow : lowEnd mode ≤ value.toInt) (hhigh : value.toInt ≤ 1000) :
    (applyReverse value mode true).toInt = lowEnd mode + 1000 - value.toInt := by
  have hreverse : applyReverse value mode true =
      if oneSided mode then rcNormalizedMax - value else -value := rfl
  rw [lowEnd] at hlow ⊢
  rw [hreverse]
  by_cases hmode : oneSided mode
  · rw [if_pos hmode] at hlow ⊢
    rw [if_pos hmode, Int16.toInt_sub]
    show ((1000 : ℤ) - value.toInt).bmod (2 ^ 16) = _
    rw [Int.bmod_eq_of_le (by omega) (by omega), zero_add]
  · rw [if_neg hmode] at hlow ⊢
    rw [if_neg hmode, Int16.toInt_neg, Int.bmod_eq_of_le (by omega) (by omega)]
    omega

/-- **The computed value is the exact one.** -/
theorem toInt_normalize (h : Accepted entry) (rawValue : UInt16) :
    (entry.normalize rawValue).toInt = entry.exactValue (toInt rawValue) := by
  have hforward : ({ entry with reversed := false }.normalize rawValue).toInt =
      entry.forward (toInt rawValue) :=
    @toInt_normalize_forward { entry with reversed := false }
      ⟨h.source, h.function, h.lower, h.upper⟩ rfl rawValue
  obtain ⟨hlow, hhigh⟩ := forward_bounds h (toInt rawValue)
  rw [normalize_eq_applyReverse, exactValue]
  cases entry.reversed with
  | true =>
    rw [toInt_applyReverse (hforward ▸ hlow) (hforward ▸ hhigh), hforward, if_pos rfl]
  | false =>
    rw [if_neg nofun]
    exact hforward

theorem exactValue_not (entry : RcChannelMapEntry) (x : ℤ) :
    { entry with reversed := !entry.reversed }.exactValue x =
      if oneSided entry.mode then 1000 - entry.exactValue x else -entry.exactValue x := by
  have hforward : { entry with reversed := !entry.reversed }.forward x = entry.forward x := rfl
  unfold exactValue lowEnd
  rw [hforward]
  cases entry.reversed with
  | true =>
    simp only [Bool.not_true, Bool.false_eq_true, if_false, if_true]
    split_ifs <;> omega
  | false =>
    simp only [Bool.not_false, Bool.false_eq_true, if_false, if_true]
    split_ifs <;> omega

theorem exactValue_bounds (h : Accepted entry) (x : ℤ) :
    lowEnd entry.mode ≤ entry.exactValue x ∧ entry.exactValue x ≤ 1000 := by
  have hforward := forward_bounds h x
  rw [exactValue]
  split_ifs
  · omega
  · exact hforward

theorem tdiv_two (value : ℤ) :
    value.tdiv 2 = if 0 ≤ value then value / 2 else -(-value / 2) := by
  split_ifs with hsign
  · exact Int.tdiv_eq_ediv_of_nonneg hsign
  · rw [← Int.tdiv_eq_ediv_of_nonneg (by omega : 0 ≤ -value), Int.neg_tdiv, neg_neg]

theorem exactPulse_bounds {mode : RcChannelMode} {value : ℤ} (hlow : lowEnd mode ≤ value)
    (hhigh : value ≤ 1000) : 1000 ≤ exactPulse mode value ∧ exactPulse mode value ≤ 2000 := by
  rw [lowEnd] at hlow
  rw [exactPulse]
  rw [tdiv_two]
  split_ifs at hlow ⊢ <;> omega

theorem exactPulse_mono {mode : RcChannelMode} {value value' : ℤ} (h : value ≤ value') :
    exactPulse mode value ≤ exactPulse mode value' := by
  unfold exactPulse
  rw [tdiv_two, tdiv_two]
  split_ifs <;> omega

theorem toInt_uint16_ofInt {value : ℤ} (hlow : 0 ≤ value) (hhigh : value < 65536) :
    toInt (UInt16.ofInt value) = value := by
  have hmod : value % 2 ^ 16 = value := Int.emod_eq_of_lt hlow hhigh
  rw [toInt, UInt16.ofInt]
  rw [hmod, UInt16.toNat_ofNat', Nat.mod_eq_of_lt (by omega)]
  omega

/-- **The clamp of the pulse never changes it.** -/
theorem toInt_normalizedToPulseUs {mode : RcChannelMode} {value : Int16}
    (hlow : lowEnd mode ≤ value.toInt) (hhigh : value.toInt ≤ 1000) :
    toInt (normalizedToPulseUs value mode) = exactPulse mode value.toInt := by
  obtain ⟨hmin, hmax⟩ := exactPulse_bounds hlow hhigh
  have hclamp : normalizedToPulseUs value mode = UInt16.ofInt (exactPulse mode value.toInt) := by
    have hbelow : (if exactPulse mode value.toInt < rcPulseMinUs then rcPulseMinUs
        else exactPulse mode value.toInt) = exactPulse mode value.toInt :=
      if_neg (not_lt.mpr hmin)
    have habove : ¬ rcPulseMaxUs < exactPulse mode value.toInt := not_lt.mpr hmax
    show UInt16.ofInt (if rcPulseMaxUs < (if exactPulse mode value.toInt < rcPulseMinUs then
      rcPulseMinUs else exactPulse mode value.toInt) then rcPulseMaxUs else
        (if exactPulse mode value.toInt < rcPulseMinUs then rcPulseMinUs
          else exactPulse mode value.toInt)) = _
    rw [hbelow, if_neg habove]
  rw [hclamp]
  exact toInt_uint16_ofInt (by omega) (by omega)

/-! ## What an accepted entry computes -/

/-- The value of a channel, and the width of its pulse. -/
def valueAt (entry : RcChannelMapEntry) (rawValue : UInt16) : ℤ := (entry.normalize rawValue).toInt

def pulseAt (entry : RcChannelMapEntry) (rawValue : UInt16) : ℤ :=
  toInt (normalizedToPulseUs (entry.normalize rawValue) entry.mode)

/-- The arithmetic of the source is that of the integers: the 16-bit bounds of the dead band, the
spans that are divided by, the 32-bit products, and the conversions of the results. -/
structure ExactArithmetic (entry : RcChannelMapEntry) : Prop where
  lowerDeadband :
    toInt (entry.rawCenter - entry.deadband) = toInt entry.rawCenter - toInt entry.deadband
  upperDeadband :
    toInt (entry.rawCenter + entry.deadband) = toInt entry.rawCenter + toInt entry.deadband
  activeMin : toInt (entry.rawMin + entry.deadband) = toInt entry.rawMin + toInt entry.deadband
  lowerSpan : 0 < toInt (entry.rawCenter - entry.deadband) - toInt entry.rawMin
  upperSpan : 0 < toInt entry.rawMax - toInt (entry.rawCenter + entry.deadband)
  activeSpan : 0 < toInt entry.rawMax - toInt (entry.rawMin + entry.deadband)
  products : ∀ x y : UInt16, |(toInt x - toInt y) * rcNormalizedMax.toInt| < 2 ^ 31
  value : ∀ rawValue, entry.valueAt rawValue = entry.exactValue (toInt rawValue)
  pulse : ∀ rawValue, entry.pulseAt rawValue = exactPulse entry.mode (entry.valueAt rawValue)

/-- What the values and the pulses of a channel are. -/
structure Normalisation (entry : RcChannelMapEntry) : Prop where
  arithmetic : ExactArithmetic entry
  range : ∀ rawValue, lowEnd entry.mode ≤ entry.valueAt rawValue ∧ entry.valueAt rawValue ≤ 1000
  pulseRange : ∀ rawValue, 1000 ≤ entry.pulseAt rawValue ∧ entry.pulseAt rawValue ≤ 2000
  rising : entry.reversed = false → ∀ raw raw', raw ≤ raw' →
    entry.valueAt raw ≤ entry.valueAt raw' ∧ entry.pulseAt raw ≤ entry.pulseAt raw'
  falling : entry.reversed = true → ∀ raw raw', raw ≤ raw' →
    entry.valueAt raw' ≤ entry.valueAt raw ∧ entry.pulseAt raw' ≤ entry.pulseAt raw
  low : ∀ rawValue ≤ entry.rawMin,
    entry.valueAt rawValue = (if entry.reversed then 1000 else lowEnd entry.mode) ∧
      entry.pulseAt rawValue = if entry.reversed then 2000 else 1000
  high : ∀ rawValue ≥ entry.rawMax,
    entry.valueAt rawValue = (if entry.reversed then lowEnd entry.mode else 1000) ∧
      entry.pulseAt rawValue = if entry.reversed then 1000 else 2000
  dead : ¬ oneSided entry.mode → ∀ rawValue,
    |toInt rawValue - toInt entry.rawCenter| ≤ toInt entry.deadband → entry.valueAt rawValue = 0
  reverse : ∀ rawValue, { entry with reversed := !entry.reversed }.valueAt rawValue =
    if oneSided entry.mode then 1000 - entry.valueAt rawValue else -entry.valueAt rawValue

theorem exactArithmetic (h : Accepted entry) : ExactArithmetic entry := by
  obtain ⟨hlower, hupper⟩ := h.bounds
  have hdead := toInt_nonneg entry.deadband
  refine ⟨h.lowerDeadband, h.upperDeadband, h.activeMin, ?_, ?_, ?_, product_lt,
    toInt_normalize h, fun rawValue => ?_⟩
  · rw [h.lowerDeadband]
    omega
  · rw [h.upperDeadband]
    omega
  · rw [h.activeMin]
    omega
  · have hvalue := toInt_normalize h rawValue
    obtain ⟨hlow, hhigh⟩ := exactValue_bounds h (toInt rawValue)
    rw [← hvalue] at hlow hhigh
    exact toInt_normalizedToPulseUs hlow hhigh

theorem exactPulse_lowEnd (mode : RcChannelMode) : exactPulse mode (lowEnd mode) = 1000 := by
  rw [exactPulse, lowEnd]
  split_ifs <;> decide

theorem exactPulse_high (mode : RcChannelMode) : exactPulse mode 1000 = 2000 := by
  rw [exactPulse]
  split_ifs <;> decide

theorem exactValue_mono (h : Accepted entry) (hreversed : entry.reversed = false) {x y : ℤ}
    (hle : x ≤ y) : entry.exactValue x ≤ entry.exactValue y := by
  have hforward : ¬ entry.reversed = true := Bool.eq_false_iff.mp hreversed
  rw [exactValue, exactValue, if_neg hforward, if_neg hforward]
  exact forward_mono h hle

theorem exactValue_antitone (h : Accepted entry) (hreversed : entry.reversed = true) {x y : ℤ}
    (hle : x ≤ y) : entry.exactValue y ≤ entry.exactValue x := by
  have hforward := forward_mono h hle
  rw [exactValue, exactValue, if_pos hreversed, if_pos hreversed]
  omega

/-- **Normalisation is total, bounded, monotone and exact at its ends**, for every accepted
entry. -/
theorem normalisation (h : entry.isValid = true) : Normalisation entry := by
  have haccepted := accepted_of_isValid h
  have harithmetic := exactArithmetic haccepted
  have hbounds (rawValue : UInt16) := exactValue_bounds haccepted (toInt rawValue)
  refine ⟨harithmetic, ?_, ?_, ?_, ?_, ?_, ?_, ?_, ?_⟩
  · intro rawValue
    rw [harithmetic.value]
    exact hbounds rawValue
  · intro rawValue
    rw [harithmetic.pulse, harithmetic.value]
    exact exactPulse_bounds (hbounds rawValue).1 (hbounds rawValue).2
  · intro hreversed raw raw' hle
    have hvalue : entry.valueAt raw ≤ entry.valueAt raw' := by
      rw [harithmetic.value, harithmetic.value]
      exact exactValue_mono haccepted hreversed (toInt_le_toInt.mpr hle)
    rw [harithmetic.pulse, harithmetic.pulse]
    exact ⟨hvalue, exactPulse_mono hvalue⟩
  · intro hreversed raw raw' hle
    have hvalue : entry.valueAt raw' ≤ entry.valueAt raw := by
      rw [harithmetic.value, harithmetic.value]
      exact exactValue_antitone haccepted hreversed (toInt_le_toInt.mpr hle)
    rw [harithmetic.pulse, harithmetic.pulse]
    exact ⟨hvalue, exactPulse_mono hvalue⟩
  · intro rawValue hle
    rw [harithmetic.pulse, harithmetic.value, exactValue,
      forward_of_le_min haccepted (toInt_le_toInt.mpr hle)]
    split_ifs
    · rw [add_sub_cancel_left, exactPulse_high]
      exact ⟨rfl, rfl⟩
    · rw [exactPulse_lowEnd]
      exact ⟨rfl, rfl⟩
  · intro rawValue hge
    rw [harithmetic.pulse, harithmetic.value, exactValue,
      forward_of_ge_max haccepted (toInt_le_toInt.mpr hge)]
    split_ifs
    · rw [add_sub_cancel_right, exactPulse_lowEnd]
      exact ⟨rfl, rfl⟩
    · rw [exactPulse_high]
      exact ⟨rfl, rfl⟩
  · intro hmode rawValue hdead
    rw [harithmetic.value, exactValue, forward_of_dead hmode hdead, lowEnd, if_neg hmode]
    split_ifs <;> rfl
  · intro rawValue
    have hother : { entry with reversed := !entry.reversed }.valueAt rawValue =
        { entry with reversed := !entry.reversed }.exactValue (toInt rawValue) :=
      @toInt_normalize { entry with reversed := !entry.reversed }
        ⟨haccepted.source, haccepted.function, haccepted.lower, haccepted.upper⟩ rawValue
    rw [hother, harithmetic.value]
    exact exactValue_not entry (toInt rawValue)

theorem normalisation_narrowStick :
    Normalisation ⟨1, .roll, .centered, 0, 65534, 65535, 0, true⟩ := normalisation (by decide)

end RcChannelMapEntry

end RadioConnection
