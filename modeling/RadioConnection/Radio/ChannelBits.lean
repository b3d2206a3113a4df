import RadioConnection.Radio.Crsf
import RadioConnection.Radio.SbusFrames

/-!
# The two channel unpackers

`crsf_decode_rc_channels`, sixteen shift-and-mask expressions, against
`sbus_decode_channels`, a loop over a bit buffer, and both against the packing of
the SBUS test's frame builder.  The 22 bytes are one number of 176 bits: its
digits in base 256 are the bytes, its digits in base 2048 the channels.

* `crsfDecodeRcChannels_eq`: the CRSF expressions are the groups of 11 bits.
* `SbusDecodeLoop.Reached.kept`: no turn of the loop loses a bit of the number.
* `buildSbusFrame_value`: the packed bytes are the number of the channels.
* `channels_bijection`: unpacking and packing are inverse to each other.
-/

namespace RadioConnection

/-! ## Numbers in groups of bits -/

theorem ofDigits_range (b n k : ℕ) :
    Nat.ofDigits b ((List.range k).map fun i => n / b ^ i % b) = n % b ^ k := by
  induction k with
  | zero => rw [pow_zero, Nat.mod_one]; rfl
  | succ k ih =>
    rw [List.range_succ, List.map_append, Nat.ofDigits_append, ih, List.length_map,
      List.length_range, List.map_singleton, Nat.ofDigits_singleton, Nat.mod_pow_succ]

/-- The channels as one number, the first channel least significant. -/
def channelsValue (channels : List UInt16) : ℕ := Nat.ofDigits (2 ^ 11) (channels.map UInt16.toNat)

theorem channelsValue_append (channels : List UInt16) (channel : UInt16) :
    channelsValue (channels ++ [channel]) =
      channelsValue channels + 2 ^ (11 * channels.length) * channel.toNat := by
  rw [channelsValue, List.map_append, Nat.ofDigits_append, List.length_map, ← pow_mul]
  show channelsValue channels + 2 ^ (11 * channels.length) * Nat.ofDigits _ [channel.toNat] = _
  rw [Nat.ofDigits_singleton]

theorem littleEndian_append (data : List UInt8) (byte : UInt8) :
    littleEndian (data ++ [byte]) = littleEndian data + 2 ^ (8 * data.length) * byte.toNat := by
  rw [littleEndian, List.map_append, Nat.ofDigits_append, List.length_map,
    show (256 : ℕ) = 2 ^ 8 from rfl, ← pow_mul]
  show littleEndian data + 2 ^ (8 * data.length) * Nat.ofDigits _ [byte.toNat] = _
  rw [Nat.ofDigits_singleton]

theorem littleEndian_lt (data : List UInt8) : littleEndian data < 2 ^ (8 * data.length) := by
  have hlt : ∀ x ∈ data.map UInt8.toNat, x < 256 := by
    intro x hx
    obtain ⟨byte, -, rfl⟩ := List.mem_map.mp hx
    exact byte.toNat_lt
  have h := Nat.ofDigits_lt_base_pow_length (by decide) hlt
  rwa [List.length_map, show (256 : ℕ) = 2 ^ 8 from rfl, ← pow_mul] at h

theorem littleEndian_injective {data data' : List UInt8} (hlength : data.length = data'.length)
    (h : littleEndian data = littleEndian data') : data = data' := by
  have hlt : ∀ d : List UInt8, ∀ x ∈ d.map UInt8.toNat, x < 256 := by
    intro d x hx
    obtain ⟨byte, -, rfl⟩ := List.mem_map.mp hx
    exact byte.toNat_lt
  have hmap : data.map UInt8.toNat = data'.map UInt8.toNat := by
    refine Nat.ofDigits_inj_of_len_eq (by decide) ?_ (hlt data) (hlt data') h
    rw [List.length_map, List.length_map, hlength]
  exact List.map_injective_iff.mpr (fun _ _ => UInt8.toNat_inj.mp) hmap

theorem channelsValue_injective {channels channels' : List UInt16}
    (hlength : channels.length = channels'.length) (hlt : ∀ c ∈ channels, c.toNat < 2 ^ 11)
    (hlt' : ∀ c ∈ channels', c.toNat < 2 ^ 11)
    (h : channelsValue channels = channelsValue channels') : channels = channels' := by
  have hmap : channels.map UInt16.toNat = channels'.map UInt16.toNat := by
    refine Nat.ofDigits_inj_of_len_eq (by decide) ?_ ?_ ?_ h
    · rw [List.length_map, List.length_map, hlength]
    · intro x hx
      obtain ⟨c, hc, rfl⟩ := List.mem_map.mp hx
      exact hlt c hc
    · intro x hx
      obtain ⟨c, hc, rfl⟩ := List.mem_map.mp hx
      exact hlt' c hc
  exact List.map_injective_iff.mpr (fun _ _ => UInt16.toNat_inj.mp) hmap

theorem channelBits_toNat (data : List UInt8) (i : ℕ) :
    (channelBits data i).toNat = littleEndian data / 2 ^ (11 * i) % 2 ^ 11 := by
  rw [channelBits, UInt16.toNat_ofNat']
  exact Nat.mod_eq_of_lt ((Nat.mod_lt _ (by decide)).trans (by decide))

theorem channelsValue_channelBits {data : List UInt8} (h : data.length = sbusChannelDataSize) :
    channelsValue ((List.range sbusChannelCount).map (channelBits data)) = littleEndian data := by
  have hdigits : ((List.range sbusChannelCount).map (channelBits data)).map UInt16.toNat =
      (List.range sbusChannelCount).map
        fun i => littleEndian data / (2 ^ 11) ^ i % 2 ^ 11 := by
    rw [List.map_map]
    refine List.map_congr_left fun i _ => ?_
    rw [← pow_mul]
    exact channelBits_toNat data i
  have hlt : littleEndian data < (2 ^ 11) ^ sbusChannelCount := by
    have := littleEndian_lt data
    rw [h] at this
    rw [← pow_mul]
    exact this
  rw [channelsValue, hdigits, ofDigits_range, Nat.mod_eq_of_lt hlt]

/-! ## The CRSF expressions -/

/-- The byte at an index, and zero behind the last one. -/
def byteAt (data : List UInt8) (i : ℕ) : ℕ := ((data[i]?).getD 0).toNat

theorem byteAt_toList {n : ℕ} (p : Vector UInt8 n) (i : Fin n) :
    byteAt p.toList i = p[i].toNat := by
  rw [byteAt, List.getElem?_eq_getElem (by simp)]
  simp

/-- Bit `r` of byte `q` is bit `8 * q + r` of the number. -/
theorem littleEndian_testBit (data : List UInt8) (q : ℕ) {r : ℕ} (hr : r < 8) :
    (littleEndian data).testBit (8 * q + r) = (byteAt data q).testBit r := by
  induction data generalizing q with
  | nil => exact (Nat.zero_testBit _).trans (Nat.zero_testBit _).symm
  | cons byte data ih =>
    have hcons : littleEndian (byte :: data) = 2 ^ 8 * littleEndian data + byte.toNat := by
      rw [littleEndian, List.map_cons, Nat.ofDigits_cons, Nat.add_comm]
      rfl
    rw [hcons, Nat.testBit_two_pow_mul_add _ byte.toNat_lt]
    cases q with
    | zero =>
      rw [if_pos (by omega), Nat.mul_zero, Nat.zero_add]
      rfl
    | succ q =>
      rw [if_neg (by omega), show 8 * (q + 1) + r - 8 = 8 * q + r from by omega, ih q]
      rfl

theorem byteAt_testBit_eq_false (data : List UInt8) (q : ℕ) {j : ℕ} (hj : 8 ≤ j) :
    (byteAt data q).testBit j = false :=
  Nat.testBit_lt_two_pow
    ((UInt8.toNat_lt _).trans_le (Nat.pow_le_pow_right (by decide) hj))

/-- Eleven bits from bit `r` of byte `q` on, out of three bytes. -/
theorem window_three (data : List UInt8) (q : ℕ) {r : ℕ} (hr : r < 8) :
    littleEndian data / 2 ^ (8 * q + r) % 2 ^ 11 =
      (byteAt data q >>> r ||| byteAt data (q + 1) <<< (8 - r) |||
        byteAt data (q + 2) <<< (16 - r)) &&& 0x07FF := by
  apply Nat.eq_of_testBit_eq
  intro j
  rw [show (0x07FF : ℕ) = 2 ^ 11 - 1 from rfl, Nat.and_two_pow_sub_one_eq_mod,
    Nat.testBit_mod_two_pow, Nat.testBit_mod_two_pow, Nat.testBit_div_two_pow, Nat.testBit_or,
    Nat.testBit_or, Nat.testBit_shiftRight, Nat.testBit_shiftLeft, Nat.testBit_shiftLeft]
  by_cases hj : j < 11
  · congr 1
    rcases Nat.lt_or_ge (r + j) 8 with hfirst | hge
    · rw [show j + (8 * q + r) = 8 * q + (r + j) from by omega,
        littleEndian_testBit data q hfirst, decide_eq_false (by omega),
        decide_eq_false (by omega), Bool.false_and, Bool.false_and, Bool.or_false, Bool.or_false]
    · rw [byteAt_testBit_eq_false data q hge, Bool.false_or, decide_eq_true (by omega),
        Bool.true_and]
      rcases Nat.lt_or_ge (r + j) 16 with hsecond | hge'
      · rw [show j + (8 * q + r) = 8 * (q + 1) + (j - (8 - r)) from by omega,
          littleEndian_testBit data (q + 1) (by omega), decide_eq_false (by omega),
          Bool.false_and, Bool.or_false]
      · rw [show j + (8 * q + r) = 8 * (q + 2) + (j - (16 - r)) from by omega,
          littleEndian_testBit data (q + 2) (by omega), decide_eq_true (by omega), Bool.true_and,
          byteAt_testBit_eq_false data (q + 1) (by omega), Bool.false_or]
  · rw [decide_eq_false hj, Bool.false_and, Bool.false_and]

theorem window_two (data : List UInt8) (q : ℕ) {r : ℕ} (hr : r < 6) :
    littleEndian data / 2 ^ (8 * q + r) % 2 ^ 11 =
      (byteAt data q >>> r ||| byteAt data (q + 1) <<< (8 - r)) &&& 0x07FF := by
  rw [window_three data q (by omega), Nat.and_or_distrib_right]
  have hzero : byteAt data (q + 2) <<< (16 - r) &&& 0x07FF = 0 := by
    rw [show (0x07FF : ℕ) = 2 ^ 11 - 1 from rfl, Nat.and_two_pow_sub_one_eq_mod,
      Nat.shiftLeft_eq, show 16 - r = 11 + (5 - r) from by omega, pow_add]
    exact Nat.mod_eq_zero_of_dvd ⟨byteAt data (q + 2) * 2 ^ (5 - r), by ring⟩
  rw [hzero, Nat.or_zero]

theorem ofNat_window_two (p : Vector UInt8 22) (r : ℕ) (i j : Fin 22) (hj : j.val = i.val + 1)
    (hr : r < 6) :
    UInt16.ofNat ((p[i].toNat >>> r ||| p[j].toNat <<< (8 - r)) &&& 0x07FF) =
      UInt16.ofNat (littleEndian p.toList / 2 ^ (8 * i.val + r) % 2 ^ 11) := by
  rw [window_two p.toList i hr, ← hj, byteAt_toList, byteAt_toList]

theorem ofNat_window_three (p : Vector UInt8 22) (r : ℕ) (i j k : Fin 22)
    (hj : j.val = i.val + 1) (hk : k.val = i.val + 2) (hr : r < 8) :
    UInt16.ofNat ((p[i].toNat >>> r ||| p[j].toNat <<< (8 - r) ||| p[k].toNat <<< (16 - r)) &&&
        0x07FF) =
      UInt16.ofNat (littleEndian p.toList / 2 ^ (8 * i.val + r) % 2 ^ 11) := by
  rw [window_three p.toList i hr, ← hk, ← hj, byteAt_toList, byteAt_toList, byteAt_toList]

/-- **The CRSF expressions are the groups of 11 bits of the payload.** -/
theorem crsfDecodeRcChannels_eq (p : Vector UInt8 22) :
    crsfDecodeRcChannels p = sbusChannels p.toList := by
  apply Vector.ext
  intro i hi
  rw [sbusChannels, Vector.getElem_ofFn]
  -- channel `i` begins at bit `11 * i % 8` of byte `11 * i / 8`
  interval_cases i
  case «0» => exact ofNat_window_two p 0 0 1 rfl (by decide)
  case «1» => exact ofNat_window_two p 3 1 2 rfl (by decide)
  case «2» => exact ofNat_window_three p 6 2 3 4 rfl rfl (by decide)
  case «3» => exact ofNat_window_two p 1 4 5 rfl (by decide)
  case «4» => exact ofNat_window_two p 4 5 6 rfl (by decide)
  case «5» => exact ofNat_window_three p 7 6 7 8 rfl rfl (by decide)
  case «6» => exact ofNat_window_two p 2 8 9 rfl (by decide)
  case «7» => exact ofNat_window_two p 5 9 10 rfl (by decide)
  case «8» => exact ofNat_window_two p 0 11 12 rfl (by decide)
  case «9» => exact ofNat_window_two p 3 12 13 rfl (by decide)
  case «10» => exact ofNat_window_three p 6 13 14 15 rfl rfl (by decide)
  case «11» => exact ofNat_window_two p 1 15 16 rfl (by decide)
  case «12» => exact ofNat_window_two p 4 16 17 rfl (by decide)
  case «13» => exact ofNat_window_three p 7 17 18 19 rfl rfl (by decide)
  case «14» => exact ofNat_window_two p 2 19 20 rfl (by decide)
  case «15» => exact ofNat_window_two p 5 20 21 rfl (by decide)
  case «16» => rfl
  case «17» => rfl

/-! ## The SBUS loop, turn by turn -/

/-- The variables of `sbus_decode_channels`: the data behind `data_pos`, the bit buffer, and the
channels that are stored. -/
structure SbusDecodeLoop where
  data : List UInt8
  bitBuffer : UInt32
  bitsAvailable : UInt8
  taken : List UInt16

namespace SbusDecodeLoop

def start (data : List UInt8) : SbusDecodeLoop := ⟨data, 0, 0, []⟩

/-- A turn of the inner loop while fewer than eleven bits are available, else what the outer loop
does behind it; `none` when the data runs out. -/
def turn (loop : SbusDecodeLoop) : Option SbusDecodeLoop :=
  if loop.bitsAvailable < 11 then
    match loop.data with
    | [] => none
    | byte :: data => some { loop with
        data := data
        bitBuffer := loop.bitBuffer ||| (byte.toUInt32 <<< loop.bitsAvailable.toUInt32)
        bitsAvailable := loop.bitsAvailable + 8 }
  else some { loop with
    bitBuffer := loop.bitBuffer >>> 11
    bitsAvailable := loop.bitsAvailable - 11
    taken := loop.taken ++ [(loop.bitBuffer &&& 0x07FF).toUInt16] }

/-- What the source's loops make of the rest. -/
def finish (loop : SbusDecodeLoop) : Option (Vector UInt16 rcMaxChannels) :=
  sbusDecodeFrom (sbusChannelCount - loop.taken.length) loop.taken.length loop.data loop.bitBuffer
    loop.bitsAvailable (Vector.ofFn fun i => loop.taken.getD i 0)

/-- The loop is there after some turns, each before the sixteenth channel is stored. -/
inductive Reached (data : List UInt8) : SbusDecodeLoop → Prop
  | start : Reached data (start data)
  | turn {loop loop' : SbusDecodeLoop} : Reached data loop → loop.taken.length < sbusChannelCount →
      loop.turn = some loop' → Reached data loop'

/-- What every turn keeps of the number that the data makes. -/
structure Kept (data : List UInt8) (loop : SbusDecodeLoop) : Prop where
  buffer : loop.bitBuffer.toNat < 2 ^ loop.bitsAvailable.toNat
  available : loop.bitsAvailable.toNat < 11 + 8
  count : loop.bitsAvailable.toNat + 8 * loop.data.length + 11 * loop.taken.length =
    8 * data.length
  channels : ∀ channel ∈ loop.taken, channel.toNat < 2 ^ 11
  value : channelsValue loop.taken +
    2 ^ (11 * loop.taken.length) * pendingBits loop.data loop.bitBuffer loop.bitsAvailable =
      littleEndian data

variable {data : List UInt8} {loop loop' : SbusDecodeLoop}

theorem kept_start (data : List UInt8) : Kept data (start data) := by
  refine ⟨Nat.one_pos, Nat.succ_pos _, ?_, nofun, ?_⟩
  · show 0 + 8 * data.length + 11 * 0 = _
    omega
  · show 0 + 2 ^ 0 * (0 + 2 ^ 0 * littleEndian data) = _
    simp only [pow_zero, Nat.one_mul, Nat.zero_add]

theorem Kept.refill {byte : UInt8} {rest : List UInt8} (h : Kept data loop)
    (hbits : loop.bitsAvailable < 11) (hdata : loop.data = byte :: rest) :
    Kept data { loop with
      data := rest
      bitBuffer := loop.bitBuffer ||| (byte.toUInt32 <<< loop.bitsAvailable.toUInt32)
      bitsAvailable := loop.bitsAvailable + 8 } := by
  have hlt : loop.bitsAvailable.toNat < 11 := UInt8.lt_iff_toNat_lt.mp hbits
  have hadd : (loop.bitsAvailable + 8).toNat = loop.bitsAvailable.toNat + 8 := by
    rw [UInt8.toNat_add]
    show (loop.bitsAvailable.toNat + 8) % 256 = _
    omega
  obtain ⟨hbuffer, hpending⟩ := pendingBits_or rest byte h.buffer hlt
  refine ⟨hbuffer, ?_, ?_, h.channels, ?_⟩
  · show (loop.bitsAvailable + 8).toNat < 11 + 8
    omega
  · have hcount := h.count
    rw [hdata, List.length_cons] at hcount
    show (loop.bitsAvailable + 8).toNat + 8 * rest.length + 11 * loop.taken.length = _
    omega
  · have hvalue := h.value
    rw [hdata, ← hpending] at hvalue
    exact hvalue

theorem Kept.take (h : Kept data loop) (hbits : ¬ loop.bitsAvailable < 11) :
    Kept data { loop with
      bitBuffer := loop.bitBuffer >>> 11
      bitsAvailable := loop.bitsAvailable - 11
      taken := loop.taken ++ [(loop.bitBuffer &&& 0x07FF).toUInt16] } := by
  have hge : 11 ≤ loop.bitsAvailable.toNat :=
    Nat.not_lt.mp fun hn => hbits (UInt8.lt_iff_toNat_lt.mpr hn)
  have hsub : (loop.bitsAvailable - 11).toNat = loop.bitsAvailable.toNat - 11 :=
    UInt8.toNat_sub_of_le loop.bitsAvailable 11 (UInt8.le_iff_toNat_le.mpr hge)
  obtain ⟨hbuffer, hrest, hchannel⟩ := pendingBits_shiftRight loop.data hge h.buffer
  have hlow : (loop.bitBuffer &&& 0x07FF).toUInt16.toNat =
      pendingBits loop.data loop.bitBuffer loop.bitsAvailable % 2 ^ 11 := by
    rw [hchannel, UInt16.toNat_ofNat']
    exact Nat.mod_eq_of_lt ((Nat.mod_lt _ (by decide)).trans (by decide))
  refine ⟨hbuffer, ?_, ?_, ?_, ?_⟩
  · have := h.available
    show (loop.bitsAvailable - 11).toNat < 11 + 8
    omega
  · have := h.count
    show (loop.bitsAvailable - 11).toNat + 8 * loop.data.length +
      11 * (loop.taken ++ [_]).length = _
    rw [List.length_append, List.length_singleton]
    omega
  · intro channel hmem
    rcases List.mem_append.mp hmem with hmem | hmem
    · exact h.channels channel hmem
    · rw [List.mem_singleton.mp hmem, hlow]
      exact Nat.mod_lt _ (by decide)
  · show channelsValue (loop.taken ++ [_]) + 2 ^ (11 * (loop.taken ++ [_]).length) *
      pendingBits loop.data (loop.bitBuffer >>> 11) (loop.bitsAvailable - 11) = _
    have hsplit := Nat.mod_add_div (pendingBits loop.data loop.bitBuffer loop.bitsAvailable)
      (2 ^ 11)
    rw [channelsValue_append, hlow, hrest, List.length_append, List.length_singleton,
      Nat.mul_add, pow_add, Nat.mul_one, Nat.add_assoc, Nat.mul_assoc, ← Nat.mul_add, hsplit]
    exact h.value

theorem Kept.turn (h : Kept data loop) (hturn : loop.turn = some loop') : Kept data loop' := by
  rw [SbusDecodeLoop.turn] at hturn
  split_ifs at hturn with hbits
  · cases hdata : loop.data with
    | nil =>
      rw [hdata] at hturn
      nomatch hturn
    | cons byte rest =>
      rw [hdata] at hturn
      obtain rfl := Option.some.inj hturn
      exact h.refill hbits hdata
  · obtain rfl := Option.some.inj hturn
    exact h.take hbits

/-- **No turn loses a bit of the data.** -/
theorem Reached.kept (h : Reached data loop) : Kept data loop := by
  induction h with
  | start => exact kept_start data
  | turn _ _ hturn ih => exact ih.turn hturn

theorem Kept.turn_isSome (h : Kept data loop) (hdata : data.length = sbusChannelDataSize)
    (htaken : loop.taken.length < sbusChannelCount) : ∃ loop', loop.turn = some loop' := by
  have hcount := h.count
  rw [hdata] at hcount
  rw [SbusDecodeLoop.turn]
  split_ifs with hbits
  · have hlt : loop.bitsAvailable.toNat < 11 := UInt8.lt_iff_toNat_lt.mp hbits
    cases hrest : loop.data with
    | nil =>
      rw [hrest, List.length_nil] at hcount
      rw [sbusChannelDataSize] at hcount
      rw [sbusChannelCount] at htaken
      omega
    | cons byte rest => exact ⟨_, rfl⟩
  · exact ⟨_, rfl⟩

theorem ofFn_setIfInBounds (taken : List UInt16) (channel : UInt16) :
    (Vector.ofFn fun i : Fin rcMaxChannels => taken.getD i 0).setIfInBounds taken.length channel =
      Vector.ofFn fun i : Fin rcMaxChannels => (taken ++ [channel]).getD i 0 := by
  apply Vector.ext
  intro i hi
  rw [Vector.getElem_setIfInBounds hi, Vector.getElem_ofFn, Vector.getElem_ofFn]
  split_ifs with heq
  · subst heq
    rw [List.getD_append_right _ _ _ _ (le_refl _), Nat.sub_self]
    rfl
  · rcases Nat.lt_or_gt_of_ne heq with hlt | hgt
    · rw [List.getD_eq_default _ _ hlt.le, List.getD_eq_default]
      rw [List.length_append, List.length_singleton]
      exact hlt
    · exact (List.getD_append _ _ _ _ hgt).symm

/-- The source's loops go on from the next turn as from this one. -/
theorem finish_turn (htaken : loop.taken.length < sbusChannelCount)
    (hturn : loop.turn = some loop') : loop.finish = loop'.finish := by
  obtain ⟨k, hk⟩ : ∃ k, sbusChannelCount - loop.taken.length = k + 1 :=
    ⟨sbusChannelCount - loop.taken.length - 1, by omega⟩
  rw [SbusDecodeLoop.turn] at hturn
  unfold finish
  split_ifs at hturn with hbits
  · cases hdata : loop.data with
    | nil =>
      rw [hdata] at hturn
      nomatch hturn
    | cons byte rest =>
      rw [hdata] at hturn
      obtain rfl := Option.some.inj hturn
      rw [hk, sbusDecodeFrom, sbusDecodeFrom, sbusRefill, if_pos hbits]
  · obtain rfl := Option.some.inj hturn
    have hrefill : sbusRefill loop.data loop.bitBuffer loop.bitsAvailable =
        some (loop.data, loop.bitBuffer, loop.bitsAvailable) := by
      cases loop.data with
      | nil => exact if_neg hbits
      | cons byte rest => exact if_neg hbits
    have hk' : sbusChannelCount - (loop.taken ++ [(loop.bitBuffer &&& 0x07FF).toUInt16]).length =
        k := by
      rw [List.length_append, List.length_singleton]
      omega
    show _ = sbusDecodeFrom (sbusChannelCount - (loop.taken ++ [_]).length)
      (loop.taken ++ [_]).length loop.data (loop.bitBuffer >>> 11) (loop.bitsAvailable - 11) _
    rw [hk, hk', sbusDecodeFrom, hrefill, ← ofFn_setIfInBounds, List.length_append,
      List.length_singleton]

/-- **The turns are those of `sbus_decode_channels`.** -/
theorem Reached.finish_eq (h : Reached data loop) :
    loop.finish = sbusDecodeFrom sbusChannelCount 0 data 0 0 RcInputFrame.zero.channels := by
  induction h with
  | start =>
    have hzero : (Vector.ofFn fun i : Fin rcMaxChannels => ([] : List UInt16).getD i 0) =
        RcInputFrame.zero.channels := by
      apply Vector.ext
      intro i hi
      rw [Vector.getElem_ofFn, RcInputFrame.zero, Vector.getElem_replicate]
      rfl
    rw [← hzero]
    rfl
  | turn _ htaken hturn ih => exact (finish_turn htaken hturn).symm.trans ih

end SbusDecodeLoop

/-! ## Packing -/

/-- The inner loop of `build_sbus_frame`. -/
def sbusEmit (outFrame : Vector UInt8 25) (outPos : ℕ) (bitBuffer : UInt32)
    (bitsInBuffer : UInt8) : Vector UInt8 25 × ℕ × UInt32 × UInt8 :=
  if 8 ≤ bitsInBuffer then
    sbusEmit (outFrame.setIfInBounds outPos (bitBuffer &&& 0xFF).toUInt8) (outPos + 1)
      (bitBuffer >>> 8) (bitsInBuffer - 8)
  else (outFrame, outPos, bitBuffer, bitsInBuffer)
termination_by bitsInBuffer.toNat
decreasing_by
  rename_i hle
  have hle' : 8 ≤ bitsInBuffer.toNat := UInt8.le_iff_toNat_le.mp hle
  rw [UInt8.toNat_sub_of_le _ _ hle]
  show bitsInBuffer.toNat - 8 < bitsInBuffer.toNat
  omega

/-- The outer loop of `build_sbus_frame`, for the channels that are left. -/
def sbusPackFrom : List UInt16 → Vector UInt8 25 → ℕ → UInt32 → UInt8 → Vector UInt8 25
  | [], outFrame, _, _, _ => outFrame
  | channel :: channels, outFrame, outPos, bitBuffer, bitsInBuffer =>
    let (outFrame, outPos, bitBuffer, bitsInBuffer) := sbusEmit outFrame outPos
      (bitBuffer ||| ((channel &&& 0x07FF).toUInt32 <<< bitsInBuffer.toUInt32)) (bitsInBuffer + 11)
    sbusPackFrom channels outFrame outPos bitBuffer bitsInBuffer

/-- `build_sbus_frame`, of the SBUS test. -/
def buildSbusFrame (channels : Vector UInt16 16) (flags footer : UInt8) : Vector UInt8 25 :=
  let outFrame := (Vector.replicate 25 0).setIfInBounds 0 sbusHeaderByte
  let outFrame := sbusPackFrom channels.toList outFrame 1 0 0
  (outFrame.setIfInBounds sbusFlagsIndex flags).setIfInBounds sbusFooterIndex footer

/-- The channel bytes of a frame. -/
def sbusChannelData (frame : Vector UInt8 25) : Vector UInt8 22 :=
  Vector.ofFn fun i => frame[1 + i.val]

theorem sbusChannelData_getElem (frame : Vector UInt8 25) {i : ℕ} (hi : i < 22) :
    (sbusChannelData frame)[i] = frame[1 + i] := Vector.getElem_ofFn hi

/-- What the packing loops have of the channels so far: the bytes `out`, and bits in the buffer. -/
structure SbusPacked (channels : List UInt16) (out : List UInt8) (outFrame : Vector UInt8 25)
    (outPos : ℕ) (bitBuffer : UInt32) (bitsInBuffer : UInt8) : Prop where
  bytes : outFrame.toList.take outPos = sbusHeaderByte :: out
  outPos : outPos = out.length + 1
  buffer : bitBuffer.toNat < 2 ^ bitsInBuffer.toNat
  count : 8 * out.length + bitsInBuffer.toNat = 11 * channels.length
  value : littleEndian out + 2 ^ (8 * out.length) * bitBuffer.toNat = channelsValue channels

variable {channels : List UInt16} {out : List UInt8} {outFrame : Vector UInt8 25} {outPos : ℕ}
  {bitBuffer : UInt32} {bitsInBuffer : UInt8}

theorem SbusPacked.emit (h : SbusPacked channels out outFrame outPos bitBuffer bitsInBuffer)
    (hchannels : channels.length ≤ sbusChannelCount) (hbits : 8 ≤ bitsInBuffer) :
    SbusPacked channels (out ++ [(bitBuffer &&& 0xFF).toUInt8])
      (outFrame.setIfInBounds outPos (bitBuffer &&& 0xFF).toUInt8) (outPos + 1) (bitBuffer >>> 8)
      (bitsInBuffer - 8) := by
  have hge : 8 ≤ bitsInBuffer.toNat := UInt8.le_iff_toNat_le.mp hbits
  have hsub : (bitsInBuffer - 8).toNat = bitsInBuffer.toNat - 8 :=
    UInt8.toNat_sub_of_le bitsInBuffer 8 hbits
  have hshift : (bitBuffer >>> 8).toNat = bitBuffer.toNat / 2 ^ 8 := by
    rw [UInt32.toNat_shiftRight]
    exact Nat.shiftRight_eq_div_pow _ _
  have hlow : (bitBuffer &&& 0xFF).toUInt8.toNat = bitBuffer.toNat % 2 ^ 8 := by
    rw [UInt32.toNat_toUInt8, UInt32.toNat_and]
    show (bitBuffer.toNat &&& (2 ^ 8 - 1)) % 2 ^ 8 = _
    rw [Nat.and_two_pow_sub_one_eq_mod, Nat.mod_mod]
  have hcount := h.count
  have hpos := h.outPos
  rw [sbusChannelCount] at hchannels
  refine ⟨?_, ?_, ?_, ?_, ?_⟩
  · rw [SbusProtocolContext.take_setIfInBounds outFrame (by omega), h.bytes, List.cons_append]
  · rw [List.length_append, List.length_singleton, hpos]
  · have hpow : 2 ^ bitsInBuffer.toNat = 2 ^ 8 * 2 ^ (bitsInBuffer.toNat - 8) := by
      rw [← pow_add, Nat.add_sub_cancel' hge]
    rw [hshift, hsub]
    exact Nat.div_lt_of_lt_mul (hpow ▸ h.buffer)
  · rw [List.length_append, List.length_singleton]
    omega
  · rw [littleEndian_append, hlow, hshift, List.length_append, List.length_singleton, Nat.mul_add,
      pow_add, Nat.mul_one, Nat.add_assoc, Nat.mul_assoc, ← Nat.mul_add, Nat.mod_add_div]
    exact h.value

theorem SbusPacked.sbusEmit (h : SbusPacked channels out outFrame outPos bitBuffer bitsInBuffer)
    (hchannels : channels.length ≤ sbusChannelCount) :
    ∃ out' outFrame' outPos' bitBuffer' bitsInBuffer',
      sbusEmit outFrame outPos bitBuffer bitsInBuffer =
          (outFrame', outPos', bitBuffer', bitsInBuffer') ∧
        SbusPacked channels out' outFrame' outPos' bitBuffer' bitsInBuffer' ∧
        bitsInBuffer'.toNat < 8 := by
  induction outFrame, outPos, bitBuffer, bitsInBuffer using sbusEmit.induct generalizing out with
  | case1 outFrame outPos bitBuffer bitsInBuffer hbits ih =>
    rw [RadioConnection.sbusEmit, if_pos hbits]
    exact ih (h.emit hchannels hbits)
  | case2 outFrame outPos bitBuffer bitsInBuffer hbits =>
    rw [RadioConnection.sbusEmit, if_neg hbits]
    exact ⟨out, _, _, _, _, rfl, h, Nat.not_le.mp fun hn => hbits (UInt8.le_iff_toNat_le.mpr hn)⟩

theorem SbusPacked.push (h : SbusPacked channels out outFrame outPos bitBuffer bitsInBuffer)
    (hbits : bitsInBuffer.toNat < 8) (channel : UInt16) :
    SbusPacked (channels ++ [channel &&& 0x07FF]) out outFrame outPos
      (bitBuffer ||| ((channel &&& 0x07FF).toUInt32 <<< bitsInBuffer.toUInt32))
      (bitsInBuffer + 11) := by
  have hadd : (bitsInBuffer + 11).toNat = bitsInBuffer.toNat + 11 := by
    rw [UInt8.toNat_add]
    show (bitsInBuffer.toNat + 11) % 256 = _
    omega
  have hlow : (channel &&& 0x07FF).toNat < 2 ^ 11 := by
    rw [UInt16.toNat_and]
    show channel.toNat &&& (2 ^ 11 - 1) < _
    rw [Nat.and_two_pow_sub_one_eq_mod]
    exact Nat.mod_lt _ (by decide)
  have hpow : 2 ^ bitsInBuffer.toNat ≤ 2 ^ 8 := Nat.pow_le_pow_right (by decide) (by omega)
  have hvalue : (bitBuffer ||| ((channel &&& 0x07FF).toUInt32 <<< bitsInBuffer.toUInt32)).toNat =
      2 ^ bitsInBuffer.toNat * (channel &&& 0x07FF).toNat + bitBuffer.toNat := by
    refine toNat_or_shiftLeft_of_lt _ h.buffer (by omega) ?_
    calc (channel &&& 0x07FF).toNat * 2 ^ bitsInBuffer.toNat
        ≤ 2 ^ 11 * 2 ^ 8 := Nat.mul_le_mul hlow.le hpow
      _ < 2 ^ 32 := by decide
  have hcount := h.count
  refine ⟨h.bytes, h.outPos, ?_, ?_, ?_⟩
  · rw [hvalue, hadd, pow_add]
    have := h.buffer
    nlinarith
  · rw [List.length_append, List.length_singleton]
    omega
  · rw [hvalue, channelsValue_append, ← h.value, ← hcount, pow_add]
    ring

/-- The outer loop packs the channels that are left. -/
theorem SbusPacked.sbusPackFrom
    (h : SbusPacked channels out outFrame outPos bitBuffer bitsInBuffer)
    (hbits : bitsInBuffer.toNat < 8) (rest : List UInt16)
    (hlength : channels.length + rest.length ≤ sbusChannelCount) :
    ∃ out' outPos' bitBuffer' bitsInBuffer',
      SbusPacked (channels ++ rest.map (· &&& 0x07FF)) out'
          (sbusPackFrom rest outFrame outPos bitBuffer bitsInBuffer) outPos' bitBuffer'
          bitsInBuffer' ∧
        bitsInBuffer'.toNat < 8 := by
  induction rest generalizing channels out outFrame outPos bitBuffer bitsInBuffer with
  | nil =>
    rw [List.map_nil, List.append_nil]
    exact ⟨out, outPos, bitBuffer, bitsInBuffer, h, hbits⟩
  | cons channel rest ih =>
    rw [List.length_cons] at hlength
    have hpushed := h.push hbits channel
    obtain ⟨out', outFrame', outPos', bitBuffer', bits', heq, hpacked, hbits'⟩ :=
      hpushed.sbusEmit (by rw [List.length_append, List.length_singleton]; omega)
    obtain ⟨out'', outPos'', bitBuffer'', bits'', hall, hbits''⟩ := ih hpacked hbits'
      (by rw [List.length_append, List.length_singleton]; omega)
    rw [List.append_assoc, List.singleton_append] at hall
    refine ⟨out'', outPos'', bitBuffer'', bits'', ?_, hbits''⟩
    rw [RadioConnection.sbusPackFrom, heq]
    exact hall

theorem sbusChannelData_of_take {frame : Vector UInt8 25} (hlength : out.length = 22)
    (hbytes : frame.toList.take (22 + 1) = sbusHeaderByte :: out) (flags footer : UInt8) :
    (sbusChannelData ((frame.setIfInBounds sbusFlagsIndex flags).setIfInBounds sbusFooterIndex
      footer)).toList = out := by
  apply List.ext_getElem
  · rw [Vector.length_toList, hlength]
  · intro i hi hi'
    rw [hlength] at hi'
    have hget : frame.toList[i + 1]? = out[i]? := by
      rw [← List.getElem?_take_of_lt (Nat.succ_lt_succ hi'), hbytes, List.getElem?_cons_succ]
    have hflags : sbusFlagsIndex ≠ 1 + i := by unfold sbusFlagsIndex; omega
    have hfooter : sbusFooterIndex ≠ 1 + i := by unfold sbusFooterIndex; omega
    have hlt : 1 + i < 25 := by omega
    rw [Vector.getElem_toList, sbusChannelData_getElem _ hi',
      Vector.getElem_setIfInBounds_ne hlt hfooter, Vector.getElem_setIfInBounds_ne hlt hflags]
    rw [List.getElem?_eq_getElem (by rw [Vector.length_toList]; omega),
      List.getElem?_eq_getElem (by omega), Vector.getElem_toList] at hget
    simpa only [Nat.add_comm 1 i] using Option.some.inj hget

/-- **The packed bytes are the number of the channels.** -/
theorem buildSbusFrame_value (channels : Vector UInt16 16) (flags footer : UInt8) :
    littleEndian (sbusChannelData (buildSbusFrame channels flags footer)).toList =
      channelsValue (channels.toList.map (· &&& 0x07FF)) := by
  have hstart : SbusPacked [] [] ((Vector.replicate 25 0).setIfInBounds 0 sbusHeaderByte) 1 0 0 :=
    ⟨by decide, rfl, Nat.one_pos, rfl, rfl⟩
  obtain ⟨out, outPos, bitBuffer, bits, hpacked, hbits⟩ := hstart.sbusPackFrom Nat.succ_pos'
    channels.toList (by rw [Vector.length_toList]; decide)
  rw [List.nil_append] at hpacked
  have hcount := hpacked.count
  rw [List.length_map, Vector.length_toList] at hcount
  have hlength : out.length = 22 := by omega
  have hzero : bitBuffer.toNat = 0 := by
    have hbuffer := hpacked.buffer
    rw [show bits.toNat = 0 from by omega, pow_zero] at hbuffer
    omega
  have hvalue := hpacked.value
  rw [hzero, Nat.mul_zero, Nat.add_zero] at hvalue
  have hbytes := hpacked.bytes
  rw [hpacked.outPos, hlength] at hbytes
  have hdata : (sbusChannelData (buildSbusFrame channels flags footer)).toList = out :=
    sbusChannelData_of_take hlength hbytes flags footer
  rw [hdata, hvalue]

/-! ## The bijection -/

def firstSixteen (channels : Vector UInt16 rcMaxChannels) : Vector UInt16 16 :=
  Vector.ofFn fun i => channels[i.castLE (by decide : 16 ≤ rcMaxChannels)]

theorem firstSixteen_getElem (channels : Vector UInt16 rcMaxChannels) {i : ℕ} (hi : i < 16)
    (hmax : i < rcMaxChannels) : (firstSixteen channels)[i] = channels[i] := Vector.getElem_ofFn hi

theorem firstSixteen_sbusChannels (data : List UInt8) :
    (firstSixteen (sbusChannels data)).toList =
      (List.range sbusChannelCount).map (channelBits data) := by
  apply List.ext_getElem
  · rw [Vector.length_toList, List.length_map, List.length_range]
    rfl
  · intro i hi hi'
    rw [Vector.length_toList] at hi
    rw [Vector.getElem_toList, List.getElem_map, List.getElem_range,
      firstSixteen_getElem _ hi (hi.trans (by decide)), sbusChannels, Vector.getElem_ofFn]
    exact if_pos hi

theorem and_mask_of_lt {channel : UInt16} (h : channel.toNat < 2 ^ 11) :
    channel &&& 0x07FF = channel := by
  apply UInt16.toNat_inj.mp
  rw [UInt16.toNat_and]
  show channel.toNat &&& (2 ^ 11 - 1) = _
  rw [Nat.and_two_pow_sub_one_eq_mod, Nat.mod_eq_of_lt h]

theorem channelBits_lt (data : List UInt8) (i : ℕ) : (channelBits data i).toNat < 2 ^ 11 := by
  rw [channelBits_toNat]
  exact Nat.mod_lt _ (by decide)

theorem map_mask_of_lt {channels : List UInt16} (h : ∀ c ∈ channels, c.toNat < 2 ^ 11) :
    channels.map (· &&& 0x07FF) = channels :=
  (List.map_congr_left fun c hc => and_mask_of_lt (h c hc)).trans (List.map_id' channels)

theorem buildSbusFrame_unpacked (p : Vector UInt8 22) (flags footer : UInt8) :
    sbusChannelData (buildSbusFrame (firstSixteen (sbusChannels p.toList)) flags footer) = p := by
  have hlt : ∀ c ∈ (List.range sbusChannelCount).map (channelBits p.toList), c.toNat < 2 ^ 11 := by
    intro c hc
    obtain ⟨i, -, rfl⟩ := List.mem_map.mp hc
    exact channelBits_lt p.toList i
  apply Vector.toList_inj.mp
  apply littleEndian_injective
  · rw [Vector.length_toList, Vector.length_toList]
  · rw [buildSbusFrame_value, firstSixteen_sbusChannels, map_mask_of_lt hlt]
    exact channelsValue_channelBits (Vector.length_toList ..)

theorem sbusChannels_packed (channels : Vector UInt16 16)
    (h : ∀ c ∈ channels.toList, c.toNat < 2 ^ 11) (flags footer : UInt8) :
    firstSixteen (sbusChannels (sbusChannelData (buildSbusFrame channels flags footer)).toList) =
      channels := by
  have hlength : (sbusChannelData (buildSbusFrame channels flags footer)).toList.length =
      sbusChannelDataSize := Vector.length_toList ..
  apply Vector.toList_inj.mp
  apply channelsValue_injective _ _ h
  · rw [firstSixteen_sbusChannels, channelsValue_channelBits hlength, buildSbusFrame_value,
      map_mask_of_lt h]
  · rw [Vector.length_toList, Vector.length_toList]
  · intro c hc
    rw [firstSixteen_sbusChannels] at hc
    obtain ⟨i, -, rfl⟩ := List.mem_map.mp hc
    exact channelBits_lt _ i

/-- **Both unpackers take the sixteen groups of 11 bits, which packing undoes**, and the SBUS loop
keeps every bit. -/
theorem channels_bijection :
    (∀ p : Vector UInt8 22,
      sbusDecodeChannels p.toList = some { RcInputFrame.zero with
        channels := crsfDecodeRcChannels p
        channelCount := crsfRcChannelCount } ∧
      (∀ i : Fin 16, (firstSixteen (crsfDecodeRcChannels p))[i].toNat =
        littleEndian p.toList / 2 ^ (11 * i.val) % 2 ^ 11) ∧
      (∀ flags footer, sbusChannelData
        (buildSbusFrame (firstSixteen (crsfDecodeRcChannels p)) flags footer) = p) ∧
      ∀ loop, SbusDecodeLoop.Reached p.toList loop →
        loop.finish = some (crsfDecodeRcChannels p) ∧
        loop.bitBuffer.toNat < 2 ^ loop.bitsAvailable.toNat ∧ loop.bitsAvailable.toNat < 32 ∧
        channelsValue loop.taken + 2 ^ (11 * loop.taken.length) *
            pendingBits loop.data loop.bitBuffer loop.bitsAvailable = littleEndian p.toList ∧
        (loop.taken.length < sbusChannelCount → ∃ loop', loop.turn = some loop')) ∧
    ∀ (channels : Vector UInt16 16) (flags footer : UInt8),
      (∀ c ∈ channels.toList, c.toNat < 2048) →
        firstSixteen (crsfDecodeRcChannels
          (sbusChannelData (buildSbusFrame channels flags footer))) = channels := by
  refine ⟨fun p => ⟨?_, ?_, ?_, ?_⟩, ?_⟩
  · have hlength : p.toList.length = sbusChannelDataSize := Vector.length_toList ..
    rw [sbusDecodeChannels_eq hlength, crsfDecodeRcChannels_eq]
    rfl
  · intro i
    rw [crsfDecodeRcChannels_eq, Fin.getElem_fin,
      firstSixteen_getElem _ i.isLt (i.isLt.trans (by decide)), sbusChannels, Vector.getElem_ofFn,
      ← channelBits_toNat]
    exact congrArg UInt16.toNat (if_pos i.isLt)
  · intro flags footer
    rw [crsfDecodeRcChannels_eq]
    exact buildSbusFrame_unpacked p flags footer
  · intro loop hreached
    have hkept := hreached.kept
    have hlength : p.toList.length = sbusChannelDataSize := Vector.length_toList ..
    refine ⟨?_, hkept.buffer, by have := hkept.available; omega, hkept.value,
      hkept.turn_isSome hlength⟩
    rw [hreached.finish_eq, sbusDecodeFrom_start hlength, crsfDecodeRcChannels_eq]
  · intro channels flags footer h
    rw [crsfDecodeRcChannels_eq]
    exact sbusChannels_packed channels h flags footer

end RadioConnection
