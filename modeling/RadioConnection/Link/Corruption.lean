import RadioConnection.Link.PacketCodec
import RadioConnection.Lib.Crc

/-!
# Corrupted frames

`link_crc16.c` is the shift register of `Crc` for 16 bits and the polynomial 0x1021,
and a frame that is accepted leaves it at zero.

* `toBitVec_crc`: the byte loop is the register.
* `state_accepted`: an accepted frame leaves it at zero.
* `corruption_detected`: so one, two, or any odd number of wrong bits are noticed,
  and wrong bits that lie within 16 of each other.
-/

namespace RadioConnection.LinkPacket

open Crc (shift state top align)

/-! ## The register -/

def poly : BitVec 16 := linkCrc16CcittFalsePoly.toBitVec

/-- The bits in their order on the wire. -/
def bitAt (bytes : List UInt8) (k : ℕ) : Bool :=
  (bytes.getD (k / 8) 0).toBitVec.getMsbD (k % 8)

theorem toBitVec_linkCrc16Bit (crc : UInt16) :
    (linkCrc16Bit crc).toBitVec = shift poly crc.toBitVec := by
  have htop : crc &&& 0x8000 ≠ 0 ↔ crc.toBitVec.msb = true := by
    have hand : (crc &&& 0x8000).toBitVec =
        if crc.toBitVec.getLsbD 15 then BitVec.twoPow 16 15 else 0#16 :=
      BitVec.and_twoPow crc.toBitVec 15
    rw [BitVec.msb_eq_getLsbD_last, ne_eq, ← UInt16.toBitVec_inj, hand]
    cases crc.toBitVec.getLsbD 15 <;> decide
  unfold linkCrc16Bit shift
  rw [if_congr htop rfl rfl]
  split_ifs <;> rfl

theorem toBitVec_linkCrc16Byte (crc : UInt16) (byte : UInt8) :
    (linkCrc16Byte crc byte).toBitVec =
      (shift poly)^[8] (crc.toBitVec ^^^ (byte.toUInt16 <<< 8).toBitVec) := by
  have hsteps : ∀ (n : ℕ) (crc : UInt16),
      (linkCrc16Bit^[n] crc).toBitVec = (shift poly)^[n] crc.toBitVec := by
    intro n
    induction n with
    | zero => exact fun _ => rfl
    | succ n ih =>
      intro crc
      rw [Function.iterate_succ_apply, ih, toBitVec_linkCrc16Bit, Function.iterate_succ_apply]
  exact hsteps 8 _

theorem getMsbD_byte (byte : UInt8) {i : ℕ} (hi : i < 16) :
    (byte.toUInt16 <<< 8).toBitVec.getMsbD i = (decide (i < 8) && byte.toBitVec.getMsbD i) := by
  have hshift : (byte.toUInt16 <<< 8).toBitVec = byte.toBitVec.setWidth 16 <<< 8 := rfl
  rw [hshift, BitVec.getMsbD_shiftLeft, BitVec.getMsbD_setWidth,
    decide_eq_true (by omega : 16 - 8 ≤ i + 8), Bool.true_and, show i + 8 + 8 - 16 = i by omega]
  by_cases hlow : i < 8
  · rw [decide_eq_true hlow, Bool.true_and]
  · rw [decide_eq_false hlow, Bool.false_and, BitVec.getMsbD_of_ge _ _ (Nat.not_lt.mp hlow)]

theorem bitAt_byte (bytes : List UInt8) (n : ℕ) {i : ℕ} (hi : i < 8) :
    bitAt bytes (8 * n + i) = (bytes.getD n 0).toBitVec.getMsbD i := by
  rw [bitAt, show (8 * n + i) / 8 = n by omega, show (8 * n + i) % 8 = i by omega]

theorem align_byte (bytes : List UInt8) (n : ℕ) :
    align 16 (bitAt bytes) (8 * n) 8 = ((bytes.getD n 0).toUInt16 <<< 8).toBitVec := by
  apply BitVec.eq_of_getMsbD_eq
  intro i hi
  rw [Crc.getMsbD_align _ _ (by decide) hi, getMsbD_byte _ hi]
  by_cases hlow : i < 8
  · rw [bitAt_byte bytes n hlow]
  · rw [decide_eq_false hlow, Bool.false_and, Bool.false_and]

theorem align_readU16Be (bytes : List UInt8) (n : ℕ) :
    align 16 (bitAt bytes) (8 * n) 16 =
      (readU16Be (bytes.getD n 0) (bytes.getD (n + 1) 0)).toBitVec := by
  apply BitVec.eq_of_getMsbD_eq
  intro i hi
  have hor : (readU16Be (bytes.getD n 0) (bytes.getD (n + 1) 0)).toBitVec =
      ((bytes.getD n 0).toUInt16 <<< 8).toBitVec ||| (bytes.getD (n + 1) 0).toBitVec.setWidth 16 :=
    rfl
  rw [Crc.getMsbD_align _ _ le_rfl hi, decide_eq_true hi, Bool.true_and, hor, BitVec.getMsbD_or,
    getMsbD_byte _ hi, BitVec.getMsbD_setWidth]
  by_cases hlow : i < 8
  · rw [bitAt_byte bytes n hlow, decide_eq_true hlow, Bool.true_and,
      decide_eq_false (by omega : ¬ 16 - 8 ≤ i), Bool.false_and, Bool.or_false]
  · rw [decide_eq_false hlow, Bool.false_and, Bool.false_or,
      decide_eq_true (by omega : 16 - 8 ≤ i), Bool.true_and, show i + 8 - 16 = i - 8 by omega,
      show 8 * n + i = 8 * (n + 1) + (i - 8) by omega, bitAt_byte bytes (n + 1) (by omega)]

/-- **The byte loop is the register.** -/
theorem toBitVec_crc (bytes : List UInt8) {n : ℕ} (hn : n ≤ bytes.length) :
    (linkCrc16CcittFalse (bytes.take n)).toBitVec =
      state poly (bitAt bytes) linkCrc16CcittFalseInit.toBitVec (8 * n) := by
  unfold linkCrc16CcittFalse
  induction n with
  | zero => rfl
  | succ n ih =>
    have hbyte : bytes.getD n 0 = bytes.get ⟨n, hn⟩ := List.getD_eq_getElem _ _ hn
    rw [List.take_succ_eq_append_getElem hn, List.foldl_append, List.foldl_cons, List.foldl_nil,
      toBitVec_linkCrc16Byte, ih (Nat.le_of_succ_le hn), Nat.mul_succ,
      Crc.state_add _ _ _ (by decide), align_byte, hbyte]
    rfl

/-- **An accepted frame leaves the register at zero.** -/
theorem state_accepted {encoded : List UInt8} {d : UInt8} (h : Accepts encoded d) :
    state poly (bitAt encoded) linkCrc16CcittFalseInit.toBitVec 240 = 0#16 := by
  have hcrc : readU16Be (encoded.getD 28 0) (encoded.getD 29 0) =
      linkCrc16CcittFalse (encoded.take 28) := by
    apply UInt16.toNat_inj.mp
    rw [toNat_readU16Be, h.crc]
  have hlast := @Crc.state_add 16 poly (bitAt encoded) linkCrc16CcittFalseInit.toBitVec (8 * 28) 16
    le_rfl
  rw [align_readU16Be, hcrc, ← toBitVec_crc encoded (by rw [h.length]; decide), BitVec.xor_self,
    Crc.iterate_shift_zero] at hlast
  exact hlast

/-! ## Errors -/

def differing (a b : List UInt8) : Finset ℕ :=
  (Finset.range 240).filter fun k => bitAt a k ≠ bitAt b k

/-- One error, two, an odd number, or a burst of at most 16 bits. -/
def Detectable (errors : Finset ℕ) : Prop :=
  errors.card = 1 ∨ errors.card = 2 ∨ Odd errors.card ∨
    errors.Nonempty ∧ ∃ start, ∀ k ∈ errors, start ≤ k ∧ k < start + 16

theorem poly_order : ∀ d < 240, 0 < d → (shift poly)^[d] (top 16) ≠ top 16 := by decide +kernel

theorem poly_lowest : poly.getLsbD 0 = true := by decide

/-- **The register of detectable errors does not end at zero.** -/
theorem state_detectable {errors : Finset ℕ} (hrange : ∀ k ∈ errors, k < 240)
    (h : Detectable errors) : state poly (fun k => decide (k ∈ errors)) 0#16 240 ≠ 0#16 := by
  rcases h with hone | htwo | hodd | ⟨hsome, start, hwindow⟩
  · obtain ⟨i, rfl⟩ := Finset.card_eq_one.mp hone
    refine @Crc.burst_ne_zero_of_window 16 poly poly_lowest _ _ hrange
      (Finset.singleton_nonempty i) i fun k hk => ?_
    obtain rfl := Finset.mem_singleton.mp hk
    omega
  · obtain ⟨i, j, hij, rfl⟩ := Finset.card_eq_two.mp htwo
    have hpair : ∀ {i j : ℕ}, i < j → j < 240 →
        state poly (fun k => decide (k ∈ ({i, j} : Finset ℕ))) 0#16 240 ≠ 0#16 := by
      intro i j hlt hj
      have hbits : (fun k => decide (k ∈ ({i, j} : Finset ℕ))) =
          fun k => decide (k = i) ^^ decide (k = j) := by
        funext k
        by_cases hki : k = i
        · simp [hki, hlt.ne]
        · simp [hki]
      rw [hbits]
      exact Crc.pair_ne_zero poly_lowest hlt hj (poly_order _ (by omega) (by omega))
    rcases Nat.lt_or_gt_of_ne hij with hlt | hgt
    · exact hpair hlt (hrange j (by simp))
    · rw [Finset.pair_comm]
      exact hpair hgt (hrange i (by simp))
  · exact Crc.odd_ne_zero_of_card (by decide) (by decide) hrange hodd
  · exact Crc.burst_ne_zero_of_window poly_lowest hrange hsome hwindow

theorem encode_ok {packet : LinkPacket} {capacity : ℕ} {frame : LinkFrame}
    (h : packet.encode capacity = .ok frame) : Accepts frame.toList packet.destinationId := by
  unfold encode at h
  split_ifs at h with hcapacity htype hlength
  obtain rfl := Except.ok.inj h
  exact (decode_eq_ok_iff.mp (decode_frame htype hlength)).1

/-- **A corrupted frame is not accepted**, when the errors are detectable. -/
theorem corruption_detected {packet : LinkPacket} {capacity : ℕ} {frame : LinkFrame}
    (hencode : packet.encode capacity = .ok frame) {received : List UInt8}
    (h : Detectable (differing frame.toList received)) (out : LinkPacket) :
    (linkPacketDecode (some received) packet.destinationId (some out)).1 ≠ .ok := by
  intro hok
  have hsent := state_accepted (encode_ok hencode)
  have hreceived := state_accepted (linkPacketDecode_status_iff.mp hok)
  have hsum := @Crc.state_xor 16 poly (bitAt frame.toList) (bitAt received)
    linkCrc16CcittFalseInit.toBitVec linkCrc16CcittFalseInit.toBitVec 240
  rw [hsent, hreceived, BitVec.xor_self, BitVec.xor_zero] at hsum
  have hrange : ∀ k ∈ differing frame.toList received, k < 240 := fun k hk =>
    Finset.mem_range.mp (Finset.mem_filter.mp hk).1
  have herrors : state poly (fun k => decide (k ∈ differing frame.toList received)) 0#16 240 =
      state poly (fun k => bitAt frame.toList k ^^ bitAt received k) 0#16 240 := by
    apply Crc.state_congr
    intro k hk
    have hmem : k ∈ differing frame.toList received ↔
        bitAt frame.toList k ≠ bitAt received k := by
      rw [differing, Finset.mem_filter, Finset.mem_range]
      exact ⟨fun h => h.2, fun h => ⟨hk, h⟩⟩
    have hxor : ∀ a b : Bool, decide (a ≠ b) = (a ^^ b) := by decide
    rw [decide_eq_decide.mpr hmem, hxor]
  exact absurd (herrors.trans hsum) (state_detectable hrange h)

def pingPacket : LinkPacket := ⟨.ping, 1, 2, 7, 0, 10, 0, Vector.replicate _ 0⟩

/-- Its frame with the lowest bit of its first payload byte changed. -/
def flippedFrame : List UInt8 := pingPacket.frame.toList.set 12 1

theorem corruption_detected_flipped :
    (linkPacketDecode (some flippedFrame) 2 (some .zero)).1 ≠ .ok := by
  have hencode : pingPacket.encode 30 = .ok pingPacket.frame := by decide +kernel
  have hone : (differing pingPacket.frame.toList flippedFrame).card = 1 := by decide +kernel
  exact corruption_detected hencode (.inl hone) .zero

end RadioConnection.LinkPacket
