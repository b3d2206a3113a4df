import RadioConnection.Link.Corruption
import RadioConnection.Radio.Resync

/-!
# Corrupted RC frames

`crsf_crc.c` is the shift register of `Crc` for 8 bits and the polynomial 0xD5, and
the parser looks at the checksum before it looks at the type, so a frame with wrong
bits behind its length byte is dropped at its last byte.

* `toBitVec_crsfCrc8`: the byte loop is the register.
* `corrupted_results`: what the parser returns for a frame whose checksum is wrong.
* `rcCorruption_rejected`: an odd number of wrong bits, or wrong bits within eight of
  each other, make it wrong.
-/

namespace RadioConnection

open Crc (shift state align)
open LinkPacket (bitAt bitAt_byte)

/-! ## The register -/

def crsfCrc8Poly : BitVec 8 := 0xD5#8

theorem crsfCrc8Poly_lowest : crsfCrc8Poly.getLsbD 0 = true := by decide

theorem toBitVec_crsfCrc8Bit (crc : UInt8) :
    (crsfCrc8Bit crc).toBitVec = shift crsfCrc8Poly crc.toBitVec := by
  have htop : crc &&& 0x80 ≠ 0 ↔ crc.toBitVec.msb = true := by
    have hand : (crc &&& 0x80).toBitVec =
        if crc.toBitVec.getLsbD 7 then BitVec.twoPow 8 7 else 0#8 :=
      BitVec.and_twoPow crc.toBitVec 7
    rw [BitVec.msb_eq_getLsbD_last, ne_eq, ← UInt8.toBitVec_inj, hand]
    cases crc.toBitVec.getLsbD 7 <;> decide
  rw [crsfCrc8Bit, shift]
  rw [if_congr htop rfl rfl]
  split_ifs <;> rfl

theorem toBitVec_crsfCrc8Byte (crc byte : UInt8) :
    (crsfCrc8Byte crc byte).toBitVec =
      (shift crsfCrc8Poly)^[8] (crc.toBitVec ^^^ byte.toBitVec) := by
  have hsteps : ∀ (n : ℕ) (crc : UInt8),
      (crsfCrc8Bit^[n] crc).toBitVec = (shift crsfCrc8Poly)^[n] crc.toBitVec := by
    intro n
    induction n with
    | zero => exact fun _ => rfl
    | succ n ih =>
      intro crc
      rw [Function.iterate_succ_apply, ih, toBitVec_crsfCrc8Bit, Function.iterate_succ_apply]
  exact hsteps 8 _

theorem align_eq_byte (bytes : List UInt8) (n : ℕ) :
    align 8 (bitAt bytes) (8 * n) 8 = (bytes.getD n 0).toBitVec := by
  apply BitVec.eq_of_getMsbD_eq
  intro i hi
  rw [Crc.getMsbD_align _ _ le_rfl hi, decide_eq_true hi, Bool.true_and, bitAt_byte bytes n hi]

/-- **The byte loop is the register.** -/
theorem toBitVec_crsfCrc8 (bytes : List UInt8) {n : ℕ} (hn : n ≤ bytes.length) :
    (crsfCrc8DvbS2 (bytes.take n)).toBitVec = state crsfCrc8Poly (bitAt bytes) 0#8 (8 * n) := by
  rw [crsfCrc8DvbS2]
  induction n with
  | zero => rfl
  | succ n ih =>
    have hbyte : bytes.getD n 0 = bytes.get ⟨n, hn⟩ := List.getD_eq_getElem _ _ hn
    rw [List.take_succ_eq_append_getElem hn, List.foldl_append, List.foldl_cons, List.foldl_nil,
      toBitVec_crsfCrc8Byte, ih (Nat.le_of_succ_le hn), Nat.mul_succ,
      Crc.state_add _ _ _ le_rfl, align_eq_byte, hbyte]
    rfl

/-- **The register ends at zero exactly behind a right checksum.** -/
theorem state_eq_zero_iff (body : List UInt8) (crc : UInt8) :
    state crsfCrc8Poly (bitAt (body ++ [crc])) 0#8 (8 * (body.length + 1)) = 0#8 ↔
      crc = crsfCrc8DvbS2 body := by
  have hlast : (body ++ [crc]).getD body.length 0 = crc := by
    rw [List.getD_append_right _ _ _ _ le_rfl, Nat.sub_self]
    rfl
  have hbody := toBitVec_crsfCrc8 (body ++ [crc]) (n := body.length) (by simp)
  rw [List.take_left] at hbody
  rw [Nat.mul_succ, Crc.state_add _ _ _ le_rfl, align_eq_byte, hlast, ← hbody]
  constructor
  · intro h
    have hxor := BitVec.xor_eq_zero_iff.mp (Crc.eq_zero_of_iterate_shift crsfCrc8Poly_lowest 8 h)
    exact (UInt8.toBitVec_inj.mp hxor).symm
  · rintro rfl
    rw [BitVec.xor_self, Crc.iterate_shift_zero]

/-! ## A wrong checksum -/

namespace CrsfProtocolContext

variable {ctx : CrsfProtocolContext} {a l crc : UInt8} {body : List UInt8}

theorem processFrame_wrongCrc (h : Holds ctx body crc) (hcrc : crc ≠ crsfCrc8DvbS2 body) :
    (processFrame ctx).1 = .error ∧ (processFrame ctx).2.getFrame.1 = none := by
  have hwrong : crsfCrc8DvbS2 (crcData { ctx with receivedFrames := ctx.receivedFrames + 1 }) ≠
      bufferAt { ctx with receivedFrames := ctx.receivedFrames + 1 } (ctx.framePos - 1).toNat := by
    intro heq
    exact hcrc (h.expectedCrc.symm.trans (heq.symm.trans (congrArg crsfCrc8DvbS2 h.crcData)))
  rw [processFrame]
  dsimp only
  rw [if_pos hwrong]
  exact ⟨rfl, rfl⟩

/-- **A frame with a wrong checksum is an error at its last byte**, and publishes nothing. -/
theorem corrupted_results (hctx : ctx.parserState = .waitAddress) (ha : IsAddress a)
    (hl : IsLength l) (hlen : body.length + 1 = l.toNat) (hcrc : crc ≠ crsfCrc8DvbS2 body)
    (nowMs : UInt32) :
    crsfProtocol.results nowMs ctx (a :: l :: body ++ [crc]) =
        List.replicate (body.length + 2) .inProgress ++ [.error] ∧
      (crsfProtocol.feed nowMs ctx (a :: l :: body ++ [crc])).getFrame.1 = none := by
  have hstart : Tracks ctx [] := .address hctx
  have hbody : body.length < l.toNat := by omega
  have hresults := results_inProgress nowMs hstart fun k hpos hk =>
    foldl_take_ne_nil ha hl hbody hpos hk
  obtain ⟨hholds, -, hbyte⟩ := processByte_complete (feed_part nowMs hstart ha hl hbody) hlen crc
  obtain ⟨herror, hframe⟩ := processFrame_wrongCrc hholds hcrc
  constructor
  · rw [RadioProtocol.results_append, hresults]
    refine congrArg _ ?_
    show [(processByte _ crc).1] = _
    rw [hbyte, herror]
  · rw [feed_concat, hbyte]
    exact hframe

/-! ## Errors -/

/-- `received` is the frame with these bits of its bytes 2 to 25 flipped; the bits of a byte are
counted from its most significant one. -/
structure RcCorruption (frame received : List UInt8) (errors : Finset ℕ) : Prop where
  length : received.length = 26
  behind : ∀ k ∈ errors, 16 ≤ k ∧ k < 208
  bits : ∀ k < 208, bitAt received k = (bitAt frame k ^^ decide (k ∈ errors))

/-- An odd number of errors, or a burst of at most 8 bits. -/
def OddOrBurst (errors : Finset ℕ) : Prop :=
  Odd errors.card ∨ errors.Nonempty ∧ ∃ start, ∀ k ∈ errors, start ≤ k ∧ k < start + 8

theorem state_oddOrBurst {errors : Finset ℕ} {n : ℕ} (hrange : ∀ k ∈ errors, k < n)
    (h : OddOrBurst errors) :
    state crsfCrc8Poly (fun k => decide (k ∈ errors)) 0#8 n ≠ 0#8 := by
  rcases h with hodd | ⟨hsome, start, hwindow⟩
  · exact Crc.odd_ne_zero_of_card (by decide) (by decide) hrange hodd
  · exact Crc.burst_ne_zero_of_window crsfCrc8Poly_lowest hrange hsome hwindow

/-- The errors, counted from the first byte that the checksum takes. -/
def behindLength (errors : Finset ℕ) : Finset ℕ := errors.image (· - 16)

variable {errors : Finset ℕ}

theorem mem_behindLength (hbehind : ∀ k ∈ errors, 16 ≤ k ∧ k < 208) (k : ℕ) :
    k ∈ behindLength errors ↔ k + 16 ∈ errors := by
  rw [behindLength, Finset.mem_image]
  constructor
  · rintro ⟨j, hj, rfl⟩
    rwa [Nat.sub_add_cancel (hbehind j hj).1]
  · exact fun hk => ⟨k + 16, hk, Nat.add_sub_cancel k 16⟩

theorem oddOrBurst_behindLength (hbehind : ∀ k ∈ errors, 16 ≤ k ∧ k < 208)
    (h : OddOrBurst errors) : OddOrBurst (behindLength errors) := by
  rcases h with hodd | ⟨hsome, start, hwindow⟩
  · refine .inl ?_
    rw [behindLength, Finset.card_image_of_injOn]
    · exact hodd
    · intro i hi j hj hij
      have hi16 := (hbehind i hi).1
      have hj16 := (hbehind j hj).1
      show i = j
      have hsub : i - 16 = j - 16 := hij
      omega
  · refine .inr ⟨hsome.image _, start - 16, fun k hk => ?_⟩
    have := hwindow _ ((mem_behindLength hbehind k).mp hk)
    omega

theorem getD_eq_of_bitAt {bytes bytes' : List UInt8} {n : ℕ}
    (h : ∀ i < 8, bitAt bytes (8 * n + i) = bitAt bytes' (8 * n + i)) :
    bytes.getD n 0 = bytes'.getD n 0 := by
  apply UInt8.toBitVec_inj.mp
  apply BitVec.eq_of_getMsbD_eq
  intro i hi
  rw [← bitAt_byte bytes n hi, ← bitAt_byte bytes' n hi]
  exact h i hi

theorem bitAt_cons_cons (a l : UInt8) (bytes : List UInt8) (k : ℕ) :
    bitAt (a :: l :: bytes) (k + 16) = bitAt bytes k := by
  rw [bitAt, bitAt, show (k + 16) / 8 = k / 8 + 2 from by omega,
    show (k + 16) % 8 = k % 8 from by omega]
  rfl

/-- A corrupted frame has the address and the length of the frame, and 24 more bytes. -/
theorem RcCorruption.shape {rest received : List UInt8}
    (h : RcCorruption (a :: l :: rest) received errors) :
    ∃ body crc, received = a :: l :: body ++ [crc] ∧ body.length = 23 := by
  have hlength := h.length
  match received, hlength with
  | a' :: l' :: tail, hlength =>
    have htail : tail.length = 24 := by simpa using hlength
    have hhead (n : ℕ) (hn : n < 2) :
        (a' :: l' :: tail).getD n 0 = (a :: l :: rest).getD n 0 := by
      apply getD_eq_of_bitAt
      intro i hi
      have hclear : 8 * n + i ∉ errors := fun hmem => by
        have := (h.behind _ hmem).1
        omega
      rw [h.bits _ (by omega), decide_eq_false hclear, Bool.xor_false]
    obtain rfl : a' = a := hhead 0 (by decide)
    obtain rfl : l' = l := hhead 1 (by decide)
    have hne : tail ≠ [] := List.ne_nil_of_length_eq_add_one htail
    refine ⟨tail.dropLast, tail.getLast hne, ?_, ?_⟩
    · rw [List.cons_append, List.cons_append, List.dropLast_concat_getLast]
    · rw [List.length_dropLast, htail]

/-- **The errors make the checksum wrong.** -/
theorem RcCorruption.wrongCrc {body body' : List UInt8} {crc' : UInt8}
    (h : RcCorruption (a :: l :: body ++ [crsfCrc8DvbS2 body]) (a :: l :: body' ++ [crc']) errors)
    (hbody : body.length = 23) (hbody' : body'.length = 23) (hdetect : OddOrBurst errors) :
    crc' ≠ crsfCrc8DvbS2 body' := by
  intro hcrc
  have hsent := (state_eq_zero_iff body _).mpr rfl
  have hreceived := (state_eq_zero_iff body' crc').mpr hcrc
  rw [hbody] at hsent
  rw [hbody'] at hreceived
  have hsum := @Crc.state_xor 8 crsfCrc8Poly (bitAt (body ++ [crsfCrc8DvbS2 body]))
    (bitAt (body' ++ [crc'])) 0#8 0#8 (8 * (23 + 1))
  rw [hsent, hreceived, BitVec.xor_self] at hsum
  have herrors : state crsfCrc8Poly (fun k => decide (k ∈ behindLength errors)) 0#8
      (8 * (23 + 1)) = state crsfCrc8Poly
        (fun k => bitAt (body ++ [crsfCrc8DvbS2 body]) k ^^ bitAt (body' ++ [crc']) k) 0#8
        (8 * (23 + 1)) := by
    apply Crc.state_congr
    intro k hk
    have hbit := h.bits (k + 16) (by omega)
    rw [List.cons_append, List.cons_append, bitAt_cons_cons, List.cons_append, List.cons_append,
      bitAt_cons_cons] at hbit
    rw [hbit, ← Bool.xor_assoc, Bool.xor_self, Bool.false_xor, decide_eq_decide]
    exact mem_behindLength h.behind k
  refine state_oddOrBurst ?_ (oddOrBurst_behindLength h.behind hdetect) (herrors.trans hsum)
  intro k hk
  have := (h.behind _ ((mem_behindLength h.behind k).mp hk)).2
  omega

/-- **A corrupted RC frame is an error at its 26th byte**, when an odd number of bits is wrong, or
bits within eight of each other; no frame comes out of it. -/
theorem rcCorruption_rejected {ctx : CrsfProtocolContext} (hctx : ctx.parserState = .waitAddress)
    {frame received : List UInt8} {p : Vector UInt8 22} (hframe : IsRcFrame frame p)
    {errors : Finset ℕ} (h : RcCorruption frame received errors) (hdetect : OddOrBurst errors)
    (nowMs : UInt32) :
    crsfProtocol.results nowMs ctx received = List.replicate 25 .inProgress ++ [.error] ∧
      (crsfProtocol.feed nowMs ctx received).getFrame.1 = none := by
  obtain ⟨a, ha, rfl⟩ := hframe
  have hrc : rcFrameHead a p ++ [rcFrameCrc p] =
      a :: 24 :: (crsfFrameTypeRcChannelsPacked :: p.toList) ++
        [crsfCrc8DvbS2 (crsfFrameTypeRcChannelsPacked :: p.toList)] := rfl
  rw [hrc] at h
  obtain ⟨body, crc, rfl, hbody⟩ := h.shape
  have hcrc := h.wrongCrc (by simp) hbody hdetect
  have hresults := corrupted_results hctx ha (by decide : IsLength 24) (by rw [hbody]; rfl) hcrc
    nowMs
  rw [hbody] at hresults
  exact hresults

/-- The frame of 22 zeros with five bits of its type flipped: that of a device ping. -/
def flippedType : List UInt8 := (rcFrame 0xC8 (Vector.replicate 22 0)).set 2 0x28

theorem rcCorruption_rejected_flippedType :
    crsfProtocol.results 0 init flippedType = List.replicate 25 .inProgress ++ [.error] ∧
      (crsfProtocol.feed 0 init flippedType).getFrame.1 = none := by
  have hcorruption : RcCorruption (rcFrame 0xC8 (Vector.replicate 22 0)) flippedType
      {18, 19, 20, 21, 22} := ⟨by decide +kernel, by decide, by decide +kernel⟩
  exact rcCorruption_rejected rfl ⟨0xC8, .inl rfl, rfl⟩ hcorruption (.inl (by decide)) 0

end CrsfProtocolContext

end RadioConnection
