import Mathlib

/-!
# A cyclic redundancy check

The shift register of a CRC over bits, the most significant bit of the register
first, for any width and polynomial.  The bits come from a function, and the
register is linear in them, so a corrupted message passes the check exactly when
the register of the errors alone ends at zero.

* `state_add`: a run of bits no longer than the register can be taken in at once.
* `burst_ne_zero`: a burst of errors that fits into the register is noticed.
* `pair_ne_zero`: so are two errors, as far as the register does not repeat.
* `odd_ne_zero`: so is an odd number of errors, when the weight of the polynomial
  is odd.
-/

namespace Crc

variable {w : ℕ}

def shift (poly crc : BitVec w) : BitVec w :=
  if crc.msb then (crc <<< 1) ^^^ poly else crc <<< 1

/-- The bit that a message bit is added to. -/
def top (w : ℕ) : BitVec w := BitVec.twoPow w (w - 1)

/-- The register after the first `n` bits. -/
def state (poly : BitVec w) (bits : ℕ → Bool) (crc : BitVec w) : ℕ → BitVec w
  | 0 => crc
  | n + 1 => shift poly (state poly bits crc n ^^^ if bits n then top w else 0#w)

variable {poly : BitVec w}

theorem state_congr {bits bits' : ℕ → Bool} {n : ℕ} (h : ∀ k < n, bits k = bits' k)
    (crc : BitVec w) : state poly bits crc n = state poly bits' crc n := by
  induction n with
  | zero => rfl
  | succ n ih =>
    rw [state, state, ih fun k hk => h k (Nat.lt_succ_of_lt hk), h n (Nat.lt_succ_self n)]

/-! ## Linearity -/

theorem shift_xor (a b : BitVec w) : shift poly (a ^^^ b) = shift poly a ^^^ shift poly b := by
  unfold shift
  rw [BitVec.msb_xor]
  cases ha : a.msb <;> cases hb : b.msb
  · simp [BitVec.shiftLeft_xor_distrib]
  · simp [BitVec.shiftLeft_xor_distrib, BitVec.xor_assoc]
  · rw [Bool.xor_false, if_pos rfl, if_pos rfl, if_neg nofun, BitVec.shiftLeft_xor_distrib,
      BitVec.xor_assoc, BitVec.xor_assoc, BitVec.xor_comm poly]
  · rw [Bool.xor_self, if_neg nofun, if_pos rfl, if_pos rfl, BitVec.shiftLeft_xor_distrib,
      BitVec.xor_assoc, BitVec.xor_comm poly, BitVec.xor_assoc, BitVec.xor_self, BitVec.xor_zero]

theorem shift_zero : shift poly 0#w = 0#w := by
  have h := @shift_xor w poly 0#w 0#w
  rw [BitVec.xor_self, BitVec.xor_self] at h
  exact h

theorem iterate_shift_xor (n : ℕ) (a b : BitVec w) :
    (shift poly)^[n] (a ^^^ b) = (shift poly)^[n] a ^^^ (shift poly)^[n] b := by
  induction n generalizing a b with
  | zero => rfl
  | succ n ih => rw [Function.iterate_succ_apply, shift_xor, ih, Function.iterate_succ_apply,
      Function.iterate_succ_apply]

theorem iterate_shift_zero (n : ℕ) : (shift poly)^[n] 0#w = 0#w :=
  Function.iterate_fixed shift_zero n

/-- **The register is linear in the bits and its start.** -/
theorem state_xor (bits bits' : ℕ → Bool) (crc crc' : BitVec w) (n : ℕ) :
    state poly (fun k => bits k ^^ bits' k) (crc ^^^ crc') n =
      state poly bits crc n ^^^ state poly bits' crc' n := by
  induction n with
  | zero => rfl
  | succ n ih =>
    have hbit : (if bits n ^^ bits' n then top w else 0#w) =
        (if bits n then top w else 0#w) ^^^ if bits' n then top w else 0#w := by
      cases bits n <;> cases bits' n <;> simp
    rw [state, state, state, ih, hbit, ← shift_xor]
    congr 1
    ac_rfl

theorem eq_zero_of_shift (hpoly : poly.getLsbD 0 = true) {crc : BitVec w}
    (h : shift poly crc = 0#w) : crc = 0#w := by
  have hw : 0 < w := BitVec.lt_of_getLsbD hpoly
  unfold shift at h
  cases hmsb : crc.msb with
  | true =>
    rw [hmsb, if_pos rfl] at h
    have hbit := congrArg (·.getLsbD 0) h
    simp [hpoly] at hbit
  | false =>
    rw [hmsb, if_neg nofun] at h
    apply BitVec.eq_of_getLsbD_eq
    intro i hi
    rw [BitVec.getLsbD_zero]
    by_cases hlast : i + 1 < w
    · have hbit := congrArg (·.getLsbD (i + 1)) h
      simp only [BitVec.getLsbD_shiftLeft, BitVec.getLsbD_zero, hlast, decide_true,
        Nat.add_sub_cancel] at hbit
      simpa using hbit
    · have hi' : i = w - 1 := by omega
      rw [hi', ← BitVec.msb_eq_getLsbD_last]
      exact hmsb

theorem eq_zero_of_iterate_shift (hpoly : poly.getLsbD 0 = true) (n : ℕ) {crc : BitVec w}
    (h : (shift poly)^[n] crc = 0#w) : crc = 0#w := by
  induction n generalizing crc with
  | zero => exact h
  | succ n ih => exact eq_zero_of_shift hpoly (ih h)

/-! ## Several bits at once -/

/-- Bits `a` to `a + m` of the message, from the top of a register on. -/
def align (w : ℕ) (bits : ℕ → Bool) (a : ℕ) : ℕ → BitVec w
  | 0 => 0#w
  | m + 1 => align w bits a m ^^^ if bits (a + m) then BitVec.twoPow w (w - 1 - m) else 0#w

theorem getMsbD_align (bits : ℕ → Bool) (a : ℕ) {m i : ℕ} (hm : m ≤ w) (hi : i < w) :
    (align w bits a m).getMsbD i = (decide (i < m) && bits (a + i)) := by
  induction m with
  | zero => simp [align]
  | succ m ih =>
    have hbit : (if bits (a + m) then BitVec.twoPow w (w - 1 - m) else 0#w).getMsbD i =
        (decide (i = m) && bits (a + i)) := by
      by_cases him : i = m
      · subst him
        cases hbits : bits (a + i) with
        | true =>
          rw [if_pos rfl, BitVec.getMsbD_twoPow, decide_eq_true (by omega : w - 1 - i < w),
            decide_eq_true (by omega : i = w - (w - 1 - i) - 1), decide_eq_true rfl]
        | false =>
          rw [if_neg nofun, BitVec.getMsbD_zero, Bool.and_false]
      · rw [decide_eq_false him, Bool.false_and]
        cases bits (a + m) with
        | true =>
          rw [if_pos rfl, BitVec.getMsbD_twoPow,
            decide_eq_false (by omega : ¬ i = w - (w - 1 - m) - 1), Bool.and_false]
        | false => exact BitVec.getMsbD_zero
    rw [align, BitVec.getMsbD_xor, ih (by omega), hbit]
    by_cases him : i = m
    · subst him
      simp
    · have hlt : decide (i < m + 1) = decide (i < m) := by
        rw [decide_eq_decide]
        omega
      rw [decide_eq_false him, hlt, Bool.false_and, Bool.xor_false]

/-- Below the top a bit moves up, and no feedback comes. -/
theorem iterate_shift_twoPow {m : ℕ} (hm : m < w) :
    (shift poly)^[m] (BitVec.twoPow w (w - 1 - m)) = top w := by
  induction m with
  | zero => rfl
  | succ m ih =>
    have hmsb : (BitVec.twoPow w (w - 1 - (m + 1))).msb = false := by
      rw [BitVec.msb_twoPow, decide_eq_false (by omega : ¬ w - 1 - (m + 1) = w - 1), Bool.and_false]
    have hstep : shift poly (BitVec.twoPow w (w - 1 - (m + 1))) = BitVec.twoPow w (w - 1 - m) := by
      rw [shift, hmsb, if_neg nofun, BitVec.twoPow_eq, BitVec.twoPow_eq, ← BitVec.shiftLeft_add]
      congr 1
      omega
    rw [Function.iterate_succ_apply, hstep, ih (by omega)]

/-- **A run of bits no longer than the register can be taken in at once.** -/
theorem state_add (bits : ℕ → Bool) (crc : BitVec w) (a : ℕ) {m : ℕ} (hm : m ≤ w) :
    state poly bits crc (a + m) =
      (shift poly)^[m] (state poly bits crc a ^^^ align w bits a m) := by
  induction m with
  | zero => rw [align, BitVec.xor_zero]; rfl
  | succ m ih =>
    have hbit : (if bits (a + m) then top w else 0#w) =
        (shift poly)^[m] (if bits (a + m) then BitVec.twoPow w (w - 1 - m) else 0#w) := by
      split_ifs
      · exact (iterate_shift_twoPow hm).symm
      · exact (iterate_shift_zero m).symm
    rw [← Nat.add_assoc, state, ih (by omega), hbit, ← iterate_shift_xor, align,
      Function.iterate_succ_apply', BitVec.xor_assoc]

theorem state_of_false {bits : ℕ → Bool} (crc : BitVec w) (a m : ℕ)
    (h : ∀ k, a ≤ k → k < a + m → bits k = false) :
    state poly bits crc (a + m) = (shift poly)^[m] (state poly bits crc a) := by
  induction m with
  | zero => rfl
  | succ m ih =>
    have hbit : bits (a + m) = false := h (a + m) (Nat.le_add_right a m) (Nat.lt_succ_self _)
    rw [← Nat.add_assoc, state, ih fun k hk hlt => h k hk (by omega), hbit,
      Function.iterate_succ_apply']
    simp

/-! ## Errors that are noticed -/

theorem state_before {bits : ℕ → Bool} {a : ℕ} (h : ∀ k < a, bits k = false) :
    state poly bits 0#w a = 0#w := by
  have hrun := @state_of_false w poly bits 0#w 0 a fun k _ hk => h k (by omega)
  rw [Nat.zero_add] at hrun
  exact hrun.trans (iterate_shift_zero a)

/-- **A burst of errors that fits into the register is noticed.** -/
theorem burst_ne_zero (hpoly : poly.getLsbD 0 = true) {bits : ℕ → Bool} {a m n : ℕ} (hm : m ≤ w)
    (hn : a + m ≤ n) (hbefore : ∀ k < a, bits k = false)
    (hafter : ∀ k, a + m ≤ k → k < n → bits k = false)
    (hsome : ∃ k, a ≤ k ∧ k < a + m ∧ bits k = true) : state poly bits 0#w n ≠ 0#w := by
  intro h
  obtain ⟨d, rfl⟩ := Nat.exists_eq_add_of_le hn
  rw [state_of_false _ _ _ hafter, state_add bits 0#w a hm, state_before hbefore,
    BitVec.zero_xor] at h
  have halign := eq_zero_of_iterate_shift hpoly m (eq_zero_of_iterate_shift hpoly d h)
  obtain ⟨k, hak, hkm, hk⟩ := hsome
  have hbit := @getMsbD_align w bits a m (k - a) hm (by omega)
  rw [halign, BitVec.getMsbD_zero, Nat.add_sub_cancel' hak, hk, Bool.and_true,
    decide_eq_true (by omega : k - a < m)] at hbit
  nomatch hbit

/-- A burst of errors, which may reach beyond the end of the message. -/
theorem burst_ne_zero_of_window (hpoly : poly.getLsbD 0 = true) {errors : Finset ℕ} {n : ℕ}
    (hrange : ∀ k ∈ errors, k < n) (hsome : errors.Nonempty) {start : ℕ}
    (hwindow : ∀ k ∈ errors, start ≤ k ∧ k < start + w) :
    state poly (fun k => decide (k ∈ errors)) 0#w n ≠ 0#w := by
  obtain ⟨k, hk⟩ := hsome
  have hkRange := hrange k hk
  have hkWindow := hwindow k hk
  refine @burst_ne_zero w poly hpoly (fun k => decide (k ∈ errors)) start (min w (n - start)) n
    (min_le_left _ _) (by omega) ?_ ?_ ?_
  · intro i hi
    exact decide_eq_false fun hmem => absurd (hwindow i hmem).1 (by omega)
  · intro i hi hlt
    refine decide_eq_false fun hmem => ?_
    have := (hwindow i hmem).2
    omega
  · exact ⟨k, hkWindow.1, by omega, decide_eq_true hk⟩

theorem state_single {i n : ℕ} (hi : i < n) :
    state poly (fun k => decide (k = i)) 0#w n = (shift poly)^[n - i] (top w) := by
  obtain ⟨d, rfl⟩ := Nat.exists_eq_add_of_lt hi
  have hbefore : state poly (fun k => decide (k = i)) 0#w i = 0#w :=
    state_before fun k hk => decide_eq_false (by omega)
  have hafter := @state_of_false w poly (fun k => decide (k = i)) 0#w (i + 1) d fun k hk _ =>
    decide_eq_false (by omega)
  rw [show i + d + 1 = i + 1 + d by omega, hafter, state, hbefore, BitVec.zero_xor,
    if_pos (decide_eq_true rfl), show i + 1 + d - i = d + 1 by omega, Function.iterate_succ_apply]

/-- **Two errors are noticed**, as far as the register does not repeat. -/
theorem pair_ne_zero (hpoly : poly.getLsbD 0 = true) {i j n : ℕ} (hij : i < j) (hj : j < n)
    (horder : (shift poly)^[j - i] (top w) ≠ top w) :
    state poly (fun k => decide (k = i) ^^ decide (k = j)) 0#w n ≠ 0#w := by
  intro h
  have hsplit := @state_xor w poly (fun k => decide (k = i)) (fun k => decide (k = j)) 0#w 0#w n
  rw [BitVec.xor_zero, h, state_single (hij.trans hj), state_single hj,
    show n - i = (n - j) + (j - i) by omega, Function.iterate_add_apply, ← iterate_shift_xor]
    at hsplit
  exact horder (BitVec.xor_eq_zero_iff.mp (eq_zero_of_iterate_shift hpoly _ hsplit.symm))

/-! ## The parity of the register -/

def parity (crc : BitVec w) : ZMod 2 := ∑ i ∈ Finset.range w, if crc.getLsbD i then 1 else 0

theorem parity_xor (a b : BitVec w) : parity (a ^^^ b) = parity a + parity b := by
  unfold parity
  rw [← Finset.sum_add_distrib]
  refine Finset.sum_congr rfl fun i _ => ?_
  rw [BitVec.getLsbD_xor]
  cases a.getLsbD i <;> cases b.getLsbD i <;> decide

theorem parity_zero : parity 0#w = 0 :=
  Finset.sum_eq_zero fun i _ => by rw [BitVec.getLsbD_zero]; rfl

theorem parity_shiftLeft (crc : BitVec w) :
    parity crc = parity (crc <<< 1) + if crc.msb then 1 else 0 := by
  cases w with
  | zero => rw [BitVec.eq_nil crc]; decide
  | succ w =>
    have hlow : parity (crc <<< 1) =
        ∑ i ∈ Finset.range w, if crc.getLsbD i then (1 : ZMod 2) else 0 := by
      rw [parity, Finset.sum_range_succ']
      have hfirst : (crc <<< 1).getLsbD 0 = false := by simp
      rw [hfirst, if_neg nofun, add_zero]
      refine Finset.sum_congr rfl fun i hi => ?_
      have hlt : i + 1 < w + 1 := Nat.succ_lt_succ (Finset.mem_range.mp hi)
      rw [BitVec.getLsbD_shiftLeft, decide_eq_true hlt]
      simp
    rw [hlow, parity, Finset.sum_range_succ, BitVec.msb_eq_getLsbD_last, Nat.add_sub_cancel]

/-- **The step keeps the parity**, when that of the polynomial is odd. -/
theorem parity_shift (hpoly : parity poly = 1) (crc : BitVec w) :
    parity (shift poly crc) = parity crc := by
  rw [parity_shiftLeft crc, shift]
  cases crc.msb with
  | true => rw [if_pos rfl, if_pos rfl, parity_xor, hpoly]
  | false => rw [if_neg nofun, if_neg nofun, add_zero]

theorem parity_state (hpoly : parity poly = 1) (htop : parity (top w) = 1) (bits : ℕ → Bool)
    (n : ℕ) :
    parity (state poly bits 0#w n) = (((Finset.range n).filter (bits · = true)).card : ZMod 2) := by
  induction n with
  | zero => exact parity_zero
  | succ n ih =>
    rw [state, parity_shift hpoly, parity_xor, ih, Finset.range_add_one, Finset.filter_insert]
    cases hbit : bits n with
    | true =>
      rw [if_pos rfl, if_pos rfl, htop, Finset.card_insert_of_notMem (by simp), Nat.cast_succ]
    | false => rw [if_neg nofun, if_neg nofun, parity_zero, add_zero]

/-- **An odd number of errors is noticed.** -/
theorem odd_ne_zero (hpoly : parity poly = 1) (htop : parity (top w) = 1) {bits : ℕ → Bool} {n : ℕ}
    (hodd : Odd ((Finset.range n).filter (bits · = true)).card) :
    state poly bits 0#w n ≠ 0#w := by
  intro h
  have hparity := parity_state hpoly htop bits n
  rw [h, parity_zero, ZMod.natCast_eq_one_iff_odd.mpr hodd] at hparity
  nomatch hparity

theorem odd_ne_zero_of_card (hpoly : parity poly = 1) (htop : parity (top w) = 1)
    {errors : Finset ℕ} {n : ℕ} (hrange : ∀ k ∈ errors, k < n) (hodd : Odd errors.card) :
    state poly (fun k => decide (k ∈ errors)) 0#w n ≠ 0#w := by
  refine odd_ne_zero hpoly htop ?_
  have hall : (Finset.range n).filter (fun k => decide (k ∈ errors) = true) = errors := by
    ext k
    rw [Finset.mem_filter, Finset.mem_range, decide_eq_true_iff]
    exact ⟨fun h => h.2, fun h => ⟨hrange k h, h⟩⟩
  rw [hall]
  exact hodd

end Crc
