import Mathlib

/-!
# Ramps

A value that rises from 0 to `scale` between two points and is constant outside of
them, rounded down to an integer, and the value of a stick, which rises on both sides
of a dead band.

* `rise_mono`, `rise_nonneg`, `rise_le`: a ramp stays between its ends.
* `stick_mono`, `stick_of_dead`: so does a stick, which is at 0 in its dead band.
-/

namespace Ramp

/-- The ramp from `lo` to `hi`. -/
def rise (scale lo hi x : ℤ) : ℤ :=
  if x ≤ lo then 0 else if hi ≤ x then scale else (x - lo) * scale / (hi - lo)

variable {scale lo hi x y : ℤ}

theorem rise_of_le (h : x ≤ lo) : rise scale lo hi x = 0 := if_pos h

theorem rise_of_ge (hlt : lo < hi) (h : hi ≤ x) : rise scale lo hi x = scale := by
  rw [rise, if_neg (by omega), if_pos h]

theorem rise_of_between (hlt : lo < hi) (hlo : lo ≤ x) (hhi : x ≤ hi) :
    rise scale lo hi x = (x - lo) * scale / (hi - lo) := by
  rcases hlo.eq_or_lt with rfl | hlo
  · rw [rise_of_le le_rfl, sub_self, zero_mul, Int.zero_ediv]
  · rcases hhi.eq_or_lt with rfl | hhi
    · rw [rise_of_ge hlt le_rfl, Int.mul_ediv_cancel_left _ (by omega)]
    · rw [rise, if_neg (by omega), if_neg (by omega)]

theorem rise_nonneg (hscale : 0 ≤ scale) : 0 ≤ rise scale lo hi x := by
  rw [rise]
  split_ifs with hlo hhi
  · exact le_rfl
  · exact hscale
  · exact Int.ediv_nonneg (mul_nonneg (by omega) hscale) (by omega)

theorem rise_le (hscale : 0 ≤ scale) (hlt : lo < hi) : rise scale lo hi x ≤ scale := by
  rw [rise]
  split_ifs with hlo hhi
  · exact hscale
  · exact le_rfl
  · have hmul : (x - lo) * scale ≤ scale * (hi - lo) := by
      rw [mul_comm]
      exact mul_le_mul_of_nonneg_left (by omega) hscale
    exact Int.ediv_le_of_le_mul (by omega) hmul

theorem rise_clamp {a b : ℤ} (hlt : lo < hi) (ha : a ≤ lo) (hb : hi ≤ b) :
    rise scale lo hi (max a (min x b)) = rise scale lo hi x := by
  rcases le_or_gt x a with hx | hx
  · rw [rise_of_le (by omega), rise_of_le (by omega)]
  · rcases le_or_gt b x with hx' | hx'
    · rw [rise_of_ge hlt (by omega), rise_of_ge hlt (by omega)]
    · rw [min_eq_left hx'.le, max_eq_right hx.le]

/-- **A ramp does not fall.** -/
theorem rise_mono (hscale : 0 ≤ scale) (hlt : lo < hi) (h : x ≤ y) :
    rise scale lo hi x ≤ rise scale lo hi y := by
  rcases le_or_gt x lo with hx | hx
  · rw [rise_of_le hx]
    exact rise_nonneg hscale
  · rcases le_or_gt hi y with hy | hy
    · rw [rise_of_ge hlt hy]
      exact rise_le hscale hlt
    · rw [rise_of_between hlt hx.le (h.trans hy.le), rise_of_between hlt (hx.le.trans h) hy.le]
      exact Int.ediv_le_ediv (by omega) (mul_le_mul_of_nonneg_right (by omega) hscale)

/-- The stick: a ramp above the dead band, and its mirror image below. -/
def stick (scale lo deadLo deadHi hi x : ℤ) : ℤ :=
  rise scale deadHi hi x - rise scale (-deadLo) (-lo) (-x)

variable {deadLo deadHi : ℤ}

theorem stick_of_dead (hlo : deadLo ≤ x) (hhi : x ≤ deadHi) :
    stick scale lo deadLo deadHi hi x = 0 := by
  rw [stick, rise_of_le hhi, rise_of_le (by omega), sub_self]

theorem stick_of_ge (hdead : deadLo ≤ deadHi) (h : deadHi ≤ x) :
    stick scale lo deadLo deadHi hi x = rise scale deadHi hi x := by
  rw [stick, @rise_of_le scale (-deadLo) (-lo) (-x) (by omega), sub_zero]

theorem stick_of_le (hdead : deadLo ≤ deadHi) (h : x ≤ deadLo) :
    stick scale lo deadLo deadHi hi x = -rise scale (-deadLo) (-lo) (-x) := by
  rw [stick, rise_of_le (h.trans hdead), zero_sub]

theorem neg_le_stick (hscale : 0 ≤ scale) (hlo : lo < deadLo) :
    -scale ≤ stick scale lo deadLo deadHi hi x := by
  have hright := @rise_nonneg scale deadHi hi x hscale
  have hleft := @rise_le scale (-deadLo) (-lo) (-x) hscale (by omega)
  rw [stick]
  omega

theorem stick_le (hscale : 0 ≤ scale) (hhi : deadHi < hi) :
    stick scale lo deadLo deadHi hi x ≤ scale := by
  have hright := @rise_le scale deadHi hi x hscale hhi
  have hleft := @rise_nonneg scale (-deadLo) (-lo) (-x) hscale
  rw [stick]
  omega

theorem stick_clamp (hlo : lo < deadLo) (hdead : deadLo ≤ deadHi) (hhi : deadHi < hi) :
    stick scale lo deadLo deadHi hi (max lo (min x hi)) = stick scale lo deadLo deadHi hi x := by
  have hneg : -max lo (min x hi) = max (-hi) (min (-x) (-lo)) := by omega
  rw [stick, stick, rise_clamp hhi (by omega) le_rfl, hneg,
    rise_clamp (by omega) (by omega) le_rfl]

/-- **A stick does not fall.** -/
theorem stick_mono (hscale : 0 ≤ scale) (hlo : lo < deadLo) (hhi : deadHi < hi) (h : x ≤ y) :
    stick scale lo deadLo deadHi hi x ≤ stick scale lo deadLo deadHi hi y :=
  sub_le_sub (rise_mono hscale hhi h) (rise_mono hscale (by omega) (by omega))

end Ramp
