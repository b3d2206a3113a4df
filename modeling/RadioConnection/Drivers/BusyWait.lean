import RadioConnection.Drivers.Sx128x

/-!
# The wait for BUSY ends

`sx128x_wait_while_busy` has no count of its rounds: it compares the difference of
two readings of a 32-bit clock with the time-out.  Here BUSY is any sequence of
levels and the clock any sequence of times, read modulo `2^32`.

* `elapsed_toNat`: a difference of two readings is the time between them, as long
  as that is less than `2^32` ms.
* `InTime`: the polls from one on find BUSY low before the time is up.
* `pollBusy_ends`: the loop ends within the time-out, by induction on the rounds
  that are left; the time at its last round is the invariant.
* `waitWhileBusy_ends`: **the wait ends after at most `busy_timeout_ms` delays,
  with OK exactly when BUSY is low in time.**
-/

namespace RadioConnection

open Interaction

/-- How often BUSY and the clock were read, and how many delays there were. -/
structure BusyWorld where
  polls : Nat
  readings : Nat
  delays : Nat
  deriving DecidableEq, Repr

/-- A port whose BUSY is `busy i` at its poll `i`, and whose clock is at `clock j` ms at its
reading `j`. -/
def busyPort (busy : Nat → Bool) (clock : Nat → Nat) :
    (o : PortOp) → BusyWorld → o.Ans × BusyWorld
  | .busyRead, w => (busy w.polls, { w with polls := w.polls + 1 })
  | .timeMs, w => (UInt32.ofNat (clock w.readings), { w with readings := w.readings + 1 })
  | .delayMs _, w => ((), { w with delays := w.delays + 1 })
  | .spiTransfer _, w => ((false, []), w)
  | .nssWrite _, w => ((), w)
  | .resetWrite _, w => ((), w)
  | .takeDio1Event, w => (false, w)

/-- A clock that never runs backwards, that moves by at most `2^32 - timeout` ms from one reading
to the next, and by at least one where there is a delay between them: the first poll follows
the start without a delay. -/
structure ClockRuns (clock : Nat → Nat) (timeout : Nat) : Prop where
  monotone : ∀ j, clock j ≤ clock (j + 1)
  steps : ∀ j, clock (j + 1) - clock j ≤ 2 ^ 32 - timeout
  delays : ∀ j, clock (j + 1) + 1 ≤ clock (j + 2)

/-- The time at poll `i`, from the start of the wait. -/
def elapsedAt (clock : Nat → Nat) (i : Nat) : Nat := clock (i + 1) - clock 0

/-- From poll `k` on, BUSY is low at a poll before one that finds it high with the time up. -/
def InTime (busy : Nat → Bool) (clock : Nat → Nat) (timeout k : Nat) : Prop :=
  ∃ i, k ≤ i ∧ busy i = false ∧
    ∀ j, k ≤ j → j < i → ¬ (busy j = true ∧ timeout ≤ elapsedAt clock j)

variable {busy : Nat → Bool} {clock : Nat → Nat} {timeout k : Nat}

theorem elapsed_toNat {start now : Nat} (hle : start ≤ now) (hlt : now - start < 2 ^ 32) :
    (UInt32.ofNat now - UInt32.ofNat start).toNat = now - start := by
  rw [← UInt32.ofNat_sub hle]
  exact UInt32.toNat_ofNat_of_lt' hlt

theorem inTime_of_low (h : busy k = false) : InTime busy clock timeout k :=
  ⟨k, le_rfl, h, fun _ hk hj => absurd hj (not_lt.mpr hk)⟩

/-- A poll that finds BUSY high leaves it to the later ones, if there is time. -/
theorem inTime_of_high (h : busy k = true) : InTime busy clock timeout k ↔
    elapsedAt clock k < timeout ∧ InTime busy clock timeout (k + 1) := by
  constructor
  · rintro ⟨i, hk, hlow, hbefore⟩
    have hne : k ≠ i := by
      rintro rfl
      rw [h] at hlow
      exact Bool.noConfusion hlow
    have hlt : k < i := lt_of_le_of_ne hk hne
    refine ⟨?_, i, hlt, hlow, fun j hj => hbefore j (by omega)⟩
    by_contra hlate
    exact hbefore k le_rfl hlt ⟨h, not_lt.mp hlate⟩
  · rintro ⟨htime, i, hk, hlow, hbefore⟩
    refine ⟨i, by omega, hlow, fun j hj hji => ?_⟩
    obtain rfl | hj := Nat.eq_or_lt_of_le hj
    · exact fun hlate => absurd htime (not_lt.mpr hlate.2)
    · exact hbefore j hj hji

namespace ClockRuns

variable (hclock : ClockRuns clock timeout)
include hclock

theorem le_start (i : Nat) : clock 0 ≤ clock i := by
  induction i with
  | zero => exact le_rfl
  | succ i ih => exact ih.trans (hclock.monotone i)

theorem le_elapsedAt (i : Nat) : i ≤ elapsedAt clock i := by
  have hsum : clock 0 + i ≤ clock (i + 1) := by
    induction i with
    | zero => exact hclock.monotone 0
    | succ i ih => exact le_trans (by omega) (hclock.delays i)
  rw [elapsedAt]
  omega

theorem elapsedAt_lt (htimeout : 0 < timeout) (hmax : timeout < 2 ^ 32)
    (hlast : ∀ j, k = j + 1 → elapsedAt clock j < timeout) : elapsedAt clock k < 2 ^ 32 := by
  have hstep := hclock.steps k
  have hle := hclock.le_start k
  cases k with
  | zero =>
    rw [elapsedAt]
    omega
  | succ j =>
    have hj := hlast j rfl
    rw [elapsedAt] at hj ⊢
    omega

end ClockRuns

namespace Sx128x

variable {device : Sx128x}

theorem exec_pollBusy_succ (startMs : UInt32) (bound : Nat) (w : BusyWorld) :
    Prog.exec (busyPort busy clock) (device.pollBusy startMs (bound + 1)) w =
      if busy w.polls = true then
        if device.busyTimeoutMs ≤ UInt32.ofNat (clock w.readings) - startMs then
          (some Sx128xResult.busyTimeout, ⟨w.polls + 1, w.readings + 1, w.delays⟩)
        else Prog.exec (busyPort busy clock) (device.pollBusy startMs bound)
          ⟨w.polls + 1, w.readings + 1, w.delays + 1⟩
      else (some Sx128xResult.ok, ⟨w.polls + 1, w.readings, w.delays⟩) := by
  change Prog.exec (busyPort busy clock) (if busy w.polls = true then _ else _) _ = _
  split
  · change Prog.exec (busyPort busy clock)
      (if device.busyTimeoutMs ≤ UInt32.ofNat (clock w.readings) - startMs then _ else _) _ = _
    split
    · rfl
    · rfl
  · rfl

/-- **The loop ends in time.** `k` rounds are over, and after the last of them there was time
left. -/
theorem pollBusy_ends {bound : Nat}
    (hclock : ClockRuns clock device.busyTimeoutMs.toNat)
    (htimeout : 0 < device.busyTimeoutMs.toNat)
    (hlast : ∀ j, k = j + 1 → elapsedAt clock j < device.busyTimeoutMs.toNat)
    (hbound : device.busyTimeoutMs.toNat < k + bound) :
    ∃ r w, Prog.exec (busyPort busy clock) (device.pollBusy (UInt32.ofNat (clock 0)) bound)
        ⟨k, k + 1, k⟩ = (some r, w) ∧
      w.delays ≤ device.busyTimeoutMs.toNat ∧ (r = .ok ∨ r = .busyTimeout) ∧
      (r = .ok ↔ InTime busy clock device.busyTimeoutMs.toNat k) := by
  induction bound generalizing k with
  | zero =>
    cases k with
    | zero => omega
    | succ j =>
      have hj := hclock.le_elapsedAt j
      have hlt := hlast j rfl
      omega
  | succ bound ih =>
    have hk : k ≤ device.busyTimeoutMs.toNat := by
      cases k with
      | zero => exact Nat.zero_le _
      | succ j => exact lt_of_le_of_lt (hclock.le_elapsedAt j) (hlast j rfl)
    have hlt := hclock.elapsedAt_lt htimeout device.busyTimeoutMs.toNat_lt hlast
    have hcompare : device.busyTimeoutMs ≤ UInt32.ofNat (clock (k + 1)) - UInt32.ofNat (clock 0) ↔
        device.busyTimeoutMs.toNat ≤ elapsedAt clock k := by
      rw [UInt32.le_iff_toNat_le, elapsed_toNat (hclock.le_start (k + 1)) hlt]
      rfl
    rw [exec_pollBusy_succ]
    cases hbusy : busy k with
    | false => exact ⟨.ok, _, rfl, hk, .inl rfl, iff_of_true rfl (inTime_of_low hbusy)⟩
    | true =>
      rw [if_pos rfl, inTime_of_high hbusy]
      by_cases hlate : device.busyTimeoutMs.toNat ≤ elapsedAt clock k
      · rw [if_pos (hcompare.mpr hlate)]
        exact ⟨.busyTimeout, _, rfl, hk, .inr rfl,
          iff_of_false nofun fun h => absurd h.1 (not_lt.mpr hlate)⟩
      · rw [if_neg (mt hcompare.mp hlate)]
        have hnext : ∀ j, k + 1 = j + 1 → elapsedAt clock j < device.busyTimeoutMs.toNat := by
          intro j hj
          obtain rfl := Nat.succ.inj hj
          exact not_le.mp hlate
        obtain ⟨r, w, hexec, hdelays, hr, hok⟩ := ih hnext (by omega)
        refine ⟨r, w, hexec, hdelays, hr, hok.trans ?_⟩
        exact ⟨fun h => ⟨not_le.mp hlate, h⟩, And.right⟩

theorem trace_init_iff {portIsValid : Bool} {busyTimeoutMs : UInt32} {tr : List PortAction} :
    Prog.Trace (init portIsValid busyTimeoutMs) tr (.ok, some device) ↔
      portIsValid = true ∧ busyTimeoutMs ≠ 0 ∧ device = ⟨busyTimeoutMs, true⟩ ∧
        tr = [⟨.nssWrite true, ()⟩, ⟨.resetWrite true, ()⟩] := by
  cases portIsValid with
  | false => simp [init]
  | true =>
    by_cases hzero : busyTimeoutMs = 0
    · simp [init, hzero]
    · rw [init, if_neg (not_not.mpr rfl), if_neg hzero]
      simp only [port, Prog.trace_bind_iff, Prog.trace_ask_iff, Prog.trace_pure_iff]
      constructor
      · rintro ⟨_, _, _, rfl, ⟨_, _, _, rfl, ⟨rfl, hr⟩, rfl⟩, rfl⟩
        exact ⟨trivial, hzero, Option.some.inj (Prod.mk.inj hr).2, rfl⟩
      · rintro ⟨-, -, rfl, rfl⟩
        exact ⟨(), _, _, rfl, ⟨(), _, _, rfl, ⟨rfl, rfl⟩, rfl⟩, rfl⟩

/-- **The wait for BUSY ends**, whatever the clock shows at its start: after at most
`busy_timeout_ms` delays, with OK if and only if BUSY is low at a poll before one that finds it
high with the time up, and with a time-out otherwise. -/
theorem waitWhileBusy_ends {portIsValid : Bool} {busyTimeoutMs : UInt32} {tr : List PortAction}
    (hinit : Prog.Trace (init portIsValid busyTimeoutMs) tr (.ok, some device))
    (busy : Nat → Bool) {clock : Nat → Nat} (hclock : ClockRuns clock busyTimeoutMs.toNat)
    {bound : Nat} (hbound : busyTimeoutMs.toNat < bound) :
    ∃ r w, Prog.exec (busyPort busy clock) (device.waitWhileBusy bound) ⟨0, 0, 0⟩ =
        (some r, w) ∧
      w.delays ≤ busyTimeoutMs.toNat ∧ (r = .ok ∨ r = .busyTimeout) ∧
      (r = .ok ↔ ∃ i, busy i = false ∧
        ∀ j < i, ¬ (busy j = true ∧ busyTimeoutMs.toNat ≤ elapsedAt clock j)) := by
  obtain ⟨-, hne, rfl, -⟩ := trace_init_iff.mp hinit
  have htimeout : 0 < busyTimeoutMs.toNat := by
    refine Nat.pos_of_ne_zero fun h => hne ?_
    exact UInt32.toNat_inj.mp h
  have hends : ∃ r w, Prog.exec (busyPort busy clock)
      ((⟨busyTimeoutMs, true⟩ : Sx128x).pollBusy (UInt32.ofNat (clock 0)) bound) ⟨0, 1, 0⟩ =
        (some r, w) ∧ w.delays ≤ busyTimeoutMs.toNat ∧ (r = .ok ∨ r = .busyTimeout) ∧
      (r = .ok ↔ InTime busy clock busyTimeoutMs.toNat 0) :=
    pollBusy_ends hclock htimeout (fun j hj => nomatch hj)
      (hbound.trans_eq (Nat.zero_add bound).symm)
  obtain ⟨r, w, hexec, hdelays, hr, hok⟩ := hends
  refine ⟨r, w, hexec, hdelays, hr, hok.trans ?_⟩
  constructor
  · rintro ⟨i, -, hlow, hbefore⟩
    exact ⟨i, hlow, fun j hj => hbefore j (Nat.zero_le j) hj⟩
  · rintro ⟨i, hlow, hbefore⟩
    exact ⟨i, Nat.zero_le i, hlow, fun j _ hj => hbefore j hj⟩

/-- BUSY stays high, and the clock wraps around during the wait. -/
theorem waitWhileBusy_ends_wrapping : ∃ r w,
    Prog.exec (busyPort (fun _ => true) (fun j => 2 ^ 32 - 1 + j))
      ((⟨20, true⟩ : Sx128x).waitWhileBusy 21) ⟨0, 0, 0⟩ = (some r, w) ∧ w.delays ≤ 20 ∧
    (r = .ok ∨ r = .busyTimeout) ∧
    (r = .ok ↔ ∃ i, (fun _ : Nat => true) i = false ∧
      ∀ j < i, ¬ ((fun _ : Nat => true) j = true ∧
        20 ≤ elapsedAt (fun j => 2 ^ 32 - 1 + j) j)) := by
  have hinit : Prog.Trace (init true 20)
      [⟨.nssWrite true, ()⟩, ⟨.resetWrite true, ()⟩] (.ok, some ⟨20, true⟩) :=
    trace_init_iff.mpr ⟨rfl, by decide, rfl, rfl⟩
  have hclock : ClockRuns (fun j => 2 ^ 32 - 1 + j) (20 : UInt32).toNat := by
    refine ⟨fun j => by omega, fun j => ?_, fun j => by omega⟩
    have hstep : 2 ^ 32 - 1 + (j + 1) - (2 ^ 32 - 1 + j) = 1 := by omega
    rw [hstep]
    decide
  exact waitWhileBusy_ends hinit (fun _ => true) hclock (by decide)

end Sx128x

end RadioConnection
