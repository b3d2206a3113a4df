import RadioConnection.Lib.RoundRobin
import RadioConnection.Radio.TelemetryLedger

/-!
# Turns of the periodic classes

The schedule serves battery, heartbeat and flight mode in turn.  Frames of the other
two classes and busy transmitters come in between.

* `periodicFrames`: the periodic frames of a run of calls, read off the statistics;
  `GivesFrames` says that each is the frame that the transmitter was given.
* `periodic`: the service as a device that is never asked.  It is `Sound` whatever
  the name in the configuration is, so the frames of the schedule can be encoded.
* `TurnKept`, `ServedAfter`: what a call does to the turn.  The loop of `process`
  serves the first slot that waits (`schedule_serves`).
* `rounds_of_calls`: a run of calls is a run of rounds in the sense of `RoundRobin`.
* `roundRobin_fair`: **a pending periodic class is sent within three periodic frames**.
-/

namespace RadioConnection

/-- The periodic class whose count is another one afterwards. -/
def periodicSent (before after : CrsfTelemetryServiceStats) : Option TelemetryClass :=
  if after.batteryFrames ≠ before.batteryFrames then some .battery
  else if after.heartbeatFrames ≠ before.heartbeatFrames then some .heartbeat
  else if after.flightModeFrames ≠ before.flightModeFrames then some .flightMode
  else none

theorem periodicSent_none {before after : CrsfTelemetryServiceStats}
    (hbattery : after.batteryFrames = before.batteryFrames)
    (hheartbeat : after.heartbeatFrames = before.heartbeatFrames)
    (hflightMode : after.flightModeFrames = before.flightModeFrames) :
    periodicSent before after = none := by
  rw [periodicSent]
  rw [if_neg (not_not_intro hbattery), if_neg (not_not_intro hheartbeat),
    if_neg (not_not_intro hflightMode)]

/-- The slot of a periodic class; the other two classes have none of the three. -/
def TelemetryClass.slot : TelemetryClass → ℕ
  | .battery => 0
  | .heartbeat => 1
  | .flightMode => 2
  | .deviceInfo => 3
  | .custom => 4

theorem TelemetryClass.slot_injective : Function.Injective TelemetryClass.slot := by
  intro j k h
  cases j <;> cases k <;> first | rfl | exact absurd h (by decide)

namespace CrsfTelemetryService

open RoundRobin

/-- The periodic frames that a run of calls starts, in order. -/
def periodicFrames (service : CrsfTelemetryService) : List TelemetryCall → List TelemetryClass
  | [] => []
  | c :: calls => (periodicSent service.stats (service.call c).stats).toList ++
      (service.call c).periodicFrames calls

/-- In a run of calls the transmitter gets every periodic frame in the call that counts it, encoded
from the values that the service has then. -/
def GivesFrames (service : CrsfTelemetryService) : List TelemetryCall → Prop
  | [] => True
  | c :: calls => (∀ k, periodicSent service.stats (service.call c).stats = some k →
      ∃ nowMs tx frame, c = .process nowMs tx ∧
        (service.collect nowMs).classFrame k = some frame ∧
        (service.process nowMs tx).2.1.started = tx.started ++ [frame]) ∧
      (service.call c).GivesFrames calls

/-- No write is refused in a run of calls. -/
def WritesAccepted (service : CrsfTelemetryService) : List TelemetryCall → Prop
  | [] => True
  | c :: calls => (service.call c).stats.writeErrors = service.stats.writeErrors ∧
      (service.call c).WritesAccepted calls

variable {service : CrsfTelemetryService} {nowMs : UInt32} {tx : RadioTx}

/-! ## The periodic classes alone -/

/-- The service with its periodic classes alone, as a device that is never asked. -/
def periodic (service : CrsfTelemetryService) : CrsfTelemetryService :=
  { service with
    crsfContext := none
    config := { service.config with deviceInfo := crsfTelemetryServiceConfigInit.deviceInfo }
    deviceInfoPending := false
    customPending := false }

theorem setFlightMode_periodic (flightMode : List UInt8) :
    (service.setFlightMode flightMode).2.periodic =
      (service.periodic.setFlightMode flightMode).2 := by
  unfold setFlightMode
  dsimp only
  split <;> rfl

theorem slotSent_periodic (slot : UInt8) :
    (slotSent slot nowMs service).periodic = slotSent slot nowMs service.periodic := by
  unfold slotSent
  split
  · rfl
  split <;> rfl

theorem periodic_sound_of_eq {s s' : CrsfTelemetryService}
    (heq : s'.periodic = { s.periodic with
      customFrame := s'.customFrame
      pendingDeviceDestination := s'.pendingDeviceDestination
      stats := s'.stats }) (h : Sound s.periodic) : Sound s'.periodic := by
  rw [heq]
  exact { h with custom := nofun }

theorem collect_periodic (h : Sound service.periodic) :
    Sound (service.collect nowMs).periodic := by
  have hping : Sound ((service.count fun s =>
      { s with processCalls := s.processCalls + 1 }).takePing).periodic := by
    refine periodic_sound_of_eq ?_ h
    rw [takePing]
    split
    · rfl
    split
    · rfl
    split <;> rfl
  exact hping.markDue

theorem process_periodic (h : Sound service.periodic) :
    Sound (service.process nowMs tx).2.2.periodic := by
  refine send_rule (P := fun s => Sound s.periodic) (fun s f hs => hs.count f)
    (fun s hs => hs.nextSlot) (fun s slot hs => ?_)
    (fun s hs => periodic_sound_of_eq (s := s) rfl hs)
    (fun s hs => periodic_sound_of_eq (s := s) rfl hs) (collect_periodic h)
  rw [slotSent_periodic]
  exact hs.slotSent slot

/-- **Every call keeps what is pending of the periodic classes sendable.** -/
theorem call_periodic (h : Sound service.periodic) (c : TelemetryCall) :
    Sound (service.call c).periodic := by
  cases c with
  | setBattery battery => exact h.setBattery battery
  | setFlightMode flightMode =>
    rw [call, setFlightMode_periodic]
    exact h.setFlightMode flightMode
  | queueCustomBroadcast frameType payload =>
    refine periodic_sound_of_eq ?_ h
    rw [call, queueCustomBroadcast]
    split <;> rfl
  | parser c => exact periodic_sound_of_eq (s := service) rfl h
  | parserReset => exact periodic_sound_of_eq (s := service) rfl h
  | process nowMs tx => exact process_periodic h

/-! ## Calls that leave the turn -/

/-- No periodic frame is counted, the turn stays, and what waits goes on waiting. -/
structure TurnKept (service after : CrsfTelemetryService) : Prop where
  index : after.roundRobinIndex = service.roundRobinIndex
  battery : after.stats.batteryFrames = service.stats.batteryFrames
  heartbeat : after.stats.heartbeatFrames = service.stats.heartbeatFrames
  flightMode : after.stats.flightModeFrames = service.stats.flightModeFrames
  pending : ∀ slot, service.slotPending slot = true → after.slotPending slot = true

namespace TurnKept

variable {after last : CrsfTelemetryService}

theorem refl : TurnKept service service := ⟨rfl, rfl, rfl, rfl, fun _ h => h⟩

theorem trans (h : TurnKept service after) (h' : TurnKept after last) : TurnKept service last where
  index := h'.index.trans h.index
  battery := h'.battery.trans h.battery
  heartbeat := h'.heartbeat.trans h.heartbeat
  flightMode := h'.flightMode.trans h.flightMode
  pending slot hslot := h'.pending slot (h.pending slot hslot)

theorem periodicSent (h : TurnKept service after) :
    periodicSent service.stats after.stats = none :=
  periodicSent_none h.battery h.heartbeat h.flightMode

theorem of_flags (hindex : after.roundRobinIndex = service.roundRobinIndex)
    (hbattery : after.stats.batteryFrames = service.stats.batteryFrames)
    (hheartbeat : after.stats.heartbeatFrames = service.stats.heartbeatFrames)
    (hflightMode : after.stats.flightModeFrames = service.stats.flightModeFrames)
    (h₀ : (service.batteryPending && service.batteryValid) = true →
      (after.batteryPending && after.batteryValid) = true)
    (h₁ : service.heartbeatPending = true → after.heartbeatPending = true)
    (h₂ : (service.flightModePending && service.flightModeValid) = true →
      (after.flightModePending && after.flightModeValid) = true) : TurnKept service after := by
  refine ⟨hindex, hbattery, hheartbeat, hflightMode, ?_⟩
  intro slot
  unfold slotPending
  split
  · exact h₀
  split
  · exact h₁
  split
  · exact h₂
  · exact id

theorem of_kept (h : Kept service after) (hindex : after.roundRobinIndex = service.roundRobinIndex)
    (hbattery : after.stats.batteryFrames = service.stats.batteryFrames)
    (hheartbeat : after.stats.heartbeatFrames = service.stats.heartbeatFrames)
    (hflightMode : after.stats.flightModeFrames = service.stats.flightModeFrames) :
    TurnKept service after := by
  refine of_flags hindex hbattery hheartbeat hflightMode ?_ (h.pending .heartbeat) ?_
  · intro hwaits
    obtain ⟨hpending, hvalid⟩ := Bool.and_eq_true_iff.mp hwaits
    rw [Bool.and_eq_true_iff, h.batteryValid]
    exact ⟨h.pending .battery hpending, hvalid⟩
  · intro hwaits
    obtain ⟨hpending, hvalid⟩ := Bool.and_eq_true_iff.mp hwaits
    rw [Bool.and_eq_true_iff, h.flightModeValid]
    exact ⟨h.pending .flightMode hpending, hvalid⟩

theorem collect : TurnKept service (service.collect nowMs) := by
  have hturn : (service.collect nowMs).roundRobinIndex = service.roundRobinIndex ∧
      (service.collect nowMs).stats.batteryFrames = service.stats.batteryFrames ∧
      (service.collect nowMs).stats.heartbeatFrames = service.stats.heartbeatFrames ∧
      (service.collect nowMs).stats.flightModeFrames = service.stats.flightModeFrames := by
    rw [CrsfTelemetryService.collect, CrsfTelemetryService.takePing]
    split
    · exact ⟨rfl, rfl, rfl, rfl⟩
    split
    · exact ⟨rfl, rfl, rfl, rfl⟩
    split <;> exact ⟨rfl, rfl, rfl, rfl⟩
  obtain ⟨hindex, hbattery, hheartbeat, hflightMode⟩ := hturn
  exact of_kept .collect hindex hbattery hheartbeat hflightMode

theorem startEncoded {encoded : Option (List UInt8)}
    {sent : CrsfTelemetryService → CrsfTelemetryService} (hsent : ∀ s, TurnKept s (sent s)) :
    TurnKept service (service.startEncoded encoded sent tx).2.2 := by
  unfold CrsfTelemetryService.startEncoded startFrame
  cases encoded with
  | none => exact ⟨rfl, rfl, rfl, rfl, fun _ h => h⟩
  | some frame =>
    dsimp only
    obtain ⟨_ | _, tx'⟩ := tx.tryWrite frame
    · exact ⟨rfl, rfl, rfl, rfl, fun _ h => h⟩
    · have hcount : TurnKept service
          (service.count fun s => { s with framesStarted := s.framesStarted + 1 }) :=
        ⟨rfl, rfl, rfl, rfl, fun _ h => h⟩
      exact hcount.trans (hsent _)

end TurnKept

/-! ## A round of the schedule -/

/-- The service with the turn at `slot`. -/
def turnedTo (service : CrsfTelemetryService) (slot : ℕ) : CrsfTelemetryService :=
  { service with roundRobinIndex := UInt8.ofNat (slot % crsfTelemetryScheduleSlots) }

theorem startEncoded_accepted {frame : List UInt8}
    {sent : CrsfTelemetryService → CrsfTelemetryService}
    (haccepted : (service.startEncoded (some frame) sent tx).2.2.stats.writeErrors =
      service.stats.writeErrors) :
    (service.startEncoded (some frame) sent tx).2.2 =
      sent (service.count fun s => { s with framesStarted := s.framesStarted + 1 }) := by
  unfold startEncoded startFrame at haccepted ⊢
  dsimp only at haccepted ⊢
  generalize tx.tryWrite frame = written at haccepted ⊢
  obtain ⟨_ | _, tx'⟩ := written
  · have hne : service.stats.writeErrors + 1 ≠ service.stats.writeErrors := by simp
    exact absurd haccepted hne
  · rfl

/-- What waits at the slot `n`. -/
def waitsAt (service : CrsfTelemetryService) (n : ℕ) : Prop :=
  service.slotPending (UInt8.ofNat n) = true

/-- The slot `e` places after the turn was served, and those before it had nothing to send. -/
structure ServedAfter (service : CrsfTelemetryService) (nowMs : UInt32) (i e : ℕ)
    (after : CrsfTelemetryService) : Prop where
  waits : service.waitsAt ((i + e) % crsfTelemetryScheduleSlots)
  idle : ∀ e' < e, ¬ service.waitsAt ((i + e') % crsfTelemetryScheduleSlots)
  after : after = slotSent (UInt8.ofNat ((i + e) % crsfTelemetryScheduleSlots)) nowMs
    ((service.turnedTo (i + e + 1)).count fun s =>
      { s with framesStarted := s.framesStarted + 1 })

theorem nextSlot_eq {i : ℕ}
    (hi : service.roundRobinIndex = UInt8.ofNat (i % crsfTelemetryScheduleSlots)) :
    service.nextSlot = service.turnedTo (i + 1) := by
  have hlt : i % crsfTelemetryScheduleSlots < 2 ^ 8 :=
    (Nat.mod_lt _ (by decide)).trans (by decide)
  rw [nextSlot, hi, UInt8.toNat_ofNat_of_lt' hlt, Nat.mod_add_mod]
  rfl

/-- **The loop serves the first slot that waits**, or comes round to where it began. -/
theorem schedule_serves {attempts i : ℕ} (h : Sound service.periodic)
    (hi : service.roundRobinIndex = UInt8.ofNat (i % crsfTelemetryScheduleSlots))
    (haccepted : (schedule nowMs attempts service tx).2.2.stats.writeErrors =
      service.stats.writeErrors) :
    (schedule nowMs attempts service tx).2.2 = service.turnedTo (i + attempts) ∨
      ∃ e < attempts, ServedAfter service nowMs i e (schedule nowMs attempts service tx).2.2 := by
  induction attempts generalizing service i with
  | zero =>
    refine .inl ?_
    rw [schedule, turnedTo, Nat.add_zero, ← hi]
  | succ attempts ih =>
    rw [schedule] at haccepted ⊢
    by_cases hnow : service.slotPending service.roundRobinIndex
    · rw [if_pos hnow] at haccepted ⊢
      obtain ⟨frame, hframe, -⟩ := h.slotFrame hnow
      have hframe : service.slotFrame service.roundRobinIndex = some frame := hframe
      rw [hframe] at haccepted ⊢
      refine .inr ⟨0, Nat.succ_pos attempts, ?_, fun e' he' => absurd he' (Nat.not_lt_zero e'), ?_⟩
      · rw [Nat.add_zero, waitsAt, ← hi]
        exact hnow
      · rw [startEncoded_accepted haccepted, nextSlot_eq hi, hi]
        rfl
    · rw [if_neg hnow] at haccepted ⊢
      have hnext : service.nextSlot.roundRobinIndex =
          UInt8.ofNat ((i + 1) % crsfTelemetryScheduleSlots) := by
        rw [nextSlot_eq hi]
        rfl
      have hsound : Sound service.nextSlot.periodic := h.nextSlot
      obtain hround | ⟨e, he, hserved⟩ := ih hsound hnext haccepted
      · refine .inl (hround.trans ?_)
        rw [Nat.add_right_comm, Nat.add_assoc]
        rfl
      · refine .inr ⟨e + 1, Nat.succ_lt_succ he, ?_, ?_, ?_⟩
        · rw [← Nat.add_assoc, Nat.add_right_comm]
          exact hserved.waits
        · intro e' he'
          cases e' with
          | zero =>
            rw [Nat.add_zero, waitsAt, ← hi]
            exact hnow
          | succ e' =>
            rw [← Nat.add_assoc, Nat.add_right_comm]
            exact hserved.idle e' (Nat.lt_of_succ_lt_succ he')
        · rw [hserved.after, ← Nat.add_assoc, Nat.add_right_comm i e 1]
          rfl

/-! ## A call -/

theorem send_turn (service : CrsfTelemetryService) (nowMs : UInt32) (tx : RadioTx) :
    TurnKept service (service.send nowMs tx).2.2 ∨
      service.send nowMs tx = schedule nowMs crsfTelemetryScheduleSlots service tx := by
  rw [send]
  split
  · exact .inl ⟨rfl, rfl, rfl, rfl, fun _ h => h⟩
  split
  · exact .inl (.startEncoded fun _ => ⟨rfl, rfl, rfl, rfl, fun _ h => h⟩)
  split
  · exact .inl (.startEncoded fun _ => ⟨rfl, rfl, rfl, rfl, fun _ h => h⟩)
  · exact .inr rfl

theorem setter_turnKept (c : TelemetryCall) (hc : ∀ nowMs tx, c ≠ .process nowMs tx) :
    TurnKept service (service.call c) := by
  cases c with
  | setBattery battery => exact .of_flags rfl rfl rfl rfl (fun _ => rfl) id id
  | setFlightMode flightMode =>
    rw [call, setFlightMode]
    split
    · exact .refl
    · exact .of_flags rfl rfl rfl rfl id id fun _ => rfl
  | queueCustomBroadcast frameType payload =>
    rw [call, queueCustomBroadcast]
    split <;> exact ⟨rfl, rfl, rfl, rfl, fun _ h => h⟩
  | parser c => exact ⟨rfl, rfl, rfl, rfl, fun _ h => h⟩
  | parserReset => exact ⟨rfl, rfl, rfl, rfl, fun _ h => h⟩
  | process nowMs tx => exact absurd rfl (hc nowMs tx)

theorem turnedTo_round (h : service.roundRobinIndex.toNat < crsfTelemetryScheduleSlots) :
    service.turnedTo (service.roundRobinIndex.toNat + crsfTelemetryScheduleSlots) = service := by
  rw [turnedTo, Nat.add_mod_right, Nat.mod_eq_of_lt h, UInt8.ofNat_toNat]

/-- **A call leaves the turn, or the schedule serves a slot.** -/
theorem call_turn (h : Sound service.periodic) (c : TelemetryCall)
    (haccepted : (service.call c).stats.writeErrors = service.stats.writeErrors) :
    TurnKept service (service.call c) ∨ ∃ nowMs, ∃ e < crsfTelemetryScheduleSlots,
      ServedAfter (service.collect nowMs) nowMs service.roundRobinIndex.toNat e
        (service.call c) := by
  by_cases hc : ∀ nowMs tx, c ≠ .process nowMs tx
  · exact .inl (setter_turnKept c hc)
  · push Not at hc
    obtain ⟨nowMs, tx, rfl⟩ := hc
    have hcollect : TurnKept service (service.collect nowMs) := .collect
    have hslot : service.roundRobinIndex.toNat < crsfTelemetryScheduleSlots := h.slot
    obtain hkept | hschedule := send_turn (service.collect nowMs) nowMs tx
    · exact .inl (hcollect.trans hkept)
    · have hindex : (service.collect nowMs).roundRobinIndex =
          UInt8.ofNat (service.roundRobinIndex.toNat % crsfTelemetryScheduleSlots) := by
        rw [hcollect.index, Nat.mod_eq_of_lt hslot, UInt8.ofNat_toNat]
      have hcall : service.call (.process nowMs tx) =
          (schedule nowMs crsfTelemetryScheduleSlots (service.collect nowMs) tx).2.2 :=
        congrArg (·.2.2) hschedule
      rw [hcall] at haccepted ⊢
      obtain hround | ⟨e, he, hserved⟩ := schedule_serves (collect_periodic h) hindex
        (haccepted.trans collect_writeErrors.symm)
      · rw [hround, ← hcollect.index, turnedTo_round (hcollect.index ▸ hslot)]
        exact .inl hcollect
      · exact .inr ⟨nowMs, e, he, hserved⟩

/-! ## Frames -/

theorem slot_class {n : ℕ} (hn : n < crsfTelemetryScheduleSlots) :
    ∃ k : TelemetryClass, k.slot = n := by
  obtain rfl | rfl | rfl : n = 0 ∨ n = 1 ∨ n = 2 := by
    rw [crsfTelemetryScheduleSlots] at hn
    omega
  · exact ⟨.battery, rfl⟩
  · exact ⟨.heartbeat, rfl⟩
  · exact ⟨.flightMode, rfl⟩

theorem slotSent_periodicSent {after : CrsfTelemetryService} {k : TelemetryClass}
    (hk : k.slot < crsfTelemetryScheduleSlots)
    (hbattery : after.stats.batteryFrames = service.stats.batteryFrames)
    (hheartbeat : after.stats.heartbeatFrames = service.stats.heartbeatFrames)
    (hflightMode : after.stats.flightModeFrames = service.stats.flightModeFrames) :
    periodicSent service.stats (slotSent (UInt8.ofNat k.slot) nowMs after).stats = some k := by
  have hcounted (count : UInt32) : count + 1 ≠ count := by simp
  rw [periodicSent]
  cases k with
  | battery =>
    have hsent : (slotSent 0 nowMs after).stats.batteryFrames =
        service.stats.batteryFrames + 1 := congrArg (· + 1) hbattery
    exact if_pos (hsent.symm ▸ hcounted _)
  | heartbeat =>
    have hsent : (slotSent 1 nowMs after).stats.heartbeatFrames =
        service.stats.heartbeatFrames + 1 := congrArg (· + 1) hheartbeat
    exact (if_neg (not_not_intro hbattery)).trans (if_pos (hsent.symm ▸ hcounted _))
  | flightMode =>
    have hsent : (slotSent 2 nowMs after).stats.flightModeFrames =
        service.stats.flightModeFrames + 1 := congrArg (· + 1) hflightMode
    exact (if_neg (not_not_intro hbattery)).trans
      ((if_neg (not_not_intro hheartbeat)).trans (if_pos (hsent.symm ▸ hcounted _)))
  | deviceInfo => exact absurd hk (by decide)
  | custom => exact absurd hk (by decide)

theorem slotSent_waitsAt {j k : TelemetryClass} (hj : j.slot < crsfTelemetryScheduleSlots)
    (hne : j ≠ k) (hk : service.waitsAt k.slot) :
    (slotSent (UInt8.ofNat j.slot) nowMs service).waitsAt k.slot := by
  cases j <;> cases k <;> first
    | exact hk
    | exact absurd rfl hne
    | exact absurd hj (by decide)

theorem slotSent_roundRobinIndex (slot : UInt8) :
    (slotSent slot nowMs service).roundRobinIndex = service.roundRobinIndex := by
  rw [slotSent]
  split
  · rfl
  split <;> rfl

/-- **A call that serves a slot is a round of the schedule**: it counts one frame of the class,
passes the turn on and leaves the other classes waiting. -/
theorem ServedAfter.round {after : CrsfTelemetryService} {e : ℕ}
    (he : e < crsfTelemetryScheduleSlots)
    (h : ServedAfter (service.collect nowMs) nowMs service.roundRobinIndex.toNat e after) :
    ∃ j, periodicSent service.stats after.stats = some j ∧
      Serves crsfTelemetryScheduleSlots service.roundRobinIndex.toNat
        (service.collect nowMs).waitsAt j.slot after.roundRobinIndex.toNat ∧
      ∀ k, j ≠ k → service.waitsAt k.slot → after.waitsAt k.slot := by
  have hcollect : TurnKept service (service.collect nowMs) := .collect
  have hlt (i : ℕ) : i % crsfTelemetryScheduleSlots < crsfTelemetryScheduleSlots :=
    Nat.mod_lt _ (by decide)
  obtain ⟨j, hj⟩ := slot_class (hlt (service.roundRobinIndex.toNat + e))
  have hjlt : j.slot < crsfTelemetryScheduleSlots := hj ▸ hlt _
  refine ⟨j, ?_, ⟨e, he, hj, ?_, hj ▸ h.waits, h.idle⟩, ?_⟩
  · rw [h.after, ← hj]
    exact slotSent_periodicSent hjlt hcollect.battery hcollect.heartbeat hcollect.flightMode
  · rw [h.after, slotSent_roundRobinIndex]
    exact UInt8.toNat_ofNat_of_lt' ((hlt _).trans (by decide))
  · intro k hne hk
    rw [h.after, ← hj]
    exact slotSent_waitsAt hjlt hne (hcollect.pending _ hk)

/-- **A run of calls is a run of rounds.** -/
theorem rounds_of_calls (h : Sound service.periodic) {k : TelemetryClass}
    (hk : service.waitsAt k.slot) (calls : List TelemetryCall)
    (haccepted : service.WritesAccepted calls) :
    Rounds crsfTelemetryScheduleSlots k.slot service.roundRobinIndex.toNat
      ((service.periodicFrames calls).map TelemetryClass.slot) := by
  induction calls generalizing service with
  | nil => exact .nil _
  | cons c calls ih =>
    obtain ⟨hnow, hlater⟩ := haccepted
    have hnext := call_periodic h c
    rw [periodicFrames]
    obtain hkept | ⟨nowMs, e, he, hserved⟩ := call_turn h c hnow
    · rw [hkept.periodicSent, ← hkept.index]
      exact ih hnext (hkept.pending _ hk) hlater
    · obtain ⟨j, hsent, hserves, hothers⟩ := hserved.round he
      rw [hsent]
      by_cases hjk : j = k
      · rw [hjk]
        exact .served _ _
      · have hwaits : (service.collect nowMs).waitsAt k.slot := TurnKept.collect.pending _ hk
        exact .passed hserves hwaits (ih hnext (hothers k hjk hk) hlater)

/-- A periodic frame that is counted is the one that the transmitter was given. -/
theorem process_periodicSent {k : TelemetryClass}
    (hk : periodicSent service.stats (service.process nowMs tx).2.2.stats = some k) :
    ∃ frame, (service.collect nowMs).classFrame k = some frame ∧
      (service.process nowMs tx).2.1.started = tx.started ++ [frame] := by
  have hcollect : TurnKept service (service.collect nowMs) := .collect
  obtain hdeferred | ⟨-, j, frame, index, -, hframe, -, heq⟩ := process_cases service nowMs tx
  · obtain ⟨index, busyDeferrals, encodeErrors, writeErrors, heq⟩ := hdeferred
    rw [heq] at hk
    have hnone := periodicSent_none hcollect.battery hcollect.heartbeat hcollect.flightMode
    exact absurd (hk.symm.trans hnone) (Option.some_ne_none k)
  · rw [heq] at hk ⊢
    have hcounts {i : TelemetryClass} (hi : i.slot < crsfTelemetryScheduleSlots) :
        periodicSent service.stats (slotSent (UInt8.ofNat i.slot) nowMs
          ({ service.collect nowMs with roundRobinIndex := index }.count fun s =>
            { s with framesStarted := s.framesStarted + 1 })).stats = some i :=
      slotSent_periodicSent hi hcollect.battery hcollect.heartbeat hcollect.flightMode
    have hother (hnone : periodicSent service.stats (service.collect nowMs).stats = some k) :
        some j = some k :=
      absurd (hnone.symm.trans hcollect.periodicSent) (Option.some_ne_none k)
    have hjk : some j = some k := by
      cases j with
      | battery => exact (hcounts (by decide)).symm.trans hk
      | heartbeat => exact (hcounts (by decide)).symm.trans hk
      | flightMode => exact (hcounts (by decide)).symm.trans hk
      | deviceInfo => exact hother hk
      | custom => exact hother hk
    rw [← Option.some.inj hjk]
    exact ⟨frame, hframe, rfl⟩

theorem givesFrames (service : CrsfTelemetryService) (calls : List TelemetryCall) :
    service.GivesFrames calls := by
  induction calls generalizing service with
  | nil => trivial
  | cons c calls ih =>
    refine ⟨fun k hk => ?_, ih (service.call c)⟩
    by_cases hc : ∀ nowMs tx, c ≠ .process nowMs tx
    · exact absurd (hk.symm.trans (setter_turnKept c hc).periodicSent) (Option.some_ne_none k)
    · push Not at hc
      obtain ⟨nowMs, tx, rfl⟩ := hc
      obtain ⟨frame, hframe, hstarted⟩ := process_periodicSent hk
      exact ⟨nowMs, tx, frame, rfl, hframe, hstarted⟩

/-! ## Fairness -/

variable {crsfContext : Option CrsfProtocolContext} {config : CrsfTelemetryServiceConfig}

theorem init_periodic (h : init crsfContext config = some service) : Sound service.periodic := by
  obtain ⟨-, rfl⟩ := init_eq h
  have hslot : (0 : UInt8).toNat < crsfTelemetryScheduleSlots := by decide
  have hname : crsfTelemetryServiceConfigInit.deviceInfo.name[0] ≠ 0 := by decide
  -- nothing is pending, and nothing has been set
  have hnone {q : Prop} (hset : false = true) : q := absurd hset Bool.false_ne_true
  exact
    { slot := hslot
      battery := hnone
      flightMode := hnone
      flightModePos := hnone
      flightModeMax := hnone
      custom := hnone
      name := hname
      answers := .inl rfl
      deviceInfo := hnone }

theorem calls_periodic (h : Sound service.periodic) (calls : List TelemetryCall) :
    Sound (calls.foldl call service).periodic := by
  induction calls generalizing service with
  | nil => exact h
  | cons c calls ih => exact ih (call_periodic h c)

theorem waitsAt_of_pending (h : Sound service.periodic) {k : TelemetryClass}
    (hk : k = .battery ∨ k = .heartbeat ∨ k = .flightMode) (hpending : service.pending k) :
    service.waitsAt k.slot := by
  obtain rfl | rfl | rfl := hk
  · exact Bool.and_eq_true_iff.mpr ⟨hpending, h.battery hpending⟩
  · exact hpending
  · exact Bool.and_eq_true_iff.mpr ⟨hpending, h.flightMode hpending⟩

/-- **The round robin is fair**: after every history of calls a periodic class that is pending
is sent within the next three periodic frames, whatever calls there are in between, unless a
write is refused; and the transmitter was given each of these frames. -/
theorem roundRobin_fair (h : init crsfContext config = some service)
    (history calls : List TelemetryCall) {k : TelemetryClass}
    (hk : k = .battery ∨ k = .heartbeat ∨ k = .flightMode)
    (hpending : (history.foldl call service).pending k)
    (haccepted : (history.foldl call service).WritesAccepted calls)
    (hframes : 3 ≤ ((history.foldl call service).periodicFrames calls).length) :
    k ∈ ((history.foldl call service).periodicFrames calls).take 3 ∧
      (history.foldl call service).GivesFrames calls := by
  refine ⟨?_, givesFrames _ calls⟩
  have hsound := calls_periodic (init_periodic h) history
  have hrounds := rounds_of_calls hsound (waitsAt_of_pending hsound hk hpending) calls haccepted
  have hslot : k.slot < 3 := by
    obtain rfl | rfl | rfl := hk <;> decide
  rw [← List.length_map TelemetryClass.slot] at hframes
  have hmem := hrounds.fair hslot hframes
  rw [crsfTelemetryScheduleSlots, ← List.map_take] at hmem
  exact (List.mem_map_of_injective TelemetryClass.slot_injective).mp hmem

/-- A battery and a flight mode wait with the heartbeat; the transmitter is busy once. -/
theorem roundRobin_fair_allPending :
    let service : CrsfTelemetryService :=
      { crsfContext := some CrsfProtocolContext.init, config := crsfTelemetryServiceConfigInit
        heartbeatPending := true }
    let history : List TelemetryCall :=
      [.setBattery ⟨24000, 1500, 123, 80⟩, .setFlightMode [0x41, 0],
        .process 0 ⟨true, fun _ => true, []⟩]
    let calls : List TelemetryCall :=
      [.process 1 ⟨false, fun _ => true, []⟩, .process 2 ⟨false, fun _ => true, []⟩,
        .process 3 ⟨false, fun _ => true, []⟩]
    .flightMode ∈ ((history.foldl call service).periodicFrames calls).take 3 := by
  intro service history calls
  have hinit : init (some CrsfProtocolContext.init) crsfTelemetryServiceConfigInit =
      some service := rfl
  have hpending : (history.foldl call service).pending .flightMode := by decide +kernel
  have haccepted : (history.foldl call service).WritesAccepted calls :=
    ⟨by decide +kernel, by decide +kernel, by decide +kernel, trivial⟩
  have hframes : 3 ≤ ((history.foldl call service).periodicFrames calls).length := by
    decide +kernel
  exact (roundRobin_fair hinit history calls (.inr (.inr rfl)) hpending haccepted hframes).1

end CrsfTelemetryService

end RadioConnection
