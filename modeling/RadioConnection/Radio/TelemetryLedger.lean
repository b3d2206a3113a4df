import RadioConnection.Radio.TelemetryService

/-!
# The ledger of the telemetry service

What every run of `crsf_telemetry_service.c` keeps, whatever the transmitter does: a
class that waits goes on waiting until its frame is taken, and a frame that is taken has
the latest value and is counted once.

* `process_cases`: a call defers, or sends the frame of one class.
* `Ledger`: what the service holds is what it was told last.
* `telemetry_conserved`: nothing is lost over a run.
-/

namespace RadioConnection

inductive TelemetryClass
  | deviceInfo
  | custom
  | battery
  | heartbeat
  | flightMode
  deriving DecidableEq

/-- What the service was told last: the values that it accepted, and the origin of the ping
that it took. -/
structure LatestTelemetry where
  battery : Option CrsfBatteryTelemetry := none
  flightMode : Option (List UInt8) := none
  custom : Option (UInt8 × List UInt8) := none
  ping : Option UInt8 := none

/-- The frame of a class for its latest value. -/
def LatestTelemetry.frame (latest : LatestTelemetry) (config : CrsfTelemetryServiceConfig) :
    TelemetryClass → Option (List UInt8)
  | .deviceInfo => latest.ping.bind fun origin =>
      crsfTelemetryEncodeDeviceInfo origin config.deviceInfo crsfTelemetryMaxFrameSize
  | .custom => latest.custom.bind fun (frameType, payload) =>
      crsfTelemetryEncodeBroadcast frameType payload crsfTelemetryMaxFrameSize
  | .battery => latest.battery.bind (crsfTelemetryEncodeBattery · crsfTelemetryMaxFrameSize)
  | .heartbeat =>
      crsfTelemetryEncodeHeartbeat crsfAddressFlightController crsfTelemetryMaxFrameSize
  | .flightMode => latest.flightMode.bind (crsfTelemetryEncodeFlightMode · crsfTelemetryMaxFrameSize)

/-- Each frame is counted once, in `uint32_t`. -/
def CrsfTelemetryServiceStats.Balanced (stats : CrsfTelemetryServiceStats) : Prop :=
  stats.framesStarted = stats.batteryFrames + stats.heartbeatFrames + stats.flightModeFrames +
    stats.deviceInfoFrames + stats.customFrames

namespace CrsfTelemetryService

def pending (service : CrsfTelemetryService) : TelemetryClass → Bool
  | .deviceInfo => service.deviceInfoPending
  | .custom => service.customPending
  | .battery => service.batteryPending
  | .heartbeat => service.heartbeatPending
  | .flightMode => service.flightModePending

def holds (service : CrsfTelemetryService) : TelemetryClass → Bool
  | .deviceInfo => service.deviceInfoPending
  | .custom => service.customPending
  | .battery => service.batteryValid
  | .heartbeat => true
  | .flightMode => service.flightModeValid

/-- The frame that the service would send for a class. -/
def classFrame (service : CrsfTelemetryService) : TelemetryClass → Option (List UInt8)
  | .deviceInfo => crsfTelemetryEncodeDeviceInfo service.pendingDeviceDestination
      service.config.deviceInfo crsfTelemetryMaxFrameSize
  | .custom => some service.customFrame
  | .battery => crsfTelemetryEncodeBattery service.battery crsfTelemetryMaxFrameSize
  | .heartbeat =>
      crsfTelemetryEncodeHeartbeat crsfAddressFlightController crsfTelemetryMaxFrameSize
  | .flightMode => crsfTelemetryEncodeFlightMode service.flightMode crsfTelemetryMaxFrameSize

/-- What `process` notes when the frame of a class was taken. -/
def classSent (nowMs : UInt32) : TelemetryClass → CrsfTelemetryService → CrsfTelemetryService
  | .deviceInfo => deviceInfoSent
  | .custom => customSent
  | .battery => slotSent 0 nowMs
  | .heartbeat => slotSent 1 nowMs
  | .flightMode => slotSent 2 nowMs

/-- The origin of the ping that a call of `process` takes. -/
def takenPing (service : CrsfTelemetryService) : Option UInt8 :=
  match service.crsfContext with
  | none => none
  | some context => if service.deviceInfoPending then none else context.takeDevicePing.1

/-- What the service was told last, after one more call. -/
def told (service : CrsfTelemetryService) (latest : LatestTelemetry) :
    TelemetryCall → LatestTelemetry
  | .setBattery battery => { latest with battery := some battery }
  | .setFlightMode flightMode =>
      if (service.setFlightMode flightMode).1 then { latest with flightMode := some flightMode }
      else latest
  | .queueCustomBroadcast frameType payload =>
      if (service.queueCustomBroadcast frameType payload).1 then
        { latest with custom := some (frameType, payload) }
      else latest
  | .parser _ => latest
  | .parserReset => latest
  | .process _ _ =>
      match service.takenPing with
      | none => latest
      | some origin => { latest with ping := some origin }

/-- A call, and what was told by it. -/
def tally (run : CrsfTelemetryService × LatestTelemetry) (c : TelemetryCall) :
    CrsfTelemetryService × LatestTelemetry :=
  (run.1.call c, run.1.told run.2 c)

variable {service : CrsfTelemetryService} {latest : LatestTelemetry} {nowMs : UInt32} {tx : RadioTx}

theorem tally_fst (calls : List TelemetryCall) (run : CrsfTelemetryService × LatestTelemetry) :
    (calls.foldl tally run).1 = calls.foldl call run.1 := by
  induction calls generalizing run with
  | nil => rfl
  | cons c calls ih => exact ih (tally run c)

/-! ## What a call does at the transmitter -/

/-- No frame was taken: only the turn and the counts of failures may be others. -/
def Deferred (service : CrsfTelemetryService) (tx : RadioTx)
    (result : Bool × RadioTx × CrsfTelemetryService) : Prop :=
  ∃ index busyDeferrals encodeErrors writeErrors, result = (false, tx,
    { service with
      roundRobinIndex := index
      stats := { service.stats with
        busyDeferrals := busyDeferrals
        encodeErrors := encodeErrors
        writeErrors := writeErrors } })

def Sent (service : CrsfTelemetryService) (nowMs : UInt32) (tx : RadioTx) (k : TelemetryClass)
    (result : Bool × RadioTx × CrsfTelemetryService) : Prop :=
  ∃ frame index, service.pending k ∧ service.classFrame k = some frame ∧ tx.accepts frame ∧
    result = (true, { tx with started := tx.started ++ [frame] },
      classSent nowMs k
        ({ service with roundRobinIndex := index }.count fun s =>
          { s with framesStarted := s.framesStarted + 1 }))

theorem startEncoded_cases {k : TelemetryClass} (hpending : service.pending k) :
    Deferred service tx (service.startEncoded (service.classFrame k) (classSent nowMs k) tx) ∨
      Sent service nowMs tx k
        (service.startEncoded (service.classFrame k) (classSent nowMs k) tx) := by
  unfold startEncoded
  cases hframe : service.classFrame k with
  | none => exact .inl ⟨service.roundRobinIndex, service.stats.busyDeferrals, _,
      service.stats.writeErrors, rfl⟩
  | some frame =>
    dsimp only
    unfold startFrame RadioTx.tryWrite
    by_cases htry : 0 < frame.length ∧ tx.accepts frame
    · rw [if_pos htry]
      exact .inr ⟨frame, service.roundRobinIndex, hpending, hframe, htry.2, rfl⟩
    · rw [if_neg htry]
      exact .inl ⟨service.roundRobinIndex, service.stats.busyDeferrals,
        service.stats.encodeErrors, _, rfl⟩

theorem slotPending_class (nowMs : UInt32) {slot : UInt8} (hslot : service.slotPending slot) :
    ∃ k, service.pending k ∧ service.slotFrame slot = service.classFrame k ∧
      slotSent slot nowMs = classSent nowMs k := by
  unfold slotPending at hslot
  by_cases hbattery : slot = 0
  · rw [if_pos hbattery] at hslot
    subst hbattery
    exact ⟨.battery, (Bool.and_eq_true_iff.mp hslot).1, rfl, rfl⟩
  rw [if_neg hbattery] at hslot
  by_cases hheartbeat : slot = 1
  · rw [if_pos hheartbeat] at hslot
    subst hheartbeat
    exact ⟨.heartbeat, hslot, rfl, rfl⟩
  rw [if_neg hheartbeat] at hslot
  by_cases hflightMode : slot = 2
  · rw [if_pos hflightMode] at hslot
    subst hflightMode
    exact ⟨.flightMode, (Bool.and_eq_true_iff.mp hslot).1, rfl, rfl⟩
  · rw [if_neg hflightMode] at hslot
    cases hslot

theorem schedule_cases (attempts : ℕ) :
    Deferred service tx (schedule nowMs attempts service tx) ∨
      ∃ k, Sent service nowMs tx k (schedule nowMs attempts service tx) := by
  -- passing the turn on changes nothing that the two cases tell
  have hdeferred : ∀ s result, Deferred (nextSlot s) tx result → Deferred s tx result :=
    fun _ _ h => h
  have hsent : ∀ s k result, Sent (nextSlot s) nowMs tx k result → Sent s nowMs tx k result := by
    intro s k result h
    cases k <;> exact h
  induction attempts generalizing service with
  | zero => exact .inl ⟨_, _, _, _, rfl⟩
  | succ attempts ih =>
    rw [schedule]
    by_cases hnow : service.slotPending service.roundRobinIndex
    · rw [if_pos hnow]
      obtain ⟨k, hpending, hframe, hslotSent⟩ := slotPending_class nowMs hnow
      have hnextPending : service.nextSlot.pending k := by
        cases k <;> exact hpending
      have hnextFrame : service.nextSlot.classFrame k = service.classFrame k := by
        cases k <;> rfl
      rw [hframe, hslotSent, ← hnextFrame]
      rcases startEncoded_cases hnextPending with h | h
      · exact .inl (hdeferred _ _ h)
      · exact .inr ⟨k, hsent _ _ _ h⟩
    · rw [if_neg hnow]
      rcases @ih service.nextSlot with h | ⟨k, h⟩
      · exact .inl (hdeferred _ _ h)
      · exact .inr ⟨k, hsent _ _ _ h⟩

/-- **A call defers, or the transmitter is free and takes the frame of one class.** -/
theorem process_cases (service : CrsfTelemetryService) (nowMs : UInt32) (tx : RadioTx) :
    Deferred (service.collect nowMs) tx (service.process nowMs tx) ∨
      tx.busy = false ∧ ∃ k, Sent (service.collect nowMs) nowMs tx k (service.process nowMs tx) := by
  unfold process
  generalize service.collect nowMs = collected
  unfold send
  by_cases hbusy : tx.busy
  · rw [if_pos hbusy]
    exact .inl ⟨_, _, collected.stats.encodeErrors, collected.stats.writeErrors, rfl⟩
  have hidle : tx.busy = false := Bool.not_eq_true _ ▸ hbusy
  rw [if_neg hbusy]
  by_cases hdevice : collected.deviceInfoPending
  · rw [if_pos hdevice]
    have hpending : collected.pending .deviceInfo := hdevice
    exact (startEncoded_cases hpending).imp_right fun h => ⟨hidle, _, h⟩
  rw [if_neg hdevice]
  by_cases hcustom : collected.customPending
  · rw [if_pos hcustom]
    have hpending : collected.pending .custom := hcustom
    exact (startEncoded_cases hpending).imp_right fun h => ⟨hidle, _, h⟩
  rw [if_neg hcustom]
  exact (schedule_cases _).imp_right fun h => ⟨hidle, h⟩

/-! ## What a deferred call keeps -/

/-- No pending flag is cleared, no stored value is changed and no time of a last frame. -/
structure Kept (service after : CrsfTelemetryService) : Prop where
  config : after.config = service.config
  battery : after.battery = service.battery
  batteryValid : after.batteryValid = service.batteryValid
  flightMode : after.flightMode = service.flightMode
  flightModeValid : after.flightModeValid = service.flightModeValid
  customFrame : after.customFrame = service.customFrame
  lastBatteryMs : after.lastBatteryMs = service.lastBatteryMs
  lastHeartbeatMs : after.lastHeartbeatMs = service.lastHeartbeatMs
  lastFlightModeMs : after.lastFlightModeMs = service.lastFlightModeMs
  pending : ∀ k, service.pending k → after.pending k
  /-- A ping is taken only when no answer is pending. -/
  destination : service.deviceInfoPending →
    after.pendingDeviceDestination = service.pendingDeviceDestination

namespace Kept

variable {after last : CrsfTelemetryService}

theorem trans (h : Kept service after) (h' : Kept after last) : Kept service last where
  config := h'.config.trans h.config
  battery := h'.battery.trans h.battery
  batteryValid := h'.batteryValid.trans h.batteryValid
  flightMode := h'.flightMode.trans h.flightMode
  flightModeValid := h'.flightModeValid.trans h.flightModeValid
  customFrame := h'.customFrame.trans h.customFrame
  lastBatteryMs := h'.lastBatteryMs.trans h.lastBatteryMs
  lastHeartbeatMs := h'.lastHeartbeatMs.trans h.lastHeartbeatMs
  lastFlightModeMs := h'.lastFlightModeMs.trans h.lastFlightModeMs
  pending k hk := h'.pending k (h.pending k hk)
  destination hk := (h'.destination (h.pending .deviceInfo hk)).trans (h.destination hk)

theorem takePing : Kept service service.takePing := by
  have hrefl : Kept service service := ⟨rfl, rfl, rfl, rfl, rfl, rfl, rfl, rfl, rfl, fun _ h => h,
    fun _ => rfl⟩
  unfold CrsfTelemetryService.takePing
  split
  · exact hrefl
  · next context hcontext =>
    split
    · exact hrefl
    · next hidle =>
      split
      · refine { hrefl with pending := ?_ }
        intro k hk
        cases k <;> exact hk
      · refine { hrefl with pending := ?_, destination := fun h => absurd h hidle }
        intro k hk
        cases k with
        | deviceInfo => rfl
        | custom => exact hk
        | battery => exact hk
        | heartbeat => exact hk
        | flightMode => exact hk

theorem markDue : Kept service (service.markDue nowMs) := by
  refine ⟨rfl, rfl, rfl, rfl, rfl, rfl, rfl, rfl, rfl, ?_, fun _ => rfl⟩
  intro k hk
  cases k with
  | deviceInfo => exact hk
  | custom => exact hk
  | battery => exact Bool.or_eq_true_iff.mpr (.inl hk)
  | heartbeat => exact Bool.or_eq_true_iff.mpr (.inl hk)
  | flightMode => exact Bool.or_eq_true_iff.mpr (.inl hk)

theorem collect : Kept service (service.collect nowMs) := by
  have hcount : Kept service
      (service.count fun s => { s with processCalls := s.processCalls + 1 }) := by
    refine ⟨rfl, rfl, rfl, rfl, rfl, rfl, rfl, rfl, rfl, ?_, fun _ => rfl⟩
    intro k hk
    cases k <;> exact hk
  exact (hcount.trans takePing).trans markDue

theorem deferred {result : Bool × RadioTx × CrsfTelemetryService}
    (h : Deferred service tx result) : Kept service result.2.2 := by
  obtain ⟨index, busyDeferrals, encodeErrors, writeErrors, rfl⟩ := h
  refine ⟨rfl, rfl, rfl, rfl, rfl, rfl, rfl, rfl, rfl, ?_, fun _ => rfl⟩
  intro k hk
  cases k <;> exact hk

end Kept

/-! ## The ledger -/

/-- What waits in a class is held, and what is held is what was told last. -/
def InOrder (config : CrsfTelemetryServiceConfig) (service : CrsfTelemetryService)
    (latest : LatestTelemetry) (k : TelemetryClass) : Prop :=
  (service.pending k → service.holds k) ∧
    (service.holds k → latest.frame config k = service.classFrame k)

/-- Every class is in order, and the counts are. -/
structure Ledger (config : CrsfTelemetryServiceConfig) (service : CrsfTelemetryService)
    (latest : LatestTelemetry) : Prop where
  sameConfig : service.config = config
  balanced : service.stats.Balanced
  inOrder : ∀ k, InOrder config service latest k

namespace Ledger

variable {config : CrsfTelemetryServiceConfig}

theorem ofInit {crsfContext : Option CrsfProtocolContext}
    (h : init crsfContext config = some service) : Ledger config service {} := by
  obtain ⟨-, rfl⟩ := init_eq h
  refine ⟨rfl, rfl, ?_⟩
  intro k
  cases k with
  | deviceInfo => exact ⟨fun hk => hk, fun hk => absurd hk Bool.false_ne_true⟩
  | custom => exact ⟨fun hk => hk, fun hk => absurd hk Bool.false_ne_true⟩
  | battery => exact ⟨fun hk => hk, fun hk => absurd hk Bool.false_ne_true⟩
  | heartbeat => exact ⟨fun _ => rfl, fun _ => rfl⟩
  | flightMode => exact ⟨fun hk => hk, fun hk => absurd hk Bool.false_ne_true⟩

theorem setBattery (h : Ledger config service latest) (battery : CrsfBatteryTelemetry) :
    Ledger config (service.setBattery battery) { latest with battery := some battery } := by
  refine ⟨h.sameConfig, h.balanced, ?_⟩
  intro k
  cases k with
  | deviceInfo => exact h.inOrder .deviceInfo
  | custom => exact h.inOrder .custom
  | battery => exact ⟨fun _ => rfl, fun _ => rfl⟩
  | heartbeat => exact h.inOrder .heartbeat
  | flightMode => exact h.inOrder .flightMode

theorem setFlightMode (h : Ledger config service latest) (flightMode : List UInt8) :
    Ledger config (service.setFlightMode flightMode).2
      (service.told latest (.setFlightMode flightMode)) := by
  unfold told CrsfTelemetryService.setFlightMode
  dsimp only
  by_cases hlength : boundedStringLength flightMode (crsfTelemetryFlightModeMax + 1) = 0 ∨
      crsfTelemetryFlightModeMax < boundedStringLength flightMode (crsfTelemetryFlightModeMax + 1)
  · rw [if_pos hlength]
    exact h
  · rw [if_neg hlength]
    have hmax := Nat.not_lt.mp (not_or.mp hlength).2
    refine ⟨h.sameConfig, h.balanced, ?_⟩
    intro k
    cases k with
    | deviceInfo => exact h.inOrder .deviceInfo
    | custom => exact h.inOrder .custom
    | battery => exact h.inOrder .battery
    | heartbeat => exact h.inOrder .heartbeat
    | flightMode =>
      exact ⟨fun _ => rfl, fun _ => (crsfTelemetryEncodeFlightMode_copy _ _ _ hmax).symm⟩

theorem queueCustomBroadcast (h : Ledger config service latest) (frameType : UInt8)
    (payload : List UInt8) :
    Ledger config (service.queueCustomBroadcast frameType payload).2
      (service.told latest (.queueCustomBroadcast frameType payload)) := by
  unfold told
  dsimp only
  cases hframe : crsfTelemetryEncodeBroadcast frameType payload crsfTelemetryMaxFrameSize with
  | none =>
    have hrefused : service.queueCustomBroadcast frameType payload =
        (false, service.count fun s => { s with encodeErrors := s.encodeErrors + 1 }) := by
      unfold CrsfTelemetryService.queueCustomBroadcast
      rw [hframe]
    rw [hrefused, if_neg Bool.false_ne_true]
    refine ⟨h.sameConfig, h.balanced, ?_⟩
    intro k
    have hk := h.inOrder k
    cases k <;> exact hk
  | some frame =>
    have hqueued : service.queueCustomBroadcast frameType payload =
        (true, { service with customFrame := frame, customPending := true }) := by
      unfold CrsfTelemetryService.queueCustomBroadcast
      rw [hframe]
    rw [hqueued, if_pos rfl]
    refine ⟨h.sameConfig, h.balanced, ?_⟩
    intro k
    cases k with
    | deviceInfo => exact h.inOrder .deviceInfo
    | custom => exact ⟨fun _ => rfl, fun _ => hframe⟩
    | battery => exact h.inOrder .battery
    | heartbeat => exact h.inOrder .heartbeat
    | flightMode => exact h.inOrder .flightMode

theorem parser (h : Ledger config service latest)
    (f : CrsfProtocolContext → CrsfProtocolContext) :
    Ledger config { service with crsfContext := service.crsfContext.map f } latest := by
  refine ⟨h.sameConfig, h.balanced, ?_⟩
  intro k
  have hk := h.inOrder k
  cases k <;> exact hk

theorem takePing (h : Ledger config service latest) (nowMs : UInt32) (tx : RadioTx) :
    Ledger config service.takePing (service.told latest (.process nowMs tx)) := by
  unfold told takenPing CrsfTelemetryService.takePing
  dsimp only
  cases hcontext : service.crsfContext with
  | none => exact h
  | some context =>
    dsimp only
    by_cases hdevice : service.deviceInfoPending
    · rw [if_pos hdevice, if_pos hdevice]
      exact h
    · rw [if_neg hdevice, if_neg hdevice]
      rcases context.takeDevicePing with ⟨- | origin, context'⟩
      · refine ⟨h.sameConfig, h.balanced, ?_⟩
        intro k
        have hk := h.inOrder k
        cases k <;> exact hk
      · refine ⟨h.sameConfig, h.balanced, ?_⟩
        intro k
        cases k with
        | deviceInfo => exact ⟨fun _ => rfl, fun _ => by rw [← h.sameConfig]; rfl⟩
        | custom => exact h.inOrder .custom
        | battery => exact h.inOrder .battery
        | heartbeat => exact h.inOrder .heartbeat
        | flightMode => exact h.inOrder .flightMode

theorem markDue (h : Ledger config service latest) (nowMs : UInt32) :
    Ledger config (service.markDue nowMs) latest := by
  refine ⟨h.sameConfig, h.balanced, ?_⟩
  intro k
  cases k with
  | deviceInfo => exact h.inOrder .deviceInfo
  | custom => exact h.inOrder .custom
  | battery =>
    refine ⟨?_, (h.inOrder .battery).2⟩
    intro hk
    rcases Bool.or_eq_true_iff.mp hk with hp | hp
    · exact (h.inOrder .battery).1 hp
    · exact (Bool.and_eq_true_iff.mp hp).1
  | heartbeat => exact ⟨fun _ => rfl, (h.inOrder .heartbeat).2⟩
  | flightMode =>
    refine ⟨?_, (h.inOrder .flightMode).2⟩
    intro hk
    rcases Bool.or_eq_true_iff.mp hk with hp | hp
    · exact (h.inOrder .flightMode).1 hp
    · exact (Bool.and_eq_true_iff.mp hp).1

theorem collect (h : Ledger config service latest) (nowMs : UInt32) (tx : RadioTx) :
    Ledger config (service.collect nowMs) (service.told latest (.process nowMs tx)) := by
  have hcount : Ledger config
      (service.count fun s => { s with processCalls := s.processCalls + 1 }) latest := by
    refine ⟨h.sameConfig, h.balanced, ?_⟩
    intro k
    have hk := h.inOrder k
    cases k <;> exact hk
  exact (hcount.takePing nowMs tx).markDue nowMs

theorem deferred {result : Bool × RadioTx × CrsfTelemetryService}
    (h : Ledger config service latest) (hresult : Deferred service tx result) :
    Ledger config result.2.2 latest := by
  obtain ⟨index, busyDeferrals, encodeErrors, writeErrors, rfl⟩ := hresult
  refine ⟨h.sameConfig, h.balanced, ?_⟩
  intro k
  have hk := h.inOrder k
  cases k <;> exact hk

theorem sent_balanced {k : TelemetryClass} {result : Bool × RadioTx × CrsfTelemetryService}
    (h : service.stats.Balanced) (hresult : Sent service nowMs tx k result) :
    result.2.2.stats.Balanced := by
  obtain ⟨frame, index, -, -, -, rfl⟩ := hresult
  unfold CrsfTelemetryServiceStats.Balanced at h
  cases k with
  | deviceInfo =>
    change service.stats.framesStarted + 1 = _ + _ + _ + (_ + 1) + _
    rw [h]
    ac_rfl
  | custom =>
    change service.stats.framesStarted + 1 = _ + _ + _ + _ + (_ + 1)
    rw [h]
    ac_rfl
  | battery =>
    change service.stats.framesStarted + 1 = (_ + 1) + _ + _ + _ + _
    rw [h]
    ac_rfl
  | heartbeat =>
    change service.stats.framesStarted + 1 = _ + (_ + 1) + _ + _ + _
    rw [h]
    ac_rfl
  | flightMode =>
    change service.stats.framesStarted + 1 = _ + _ + (_ + 1) + _ + _
    rw [h]
    ac_rfl

theorem sent {k : TelemetryClass} {result : Bool × RadioTx × CrsfTelemetryService}
    (h : Ledger config service latest) (hresult : Sent service nowMs tx k result) :
    Ledger config result.2.2 latest := by
  have hbalanced := sent_balanced h.balanced hresult
  obtain ⟨frame, index, -, -, -, rfl⟩ := hresult
  refine ⟨?_, hbalanced, ?_⟩
  · cases k <;> exact h.sameConfig
  · intro j
    have hj := h.inOrder j
    -- the flag of the class alone is another, and it is down
    cases k <;> cases j <;> first
      | exact hj
      | exact ⟨fun hk => absurd hk Bool.false_ne_true, hj.2⟩
      | exact ⟨fun hk => hk, fun hk => absurd hk Bool.false_ne_true⟩

/-- **Every call keeps the ledger.** -/
theorem call (h : Ledger config service latest) (c : TelemetryCall) :
    Ledger config (service.call c) (service.told latest c) := by
  cases c with
  | setBattery battery => exact h.setBattery battery
  | setFlightMode flightMode => exact h.setFlightMode flightMode
  | queueCustomBroadcast frameType payload => exact h.queueCustomBroadcast frameType payload
  | parser c => exact h.parser _
  | parserReset => exact h.parser _
  | process nowMs tx =>
    have hcollect := h.collect nowMs tx
    rcases process_cases service nowMs tx with hdeferred | ⟨-, k, hsent⟩
    · exact hcollect.deferred hdeferred
    · exact hcollect.sent hsent

theorem calls (h : Ledger config service latest) (calls : List TelemetryCall) :
    Ledger config (calls.foldl tally (service, latest)).1
      (calls.foldl tally (service, latest)).2 := by
  induction calls generalizing service latest with
  | nil => exact h
  | cons c calls ih => exact ih (h.call c)

end Ledger

/-! ## Conservation -/

/-- A call of `process` that meets a busy transmitter or a refused write, or starts nothing for
another reason. -/
def Unserved (service : CrsfTelemetryService) (nowMs : UInt32) (tx : RadioTx) : Prop :=
  tx.busy = true ∨
    (service.process nowMs tx).2.2.stats.writeErrors ≠ service.stats.writeErrors ∨
    (service.process nowMs tx).1 = false

/-- Nothing is lost in the next call, when the service was told so much. -/
structure Conserved (config : CrsfTelemetryServiceConfig) (service : CrsfTelemetryService)
    (latest : LatestTelemetry) : Prop where
  counted : service.stats.framesStarted =
    service.stats.batteryFrames + service.stats.heartbeatFrames + service.stats.flightModeFrames +
      service.stats.deviceInfoFrames + service.stats.customFrames
  atMostOne : ∀ nowMs tx,
    (service.process nowMs tx).1 = false ∧ (service.process nowMs tx).2.1 = tx ∨
    (service.process nowMs tx).1 = true ∧ ∃ k frame,
      (service.process nowMs tx).2.1 = { tx with started := tx.started ++ [frame] } ∧
      (service.told latest (.process nowMs tx)).frame config k = some frame
  cleared : ∀ c k, service.pending k → ¬ (service.call c).pending k →
    ∃ nowMs tx frame, c = .process nowMs tx ∧ tx.accepts frame ∧
      (service.process nowMs tx).2.1 = { tx with started := tx.started ++ [frame] } ∧
      (service.told latest c).frame config k = some frame
  unserved : ∀ nowMs tx, Unserved service nowMs tx →
    (service.process nowMs tx).2.1 = tx ∧ Kept service (service.process nowMs tx).2.2

variable {config : CrsfTelemetryServiceConfig}

theorem Sent.latest_frame {k : TelemetryClass} {result : Bool × RadioTx × CrsfTelemetryService}
    (hledger : Ledger config service latest) (h : Sent service nowMs tx k result) :
    result.1 = true ∧ ∃ frame, tx.accepts frame ∧
      result.2.1 = { tx with started := tx.started ++ [frame] } ∧
      latest.frame config k = some frame := by
  obtain ⟨frame, index, hpending, hframe, haccepts, rfl⟩ := h
  have hholds := (hledger.inOrder k).1 hpending
  exact ⟨rfl, frame, haccepts, rfl, ((hledger.inOrder k).2 hholds).trans hframe⟩

theorem Sent.pending {j k : TelemetryClass} {result : Bool × RadioTx × CrsfTelemetryService}
    (h : Sent service nowMs tx k result) (hj : service.pending j)
    (hcleared : ¬ result.2.2.pending j) : j = k := by
  obtain ⟨frame, index, -, -, -, rfl⟩ := h
  by_contra hne
  apply hcleared
  cases k <;> cases j <;> first | exact hj | exact absurd rfl hne

theorem Sent.writeErrors {k : TelemetryClass} {result : Bool × RadioTx × CrsfTelemetryService}
    (h : Sent service nowMs tx k result) :
    result.2.2.stats.writeErrors = service.stats.writeErrors := by
  obtain ⟨frame, index, -, -, -, rfl⟩ := h
  cases k <;> rfl

theorem collect_writeErrors :
    (service.collect nowMs).stats.writeErrors = service.stats.writeErrors := by
  unfold collect takePing
  split
  · rfl
  split
  · rfl
  split <;> rfl

theorem setBattery_pending {k : TelemetryClass} (battery : CrsfBatteryTelemetry)
    (hk : service.pending k) : (service.setBattery battery).pending k := by
  cases k with
  | deviceInfo => exact hk
  | custom => exact hk
  | battery => rfl
  | heartbeat => exact hk
  | flightMode => exact hk

theorem setFlightMode_pending {k : TelemetryClass} (flightMode : List UInt8)
    (hk : service.pending k) : (service.setFlightMode flightMode).2.pending k := by
  unfold setFlightMode
  dsimp only
  split
  · exact hk
  · cases k with
    | deviceInfo => exact hk
    | custom => exact hk
    | battery => exact hk
    | heartbeat => exact hk
    | flightMode => rfl

theorem queueCustomBroadcast_pending {k : TelemetryClass} (frameType : UInt8)
    (payload : List UInt8) (hk : service.pending k) :
    (service.queueCustomBroadcast frameType payload).2.pending k := by
  unfold queueCustomBroadcast
  split
  · cases k <;> exact hk
  · cases k with
    | deviceInfo => exact hk
    | custom => rfl
    | battery => exact hk
    | heartbeat => exact hk
    | flightMode => exact hk

theorem call_pending {c : TelemetryCall} {k : TelemetryClass} (hk : service.pending k)
    (hcleared : ¬ (service.call c).pending k) : ∃ nowMs tx, c = .process nowMs tx := by
  cases c with
  | setBattery battery => exact absurd (setBattery_pending battery hk) hcleared
  | setFlightMode flightMode => exact absurd (setFlightMode_pending flightMode hk) hcleared
  | queueCustomBroadcast frameType payload =>
    exact absurd (queueCustomBroadcast_pending frameType payload hk) hcleared
  | parser c => cases k <;> exact absurd hk hcleared
  | parserReset => cases k <;> exact absurd hk hcleared
  | process nowMs tx => exact ⟨nowMs, tx, rfl⟩

namespace Ledger

theorem conserved (h : Ledger config service latest) : Conserved config service latest where
  counted := h.balanced
  atMostOne nowMs tx := by
    rcases process_cases service nowMs tx with hdeferred | ⟨-, k, hsent⟩
    · obtain ⟨index, busyDeferrals, encodeErrors, writeErrors, heq⟩ := hdeferred
      rw [heq]
      exact .inl ⟨rfl, rfl⟩
    · obtain ⟨htrue, frame, -, hstarted, hlatest⟩ := hsent.latest_frame (h.collect nowMs tx)
      exact .inr ⟨htrue, k, frame, hstarted, hlatest⟩
  cleared c j hj hcleared := by
    obtain ⟨nowMs, tx, rfl⟩ := call_pending hj hcleared
    have hcollected : (service.collect nowMs).pending j := Kept.collect.pending j hj
    rcases process_cases service nowMs tx with hdeferred | ⟨-, k, hsent⟩
    · exact absurd ((Kept.deferred hdeferred).pending j hcollected) hcleared
    · obtain rfl := hsent.pending hcollected hcleared
      obtain ⟨-, frame, haccepts, hstarted, hlatest⟩ := hsent.latest_frame (h.collect nowMs tx)
      exact ⟨nowMs, tx, frame, rfl, haccepts, hstarted, hlatest⟩
  unserved nowMs tx hunserved := by
    rcases process_cases service nowMs tx with hdeferred | ⟨hidle, k, hsent⟩
    · have hkept := Kept.collect.trans (Kept.deferred hdeferred)
      obtain ⟨index, busyDeferrals, encodeErrors, writeErrors, heq⟩ := hdeferred
      exact ⟨congrArg (·.2.1) heq, hkept⟩
    · rcases hunserved with hbusy | hrefused | hfalse
      · exact absurd (hbusy.symm.trans hidle) (by decide)
      · exact absurd (hsent.writeErrors.trans collect_writeErrors) hrefused
      · have htrue := (hsent.latest_frame (h.collect nowMs tx)).1
        exact absurd (hfalse.symm.trans htrue) (by decide)

end Ledger

/-- **Telemetry is conserved**: after every sequence of calls of a service, whatever its
transmitter did. -/
theorem telemetry_conserved {crsfContext : Option CrsfProtocolContext}
    (h : init crsfContext config = some service) (calls : List TelemetryCall) :
    Conserved config (calls.foldl call service) (calls.foldl tally (service, {})).2 := by
  have hledger := (Ledger.ofInit h).calls calls
  rw [tally_fst] at hledger
  exact hledger.conserved

/-- A battery, a busy transmitter, and then a free one. -/
theorem telemetry_conserved_battery :
    Conserved crsfTelemetryServiceConfigInit
      ([.setBattery ⟨24000, 1500, 123, 80⟩, .process 0 ⟨true, fun _ => true, []⟩,
        .process 1 ⟨false, fun _ => true, []⟩].foldl call
          { crsfContext := some CrsfProtocolContext.init, config := crsfTelemetryServiceConfigInit
            heartbeatPending := true })
      ([.setBattery ⟨24000, 1500, 123, 80⟩, .process 0 ⟨true, fun _ => true, []⟩,
        .process 1 ⟨false, fun _ => true, []⟩].foldl tally
          ({ crsfContext := some CrsfProtocolContext.init, config := crsfTelemetryServiceConfigInit
             heartbeatPending := true }, {})).2 := by
  have hinit : init (some CrsfProtocolContext.init) crsfTelemetryServiceConfigInit = some
      { crsfContext := some CrsfProtocolContext.init, config := crsfTelemetryServiceConfigInit
        heartbeatPending := true } := rfl
  exact telemetry_conserved hinit _

end CrsfTelemetryService

end RadioConnection
