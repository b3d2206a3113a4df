import RadioConnection.Radio.DevicePing
import RadioConnection.Radio.Telemetry

/-!
# The telemetry service

`crsf_telemetry_service.c`: each call of `crsf_telemetry_service_process` sends at
most one frame, of the device information, of a custom broadcast, or of one of
three classes that take turns.

* `Sound`: what is pending can be sent.
* `Sound.call`: every call keeps that.
* `send_started`: a free transmitter gets a frame when one is pending.
* `never_blocked_iff`: which configurations never block the service.
-/

namespace RadioConnection

def crsfTelemetryScheduleSlots : ℕ := 3

/-- What the transmitter answers in one call, and the frames that it has taken. -/
structure RadioTx where
  busy : Bool
  accepts : List UInt8 → Bool
  started : List (List UInt8)

/-- `radio_tx_try_write`. -/
def RadioTx.tryWrite (tx : RadioTx) (data : List UInt8) : Bool × RadioTx :=
  if 0 < data.length ∧ tx.accepts data then (true, { tx with started := tx.started ++ [data] })
  else (false, tx)

/-- A transmitter that takes what it is given. -/
structure RadioTx.Free (tx : RadioTx) : Prop where
  idle : tx.busy = false
  accepts : ∀ data, tx.accepts data = true

structure CrsfTelemetryServiceConfig where
  batteryPeriodMs : UInt32
  heartbeatPeriodMs : UInt32
  flightModePeriodMs : UInt32
  deviceInfo : CrsfDeviceInfo
  deriving DecidableEq

structure CrsfTelemetryServiceStats where
  processCalls : UInt32 := 0
  framesStarted : UInt32 := 0
  batteryFrames : UInt32 := 0
  heartbeatFrames : UInt32 := 0
  flightModeFrames : UInt32 := 0
  deviceInfoFrames : UInt32 := 0
  customFrames : UInt32 := 0
  busyDeferrals : UInt32 := 0
  encodeErrors : UInt32 := 0
  writeErrors : UInt32 := 0
  pingRequests : UInt32 := 0
  deriving DecidableEq, Repr

structure CrsfTelemetryService where
  crsfContext : Option CrsfProtocolContext
  config : CrsfTelemetryServiceConfig
  battery : CrsfBatteryTelemetry := ⟨0, 0, 0, 0⟩
  flightMode : List UInt8 := List.replicate (crsfTelemetryFlightModeMax + 1) 0
  /-- The first `custom_frame_length` bytes of the buffer. -/
  customFrame : List UInt8 := []
  lastBatteryMs : UInt32 := 0
  lastHeartbeatMs : UInt32 := 0
  lastFlightModeMs : UInt32 := 0
  pendingDeviceDestination : UInt8 := 0
  roundRobinIndex : UInt8 := 0
  batteryValid : Bool := false
  flightModeValid : Bool := false
  batteryPending : Bool := false
  heartbeatPending : Bool := false
  flightModePending : Bool := false
  deviceInfoPending : Bool := false
  customPending : Bool := false
  stats : CrsfTelemetryServiceStats := {}
  deriving DecidableEq

/-- `crsf_telemetry_service_config_init`. -/
def crsfTelemetryServiceConfigInit : CrsfTelemetryServiceConfig where
  batteryPeriodMs := 500
  heartbeatPeriodMs := 1000
  flightModePeriodMs := 2000
  deviceInfo :=
    { -- "radio_connection"
      name := #v[114, 97, 100, 105, 111, 95, 99, 111, 110, 110, 101, 99, 116, 105, 111, 110,
        0, 0, 0, 0, 0, 0, 0, 0, 0, 0, 0, 0, 0, 0, 0, 0]
      serialNumber := 0x52414449
      hardwareId := 0x00040701
      firmwareId := 0x00030000
      parameterCount := 0
      parameterVersion := 1 }

def periodDue (nowMs lastMs periodMs : UInt32) : Bool :=
  0 < periodMs && periodMs ≤ nowMs - lastMs

namespace CrsfTelemetryService

/-- `crsf_telemetry_service_init`. -/
def init (crsfContext : Option CrsfProtocolContext) (config : CrsfTelemetryServiceConfig) :
    Option CrsfTelemetryService :=
  if config.deviceInfo.name[0] = 0 then none
  else some { crsfContext := crsfContext, config := config, heartbeatPending := true }

def count (service : CrsfTelemetryService)
    (f : CrsfTelemetryServiceStats → CrsfTelemetryServiceStats) : CrsfTelemetryService :=
  { service with stats := f service.stats }

/-- `crsf_telemetry_service_set_battery`. -/
def setBattery (service : CrsfTelemetryService) (battery : CrsfBatteryTelemetry) :
    CrsfTelemetryService :=
  { service with battery := battery, batteryValid := true, batteryPending := true }

/-- `crsf_telemetry_service_set_flight_mode`. -/
def setFlightMode (service : CrsfTelemetryService) (flightMode : List UInt8) :
    Bool × CrsfTelemetryService :=
  let length := boundedStringLength flightMode (crsfTelemetryFlightModeMax + 1)
  if length = 0 ∨ crsfTelemetryFlightModeMax < length then (false, service)
  else
    (true, { service with
      flightMode := flightMode.take length ++ 0 :: service.flightMode.drop (length + 1)
      flightModeValid := true
      flightModePending := true })

/-- `crsf_telemetry_service_queue_custom_broadcast`. -/
def queueCustomBroadcast (service : CrsfTelemetryService) (frameType : UInt8)
    (payload : List UInt8) : Bool × CrsfTelemetryService :=
  match crsfTelemetryEncodeBroadcast frameType payload crsfTelemetryMaxFrameSize with
  | none => (false, service.count fun s => { s with encodeErrors := s.encodeErrors + 1 })
  | some frame => (true, { service with customFrame := frame, customPending := true })

/-! ## `crsf_telemetry_service_process` -/

/-- `service_start_frame`. -/
def startFrame (service : CrsfTelemetryService) (frame : List UInt8) (tx : RadioTx) :
    Bool × RadioTx × CrsfTelemetryService :=
  match tx.tryWrite frame with
  | (false, tx) => (false, tx, service.count fun s => { s with writeErrors := s.writeErrors + 1 })
  | (true, tx) => (true, tx, service.count fun s => { s with framesStarted := s.framesStarted + 1 })

/-- The end of every branch: an encoder's result is started, and `sent` notes that it was. -/
def startEncoded (service : CrsfTelemetryService) (encoded : Option (List UInt8))
    (sent : CrsfTelemetryService → CrsfTelemetryService) (tx : RadioTx) :
    Bool × RadioTx × CrsfTelemetryService :=
  match encoded with
  | none => (false, tx, service.count fun s => { s with encodeErrors := s.encodeErrors + 1 })
  | some frame =>
    match service.startFrame frame tx with
    | (false, tx, service) => (false, tx, service)
    | (true, tx, service) => (true, tx, sent service)

/-- The ping of the parser, when the answer to the last one is out. -/
def takePing (service : CrsfTelemetryService) : CrsfTelemetryService :=
  match service.crsfContext with
  | none => service
  | some context =>
    if service.deviceInfoPending then service
    else
      match context.takeDevicePing with
      | (none, context) => { service with crsfContext := some context }
      | (some origin, context) =>
        { service with
          crsfContext := some context
          pendingDeviceDestination := origin
          deviceInfoPending := true
          stats := { service.stats with pingRequests := service.stats.pingRequests + 1 } }

/-- The classes whose period is over. -/
def markDue (service : CrsfTelemetryService) (nowMs : UInt32) : CrsfTelemetryService :=
  { service with
    batteryPending := service.batteryPending || (service.batteryValid &&
      periodDue nowMs service.lastBatteryMs service.config.batteryPeriodMs)
    heartbeatPending := service.heartbeatPending ||
      periodDue nowMs service.lastHeartbeatMs service.config.heartbeatPeriodMs
    flightModePending := service.flightModePending || (service.flightModeValid &&
      periodDue nowMs service.lastFlightModeMs service.config.flightModePeriodMs) }

/-- What a call does before it looks at the transmitter. -/
def collect (service : CrsfTelemetryService) (nowMs : UInt32) : CrsfTelemetryService :=
  ((service.count fun s => { s with processCalls := s.processCalls + 1 }).takePing).markDue nowMs

/-- The class of a slot has something to send. -/
def slotPending (service : CrsfTelemetryService) (slot : UInt8) : Bool :=
  if slot = 0 then service.batteryPending && service.batteryValid
  else if slot = 1 then service.heartbeatPending
  else if slot = 2 then service.flightModePending && service.flightModeValid
  else false

def slotFrame (service : CrsfTelemetryService) (slot : UInt8) : Option (List UInt8) :=
  if slot = 0 then crsfTelemetryEncodeBattery service.battery crsfTelemetryMaxFrameSize
  else if slot = 1 then
    crsfTelemetryEncodeHeartbeat crsfAddressFlightController crsfTelemetryMaxFrameSize
  else crsfTelemetryEncodeFlightMode service.flightMode crsfTelemetryMaxFrameSize

def slotSent (slot : UInt8) (nowMs : UInt32) (service : CrsfTelemetryService) :
    CrsfTelemetryService :=
  if slot = 0 then
    { service with
      batteryPending := false
      lastBatteryMs := nowMs
      stats := { service.stats with batteryFrames := service.stats.batteryFrames + 1 } }
  else if slot = 1 then
    { service with
      heartbeatPending := false
      lastHeartbeatMs := nowMs
      stats := { service.stats with heartbeatFrames := service.stats.heartbeatFrames + 1 } }
  else
    { service with
      flightModePending := false
      lastFlightModeMs := nowMs
      stats := { service.stats with flightModeFrames := service.stats.flightModeFrames + 1 } }

def nextSlot (service : CrsfTelemetryService) : CrsfTelemetryService :=
  { service with
    roundRobinIndex := UInt8.ofNat ((service.roundRobinIndex.toNat + 1) %
      crsfTelemetryScheduleSlots) }

/-- The loop of `crsf_telemetry_service_process`, with so many attempts left. -/
def schedule (nowMs : UInt32) :
    ℕ → CrsfTelemetryService → RadioTx → Bool × RadioTx × CrsfTelemetryService
  | 0, service, tx => (false, tx, service)
  | attempts + 1, service, tx =>
    let slot := service.roundRobinIndex
    if service.slotPending slot then
      service.nextSlot.startEncoded (service.slotFrame slot) (slotSent slot nowMs) tx
    else schedule nowMs attempts service.nextSlot tx

def deviceInfoSent (service : CrsfTelemetryService) : CrsfTelemetryService :=
  { service with
    deviceInfoPending := false
    stats := { service.stats with deviceInfoFrames := service.stats.deviceInfoFrames + 1 } }

def customSent (service : CrsfTelemetryService) : CrsfTelemetryService :=
  { service with
    customPending := false
    stats := { service.stats with customFrames := service.stats.customFrames + 1 } }

/-- `crsf_telemetry_service_process` from its look at the transmitter on. -/
def send (service : CrsfTelemetryService) (nowMs : UInt32) (tx : RadioTx) :
    Bool × RadioTx × CrsfTelemetryService :=
  if tx.busy then
    (false, tx, service.count fun s => { s with busyDeferrals := s.busyDeferrals + 1 })
  else if service.deviceInfoPending then
    service.startEncoded (crsfTelemetryEncodeDeviceInfo service.pendingDeviceDestination
      service.config.deviceInfo crsfTelemetryMaxFrameSize) deviceInfoSent tx
  else if service.customPending then service.startEncoded (some service.customFrame) customSent tx
  else schedule nowMs crsfTelemetryScheduleSlots service tx

/-- `crsf_telemetry_service_process`. -/
def process (service : CrsfTelemetryService) (nowMs : UInt32) (tx : RadioTx) :
    Bool × RadioTx × CrsfTelemetryService :=
  (service.collect nowMs).send nowMs tx

end CrsfTelemetryService

/-! ## Calls -/

/-- A call of the service, or one that the receiver makes on the parser that they share. -/
inductive TelemetryCall
  | setBattery (battery : CrsfBatteryTelemetry)
  | setFlightMode (flightMode : List UInt8)
  | queueCustomBroadcast (frameType : UInt8) (payload : List UInt8)
  | parser (call : CrsfProtocolContext.CrsfCall)
  | parserReset
  | process (nowMs : UInt32) (tx : RadioTx)

namespace CrsfTelemetryService

def call (service : CrsfTelemetryService) : TelemetryCall → CrsfTelemetryService
  | .setBattery battery => service.setBattery battery
  | .setFlightMode flightMode => (service.setFlightMode flightMode).2
  | .queueCustomBroadcast frameType payload => (service.queueCustomBroadcast frameType payload).2
  | .parser c => { service with crsfContext := service.crsfContext.map (·.call c) }
  | .parserReset => { service with crsfContext := service.crsfContext.map (·.reset) }
  | .process nowMs tx => (service.process nowMs tx).2.2

/-! ## One frame -/

variable {service : CrsfTelemetryService} {nowMs : UInt32} {tx : RadioTx}

theorem startEncoded_rule {P : CrsfTelemetryService → Prop} {encoded : Option (List UInt8)}
    {sent : CrsfTelemetryService → CrsfTelemetryService}
    (hcount : ∀ s f, P s → P (s.count f)) (hsent : ∀ s, P s → P (sent s)) (h : P service) :
    P (service.startEncoded encoded sent tx).2.2 := by
  unfold startEncoded startFrame
  cases encoded with
  | none =>
    dsimp only
    exact hcount _ _ h
  | some frame =>
    dsimp only
    rcases tx.tryWrite frame with ⟨- | -, tx'⟩ <;> dsimp only
    · exact hcount _ _ h
    · exact hsent _ (hcount _ _ h)

/-- **A rule for `process`**: what its updates keep, it keeps. -/
theorem send_rule {P : CrsfTelemetryService → Prop}
    (hcount : ∀ s f, P s → P (s.count f)) (hnext : ∀ s, P s → P s.nextSlot)
    (hslot : ∀ s slot, P s → P (slotSent slot nowMs s))
    (hdevice : ∀ s, P s → P (deviceInfoSent s)) (hcustom : ∀ s, P s → P (customSent s))
    (h : P service) : P (service.send nowMs tx).2.2 := by
  have hschedule : ∀ attempts s, P s → P (schedule nowMs attempts s tx).2.2 := by
    intro attempts
    induction attempts with
    | zero => exact fun _ hs => hs
    | succ attempts ih =>
      intro s hs
      rw [schedule]
      split
      · exact startEncoded_rule hcount (fun s hs => hslot s _ hs) (hnext _ hs)
      · exact ih _ (hnext _ hs)
  unfold send
  split
  · dsimp only
    exact hcount _ _ h
  split
  · exact startEncoded_rule hcount hdevice h
  split
  · exact startEncoded_rule hcount hcustom h
  · exact hschedule _ _ h

theorem startEncoded_encodeErrors {frame : List UInt8}
    {sent : CrsfTelemetryService → CrsfTelemetryService}
    (hsent : ∀ s, (sent s).stats.encodeErrors = s.stats.encodeErrors) :
    (service.startEncoded (some frame) sent tx).2.2.stats.encodeErrors =
      service.stats.encodeErrors := by
  unfold startEncoded
  dsimp only
  unfold startFrame
  rcases tx.tryWrite frame with ⟨- | -, tx'⟩
  · rfl
  · exact hsent _

theorem nextSlot_roundRobinIndex : service.nextSlot.roundRobinIndex.toNat =
    (service.roundRobinIndex.toNat + 1) % crsfTelemetryScheduleSlots :=
  UInt8.toNat_ofNat_of_lt' ((Nat.mod_lt _ (by decide)).trans (by decide))

/-! ## What is pending can be sent -/

/-- What is pending can be sent, with a configuration whose device can answer a ping. -/
structure Sound (service : CrsfTelemetryService) : Prop where
  slot : service.roundRobinIndex.toNat < crsfTelemetryScheduleSlots
  battery : service.batteryPending → service.batteryValid
  flightMode : service.flightModePending → service.flightModeValid
  flightModePos : service.flightModeValid →
    0 < boundedStringLength service.flightMode (crsfTelemetryFlightModeMax + 1)
  flightModeMax : service.flightModeValid →
    boundedStringLength service.flightMode (crsfTelemetryFlightModeMax + 1) ≤
      crsfTelemetryFlightModeMax
  custom : service.customPending → service.customFrame ≠ []
  name : service.config.deviceInfo.name[0] ≠ 0
  answers : service.crsfContext = none ∨ 0 ∈ service.config.deviceInfo.name
  deviceInfo : service.deviceInfoPending → 0 ∈ service.config.deviceInfo.name

namespace Sound

theorem count (h : Sound service)
    (f : CrsfTelemetryServiceStats → CrsfTelemetryServiceStats) : Sound (service.count f) :=
  { h with }

theorem nextSlot (h : Sound service) : Sound service.nextSlot :=
  { h with
    slot := by
      rw [nextSlot_roundRobinIndex]
      exact Nat.mod_lt _ (by decide) }

theorem slotSent (h : Sound service) (slot : UInt8) : Sound (slotSent slot nowMs service) := by
  unfold CrsfTelemetryService.slotSent
  split
  · exact { h with battery := nofun }
  split
  · exact { h with }
  · exact { h with flightMode := nofun }

theorem deviceInfoSent (h : Sound service) : Sound service.deviceInfoSent :=
  { h with deviceInfo := nofun }

theorem customSent (h : Sound service) : Sound service.customSent := { h with custom := nofun }

theorem setBattery (h : Sound service) (battery : CrsfBatteryTelemetry) :
    Sound (service.setBattery battery) := { h with battery := fun _ => rfl }

theorem setFlightMode (h : Sound service) (flightMode : List UInt8) :
    Sound (service.setFlightMode flightMode).2 := by
  unfold CrsfTelemetryService.setFlightMode
  dsimp only
  split
  · exact h
  · next hlength =>
    have hcopy := boundedStringLength_copy flightMode
      (service.flightMode.drop
        (boundedStringLength flightMode (crsfTelemetryFlightModeMax + 1) + 1))
      (Nat.lt_succ_of_le (Nat.not_lt.mp (not_or.mp hlength).2))
    exact
      { h with
        flightMode := fun _ => rfl
        flightModePos := fun _ => by
          rw [hcopy]
          exact Nat.pos_of_ne_zero (not_or.mp hlength).1
        flightModeMax := fun _ => by
          rw [hcopy]
          exact Nat.not_lt.mp (not_or.mp hlength).2 }

theorem queueCustomBroadcast (h : Sound service) (frameType : UInt8) (payload : List UInt8) :
    Sound (service.queueCustomBroadcast frameType payload).2 := by
  unfold CrsfTelemetryService.queueCustomBroadcast
  split
  · dsimp only
    exact h.count _
  · next heq => exact { h with custom := fun _ => encodeFrame_ne_nil heq }

theorem parser (h : Sound service) (f : CrsfProtocolContext → CrsfProtocolContext) :
    Sound { service with crsfContext := service.crsfContext.map f } :=
  { h with answers := h.answers.imp_left fun hnone => by rw [hnone]; rfl }

theorem takePing (h : Sound service) : Sound service.takePing := by
  unfold CrsfTelemetryService.takePing
  split
  · exact h
  · next context hcontext =>
    have hname := h.answers.resolve_left (by rw [hcontext]; nofun)
    split
    · exact h
    split
    · exact { h with answers := .inr hname }
    · exact { h with answers := .inr hname, deviceInfo := fun _ => hname }

theorem markDue (h : Sound service) : Sound (service.markDue nowMs) where
  __ := h
  battery hpending := by
    rcases Bool.or_eq_true_iff.mp hpending with hp | hp
    · exact h.battery hp
    · exact (Bool.and_eq_true_iff.mp hp).1
  flightMode hpending := by
    rcases Bool.or_eq_true_iff.mp hpending with hp | hp
    · exact h.flightMode hp
    · exact (Bool.and_eq_true_iff.mp hp).1

theorem collect (h : Sound service) : Sound (service.collect nowMs) := (h.count _).takePing.markDue

theorem process (h : Sound service) : Sound (service.process nowMs tx).2.2 :=
  send_rule (fun _ f h => h.count f) (fun _ h => h.nextSlot) (fun _ slot h => h.slotSent slot)
    (fun _ h => h.deviceInfoSent) (fun _ h => h.customSent) h.collect

/-- **Every call keeps what is pending sendable.** -/
theorem call (h : Sound service) (c : TelemetryCall) : Sound (service.call c) := by
  cases c with
  | setBattery battery => exact h.setBattery battery
  | setFlightMode flightMode => exact h.setFlightMode flightMode
  | queueCustomBroadcast frameType payload => exact h.queueCustomBroadcast frameType payload
  | parser c => exact h.parser _
  | parserReset => exact h.parser _
  | process nowMs tx => exact h.process

theorem calls (h : Sound service) (calls : List TelemetryCall) :
    Sound (calls.foldl CrsfTelemetryService.call service) := by
  induction calls generalizing service with
  | nil => exact h
  | cons c calls ih => exact ih (h.call c)

theorem slotFrame (h : Sound service) {slot : UInt8} (hpending : service.slotPending slot) :
    ∃ frame, service.slotFrame slot = some frame ∧ frame ≠ [] := by
  unfold slotPending at hpending
  unfold CrsfTelemetryService.slotFrame
  by_cases hbattery : slot = 0
  · rw [if_pos hbattery]
    exact crsfTelemetryEncodeBattery_isSome _
  rw [if_neg hbattery] at hpending ⊢
  by_cases hheartbeat : slot = 1
  · rw [if_pos hheartbeat]
    exact crsfTelemetryEncodeHeartbeat_isSome _
  rw [if_neg hheartbeat] at hpending ⊢
  by_cases hflightMode : slot = 2
  · rw [if_pos hflightMode] at hpending
    have hvalid := (Bool.and_eq_true_iff.mp hpending).2
    exact crsfTelemetryEncodeFlightMode_isSome (h.flightModePos hvalid) (h.flightModeMax hvalid)
  · rw [if_neg hflightMode] at hpending
    cases hpending

theorem deviceInfoFrame (h : Sound service) (hpending : service.deviceInfoPending) :
    ∃ frame, crsfTelemetryEncodeDeviceInfo service.pendingDeviceDestination
      service.config.deviceInfo crsfTelemetryMaxFrameSize = some frame ∧ frame ≠ [] := by
  rcases crsfTelemetryEncodeDeviceInfo_cases service.pendingDeviceDestination h.name with
    ⟨-, hframe⟩ | ⟨hnul, -⟩
  · exact hframe
  · exact absurd (h.deviceInfo hpending) hnul

end Sound

/-! ## A free transmitter -/

def Started (tx : RadioTx) (result : Bool × RadioTx × CrsfTelemetryService) : Prop :=
  result.1 = true ∧ ∃ frame, result.2.1.started = tx.started ++ [frame]

/-- A class of frames waits. -/
def AnyPending (service : CrsfTelemetryService) : Prop :=
  service.deviceInfoPending ∨ service.customPending ∨ service.batteryPending ∨
    service.heartbeatPending ∨ service.flightModePending

theorem startEncoded_started {encoded : Option (List UInt8)}
    {sent : CrsfTelemetryService → CrsfTelemetryService} (hfree : tx.Free)
    (h : ∃ frame, encoded = some frame ∧ frame ≠ []) :
    Started tx (service.startEncoded encoded sent tx) := by
  obtain ⟨frame, rfl, hne⟩ := h
  have htry : tx.tryWrite frame = (true, { tx with started := tx.started ++ [frame] }) :=
    if_pos ⟨List.length_pos_iff.mpr hne, hfree.accepts frame⟩
  unfold startEncoded startFrame
  dsimp only
  rw [htry]
  exact ⟨rfl, frame, rfl⟩

theorem schedule_started (h : Sound service) (hfree : tx.Free) {attempts k slot : ℕ}
    (hk : k < attempts)
    (hturn : (service.roundRobinIndex.toNat + k) % crsfTelemetryScheduleSlots = slot)
    (hpending : service.slotPending (UInt8.ofNat slot)) :
    Started tx (schedule nowMs attempts service tx) := by
  induction attempts generalizing service k with
  | zero => exact absurd hk (Nat.not_lt_zero k)
  | succ attempts ih =>
    rw [schedule]
    by_cases hnow : service.slotPending service.roundRobinIndex
    · rw [if_pos hnow]
      exact startEncoded_started hfree (h.slotFrame hnow)
    · rw [if_neg hnow]
      cases k with
      | zero =>
        rw [Nat.add_zero, Nat.mod_eq_of_lt h.slot] at hturn
        rw [← hturn, UInt8.ofNat_toNat] at hpending
        exact absurd hpending hnow
      | succ k =>
        refine ih h.nextSlot (Nat.lt_of_succ_lt_succ hk) ?_ hpending
        rw [nextSlot_roundRobinIndex, Nat.mod_add_mod, Nat.add_assoc, Nat.add_comm 1 k]
        exact hturn

theorem exists_slotPending (h : Sound service) (hdevice : ¬ service.deviceInfoPending)
    (hcustom : ¬ service.customPending) (hany : service.AnyPending) :
    ∃ slot < crsfTelemetryScheduleSlots, service.slotPending (UInt8.ofNat slot) := by
  rcases hany with hp | hp | hp | hp | hp
  · exact absurd hp hdevice
  · exact absurd hp hcustom
  · exact ⟨0, by decide, Bool.and_eq_true_iff.mpr ⟨hp, h.battery hp⟩⟩
  · exact ⟨1, by decide, hp⟩
  · exact ⟨2, by decide, Bool.and_eq_true_iff.mpr ⟨hp, h.flightMode hp⟩⟩

theorem send_started (h : Sound service) (hfree : tx.Free) (hany : service.AnyPending) :
    Started tx (service.send nowMs tx) := by
  unfold send
  rw [if_neg (by rw [hfree.idle]; nofun)]
  by_cases hdevice : service.deviceInfoPending
  · rw [if_pos hdevice]
    exact startEncoded_started hfree (h.deviceInfoFrame hdevice)
  rw [if_neg hdevice]
  by_cases hcustom : service.customPending
  · rw [if_pos hcustom]
    exact startEncoded_started hfree ⟨_, rfl, h.custom hcustom⟩
  rw [if_neg hcustom]
  obtain ⟨slot, hlt, hpending⟩ := exists_slotPending h hdevice hcustom hany
  have hslot := h.slot
  have hturn : (service.roundRobinIndex.toNat +
      (slot + 3 - service.roundRobinIndex.toNat) % 3) % 3 = slot := by
    change slot < 3 at hlt
    change service.roundRobinIndex.toNat < 3 at hslot
    omega
  exact schedule_started h hfree (Nat.mod_lt _ (by decide)) hturn hpending

/-! ## Errors of the encoders -/

theorem schedule_encodeErrors (h : Sound service) (attempts : ℕ) :
    (schedule nowMs attempts service tx).2.2.stats.encodeErrors = service.stats.encodeErrors := by
  induction attempts generalizing service with
  | zero => rfl
  | succ attempts ih =>
    rw [schedule]
    by_cases hnow : service.slotPending service.roundRobinIndex
    · rw [if_pos hnow]
      obtain ⟨frame, heq, -⟩ := h.slotFrame hnow
      rw [heq]
      apply startEncoded_encodeErrors
      intro s
      unfold slotSent
      split_ifs <;> rfl
    · rw [if_neg hnow]
      exact ih h.nextSlot

theorem send_encodeErrors (h : Sound service) :
    (service.send nowMs tx).2.2.stats.encodeErrors = service.stats.encodeErrors := by
  unfold send
  split
  · rfl
  split
  · next hdevice =>
    obtain ⟨frame, heq, -⟩ := h.deviceInfoFrame hdevice
    rw [heq]
    exact startEncoded_encodeErrors fun _ => rfl
  split
  · exact startEncoded_encodeErrors fun _ => rfl
  · exact schedule_encodeErrors h _

theorem collect_encodeErrors :
    (service.collect nowMs).stats.encodeErrors = service.stats.encodeErrors := by
  unfold collect takePing
  split
  · rfl
  split
  · rfl
  split <;> rfl

/-! ## Configurations -/

/-- A free transmitter gets a frame whenever one is pending, and no encoder fails. -/
def NeverBlocked (service : CrsfTelemetryService) : Prop :=
  (∀ nowMs tx, tx.Free → (service.collect nowMs).AnyPending →
    Started tx (service.process nowMs tx)) ∧
  ∀ nowMs tx, (service.process nowMs tx).2.2.stats.encodeErrors = service.stats.encodeErrors

theorem Sound.neverBlocked (h : Sound service) : NeverBlocked service := by
  constructor
  · intro nowMs tx hfree hany
    exact send_started h.collect hfree hany
  · intro nowMs tx
    exact (send_encodeErrors h.collect).trans collect_encodeErrors

variable {crsfContext : Option CrsfProtocolContext} {config : CrsfTelemetryServiceConfig}

theorem init_eq (h : init crsfContext config = some service) :
    config.deviceInfo.name[0] ≠ 0 ∧
      service = { crsfContext := crsfContext, config := config, heartbeatPending := true } := by
  unfold init at h
  split at h
  · cases h
  · next hname => exact ⟨hname, (Option.some.inj h).symm⟩

theorem init_sound (h : init crsfContext config = some service)
    (hanswers : crsfContext = none ∨ 0 ∈ config.deviceInfo.name) : Sound service := by
  obtain ⟨hname, rfl⟩ := init_eq h
  exact ⟨Nat.zero_lt_succ 2, nofun, nofun, nofun, nofun, nofun, hname, hanswers, nofun⟩

theorem parser_calls (service : CrsfTelemetryService)
    (calls : List CrsfProtocolContext.CrsfCall) :
    (calls.map TelemetryCall.parser).foldl call service =
      { service with
        crsfContext := service.crsfContext.map (calls.foldl CrsfProtocolContext.call) } := by
  induction calls generalizing service with
  | nil => cases service with | mk context => cases context <;> rfl
  | cons c calls ih =>
    rw [List.map_cons, List.foldl_cons, ih, call, Option.map_map]
    rfl

/-- A ping to the flight controller from `0xEA`, from the parser's reset on. -/
def pingCalls : List TelemetryCall :=
  .parserReset :: ((CrsfProtocolContext.pingHead ++ [CrsfProtocolContext.pingCrc]).map
    CrsfProtocolContext.CrsfCall.byte).map .parser

theorem takePing_origin {context : CrsfProtocolContext} {origin : UInt8}
    (hcontext : service.crsfContext = some context)
    (horigin : context.takeDevicePing.1 = some origin) :
    service.takePing.deviceInfoPending = true := by
  unfold takePing
  rw [hcontext]
  dsimp only
  split
  · assumption
  split
  · next heq =>
    rw [heq] at horigin
    cases horigin
  · rfl

theorem takePing_config : service.takePing.config = service.config := by
  unfold takePing
  split
  · rfl
  split
  · rfl
  split <;> rfl

theorem pingCalls_pending (nowMs : UInt32) {context : CrsfProtocolContext}
    (hcontext : service.crsfContext = some context) :
    ((pingCalls.foldl call service).collect nowMs).deviceInfoPending = true ∧
      ((pingCalls.foldl call service).collect nowMs).config = service.config := by
  have htracks : CrsfProtocolContext.Tracks context.reset [] := .address rfl
  have hends : CrsfProtocolContext.ends []
      ((CrsfProtocolContext.pingHead ++ [CrsfProtocolContext.pingCrc]).map
        CrsfProtocolContext.CrsfCall.byte) = [.ping 0xEA] := by
    decide +kernel
  have hping := CrsfProtocolContext.calls_ping htracks
    ((CrsfProtocolContext.pingHead ++ [CrsfProtocolContext.pingCrc]).map .byte)
  rw [hends] at hping
  rw [pingCalls, List.foldl_cons, parser_calls, call, hcontext]
  exact ⟨takePing_origin rfl hping, takePing_config⟩

/-- **A device that cannot answer a ping** sends nothing once it was asked. -/
theorem process_blocked (hpending : (service.collect nowMs).deviceInfoPending = true)
    (hname : (service.collect nowMs).config.deviceInfo.name[0] ≠ 0)
    (hnul : 0 ∉ (service.collect nowMs).config.deviceInfo.name) (hidle : tx.busy = false) :
    service.process nowMs tx = (false, tx,
      (service.collect nowMs).count fun s => { s with encodeErrors := s.encodeErrors + 1 }) := by
  have hnone := (crsfTelemetryEncodeDeviceInfo_cases
    (service.collect nowMs).pendingDeviceDestination hname).resolve_left fun h => hnul h.1
  unfold process send
  rw [if_neg (by rw [hidle]; nofun), if_pos hpending, hnone.2]
  rfl

theorem pingCalls_blocked {context : CrsfProtocolContext}
    (h : init (some context) config = some service) (hnul : 0 ∉ config.deviceInfo.name) :
    ¬ NeverBlocked (pingCalls.foldl call service) := by
  obtain ⟨hname, hservice⟩ := init_eq h
  have hcontext : service.crsfContext = some context := by rw [hservice]
  have hconfig : service.config = config := by rw [hservice]
  obtain ⟨hpending, heq⟩ := pingCalls_pending 0 hcontext
  have hblocked : (pingCalls.foldl call service).process 0 ⟨false, fun _ => true, []⟩ = _ :=
    process_blocked hpending (by rwa [heq, hconfig]) (by rwa [heq, hconfig]) rfl
  intro hnever
  have hstarted := hnever.1 0 ⟨false, fun _ => true, []⟩ ⟨rfl, fun _ => rfl⟩ (.inl hpending)
  rw [hblocked] at hstarted
  cases hstarted.1

/-- **The service is never blocked exactly when it can answer a ping, or is never asked.** -/
theorem never_blocked_iff (h : init crsfContext config = some service) :
    (∀ calls : List TelemetryCall, NeverBlocked (calls.foldl call service)) ↔
      crsfContext = none ∨ 0 ∈ config.deviceInfo.name := by
  constructor
  · intro hnever
    by_contra hanswers
    obtain ⟨hcontext, hnul⟩ := not_or.mp hanswers
    obtain ⟨context, rfl⟩ := Option.ne_none_iff_exists'.mp hcontext
    exact pingCalls_blocked h hnul (hnever pingCalls)
  · intro hanswers calls
    exact ((init_sound h hanswers).calls calls).neverBlocked

/-- The default configuration, after a ping. -/
theorem never_blocked_default :
    NeverBlocked (pingCalls.foldl call
      { crsfContext := some CrsfProtocolContext.init, config := crsfTelemetryServiceConfigInit
        heartbeatPending := true }) := by
  have hinit : init (some CrsfProtocolContext.init) crsfTelemetryServiceConfigInit = some
      { crsfContext := some CrsfProtocolContext.init, config := crsfTelemetryServiceConfigInit
        heartbeatPending := true } := rfl
  exact (never_blocked_iff hinit).mpr (.inr (by decide +kernel)) pingCalls

def fullNameConfig : CrsfTelemetryServiceConfig :=
  { crsfTelemetryServiceConfigInit with
    deviceInfo := { crsfTelemetryServiceConfigInit.deviceInfo with
      name := Vector.replicate _ 0x41 } }

/-- **A name of 32 characters is accepted, and a ping then blocks the service.** -/
theorem full_name_blocks : ¬ ∀ (crsfContext : Option CrsfProtocolContext)
    (config : CrsfTelemetryServiceConfig) (service : CrsfTelemetryService),
    init crsfContext config = some service →
      ∀ calls : List TelemetryCall, NeverBlocked (calls.foldl call service) := by
  intro hclaim
  have hinit : init (some CrsfProtocolContext.init) fullNameConfig = some
      { crsfContext := some CrsfProtocolContext.init, config := fullNameConfig
        heartbeatPending := true } := rfl
  exact pingCalls_blocked hinit (by simp [fullNameConfig]) (hclaim _ _ _ hinit pingCalls)

end CrsfTelemetryService

end RadioConnection
