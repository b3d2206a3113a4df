import RadioConnection.Radio.AppMain

/-!
# Failsafe

What the failsafe of the receiver service says, and what of a flagged frame reaches
the control policy.

* `failsafe_consistent`: the failsafe of the service is timely and sticky, and it goes
  with the frame that the service hands out.
* `heeded_iff`: a poll heeds the flagged frames that it receives, unless the last
  frame of the poll is a clean one.
-/

namespace RadioConnection

open RcReceiverService (takeFrame store serviceAt acceptedAt acceptedFrames lastAccepted Schedule)

/-- The frame has one of its two flags. -/
def RcInputFrame.IsFlagged (frame : RcInputFrame) : Prop :=
  frame.failsafe = true ∨ frame.frameLost = true

instance (frame : RcInputFrame) : Decidable frame.IsFlagged :=
  inferInstanceAs (Decidable (_ ∨ _))

theorem RcInputFrame.flags_eq_false {frame : RcInputFrame} :
    (frame.failsafe || frame.frameLost) = false ↔ ¬ frame.IsFlagged := by
  simp [IsFlagged]

/-! ## Frames that are accepted -/

section

variable {σ : Type} {protocol : RadioProtocol σ} {context : σ} {byte : UInt8} {nowMs : UInt32}
  {frame : RcInputFrame}

theorem takeFrame_eq_some (h : (takeFrame protocol context byte nowMs).1 = some frame) :
    (protocol.processByte context byte nowMs).1 = .frameReady ∧
      (protocol.getFrame (protocol.processByte context byte nowMs).2).1 = some frame := by
  unfold takeFrame at h
  dsimp only at h
  split at h
  · rename_i hready
    exact ⟨hready, h⟩
  · cases h

theorem acceptedFrames_all {P : RcInputFrame → Prop}
    (hP : ∀ context byte frame, (takeFrame protocol context byte nowMs).1 = some frame → P frame)
    {bytes : List UInt8} (h : frame ∈ acceptedFrames protocol nowMs context bytes) : P frame := by
  induction bytes generalizing context with
  | nil => cases h
  | cons byte bytes ih =>
    rcases List.mem_append.mp h with h | h
    · exact hP context byte frame (Option.mem_toList.mp h)
    · exact ih h

end

theorem crsf_takeFrame_valid {context : CrsfProtocolContext} {byte : UInt8} {nowMs : UInt32}
    {frame : RcInputFrame} (h : (takeFrame crsfProtocol context byte nowMs).1 = some frame) :
    frame.frameValid = true := by
  obtain ⟨hready, hframe⟩ := takeFrame_eq_some h
  change (context.processByte byte).1 = .frameReady at hready
  change (context.processByte byte).2.getFrame.1 = some frame at hframe
  unfold CrsfProtocolContext.processByte at hready hframe
  split at hready
  · split at hready <;> cases hready
  · split at hready <;> cases hready
  · rename_i hs
    simp only [hs] at hframe
    dsimp only at hready
    split at hready
    · rename_i hcomplete
      rw [if_pos hcomplete, CrsfProtocolContext.processFrame_getFrame hready] at hframe
      obtain rfl := Option.some.inj hframe
      rfl
    · cases hready

theorem sbus_processFrame_valid {context : SbusProtocolContext} {nowMs : UInt32}
    {frame : RcInputFrame} (hready : (context.processFrame nowMs).1 = .frameReady)
    (h : (context.processFrame nowMs).2.getFrame.1 = some frame) : frame.frameValid = true := by
  unfold SbusProtocolContext.processFrame at hready h
  dsimp only at hready h
  split at hready
  · split at hready <;> cases hready
  · rename_i hfooter
    rw [if_neg hfooter] at h
    split at hready
    · cases hready
    · rename_i hdecode
      rw [hdecode] at h
      obtain rfl := Option.some.inj h
      rfl

theorem sbus_takeFrame_valid {context : SbusProtocolContext} {byte : UInt8} {nowMs : UInt32}
    {frame : RcInputFrame} (h : (takeFrame sbusProtocol context byte nowMs).1 = some frame) :
    frame.frameValid = true := by
  obtain ⟨hready, hframe⟩ := takeFrame_eq_some h
  change (context.processByte byte nowMs).1 = .frameReady at hready
  change (context.processByte byte nowMs).2.getFrame.1 = some frame at hframe
  unfold SbusProtocolContext.processByte at hready hframe
  dsimp only at hready hframe
  split_ifs at hready hframe
  exact sbus_processFrame_valid hready hframe

inductive ReceiverProtocol
  | crsf | sbus
  deriving DecidableEq, Repr

namespace ReceiverProtocol

def Context : ReceiverProtocol → Type
  | crsf => CrsfProtocolContext
  | sbus => SbusProtocolContext

def protocol : (p : ReceiverProtocol) → RadioProtocol p.Context
  | crsf => crsfProtocol
  | sbus => sbusProtocol

/-- **Every accepted frame is valid.** -/
theorem accepted_valid (p : ReceiverProtocol) {context : p.Context} {nowMs : UInt32}
    {bytes : List UInt8} {frame : RcInputFrame}
    (h : frame ∈ acceptedFrames p.protocol nowMs context bytes) : frame.frameValid = true := by
  cases p with
  | crsf => exact acceptedFrames_all (fun _ _ _ => crsf_takeFrame_valid) h
  | sbus => exact acceptedFrames_all (fun _ _ _ => sbus_takeFrame_valid) h

end ReceiverProtocol

/-! ## The failsafe of the service -/

section

variable {σ : Type} {protocol : RadioProtocol σ} {service : RcReceiverService σ} {polls : ℕ → Poll}

theorem process_hasFrame (poll : Poll) :
    (service.process protocol poll).hasFrame = (service.hasFrame ||
      (acceptedFrames protocol (UInt32.ofNat poll.startMs) service.context
        poll.bytes).getLast?.isSome) := by
  have hcheck : ∀ (s : RcReceiverService σ) (now : UInt32),
      (s.checkTimeout now).hasFrame = s.hasFrame := by
    intro s now
    unfold RcReceiverService.checkTimeout
    split <;> rfl
  obtain ⟨context, hlast⟩ := @RcReceiverService.receive_last σ protocol
    (UInt32.ofNat poll.startMs) poll.bytes service
  rw [RcReceiverService.process, hcheck, hlast]
  cases (acceptedFrames protocol (UInt32.ofNat poll.startMs) service.context poll.bytes).getLast? with
  | none => exact (Bool.or_false _).symm
  | some frame => exact (Bool.or_true _).symm

theorem serviceAt_hasFrame (hf : service.hasFrame = false) (n : ℕ) :
    (serviceAt protocol service polls n).hasFrame =
      (lastAccepted protocol service polls n).isSome := by
  induction n with
  | zero => exact hf
  | succ n ih =>
    rw [serviceAt, process_hasFrame, ih, lastAccepted]
    change (_ || (acceptedAt protocol service polls n).getLast?.isSome) = _
    cases (acceptedAt protocol service polls n).getLast? with
    | none => exact Bool.or_false _
    | some frame => exact Bool.or_true _

theorem getLatestFrame_eq_some (h : service.hasFrame = true) :
    service.getLatestFrame = some service.latestFrame := if_neg (not_not.mpr h)

theorem process_isFailsafe (h : service.isFailsafe = true) (poll : Poll)
    (hnone : (acceptedFrames protocol (UInt32.ofNat poll.startMs) service.context
      poll.bytes).getLast? = none) : (service.process protocol poll).isFailsafe = true := by
  obtain ⟨context, hlast⟩ := @RcReceiverService.receive_last σ protocol
    (UInt32.ofNat poll.startMs) poll.bytes service
  rw [hnone] at hlast
  have hcheck : ∀ (s : RcReceiverService σ) (now : UInt32), s.isFailsafe = true →
      (s.checkTimeout now).isFailsafe = true := by
    intro s now hs
    unfold RcReceiverService.checkTimeout
    split
    · rfl
    · exact hs
  rw [RcReceiverService.process, hlast]
  exact hcheck _ _ h

end

section

variable (p : ReceiverProtocol) (context : p.Context) (bootMs failsafeTimeoutMs : UInt32)
  (polls : ℕ → Poll)

/-- The service before call `n`. -/
abbrev ReceiverProtocol.serviceAt (n : ℕ) : RcReceiverService p.Context :=
  RcReceiverService.serviceAt p.protocol (.init p.protocol context bootMs failsafeTimeoutMs) polls n

/-- The frame accepted last before call `n`, with the clock then. -/
abbrev ReceiverProtocol.lastAccepted (n : ℕ) : Option (RcInputFrame × ℕ) :=
  RcReceiverService.lastAccepted p.protocol (.init p.protocol context bootMs failsafeTimeoutMs)
    polls n

/-- The frames that call `n` accepts. -/
abbrev ReceiverProtocol.acceptedAt (n : ℕ) : List RcInputFrame :=
  RcReceiverService.acceptedAt p.protocol (.init p.protocol context bootMs failsafeTimeoutMs) polls n

variable {p context bootMs failsafeTimeoutMs polls}

theorem clear_of_fresh {n : ℕ} (hs : Schedule failsafeTimeoutMs polls)
    (h : (p.serviceAt context bootMs failsafeTimeoutMs polls (n + 1)).isFailsafe = false) :
    ∃ frame acceptedMs,
      p.lastAccepted context bootMs failsafeTimeoutMs polls (n + 1) = some (frame, acceptedMs) ∧
      acceptedMs ≤ (polls n).checkMs ∧
      (polls n).checkMs ≤ acceptedMs + failsafeTimeoutMs.toNat ∧ ¬ frame.IsFlagged ∧
      frame.frameValid = true ∧
      (p.serviceAt context bootMs failsafeTimeoutMs polls (n + 1)).getLatestFrame =
        some { frame with timestampMs := UInt32.ofNat acceptedMs } := by
  have hfresh := @RcReceiverService.serviceAt_fresh_last _ p.protocol
    (.init p.protocol context bootMs failsafeTimeoutMs) polls rfl rfl hs n
  have hactive : (p.serviceAt context bootMs failsafeTimeoutMs polls (n + 1)).failsafeActive =
      false := h
  cases hfresh with
  | none _ ha => exact absurd (hactive.symm.trans ha) (by decide)
  | flagged _ ha => exact absurd (hactive.symm.trans ha) (by decide)
  | current frame acceptedMs hlast hc =>
    have hhas := @serviceAt_hasFrame _ p.protocol
      (.init p.protocol context bootMs failsafeTimeoutMs) polls rfl (n + 1)
    rw [hlast] at hhas
    have hage := hc.age
    rw [RcReceiverService.serviceAt_failsafeTimeoutMs] at hage
    have hflags := hc.failsafeActive
    rw [hactive] at hflags
    obtain ⟨j, -, hmem, -⟩ := RcReceiverService.accepted_of_last hlast
    refine ⟨frame, acceptedMs, hlast, hc.order, hage,
      RcInputFrame.flags_eq_false.mp hflags.symm, p.accepted_valid hmem, ?_⟩
    rw [getLatestFrame_eq_some hhas, hc.latestFrame]

/-- A service that reports failsafe hands out no frame or a flagged one. -/
theorem flagged_of_fresh {n : ℕ} (hs : Schedule failsafeTimeoutMs polls) {frame : RcInputFrame}
    (h : (p.serviceAt context bootMs failsafeTimeoutMs polls n).isFailsafe = true)
    (hget : (p.serviceAt context bootMs failsafeTimeoutMs polls n).getLatestFrame = some frame) :
    frame.IsFlagged := by
  cases n with
  | zero => cases hget
  | succ n =>
    have hactive : (p.serviceAt context bootMs failsafeTimeoutMs polls (n + 1)).failsafeActive =
        true := h
    have hlatest : (p.serviceAt context bootMs failsafeTimeoutMs polls (n + 1)).hasFrame = true ∧
        (p.serviceAt context bootMs failsafeTimeoutMs polls (n + 1)).latestFrame = frame := by
      unfold RcReceiverService.getLatestFrame at hget
      split at hget
      · cases hget
      · rename_i hf
        exact ⟨not_not.mp hf, Option.some.inj hget⟩
    obtain ⟨hhas, rfl⟩ := hlatest
    have hfresh := @RcReceiverService.serviceAt_fresh_last _ p.protocol
      (.init p.protocol context bootMs failsafeTimeoutMs) polls rfl rfl hs n
    cases hfresh with
    | none hf _ => exact absurd (hhas.symm.trans hf) (by decide)
    | flagged hf _ => exact .inl hf
    | current frame acceptedMs _ hc =>
      have hflags := hc.failsafeActive
      rw [hactive] at hflags
      rw [hc.latestFrame]
      by_contra hclean
      rw [RcInputFrame.flags_eq_false.mpr hclean] at hflags
      cases hflags

/-- **The failsafe of the receiver is timely, goes with the frame, and is sticky.** -/
theorem failsafe_consistent (p : ReceiverProtocol) (context : p.Context)
    (bootMs failsafeTimeoutMs : UInt32) (polls : ℕ → Poll) (hs : Schedule failsafeTimeoutMs polls) :
    (∀ n, (p.serviceAt context bootMs failsafeTimeoutMs polls (n + 1)).isFailsafe = false →
      ∃ frame acceptedMs,
        p.lastAccepted context bootMs failsafeTimeoutMs polls (n + 1) = some (frame, acceptedMs) ∧
        acceptedMs ≤ (polls n).checkMs ∧
        (polls n).checkMs ≤ acceptedMs + failsafeTimeoutMs.toNat ∧ ¬ frame.IsFlagged ∧
        frame.frameValid = true ∧
        (p.serviceAt context bootMs failsafeTimeoutMs polls (n + 1)).getLatestFrame =
          some { frame with timestampMs := UInt32.ofNat acceptedMs }) ∧
    (∀ n, (p.serviceAt context bootMs failsafeTimeoutMs polls n).isFailsafe = true →
      ∀ frame, (p.serviceAt context bootMs failsafeTimeoutMs polls n).getLatestFrame = some frame →
        frame.IsFlagged) ∧
    ∀ n, (p.serviceAt context bootMs failsafeTimeoutMs polls n).isFailsafe = true →
      (p.serviceAt context bootMs failsafeTimeoutMs polls (n + 1)).isFailsafe = false →
      p.acceptedAt context bootMs failsafeTimeoutMs polls n ≠ [] := by
  refine ⟨?_, ?_, ?_⟩
  · intro n h
    exact clear_of_fresh hs h
  · intro n h frame hget
    exact flagged_of_fresh hs h hget
  · intro n h hclear hnil
    have hstays := process_isFailsafe h (polls n) (List.getLast?_eq_none_iff.mpr hnil)
    exact absurd (hstays.symm.trans hclear) (by decide)

end

/-- The receiver of the polls in which the switch goes on. -/
theorem failsafe_consistent_armPolls :
    (ReceiverProtocol.crsf.serviceAt .init 0 500 AppMain.armPolls 2).isFailsafe = false ∧
      ∃ frame, ReceiverProtocol.crsf.lastAccepted .init 0 500 AppMain.armPolls 2 =
        some (frame, 10) := by
  have hclear : (ReceiverProtocol.crsf.serviceAt .init 0 500 AppMain.armPolls 2).isFailsafe =
      false := by
    decide +kernel
  refine ⟨hclear, ?_⟩
  obtain ⟨frame, acceptedMs, hlast, -⟩ := (failsafe_consistent .crsf .init 0 500 AppMain.armPolls
    AppMain.armPolls_schedule).1 1 hclear
  have hms : (ReceiverProtocol.crsf.lastAccepted .init 0 500 AppMain.armPolls 2).map Prod.snd =
      some 10 := by
    decide +kernel
  rw [hlast] at hms
  obtain rfl := Option.some.inj hms
  exact ⟨frame, hlast⟩

/-! ## Flagged frames and the policy -/

namespace AppMain

open RcControlPolicy (usable getRequiredInputs)

section

variable {σ : Type} {protocol : RadioProtocol σ} {mapper : RcChannelMapper}

/-- The outputs are off, and the policy wants the switch to be moved to off. -/
structure Heeded (app : AppMain σ) : Prop where
  command : app.hasControlCommand = true
  outputs : app.latestControlCommand.outputsEnabled = false
  release : app.controlPolicy.armReleaseRequired = true

/-- `frame` is too old when the call checks the time. -/
def Expired (radio : RcReceiverService σ) (p : Poll) : Prop :=
  radio.failsafeTimeoutMs < UInt32.ofNat p.checkMs - UInt32.ofNat p.startMs

/-- The poll receives a flagged frame, and its last frame is a clean one that the policy can use
and takes: unless a release is required already and the switch is not off. -/
structure Overlooked (mapper : RcChannelMapper) (app : AppMain σ) (frames : List RcInputFrame)
    (p : Poll) : Prop where
  flagged : ∃ frame ∈ frames, frame.IsFlagged
  fresh : ¬ Expired app.radio p
  last : ∃ frame r, frames.getLast? = some frame ∧ ¬ frame.IsFlagged ∧ MapsTo mapper frame r ∧
    ¬ (app.controlPolicy.armReleaseRequired = true ∧
      ¬ r.arm ≤ app.controlPolicy.config.armOffThreshold)

theorem controlInput_of_mapsTo (hm : mapper.initialized = true) {radio : RcReceiverService σ}
    (hf : radio.hasFrame = true) (hfailsafe : radio.isFailsafe = false) {r : RequiredInputs}
    (h : MapsTo mapper radio.latestFrame r) : usable (controlInput mapper radio) = some r := by
  have hclean : ¬ (¬ radio.latestFrame.frameValid ∨ radio.latestFrame.frameLost ∨
      radio.latestFrame.failsafe) := by
    intro hbad
    have hmap := h.success
    rw [RcChannelMapper.map, if_neg (not_not.mpr hm), if_pos hbad] at hmap
    cases hmap
  rw [not_or, not_or, not_not] at hclean
  rw [controlInput, getLatestFrame_eq_some hf, usable]
  dsimp only
  rw [hfailsafe, if_pos ⟨hclean.1, by simpa using hclean.2.2, hclean.2.1⟩]
  exact h.required

theorem MapsTo.clean (hm : mapper.initialized = true) {frame : RcInputFrame} {r : RequiredInputs}
    (h : MapsTo mapper frame r) : ¬ frame.IsFlagged := by
  intro hflag
  have hmap := h.success
  have hbad : ¬ frame.frameValid ∨ frame.frameLost ∨ frame.failsafe := .inr hflag.symm
  rw [RcChannelMapper.map, if_neg (not_not.mpr hm), if_pos hbad] at hmap
  cases hmap

theorem MapsTo.stamp_iff (hm : mapper.initialized = true) {frame : RcInputFrame}
    {r : RequiredInputs} (t : UInt32) :
    MapsTo mapper { frame with timestampMs := t } r ↔ MapsTo mapper frame r := by
  have hmap := RcChannelMapper.map_stamp hm t frame (.ofFlags .zero)
  have hrequired := getRequiredInputs_stamp hm frame (.ofFlags .zero) t
  constructor
  · intro h
    exact ⟨by rw [← h.success, hmap], by rw [← hrequired, h.required]⟩
  · intro h
    exact ⟨by rw [hmap, h.success], by rw [hrequired, h.required]⟩

theorem usable_iff_last (hm : mapper.initialized = true) {radio : RcReceiverService σ} {p : Poll}
    {last : RcInputFrame} (hlast : (acceptedFrames protocol (UInt32.ofNat p.startMs) radio.context
      p.bytes).getLast? = some last) (r : RequiredInputs) :
    usable (controlInput mapper (radio.process protocol p)) = some r ↔
      ¬ Expired radio p ∧ MapsTo mapper last r := by
  obtain ⟨context, hreceive⟩ := @RcReceiverService.receive_last σ protocol
    (UInt32.ofNat p.startMs) p.bytes radio
  rw [hlast] at hreceive
  dsimp only at hreceive
  have htimeout : (store radio context last (UInt32.ofNat p.startMs)).failsafeTimeoutMs <
      UInt32.ofNat p.checkMs -
        (store radio context last (UInt32.ofNat p.startMs)).lastFrameTimeMs ↔ Expired radio p :=
    Iff.rfl
  rw [RcReceiverService.process, hreceive]
  by_cases hexpired : Expired radio p
  · constructor
    · intro h
      obtain ⟨-, -, hclean, -⟩ := controlInput_usable hm h
      have hflag := (RcReceiverService.checkTimeout_expired (htimeout.mpr hexpired)).1
      exact absurd (hflag.symm.trans hclean) (by decide)
    · intro h
      exact absurd hexpired h.1
  · rw [RcReceiverService.checkTimeout, if_neg (fun h => hexpired (htimeout.mp h))]
    constructor
    · intro h
      obtain ⟨-, -, -, hmaps⟩ := controlInput_usable hm h
      exact ⟨hexpired, (MapsTo.stamp_iff hm _).mp hmaps⟩
    · rintro ⟨-, hmaps⟩
      refine controlInput_of_mapsTo hm rfl ?_ ((MapsTo.stamp_iff hm _).mpr hmaps)
      exact RcInputFrame.flags_eq_false.mpr (hmaps.clean hm)

theorem runPolicy_heeded_iff {app : AppMain σ} (hi : app.controlPolicy.initialized = true)
    (hr : app.controlPolicy.config.requireArmReleaseAfterFailsafe = true)
    (input : Option RcMappedInput) :
    Heeded (runPolicy app input) ↔ ∀ r, usable input = some r →
      app.controlPolicy.armReleaseRequired = true ∧
        ¬ r.arm ≤ app.controlPolicy.config.armOffThreshold := by
  cases hu : usable input with
  | none =>
    obtain ⟨output, reason, heq⟩ := RcControlPolicy.process_safe hi hu
    constructor
    · intro _ r h
      cases h
    · intro _
      rw [runPolicy, heq]
      refine ⟨rfl, rfl, ?_⟩
      show (if (true && app.controlPolicy.config.requireArmReleaseAfterFailsafe) = true then true
        else app.controlPolicy.armReleaseRequired) = true
      rw [hr]
      rfl
  | some r =>
    obtain ⟨output, heq⟩ := RcControlPolicy.process_usable hi hu
    obtain ⟨hrelease, hlatched⟩ :=
      RcControlPolicy.processRequired_latches app.controlPolicy output r
    have hobeys := RcControlPolicy.processRequired_obeys app.controlPolicy output r
    constructor
    · intro h r' hr'
      obtain rfl := Option.some.inj hr'
      have hreq := h.release
      rw [runPolicy, heq] at hreq
      exact hrelease.mp hreq
    · intro h
      have hreq := h r rfl
      have hoff : ¬ (RcControlPolicy.processRequired app.controlPolicy output r).1.armedLatched =
          true := fun hon => (hlatched.mp hon).1 hreq
      rw [RcControlPolicy.Obeys, if_neg hoff] at hobeys
      rw [runPolicy, heq]
      exact ⟨rfl, hobeys.outputsEnabled, hrelease.mpr hreq⟩

/-- **A poll heeds its flagged frames exactly when it does not overlook them.** -/
theorem poll_heeded_iff (hm : mapper.initialized = true) {app : AppMain σ}
    (hi : app.controlPolicy.initialized = true)
    (hr : app.controlPolicy.config.requireArmReleaseAfterFailsafe = true) {p : Poll}
    {frames : List RcInputFrame}
    (hframes : frames = acceptedFrames protocol (UInt32.ofNat p.startMs) app.radio.context p.bytes) :
    ((∃ frame ∈ frames, frame.IsFlagged) → Heeded (poll protocol mapper app p)) ↔
      ¬ Overlooked mapper app frames p := by
  have hheeded := @runPolicy_heeded_iff σ { app with radio := app.radio.process protocol p } hi hr
    (controlInput mapper (app.radio.process protocol p))
  constructor
  · intro h ho
    obtain ⟨last, r, hlast, -, hmaps, hno⟩ := ho.last
    have husable := (usable_iff_last hm (hframes ▸ hlast) r).mpr ⟨ho.fresh, hmaps⟩
    exact hno (hheeded.mp (h ho.flagged) r husable)
  · intro hno hflagged
    refine hheeded.mpr ?_
    intro r husable
    cases hlast : frames.getLast? with
    | none =>
      rw [List.getLast?_eq_none_iff.mp hlast] at hflagged
      obtain ⟨frame, hmem, -⟩ := hflagged
      cases hmem
    | some last =>
      obtain ⟨hfresh, hmaps⟩ := (usable_iff_last hm (hframes ▸ hlast) r).mp husable
      by_contra hrelease
      exact hno ⟨hflagged, hfresh, last, r, hlast, hmaps.clean hm, hmaps, hrelease⟩

end

/-- **Every poll of a run heeds its flagged frames exactly when it does not overlook them.** -/
theorem heeded_iff {mapper : RcChannelMapper} {entries : List RcChannelMapEntry}
    (hm : RcChannelMapper.init entries = some mapper) {config : RcControlPolicyConfig}
    {policy : RcControlPolicy} (hp : RcControlPolicy.init config = some policy)
    (hr : config.requireArmReleaseAfterFailsafe = true) (polls : ℕ → Poll)
    (radio : RcReceiverService SbusProtocolContext) (app : ℕ → AppMain SbusProtocolContext)
    (happ : app = appAt sbusProtocol mapper (init radio policy) polls) (n : ℕ) :
    ((∃ frame ∈ acceptedAt sbusProtocol radio polls n, frame.IsFlagged) → Heeded (app (n + 1))) ↔
      ¬ Overlooked mapper (app n) (acceptedAt sbusProtocol radio polls n) (polls n) := by
  subst happ
  have hc := (RcControlPolicy.init_eq_some hp).1
  have hkeeps := RcControlPolicy.keeps_policyAt hc hp
    (callAt sbusProtocol mapper (init radio policy) polls) (n + 1)
  rw [← appAt_controlPolicy] at hkeeps
  refine poll_heeded_iff (RcChannelMapper.init_initialized hm) hkeeps.initialized ?_ ?_
  · rw [hkeeps.configured]
    exact hr
  · rw [appAt_radio, init, runPolicy_radio]
    rfl

/-- A frame with every channel at zero but the eighth, which is `0x7FF` when the switch is on. -/
def sbusFrame (on : Bool) (flags : UInt8) : List UInt8 :=
  [sbusHeaderByte] ++ List.replicate 9 0 ++ [if on then 0xE0 else 0, if on then 0xFF else 0] ++
    List.replicate 11 0 ++ [flags, sbusFooterByte]

/-- The switch is off in the first poll and on in the second, and the third receives `frames`. -/
def sbusPolls (frames : List UInt8) (n : ℕ) : Poll :=
  ⟨10 * n, if n = 0 then sbusFrame false 0 else if n = 1 then sbusFrame true 0 else
    if n = 2 then frames else [], 10 * n⟩

def sbusApp (frames : List UInt8) : ℕ → AppMain SbusProtocolContext :=
  appAt sbusProtocol ⟨radioControlProfile, true⟩
    (init (.init sbusProtocol .init 0 500) ⟨controlConfig, true, false, true⟩) (sbusPolls frames)

theorem radioControlProfile_init :
    RcChannelMapper.init radioControlProfile = some ⟨radioControlProfile, true⟩ := by
  decide +kernel

theorem controlConfig_init :
    RcControlPolicy.init controlConfig = some ⟨controlConfig, true, false, true⟩ := by
  decide +kernel

/-- A clean frame, and a failsafe frame behind it. -/
theorem heeded_last : Heeded (sbusApp (sbusFrame true 0 ++ sbusFrame true sbusFlagFailsafe) 3) := by
  have hlast : ∃ frame, (acceptedAt sbusProtocol (.init sbusProtocol .init 0 500)
      (sbusPolls (sbusFrame true 0 ++ sbusFrame true sbusFlagFailsafe)) 2).getLast? = some frame ∧
        frame.IsFlagged := by
    decide +kernel
  obtain ⟨frame, hframe, hflagged⟩ := hlast
  refine (heeded_iff radioControlProfile_init controlConfig_init rfl _
    (.init sbusProtocol .init 0 500) (sbusApp _) rfl 2).mpr ?_
    ⟨frame, List.mem_of_getLast? hframe, hflagged⟩
  intro ho
  obtain ⟨last, r, hlast, hclean, -⟩ := ho.last
  rw [hframe] at hlast
  obtain rfl := Option.some.inj hlast
  exact hclean hflagged

/-- **A failsafe frame and a clean frame in one poll**: the outputs stay enabled. -/
theorem flagged_frame_overlooked : ¬ ∀ (entries : List RcChannelMapEntry)
    (mapper : RcChannelMapper) (config : RcControlPolicyConfig) (policy : RcControlPolicy)
    (context : SbusProtocolContext) (bootMs failsafeTimeoutMs : UInt32) (polls : ℕ → Poll) (n : ℕ),
    RcChannelMapper.init entries = some mapper → RcControlPolicy.init config = some policy →
    config.requireArmReleaseAfterFailsafe = true →
    (∃ frame ∈ acceptedAt sbusProtocol (.init sbusProtocol context bootMs failsafeTimeoutMs) polls n,
      frame.IsFlagged) →
    Heeded (appAt sbusProtocol mapper
      (init (.init sbusProtocol context bootMs failsafeTimeoutMs) policy) polls (n + 1)) := by
  intro hclaim
  have hflagged : ∃ frame ∈ acceptedAt sbusProtocol (.init sbusProtocol .init 0 500)
      (sbusPolls (sbusFrame true sbusFlagFailsafe ++ sbusFrame true 0)) 2, frame.IsFlagged := by
    decide +kernel
  have henabled : (sbusApp (sbusFrame true sbusFlagFailsafe ++ sbusFrame true 0)
      (2 + 1)).latestControlCommand.outputsEnabled = true := by
    decide +kernel
  have hheeded : Heeded (sbusApp (sbusFrame true sbusFlagFailsafe ++ sbusFrame true 0) (2 + 1)) :=
    hclaim _ _ _ _ .init 0 500 _ 2 radioControlProfile_init controlConfig_init rfl hflagged
  rw [hheeded.outputs] at henabled
  cases henabled

end AppMain

end RadioConnection
