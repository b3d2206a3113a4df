import RadioConnection.Radio.Crsf
import RadioConnection.Radio.Sbus
import RadioConnection.Radio.ReceiverService
import RadioConnection.Radio.ControlPolicy

/-!
# From the receiver to the outputs

`app_main.c` of the F407 firmware: each poll runs the receiver service, maps the
latest frame, overrides the flags of the mapping by those of the frame and of the
service, and runs the control policy.  The policy runs once without an input when
the firmware starts.

* `required_of_usable`: an input that the policy can use is the mapping of a frame
  that was accepted not longer than the time-out before.
* `outputs_safe`: what enabled outputs say about the past.
-/

namespace RadioConnection

open RcReceiverService (serviceAt acceptedAt Schedule)

/-- The statics of `app_main.c` that control reads and writes. -/
structure AppMain (σ : Type) where
  radio : RcReceiverService σ
  controlPolicy : RcControlPolicy
  latestControlCommand : RcControlCommand
  hasControlCommand : Bool

namespace AppMain

variable {σ : Type} (protocol : RadioProtocol σ) (mapper : RcChannelMapper)

/-- The call of `rc_control_policy_process`, whose output is kept when it fails. -/
def runPolicy (app : AppMain σ) (input : Option RcMappedInput) : AppMain σ :=
  match app.controlPolicy.process input with
  | none => { app with hasControlCommand := false }
  | some (policy, command) =>
    { app with
      controlPolicy := policy
      latestControlCommand := command
      hasControlCommand := true }

/-- What `app_update_control` hands to the policy. -/
def controlInput (radio : RcReceiverService σ) : Option RcMappedInput :=
  match radio.getLatestFrame with
  | none => none
  | some frame =>
    let mapped := (mapper.map frame (.ofFlags .zero)).2
    some { mapped with
      frameValid := frame.frameValid
      frameLost := frame.frameLost
      failsafe := frame.failsafe || radio.isFailsafe
      timestampMs := frame.timestampMs
      protocol := frame.protocol }

/-- `app_update_control`. -/
def updateControl (app : AppMain σ) : AppMain σ :=
  runPolicy app (controlInput mapper app.radio)

/-- `app_main_poll`. -/
def poll (app : AppMain σ) (p : Poll) : AppMain σ :=
  updateControl mapper { app with radio := app.radio.process protocol p }

/-- The part of `app_main_init` that concerns control. -/
def init (radio : RcReceiverService σ) (policy : RcControlPolicy) : AppMain σ :=
  runPolicy ⟨radio, policy, .zero, false⟩ none

/-- The state before poll `n`. -/
def appAt (app : AppMain σ) (polls : ℕ → Poll) : ℕ → AppMain σ
  | 0 => app
  | n + 1 => poll protocol mapper (appAt app polls n) (polls n)

/-! ## The layers of a run -/

variable {protocol mapper} {app : AppMain σ} {polls : ℕ → Poll}

@[simp] theorem runPolicy_radio (input : Option RcMappedInput) :
    (runPolicy app input).radio = app.radio := by
  unfold runPolicy
  split <;> rfl

theorem appAt_radio (n : ℕ) :
    (appAt protocol mapper app polls n).radio = serviceAt protocol app.radio polls n := by
  induction n with
  | zero => rfl
  | succ n ih =>
    show (runPolicy _ _).radio = _
    rw [runPolicy_radio]
    exact congrArg (fun radio => RcReceiverService.process protocol radio (polls n)) ih

/-- The input of the policy in poll `n`. -/
def inputAt (protocol : RadioProtocol σ) (mapper : RcChannelMapper) (app : AppMain σ)
    (polls : ℕ → Poll) (n : ℕ) : Option RcMappedInput :=
  controlInput mapper (appAt protocol mapper app polls (n + 1)).radio

/-- The calls of the policy: one without input, then one for each poll. -/
def callAt (protocol : RadioProtocol σ) (mapper : RcChannelMapper) (app : AppMain σ)
    (polls : ℕ → Poll) : ℕ → RcControlPolicy.PolicyCall
  | 0 => .process none
  | n + 1 => .process (inputAt protocol mapper app polls n)

section

variable {policy : RcControlPolicy} {radio : RcReceiverService σ}

theorem runPolicy_controlPolicy (input : Option RcMappedInput) :
    (runPolicy app input).controlPolicy = (app.controlPolicy.call (.process input)).1 := by
  unfold runPolicy RcControlPolicy.call
  split <;> rename_i heq <;> simp only [heq]

theorem runPolicy_command {input : Option RcMappedInput} {command : RcControlCommand}
    (h : (app.controlPolicy.call (.process input)).2 = some command) :
    (runPolicy app input).latestControlCommand = command := by
  rw [RcControlPolicy.call] at h
  unfold runPolicy
  cases heq : app.controlPolicy.process input with
  | none =>
    rw [heq] at h
    cases h
  | some result =>
    rw [heq] at h
    exact Option.some.inj h

theorem appAt_succ_eq (n : ℕ) :
    appAt protocol mapper app polls (n + 1) =
      runPolicy { appAt protocol mapper app polls n with
        radio := (appAt protocol mapper app polls (n + 1)).radio }
        (inputAt protocol mapper app polls n) := by
  have hradio : (appAt protocol mapper app polls (n + 1)).radio =
      (appAt protocol mapper app polls n).radio.process protocol (polls n) :=
    runPolicy_radio _
  rw [inputAt, hradio]
  rfl

theorem appAt_controlPolicy (n : ℕ) :
    (appAt protocol mapper (init radio policy) polls n).controlPolicy =
      policy.policyAt (callAt protocol mapper (init radio policy) polls) (n + 1) := by
  induction n with
  | zero => exact runPolicy_controlPolicy none
  | succ n ih =>
    rw [appAt_succ_eq, runPolicy_controlPolicy]
    show ((appAt protocol mapper (init radio policy) polls n).controlPolicy.call _).1 = _
    rw [ih]
    rfl

theorem appAt_command (n : ℕ) {command : RcControlCommand}
    (h : policy.commandAt (callAt protocol mapper (init radio policy) polls) (n + 1) =
      some command) :
    (appAt protocol mapper (init radio policy) polls (n + 1)).latestControlCommand = command := by
  rw [appAt_succ_eq]
  refine runPolicy_command ?_
  show ((appAt protocol mapper (init radio policy) polls n).controlPolicy.call _).2 = _
  rw [appAt_controlPolicy]
  exact h

end

/-! ## Inputs -/

open RcControlPolicy (getRequiredInputs usable)

theorem getRequiredInputs_ofFlags (frame : RcInputFrame) :
    getRequiredInputs (.ofFlags frame) = none := by
  rw [getRequiredInputs, RcChannelMapper.get_ofFlags]
  rfl

theorem getRequiredInputs_stamp (hm : mapper.initialized = true) (frame : RcInputFrame)
    (output : RcMappedInput) (t : UInt32) :
    getRequiredInputs (mapper.map { frame with timestampMs := t } output).2 =
      getRequiredInputs (mapper.map frame output).2 := by
  rw [RcChannelMapper.map_stamp hm]
  rfl

/-- `frame` maps to the required inputs `r`. -/
structure MapsTo (mapper : RcChannelMapper) (frame : RcInputFrame) (r : RequiredInputs) :
    Prop where
  success : (mapper.map frame (.ofFlags .zero)).1 = true
  required : getRequiredInputs (mapper.map frame (.ofFlags .zero)).2 = some r

theorem controlInput_usable (hm : mapper.initialized = true) {radio : RcReceiverService σ}
    {r : RequiredInputs} (h : usable (controlInput mapper radio) = some r) :
    radio.hasFrame = true ∧ radio.isFailsafe = false ∧ radio.latestFrame.failsafe = false ∧
      MapsTo mapper radio.latestFrame r := by
  by_cases hf : radio.hasFrame = true
  · have hget : radio.getLatestFrame = some radio.latestFrame := if_neg (not_not.mpr hf)
    rw [controlInput, hget, usable] at h
    split at h
    · rename_i hs
      obtain ⟨-, hfailsafe, -⟩ := hs
      obtain ⟨hframe, hradio⟩ : radio.latestFrame.failsafe = false ∧ radio.isFailsafe = false := by
        simpa using hfailsafe
      have hrequired : getRequiredInputs (mapper.map radio.latestFrame (.ofFlags .zero)).2 =
          some r := h
      refine ⟨hf, hradio, hframe, ?_, hrequired⟩
      by_contra hfalse
      rw [RcChannelMapper.map_false hm (Bool.not_eq_true _ ▸ hfalse),
        getRequiredInputs_ofFlags] at hrequired
      cases hrequired
    · cases h
  · have hget : radio.getLatestFrame = none := if_pos hf
    rw [controlInput, hget, usable] at h
    cases h

/-- **An input that the policy can use is the mapping of a frame accepted not longer than the
time-out before.** -/
theorem required_of_usable (hm : mapper.initialized = true) {radio : RcReceiverService σ}
    {accepted : RcInputFrame → ℕ → Prop} {nowMs : ℕ} (hfresh : radio.Fresh accepted nowMs)
    {r : RequiredInputs} (h : usable (controlInput mapper radio) = some r) :
    radio.isFailsafe = false ∧ ∃ frame acceptedMs, accepted frame acceptedMs ∧
      nowMs ≤ acceptedMs + radio.failsafeTimeoutMs.toNat ∧ MapsTo mapper frame r := by
  obtain ⟨hframe, hradio, hlatest, hsuccess, hrequired⟩ := controlInput_usable hm h
  refine ⟨hradio, ?_⟩
  cases hfresh with
  | none hf => rw [hf] at hframe; cases hframe
  | flagged hf => rw [hf] at hlatest; cases hlatest
  | current frame acceptedMs ha hc =>
    rw [hc.latestFrame] at hsuccess hrequired
    rw [RcChannelMapper.map_stamp hm] at hsuccess
    rw [getRequiredInputs_stamp hm] at hrequired
    exact ⟨frame, acceptedMs, ha, hc.age, hsuccess, hrequired⟩

/-! ## Enabled outputs -/

theorem release_of_armed {config : RcControlPolicyConfig}
    (hr : config.requireArmReleaseAfterFailsafe = true) {n : ℕ}
    (ha : RcControlPolicy.Armed config (callAt protocol mapper app polls) (n + 1)) :
    ∃ m ≤ n,
      (∃ r, usable (inputAt protocol mapper app polls m) = some r ∧
        r.arm ≤ config.armOffThreshold) ∧
      ∀ i, m ≤ i → i ≤ n → ∃ r, usable (inputAt protocol mapper app polls i) = some r := by
  obtain ⟨k, hk, hsafe, -, -, hrelease⟩ := ha
  obtain ⟨m, hm, ⟨r, hreq, hoff⟩, hsafe'⟩ := hrelease hr
  have hall : ∀ i, m ≤ i → i ≤ n + 1 →
      ∃ r, RcControlPolicy.requiredAt (callAt protocol mapper app polls) i = some r := by
    intro i hmi hin
    by_cases hki : i ≤ k
    · exact hsafe' i hmi hki
    · exact hsafe i (by omega) hin
  cases m with
  | zero => cases hreq
  | succ m =>
    exact ⟨m, by omega, ⟨r, hreq, hoff⟩, fun i hmi hin => hall (i + 1) (by omega) (by omega)⟩

/-- **Enabled outputs come from a recent frame, and after a release.** -/
theorem outputs_safe {entries : List RcChannelMapEntry}
    (hm : RcChannelMapper.init entries = some mapper) {config : RcControlPolicyConfig}
    {policy : RcControlPolicy} (hp : RcControlPolicy.init config = some policy)
    (hr : config.requireArmReleaseAfterFailsafe = true) (context : σ)
    (bootMs failsafeTimeoutMs : UInt32) (hs : Schedule failsafeTimeoutMs polls)
    (radio : RcReceiverService σ) (hradio : radio = .init protocol context bootMs failsafeTimeoutMs)
    (app : ℕ → AppMain σ) (happ : app = appAt protocol mapper (init radio policy) polls) (n : ℕ)
    (he : (app (n + 1)).latestControlCommand.outputsEnabled = true) :
    (app (n + 1)).radio.isFailsafe = false ∧
      (∃ j ≤ n, ∃ frame ∈ acceptedAt protocol radio polls j,
        (polls n).checkMs ≤ (polls j).startMs + failsafeTimeoutMs.toNat ∧
        ∃ r, MapsTo mapper frame r ∧
          let command := (app (n + 1)).latestControlCommand
          (command.roll, command.pitch, command.throttle, command.yaw, command.mode) =
            (r.roll, r.pitch, r.throttle, r.yaw, r.mode)) ∧
      ∃ m ≤ n,
        (∃ r, usable (controlInput mapper (app (m + 1)).radio) = some r ∧
          r.arm ≤ config.armOffThreshold) ∧
        ∀ i, m ≤ i → i ≤ n → ∃ r, usable (controlInput mapper (app (i + 1)).radio) = some r := by
  subst hradio happ
  obtain ⟨command, hcommand, hcases⟩ := RcControlPolicy.commandAt_armed hp
    (show callAt protocol mapper (init _ policy) polls (n + 1) = .process _ from rfl)
  rw [appAt_command n hcommand] at he
  rcases hcases with ⟨harmed, r, hreq, hactive⟩ | ⟨-, hinactive⟩
  · have hfresh := @RcReceiverService.serviceAt_fresh σ protocol
      (.init protocol context bootMs failsafeTimeoutMs) polls rfl rfl hs n
    have hserve : (appAt protocol mapper (init (.init protocol context bootMs failsafeTimeoutMs)
        policy) polls (n + 1)).radio = serviceAt protocol
          (.init protocol context bootMs failsafeTimeoutMs) polls (n + 1) := by
      rw [appAt_radio, init, runPolicy_radio]
    rw [← hserve] at hfresh
    obtain ⟨hfailsafe, frame, acceptedMs, ⟨j, hj, hmem, rfl⟩, hage, hmaps⟩ :=
      required_of_usable (RcChannelMapper.init_initialized hm) hfresh hreq
    rw [hserve, RcReceiverService.serviceAt_failsafeTimeoutMs] at hage
    refine ⟨hfailsafe, ⟨j, by omega, frame, hmem, hage, r, hmaps, ?_⟩, release_of_armed hr harmed⟩
    rw [appAt_command n hcommand]
    exact hactive.values
  · exact absurd he hinactive.not_enabled

/-- `s_radio_control_profile`. -/
def radioControlProfile : List RcChannelMapEntry :=
  [⟨1, .roll, .centered, 172, 992, 1811, 20, false⟩,
    ⟨2, .pitch, .centered, 172, 992, 1811, 20, false⟩,
    ⟨3, .throttle, .unipolar, 172, 992, 1811, 20, false⟩,
    ⟨4, .yaw, .centered, 172, 992, 1811, 20, false⟩,
    ⟨7, .mode, .switch3pos, 172, 992, 1811, 80, false⟩,
    ⟨8, .arm, .switch2pos, 172, 992, 1811, 80, false⟩]

/-- The `control_config` of `app_main_init`. -/
def controlConfig : RcControlPolicyConfig := ⟨750, 250, 50, true⟩

/-- A frame with every channel at zero but the eighth, which is `0x7FF` when the switch is on. -/
def armFrame (on : Bool) : List UInt8 :=
  let payload : List UInt8 := List.replicate 9 0 ++
    [if on then 0xE0 else 0, if on then 0xFF else 0] ++ List.replicate 11 0
  [0xC8, 24, 0x16] ++ payload ++ [crsfCrc8DvbS2 (0x16 :: payload)]

/-- The switch is off in the first poll, on in the second, and nothing comes afterwards. -/
def armPolls (n : ℕ) : Poll :=
  ⟨10 * n, if n = 0 then armFrame false else if n = 1 then armFrame true else [], 10 * n⟩

theorem armPolls_schedule : Schedule 500 armPolls := by
  refine ⟨fun n => le_refl _, fun n => ?_, ?_, fun n => ?_⟩
  · show 10 * n ≤ 10 * (n + 1)
    omega
  · decide
  · show 10 * (n + 1) + 500 < 10 * n + 2 ^ 32
    omega

def armApp : ℕ → AppMain CrsfProtocolContext :=
  appAt crsfProtocol ⟨radioControlProfile, true⟩
    (init (.init crsfProtocol .init 0 500) ⟨controlConfig, true, false, true⟩) armPolls

theorem armApp_enabled : (armApp (1 + 1)).latestControlCommand.outputsEnabled = true := by
  decide +kernel

theorem outputs_safe_armApp :
    (armApp 2).radio.isFailsafe = false ∧
      ∃ m ≤ 1, ∃ r,
        usable (controlInput ⟨radioControlProfile, true⟩ (armApp (m + 1)).radio) = some r ∧
          r.arm ≤ 250 := by
  have hmapper : RcChannelMapper.init radioControlProfile = some ⟨radioControlProfile, true⟩ := by
    decide +kernel
  have hpolicy : RcControlPolicy.init controlConfig = some ⟨controlConfig, true, false, true⟩ := by
    decide +kernel
  obtain ⟨hfailsafe, -, m, hm, ⟨r, hreq, hoff⟩, -⟩ := outputs_safe hmapper hpolicy rfl
    CrsfProtocolContext.init 0 500 armPolls_schedule _ rfl armApp rfl 1 armApp_enabled
  exact ⟨hfailsafe, m, hm, r, hreq, hoff⟩

end AppMain

end RadioConnection
