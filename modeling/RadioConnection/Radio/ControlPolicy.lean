import RadioConnection.Radio.ChannelMapper
import RadioConnection.Lib.Interlock

/-!
# The control policy

`rc_control_policy.c`: from each mapped input, or none, the policy makes a
command, and it keeps two latches, `armedLatched` and `armReleaseRequired`.

* `process_safe`, `process_usable`: what one call does to the latches.
* `keeps_policyAt`: the two latches are an interlocked latch in the sense of
  `Interlock`, on the sequence of usable inputs.
* `outputsEnabled_iff`: the arming rule, as a property of the whole history.
-/

namespace RadioConnection

inductive RcControlState
  | safe | ready | active
  deriving DecidableEq, Repr

inductive RcControlSafetyReason
  | none | noInput | invalidFrame | frameLost | failsafe | mappingIncomplete
  | armReleaseRequired | throttleNotLow | disarmed
  deriving DecidableEq, Repr

structure RcControlPolicyConfig where
  armOnThreshold : Int16
  armOffThreshold : Int16
  throttleArmMax : Int16
  requireArmReleaseAfterFailsafe : Bool
  deriving DecidableEq, Repr

structure RcControlPolicy where
  config : RcControlPolicyConfig
  initialized : Bool
  armedLatched : Bool
  armReleaseRequired : Bool
  deriving DecidableEq, Repr

structure RcControlCommand where
  roll : Int16
  pitch : Int16
  throttle : Int16
  yaw : Int16
  mode : Int16
  inputValid : Bool
  armed : Bool
  outputsEnabled : Bool
  safeStateActive : Bool
  state : RcControlState
  reason : RcControlSafetyReason
  timestampMs : UInt32
  deriving DecidableEq, Repr

/-- `memset`. -/
def RcControlCommand.zero : RcControlCommand where
  roll := 0
  pitch := 0
  throttle := 0
  yaw := 0
  mode := 0
  inputValid := false
  armed := false
  outputsEnabled := false
  safeStateActive := false
  state := .safe
  reason := .none
  timestampMs := 0

/-- The values that `rc_control_policy_get_required_inputs` fetches. -/
structure RequiredInputs where
  roll : Int16
  pitch : Int16
  throttle : Int16
  yaw : Int16
  mode : Int16
  arm : Int16
  deriving DecidableEq, Repr

namespace RcControlPolicy

def configIsValid (config : RcControlPolicyConfig) : Bool :=
  if config.armOffThreshold < 0 ∨ rcNormalizedMax < config.armOnThreshold ∨
      config.armOnThreshold ≤ config.armOffThreshold then false
  else if config.throttleArmMax < 0 ∨ rcNormalizedMax < config.throttleArmMax then false
  else true

def reset (policy : RcControlPolicy) : RcControlPolicy :=
  if ¬ policy.initialized then policy
  else
    { policy with
      armedLatched := false
      armReleaseRequired := policy.config.requireArmReleaseAfterFailsafe }

/-- `none` when the configuration is refused. -/
def init (config : RcControlPolicyConfig) : Option RcControlPolicy :=
  if configIsValid config then some (reset ⟨config, true, false, false⟩) else none

/-- `none` when a function is not available. -/
def getRequiredInputs (input : RcMappedInput) : Option RequiredInputs := do
  let (roll, _) ← input.get .roll
  let (pitch, _) ← input.get .pitch
  let (throttle, _) ← input.get .throttle
  let (yaw, _) ← input.get .yaw
  let (mode, _) ← input.get .mode
  let (arm, _) ← input.get .arm
  pure ⟨roll, pitch, throttle, yaw, mode, arm⟩

/-- The command that `rc_control_policy_process` starts from. -/
def blankCommand : RcControlCommand :=
  { RcControlCommand.zero with state := .safe, reason := .noInput, safeStateActive := true }

def enterSafe (policy : RcControlPolicy) (output : RcControlCommand)
    (reason : RcControlSafetyReason) (requireArmRelease : Bool) :
    RcControlPolicy × RcControlCommand :=
  ({ policy with
      armedLatched := false
      armReleaseRequired :=
        if requireArmRelease && policy.config.requireArmReleaseAfterFailsafe then true
        else policy.armReleaseRequired },
    { output with
      roll := 0, pitch := 0, throttle := 0, yaw := 0, mode := 0
      armed := false, outputsEnabled := false, safeStateActive := true
      state := .safe, reason := reason })

def enterReady (policy : RcControlPolicy) (output : RcControlCommand)
    (reason : RcControlSafetyReason) : RcControlPolicy × RcControlCommand :=
  ({ policy with armedLatched := false },
    { output with
      roll := 0, pitch := 0, throttle := 0, yaw := 0, mode := 0
      armed := false, outputsEnabled := false, safeStateActive := true
      state := .ready, reason := reason })

def enterActive (policy : RcControlPolicy) (output : RcControlCommand) (r : RequiredInputs) :
    RcControlPolicy × RcControlCommand :=
  ({ policy with armedLatched := true },
    { output with
      roll := r.roll, pitch := r.pitch, throttle := r.throttle, yaw := r.yaw, mode := r.mode
      armed := true, outputsEnabled := true, safeStateActive := false
      state := .active, reason := .none })

/-- The part of `rc_control_policy_process` that has the required inputs. -/
def processRequired (policy : RcControlPolicy) (output : RcControlCommand) (r : RequiredInputs) :
    RcControlPolicy × RcControlCommand :=
  let output := { output with inputValid := true }
  let armSwitchOff : Bool := r.arm ≤ policy.config.armOffThreshold
  let armSwitchOn : Bool := policy.config.armOnThreshold ≤ r.arm
  if policy.armReleaseRequired && !armSwitchOff then
    enterSafe policy output .armReleaseRequired false
  else
    -- a release that was required is over
    let policy := { policy with armReleaseRequired := false }
    if policy.armedLatched then
      if armSwitchOff then enterReady { policy with armedLatched := false } output .disarmed
      else enterActive policy output r
    else if ¬ armSwitchOn then enterReady policy output .disarmed
    else if policy.config.throttleArmMax < r.throttle then enterReady policy output .throttleNotLow
    else enterActive { policy with armedLatched := true } output r

/-- `none` when the policy is not initialized, and nothing is written. -/
def process (policy : RcControlPolicy) (input : Option RcMappedInput) :
    Option (RcControlPolicy × RcControlCommand) :=
  if ¬ policy.initialized then none
  else
    match input with
    | none => some (enterSafe policy blankCommand .noInput true)
    | some input =>
      let output := { blankCommand with timestampMs := input.timestampMs }
      if input.failsafe then some (enterSafe policy output .failsafe true)
      else if input.frameLost then some (enterSafe policy output .frameLost true)
      else if ¬ input.frameValid then some (enterSafe policy output .invalidFrame true)
      else
        match getRequiredInputs input with
        | none => some (enterSafe policy output .mappingIncomplete true)
        | some r => some (processRequired policy output r)

/-! ## One call -/

/-- What a safe-to-use input carries; `none` for any other input. -/
def usable : Option RcMappedInput → Option RequiredInputs
  | none => none
  | some input =>
    if input.frameValid ∧ ¬ input.failsafe ∧ ¬ input.frameLost then getRequiredInputs input
    else none

/-- The command drives the outputs with the values of `r`. -/
structure IsActive (command : RcControlCommand) (r : RequiredInputs) : Prop where
  outputsEnabled : command.outputsEnabled = true
  armed : command.armed = true
  safeStateActive : command.safeStateActive = false
  state : command.state = .active
  values : (command.roll, command.pitch, command.throttle, command.yaw, command.mode) =
    (r.roll, r.pitch, r.throttle, r.yaw, r.mode)

structure IsInactive (command : RcControlCommand) : Prop where
  outputsEnabled : command.outputsEnabled = false
  armed : command.armed = false
  safeStateActive : command.safeStateActive = true
  state : command.state ≠ .active
  values : (command.roll, command.pitch, command.throttle, command.yaw, command.mode) =
    (0, 0, 0, 0, 0)

theorem enterSafe_inactive (policy : RcControlPolicy) (output : RcControlCommand)
    (reason : RcControlSafetyReason) (requireArmRelease : Bool) :
    IsInactive (enterSafe policy output reason requireArmRelease).2 :=
  ⟨rfl, rfl, rfl, nofun, rfl⟩

theorem enterReady_inactive (policy : RcControlPolicy) (output : RcControlCommand)
    (reason : RcControlSafetyReason) : IsInactive (enterReady policy output reason).2 :=
  ⟨rfl, rfl, rfl, nofun, rfl⟩

theorem enterActive_active (policy : RcControlPolicy) (output : RcControlCommand)
    (r : RequiredInputs) : IsActive (enterActive policy output r).2 r := ⟨rfl, rfl, rfl, rfl, rfl⟩

variable {policy policy' : RcControlPolicy} {input : Option RcMappedInput}
  {command : RcControlCommand}

theorem process_safe (hi : policy.initialized = true) (hu : usable input = none) :
    ∃ output reason, process policy input = some (enterSafe policy output reason true) := by
  unfold process
  rw [if_neg (not_not.mpr hi)]
  cases input with
  | none => exact ⟨_, _, rfl⟩
  | some input =>
    dsimp only
    by_cases hf : input.failsafe = true
    · rw [if_pos hf]
      exact ⟨_, _, rfl⟩
    rw [if_neg hf]
    by_cases hl : input.frameLost = true
    · rw [if_pos hl]
      exact ⟨_, _, rfl⟩
    rw [if_neg hl]
    by_cases hv : input.frameValid = true
    · rw [usable, if_pos ⟨hv, hf, hl⟩] at hu
      rw [if_neg (not_not.mpr hv), hu]
      exact ⟨_, _, rfl⟩
    · rw [if_pos hv]
      exact ⟨_, _, rfl⟩

theorem process_usable (hi : policy.initialized = true) {r : RequiredInputs}
    (hu : usable input = some r) :
    ∃ output, process policy input = some (processRequired policy output r) := by
  cases input with
  | none => cases hu
  | some input =>
    rw [usable] at hu
    split at hu
    · rename_i hs
      obtain ⟨hv, hf, hl⟩ := hs
      unfold process
      rw [if_neg (not_not.mpr hi)]
      dsimp only
      rw [if_neg hf, if_neg hl, if_neg (not_not.mpr hv), hu]
      exact ⟨_, rfl⟩
    · cases hu

/-! ## The latches -/

/-- The thresholds of the configuration as an interlocked latch. -/
def rule (config : RcControlPolicyConfig) (hc : configIsValid config = true) :
    Interlock.Rule RequiredInputs where
  off r := r.arm ≤ config.armOffThreshold
  on r := config.armOnThreshold ≤ r.arm ∧ r.throttle ≤ config.throttleArmMax
  locks := config.requireArmReleaseAfterFailsafe = true
  off_not_on := by
    intro r hoff hon
    unfold configIsValid at hc
    split_ifs at hc with h
    simp only [not_or] at h
    exact absurd (Int16.le_trans hon.1 hoff) h.2.2

/-- The latches of the policy are the bits of `s`. -/
structure Tracks (policy : RcControlPolicy) (s : Interlock.State) : Prop where
  latched : policy.armedLatched = true ↔ s.latched
  locked : policy.armReleaseRequired = true ↔ s.locked

theorem tracks_enterSafe {config : RcControlPolicyConfig} (hc : configIsValid config = true)
    (hp : policy.config = config) (output : RcControlCommand) (reason : RcControlSafetyReason)
    (hr : policy.armReleaseRequired = true → config.requireArmReleaseAfterFailsafe = true) :
    Tracks (enterSafe policy output reason true).1 (Interlock.start (rule config hc)) := by
  refine ⟨by simp [enterSafe, Interlock.start], ?_⟩
  show (if (true && policy.config.requireArmReleaseAfterFailsafe) = true then true
    else policy.armReleaseRequired) = true ↔ config.requireArmReleaseAfterFailsafe = true
  rw [hp]
  cases hreq : config.requireArmReleaseAfterFailsafe with
  | true => simp
  | false =>
    rw [hreq] at hr
    simpa using hr

/-- The command goes by the latch. -/
def Obeys (policy : RcControlPolicy) (command : RcControlCommand) (r : Option RequiredInputs) :
    Prop :=
  if policy.armedLatched then ∃ x, r = some x ∧ IsActive command x else IsInactive command

theorem processRequired_latches (policy : RcControlPolicy) (output : RcControlCommand)
    (r : RequiredInputs) :
    ((processRequired policy output r).1.armReleaseRequired = true ↔
      policy.armReleaseRequired = true ∧ ¬ r.arm ≤ policy.config.armOffThreshold) ∧
    ((processRequired policy output r).1.armedLatched = true ↔
      ¬ (policy.armReleaseRequired = true ∧ ¬ r.arm ≤ policy.config.armOffThreshold) ∧
        (policy.armedLatched = true ∧ ¬ r.arm ≤ policy.config.armOffThreshold ∨
          ¬ policy.armedLatched = true ∧
            (policy.config.armOnThreshold ≤ r.arm ∧
              r.throttle ≤ policy.config.throttleArmMax))) := by
  have hthrottle : r.throttle ≤ policy.config.throttleArmMax ↔
      ¬ policy.config.throttleArmMax < r.throttle := Int16.not_lt.symm
  rw [hthrottle]
  unfold processRequired
  simp only [Bool.and_eq_true, Bool.not_eq_true', decide_eq_true_eq, decide_eq_false_iff_not]
  split_ifs with hrelease hlatch hoff hon hhigh
  · simp [enterSafe, hrelease]
  · simp [enterReady, hoff, hlatch]
  · have hfree : ¬ policy.armReleaseRequired = true := fun h => hrelease ⟨h, hoff⟩
    simp [enterActive, hlatch, hoff, hfree]
  · simpa [enterReady, hlatch, hhigh] using hrelease
  · simpa [enterActive, hlatch, hhigh, hon] using hrelease
  · simpa [enterReady, hlatch, hon] using hrelease

theorem processRequired_obeys (policy : RcControlPolicy) (output : RcControlCommand)
    (r : RequiredInputs) :
    Obeys (processRequired policy output r).1 (processRequired policy output r).2 (some r) := by
  unfold processRequired
  dsimp only
  split_ifs
  · exact enterSafe_inactive _ _ _ _
  · exact enterReady_inactive _ _ _
  · exact ⟨r, rfl, enterActive_active _ _ r⟩
  · exact enterReady_inactive _ _ _
  · exact ⟨r, rfl, enterActive_active _ _ r⟩
  · exact enterReady_inactive _ _ _

theorem tracks_processRequired {config : RcControlPolicyConfig}
    (hc : configIsValid config = true) (hp : policy.config = config) (output : RcControlCommand)
    (r : RequiredInputs) {s : Interlock.State} (hs : Tracks policy s) :
    Tracks (processRequired policy output r).1 (Interlock.next (rule config hc) s (some r)) := by
  obtain ⟨hlatched, hlocked⟩ := hs
  subst hp
  obtain ⟨hreq, hlat⟩ := processRequired_latches policy output r
  rw [hlatched, hlocked] at hlat
  rw [hlocked] at hreq
  exact ⟨hlat, hreq⟩

/-! ## A run of calls -/

/-- `rc_control_policy_process` or `rc_control_policy_reset`. -/
inductive PolicyCall
  | process (input : Option RcMappedInput)
  | reset

def call (policy : RcControlPolicy) : PolicyCall → RcControlPolicy × Option RcControlCommand
  | .reset => (reset policy, none)
  | .process input =>
    match process policy input with
    | none => (policy, none)
    | some (policy, command) => (policy, some command)

/-- The policy before call `n`. -/
def policyAt (policy : RcControlPolicy) (calls : ℕ → PolicyCall) : ℕ → RcControlPolicy
  | 0 => policy
  | n + 1 => (call (policyAt policy calls n) (calls n)).1

def commandAt (policy : RcControlPolicy) (calls : ℕ → PolicyCall) (n : ℕ) :
    Option RcControlCommand :=
  (call (policyAt policy calls n) (calls n)).2

/-- The input of a call; a reset counts as an unsafe call. -/
def PolicyCall.required : PolicyCall → Option RequiredInputs
  | .process input => usable input
  | .reset => none

def requiredAt (calls : ℕ → PolicyCall) (n : ℕ) : Option RequiredInputs := (calls n).required

/-- An initialized policy with its latches in the state `s`. -/
structure Keeps (config : RcControlPolicyConfig) (policy : RcControlPolicy)
    (s : Interlock.State) : Prop where
  configured : policy.config = config
  initialized : policy.initialized = true
  tracks : Tracks policy s
  release : policy.armReleaseRequired = true → config.requireArmReleaseAfterFailsafe = true

section

variable {config : RcControlPolicyConfig} (hc : configIsValid config = true)

theorem keeps_reset (hp : policy.config = config) (hi : policy.initialized = true) :
    Keeps config (reset policy) (Interlock.start (rule config hc)) := by
  have heq : reset policy = { policy with
      armedLatched := false
      armReleaseRequired := policy.config.requireArmReleaseAfterFailsafe } :=
    if_neg (not_not.mpr hi)
  rw [heq]
  subst hp
  exact ⟨rfl, hi, ⟨by simp [Interlock.start], Iff.rfl⟩, id⟩

theorem keeps_enterSafe {s : Interlock.State} (hk : Keeps config policy s)
    (output : RcControlCommand) (reason : RcControlSafetyReason) :
    Keeps config (enterSafe policy output reason true).1 (Interlock.start (rule config hc)) := by
  have htracks := tracks_enterSafe hc hk.configured output reason hk.release
  exact ⟨hk.configured, hk.initialized, htracks, htracks.locked.mp⟩

theorem processRequired_config (policy : RcControlPolicy) (output : RcControlCommand)
    (r : RequiredInputs) :
    (processRequired policy output r).1.config = policy.config ∧
      (processRequired policy output r).1.initialized = policy.initialized := by
  unfold processRequired
  dsimp only
  split_ifs <;> exact ⟨rfl, rfl⟩

theorem keeps_processRequired {s : Interlock.State} (hk : Keeps config policy s)
    (output : RcControlCommand) (r : RequiredInputs) :
    Keeps config (processRequired policy output r).1
      (Interlock.next (rule config hc) s (some r)) := by
  obtain ⟨hp, hi⟩ := processRequired_config policy output r
  refine ⟨hp.trans hk.configured, hi.trans hk.initialized,
    tracks_processRequired hc hk.configured output r hk.tracks, fun h => ?_⟩
  exact hk.release ((processRequired_latches policy output r).1.mp h).1

theorem keeps_process {s : Interlock.State} (hk : Keeps config policy s)
    (input : Option RcMappedInput) :
    ∃ policy' command, process policy input = some (policy', command) ∧
      Keeps config policy' (Interlock.next (rule config hc) s (usable input)) ∧
      Obeys policy' command (usable input) := by
  cases hu : usable input with
  | none =>
    obtain ⟨output, reason, heq⟩ := process_safe hk.initialized hu
    exact ⟨_, _, heq, keeps_enterSafe hc hk output reason,
      enterSafe_inactive policy output reason true⟩
  | some r =>
    obtain ⟨output, heq⟩ := process_usable hk.initialized hu
    exact ⟨_, _, heq, keeps_processRequired hc hk output r,
      processRequired_obeys policy output r⟩

theorem call_process {policy' : RcControlPolicy}
    (h : process policy input = some (policy', command)) :
    call policy (.process input) = (policy', some command) := by
  rw [call, h]

theorem keeps_call {s : Interlock.State} (hk : Keeps config policy s) (c : PolicyCall) :
    Keeps config (call policy c).1 (Interlock.next (rule config hc) s c.required) := by
  cases c with
  | reset => exact keeps_reset hc hk.configured hk.initialized
  | process input =>
    obtain ⟨policy', command, heq, hk', -⟩ := keeps_process hc hk input
    rw [call_process heq]
    exact hk'

theorem init_eq_some (h : init config = some policy) :
    configIsValid config = true ∧ policy = reset ⟨config, true, false, false⟩ := by
  unfold init at h
  split at h
  · rename_i hc
    cases h
    exact ⟨hc, rfl⟩
  · cases h

/-- The latches in a run, against the state of the latch on the calls' inputs. -/
theorem keeps_policyAt (h : init config = some policy) (calls : ℕ → PolicyCall) (n : ℕ) :
    Keeps config (policyAt policy calls n)
      (Interlock.state (rule config hc) (requiredAt calls) n) := by
  induction n with
  | zero =>
    obtain ⟨-, rfl⟩ := init_eq_some h
    exact keeps_reset hc rfl rfl
  | succ n ih => exact keeps_call hc ih (calls n)

end

/-! ## The arming rule -/

/-- The inputs `m` to `n` are all safe to use. -/
def AllSafe (calls : ℕ → PolicyCall) (m n : ℕ) : Prop :=
  ∀ i, m ≤ i → i ≤ n → ∃ r, requiredAt calls i = some r

/-- What enables the outputs of call `n`. -/
def Armed (config : RcControlPolicyConfig) (calls : ℕ → PolicyCall) (n : ℕ) : Prop :=
  ∃ k ≤ n, AllSafe calls k n ∧
    (∃ r, requiredAt calls k = some r ∧ config.armOnThreshold ≤ r.arm ∧
      r.throttle ≤ config.throttleArmMax) ∧
    (∀ i, k ≤ i → i ≤ n → ∀ r, requiredAt calls i = some r → config.armOffThreshold < r.arm) ∧
    (config.requireArmReleaseAfterFailsafe = true →
      ∃ m < k, (∃ r, requiredAt calls m = some r ∧ r.arm ≤ config.armOffThreshold) ∧
        AllSafe calls m k)

section

variable {config : RcControlPolicyConfig} {calls : ℕ → PolicyCall} {n : ℕ}

theorem present_iff {m : ℕ} : Interlock.Present (requiredAt calls) m (n + 1) ↔ AllSafe calls m n :=
  forall₂_congr fun _ _ => by rw [Nat.lt_succ_iff]

theorem held_iff (hc : configIsValid config = true) {k : ℕ} :
    Interlock.Held (rule config hc) (requiredAt calls) k (n + 1) ↔ AllSafe calls k n ∧
      ∀ i, k ≤ i → i ≤ n → ∀ r, requiredAt calls i = some r → config.armOffThreshold < r.arm := by
  constructor
  · intro h
    refine ⟨present_iff.mp h.present, ?_⟩
    intro i hk hi r hr
    obtain ⟨x, hx, hoff⟩ := h i hk (by omega)
    rw [hr] at hx
    cases hx
    exact Int16.not_le.mp hoff
  · intro ⟨hsafe, hoff⟩ i hk hi
    obtain ⟨r, hr⟩ := hsafe i hk (by omega)
    exact ⟨r, hr, Int16.not_le.mpr (hoff i hk (by omega) r hr)⟩

theorem unlocked_iff (hc : configIsValid config = true) {k : ℕ} {x : RequiredInputs}
    (hk : requiredAt calls k = some x) :
    Interlock.Unlocked (rule config hc) (requiredAt calls) k ↔
      ∃ m < k, (∃ r, requiredAt calls m = some r ∧ r.arm ≤ config.armOffThreshold) ∧
        AllSafe calls m k := by
  constructor
  · intro ⟨m, hm, hoff, hp⟩
    exact ⟨m, hm, hoff, present_iff.mp (hp.trans (.single hk))⟩
  · intro ⟨m, hm, hoff, hs⟩
    exact ⟨m, hm, hoff, fun i hi hik => hs i hi (by omega)⟩

theorem set_iff_armed (hc : configIsValid config = true) :
    Interlock.Set (rule config hc) (requiredAt calls) (n + 1) ↔ Armed config calls n := by
  constructor
  · intro ⟨k, hk, hheld, ⟨x, hx, hon⟩, hlock⟩
    obtain ⟨hsafe, hoff⟩ := (held_iff hc).mp hheld
    exact ⟨k, by omega, hsafe, ⟨x, hx, hon⟩, hoff, fun hr => (unlocked_iff hc hx).mp (hlock hr)⟩
  · intro ⟨k, hk, hsafe, ⟨x, hx, hon⟩, hoff, hlock⟩
    exact ⟨k, by omega, (held_iff hc).mpr ⟨hsafe, hoff⟩, ⟨x, hx, hon⟩,
      fun hr => (unlocked_iff hc hx).mpr (hlock hr)⟩

theorem commandAt_armed (h : init config = some policy) (hn : calls n = .process input) :
    ∃ command, commandAt policy calls n = some command ∧
      (Armed config calls n ∧ (∃ r, usable input = some r ∧ IsActive command r) ∨
        ¬ Armed config calls n ∧ IsInactive command) := by
  have hc := (init_eq_some h).1
  obtain ⟨policy', command, heq, hk, hobeys⟩ :=
    keeps_process hc (keeps_policyAt hc h calls n) input
  refine ⟨command, by rw [commandAt, hn, call_process heq], ?_⟩
  have hr : usable input = requiredAt calls n := by rw [requiredAt, hn, PolicyCall.required]
  have hlatched : policy'.armedLatched = true ↔ Armed config calls n := by
    rw [hk.tracks.latched, hr, ← set_iff_armed hc]
    exact Interlock.latched_iff (rule config hc) (requiredAt calls) (n + 1)
  unfold Obeys at hobeys
  rw [← hlatched]
  split_ifs at hobeys with hl
  · exact .inl ⟨hl, hobeys⟩
  · exact .inr ⟨hl, hobeys⟩

end

theorem IsInactive.not_enabled (h : IsInactive command) : ¬ command.outputsEnabled = true := by
  rw [h.outputsEnabled]
  exact Bool.false_ne_true

/-- The outputs are enabled by the history of the calls alone. -/
theorem outputsEnabled_iff {config : RcControlPolicyConfig} (h : init config = some policy)
    (calls : ℕ → PolicyCall) (n : ℕ) (hn : calls n = .process input) :
    ∃ command, commandAt policy calls n = some command ∧
      (command.outputsEnabled = true ↔ Armed config calls n) ∧
      command.armed = command.outputsEnabled ∧
      command.safeStateActive = !command.outputsEnabled ∧
      (command.state = .active ↔ command.outputsEnabled = true) ∧
      (command.outputsEnabled = false →
        (command.roll, command.pitch, command.throttle, command.yaw, command.mode) =
          (0, 0, 0, 0, 0)) := by
  obtain ⟨command, hcommand, hcases⟩ := commandAt_armed h hn
  refine ⟨command, hcommand, ?_⟩
  rcases hcases with ⟨ha, r, -, hactive⟩ | ⟨ha, hinactive⟩
  · have he := hactive.outputsEnabled
    refine ⟨⟨fun _ => ha, fun _ => he⟩, ?_, ?_, ⟨fun _ => he, fun _ => hactive.state⟩, ?_⟩
    · rw [hactive.armed, he]
    · rw [hactive.safeStateActive, he]
      rfl
    · intro hne
      rw [he] at hne
      cases hne
  · have he := hinactive.outputsEnabled
    have hne := hinactive.not_enabled
    refine ⟨⟨fun hon => absurd hon hne, fun hon => absurd hon ha⟩, ?_, ?_, ?_, ?_⟩
    · rw [hinactive.armed, he]
    · rw [hinactive.safeStateActive, he]
      rfl
    · exact ⟨fun hs => absurd hs hinactive.state, fun hon => absurd hon hne⟩
    · exact fun _ => hinactive.values

/-- An input with every required function, all at rest but the arm switch. -/
def inputWithArm (arm : Int16) : RcMappedInput where
  normalized := (Vector.replicate _ 0).set RcLogicalFunction.arm.code arm
  pulseUs := Vector.replicate _ 1500
  availableMask := 0x7E
  frameValid := true
  frameLost := false
  failsafe := false
  timestampMs := 0
  protocol := .crsf

/-- The switch is off in the first input and on from then on. -/
def releaseThenArm (n : ℕ) : PolicyCall :=
  .process (some (inputWithArm (if n = 0 then 0 else 1000)))

theorem outputsEnabled_iff_releaseThenArm :
    ∃ policy command, init ⟨600, 400, 50, true⟩ = some policy ∧
      commandAt policy releaseThenArm 1 = some command ∧ command.outputsEnabled = true ∧
      Armed ⟨600, 400, 50, true⟩ releaseThenArm 1 := by
  have hinit : init ⟨600, 400, 50, true⟩ = some ⟨⟨600, 400, 50, true⟩, true, false, true⟩ := by
    decide
  obtain ⟨command, hcommand, hiff, -⟩ := outputsEnabled_iff hinit releaseThenArm 1 rfl
  have hon : (commandAt ⟨⟨600, 400, 50, true⟩, true, false, true⟩ releaseThenArm 1).map
      RcControlCommand.outputsEnabled = some true := by
    decide
  rw [hcommand] at hon
  have he : command.outputsEnabled = true := Option.some.inj hon
  exact ⟨_, command, hinit, hcommand, he, hiff.mp he⟩

end RcControlPolicy

end RadioConnection
