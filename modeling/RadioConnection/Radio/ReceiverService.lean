import RadioConnection.Radio.Protocol

/-!
# The receiver service

`rc_receiver_service.c`: each call feeds the waiting bytes to the protocol, keeps
the last frame, and flags it when it has become too old.  The clock counts
milliseconds without bound and the code reads it modulo `2^32`.

* `receive_last`: what the bytes of a call do.
* `Fresh`: the service holds no frame, a flagged one, or one that is not older
  than the time-out.
* `serviceAt_fresh`: that is so after every call.
-/

namespace RadioConnection

structure RcReceiverService (σ : Type) where
  /-- The context of the protocol. -/
  context : σ
  latestFrame : RcInputFrame
  lastFrameTimeMs : UInt32
  failsafeTimeoutMs : UInt32
  hasFrame : Bool
  failsafeActive : Bool

/-- One call of the service: the clock at its start, the bytes that it reads, and the clock
at its time-out check. -/
structure Poll where
  startMs : ℕ
  bytes : List UInt8
  checkMs : ℕ

namespace RcReceiverService

variable {σ : Type} (protocol : RadioProtocol σ)

/-- `rc_receiver_service_init`. -/
def init (context : σ) (nowMs failsafeTimeoutMs : UInt32) : RcReceiverService σ where
  context := protocol.reset context
  latestFrame := .zero
  lastFrameTimeMs := nowMs
  failsafeTimeoutMs := failsafeTimeoutMs
  hasFrame := false
  failsafeActive := true

/-- What the protocol gives for a byte: a frame, when one is ready. -/
def takeFrame (context : σ) (byte : UInt8) (nowMs : UInt32) : Option RcInputFrame × σ :=
  let (result, context) := protocol.processByte context byte nowMs
  if result = .frameReady then protocol.getFrame context else (none, context)

/-- The service with a frame that it has just taken. -/
def store (service : RcReceiverService σ) (context : σ) (frame : RcInputFrame) (nowMs : UInt32) :
    RcReceiverService σ :=
  { service with
    context := context
    latestFrame := { frame with timestampMs := nowMs }
    hasFrame := true
    lastFrameTimeMs := nowMs
    failsafeActive := frame.failsafe || frame.frameLost }

/-- The loop body of `rc_receiver_service_process`. -/
def receiveByte (nowMs : UInt32) (service : RcReceiverService σ) (byte : UInt8) :
    RcReceiverService σ :=
  match takeFrame protocol service.context byte nowMs with
  | (none, context) => { service with context := context }
  | (some frame, context) => store service context frame nowMs

/-- The time-out check at the end of `rc_receiver_service_process`. -/
def checkTimeout (service : RcReceiverService σ) (nowMs : UInt32) : RcReceiverService σ :=
  if service.failsafeTimeoutMs < nowMs - service.lastFrameTimeMs then
    { service with
      failsafeActive := true
      latestFrame := { service.latestFrame with
        failsafe := true, frameLost := true, frameValid := false } }
  else service

/-- `rc_receiver_service_process`. -/
def process (service : RcReceiverService σ) (poll : Poll) : RcReceiverService σ :=
  checkTimeout (poll.bytes.foldl (receiveByte protocol (UInt32.ofNat poll.startMs)) service)
    (UInt32.ofNat poll.checkMs)

/-- `rc_receiver_service_get_latest_frame`. -/
def getLatestFrame (service : RcReceiverService σ) : Option RcInputFrame :=
  if ¬ service.hasFrame then none else some service.latestFrame

/-- `rc_receiver_service_is_failsafe`. -/
def isFailsafe (service : RcReceiverService σ) : Bool := service.failsafeActive

/-! ## The bytes of one call -/

def acceptedFrames (nowMs : UInt32) (context : σ) : List UInt8 → List RcInputFrame
  | [] => []
  | byte :: bytes =>
    (takeFrame protocol context byte nowMs).1.toList ++
      acceptedFrames nowMs (takeFrame protocol context byte nowMs).2 bytes

variable {protocol} {service : RcReceiverService σ}

theorem receiveByte_context (nowMs : UInt32) (byte : UInt8) :
    (receiveByte protocol nowMs service byte).context =
      (takeFrame protocol service.context byte nowMs).2 := by
  unfold receiveByte
  split
  · rename_i heq
    rw [heq]
  · rename_i heq
    rw [heq]
    rfl

theorem store_receiveByte (nowMs nowMs' : UInt32) (byte : UInt8) (context : σ)
    (frame : RcInputFrame) :
    store (receiveByte protocol nowMs service byte) context frame nowMs' =
      store service context frame nowMs' := by
  unfold receiveByte
  split <;> rfl

/-- **The bytes of a call leave the last frame that they brought**, or change the context alone. -/
theorem receive_last (nowMs : UInt32) (bytes : List UInt8) (service : RcReceiverService σ) :
    ∃ context, bytes.foldl (receiveByte protocol nowMs) service =
      match (acceptedFrames protocol nowMs service.context bytes).getLast? with
      | none => { service with context := context }
      | some frame => store service context frame nowMs := by
  induction bytes generalizing service with
  | nil => exact ⟨service.context, rfl⟩
  | cons byte bytes ih =>
    obtain ⟨context, ih⟩ := ih (receiveByte protocol nowMs service byte)
    refine ⟨context, ?_⟩
    rw [List.foldl_cons, ih, receiveByte_context, acceptedFrames, List.getLast?_append]
    cases (acceptedFrames protocol nowMs (takeFrame protocol service.context byte nowMs).2
      bytes).getLast? with
    | some frame => exact store_receiveByte nowMs nowMs byte context frame
    | none =>
      unfold receiveByte
      cases takeFrame protocol service.context byte nowMs with
      | mk result context' => cases result <;> rfl

theorem receive_cases (nowMs : UInt32) (bytes : List UInt8) (service : RcReceiverService σ) :
    ∃ context, bytes.foldl (receiveByte protocol nowMs) service =
        { service with context := context } ∨
      ∃ frame ∈ acceptedFrames protocol nowMs service.context bytes,
        bytes.foldl (receiveByte protocol nowMs) service = store service context frame nowMs := by
  obtain ⟨context, hlast⟩ := @receive_last σ protocol nowMs bytes service
  refine ⟨context, ?_⟩
  cases hframe : (acceptedFrames protocol nowMs service.context bytes).getLast? with
  | none =>
    rw [hframe] at hlast
    exact .inl hlast
  | some frame =>
    rw [hframe] at hlast
    exact .inr ⟨frame, List.mem_of_getLast? hframe, hlast⟩

/-! ## A run of calls -/

/-- The service before call `n`. -/
def serviceAt (protocol : RadioProtocol σ) (service : RcReceiverService σ) (polls : ℕ → Poll) :
    ℕ → RcReceiverService σ
  | 0 => service
  | n + 1 => process protocol (serviceAt protocol service polls n) (polls n)

/-- The frames that the protocol gives in call `n`. -/
def acceptedAt (protocol : RadioProtocol σ) (service : RcReceiverService σ) (polls : ℕ → Poll)
    (n : ℕ) : List RcInputFrame :=
  acceptedFrames protocol (UInt32.ofNat (polls n).startMs)
    (serviceAt protocol service polls n).context (polls n).bytes

/-- The clock does not run backwards, and one time-out check follows another in less than
`2^32` milliseconds minus the time-out. -/
structure Schedule (failsafeTimeoutMs : UInt32) (polls : ℕ → Poll) : Prop where
  call : ∀ n, (polls n).startMs ≤ (polls n).checkMs
  between : ∀ n, (polls n).checkMs ≤ (polls (n + 1)).startMs
  first : (polls 0).checkMs < (polls 0).startMs + 2 ^ 32
  apart : ∀ n, (polls (n + 1)).checkMs + failsafeTimeoutMs.toNat < (polls n).checkMs + 2 ^ 32

/-- `frame` is held since `acceptedMs`, and is not too old at `nowMs`. -/
structure Current (service : RcReceiverService σ) (frame : RcInputFrame) (acceptedMs nowMs : ℕ) :
    Prop where
  latestFrame : service.latestFrame = { frame with timestampMs := UInt32.ofNat acceptedMs }
  lastFrameTimeMs : service.lastFrameTimeMs = UInt32.ofNat acceptedMs
  failsafeActive : service.failsafeActive = (frame.failsafe || frame.frameLost)
  order : acceptedMs ≤ nowMs
  age : nowMs ≤ acceptedMs + service.failsafeTimeoutMs.toNat

/-- What the service holds after a call that checks the time at `nowMs`. -/
inductive Fresh (service : RcReceiverService σ) (accepted : RcInputFrame → ℕ → Prop) (nowMs : ℕ) :
    Prop
  | none (hf : service.hasFrame = false) (ha : service.failsafeActive = true)
  | flagged (hf : service.latestFrame.failsafe = true) (ha : service.failsafeActive = true)
  | current (frame : RcInputFrame) (acceptedMs : ℕ) (h : accepted frame acceptedMs)
      (hc : Current service frame acceptedMs nowMs)

theorem checkTimeout_expired {nowMs : UInt32}
    (h : service.failsafeTimeoutMs < nowMs - service.lastFrameTimeMs) :
    (checkTimeout service nowMs).latestFrame.failsafe = true ∧
      (checkTimeout service nowMs).failsafeActive = true := by
  rw [checkTimeout, if_pos h]
  exact ⟨rfl, rfl⟩

/-- Two readings less than `2^32` apart differ as the clock does. -/
theorem toNat_elapsed {acceptedMs nowMs : ℕ} (hle : acceptedMs ≤ nowMs)
    (hlt : nowMs < acceptedMs + 2 ^ 32) :
    (UInt32.ofNat nowMs - UInt32.ofNat acceptedMs).toNat = nowMs - acceptedMs := by
  rw [UInt32.toNat_sub, UInt32.toNat_ofNat', UInt32.toNat_ofNat']
  omega

/-- The time-out check of a frame that was accepted less than `2^32` milliseconds before. -/
theorem checkTimeout_fresh {accepted : RcInputFrame → ℕ → Prop} {frame : RcInputFrame}
    {acceptedMs nowMs : ℕ} (h : accepted frame acceptedMs)
    (hl : service.latestFrame = { frame with timestampMs := UInt32.ofNat acceptedMs })
    (ht : service.lastFrameTimeMs = UInt32.ofNat acceptedMs)
    (ha : service.failsafeActive = (frame.failsafe || frame.frameLost))
    (hle : acceptedMs ≤ nowMs) (hlt : nowMs < acceptedMs + 2 ^ 32) :
    Fresh (checkTimeout service (UInt32.ofNat nowMs)) accepted nowMs := by
  by_cases hexpired : service.failsafeTimeoutMs < UInt32.ofNat nowMs - service.lastFrameTimeMs
  · exact .flagged (checkTimeout_expired hexpired).1 (checkTimeout_expired hexpired).2
  · have hage : nowMs ≤ acceptedMs + service.failsafeTimeoutMs.toNat := by
      rw [ht, UInt32.lt_iff_toNat_lt, toNat_elapsed hle hlt] at hexpired
      omega
    rw [checkTimeout, if_neg hexpired]
    exact .current frame acceptedMs h ⟨hl, ht, ha, hle, hage⟩

theorem checkTimeout_none {accepted : RcInputFrame → ℕ → Prop} {nowMs : ℕ}
    (hf : service.hasFrame = false) (ha : service.failsafeActive = true) (now : UInt32) :
    Fresh (checkTimeout service now) accepted nowMs := by
  unfold checkTimeout
  split
  · exact .none hf rfl
  · exact .none hf ha

theorem checkTimeout_flagged {accepted : RcInputFrame → ℕ → Prop} {nowMs : ℕ}
    (hf : service.latestFrame.failsafe = true) (ha : service.failsafeActive = true)
    (now : UInt32) : Fresh (checkTimeout service now) accepted nowMs := by
  unfold checkTimeout
  split
  · exact .flagged rfl rfl
  · exact .flagged hf ha

@[simp] theorem checkTimeout_failsafeTimeoutMs (nowMs : UInt32) :
    (checkTimeout service nowMs).failsafeTimeoutMs = service.failsafeTimeoutMs := by
  unfold checkTimeout
  split <;> rfl

theorem process_failsafeTimeoutMs (poll : Poll) :
    (process protocol service poll).failsafeTimeoutMs = service.failsafeTimeoutMs := by
  rw [process, checkTimeout_failsafeTimeoutMs]
  obtain ⟨context, heq | ⟨frame, -, heq⟩⟩ :=
    @receive_cases σ protocol (UInt32.ofNat poll.startMs) poll.bytes service
  · rw [heq]
  · rw [heq]
    rfl

theorem Fresh.mono {accepted accepted' : RcInputFrame → ℕ → Prop} {nowMs : ℕ}
    (h : Fresh service accepted nowMs) (hsub : ∀ frame t, accepted frame t → accepted' frame t) :
    Fresh service accepted' nowMs := by
  cases h with
  | none hf ha => exact .none hf ha
  | flagged hf ha => exact .flagged hf ha
  | current frame t h hc => exact .current frame t (hsub frame t h) hc

/-- One call, whose check comes less than `2^32` milliseconds minus the time-out after the one
at `beforeMs`. -/
theorem process_fresh {accepted : RcInputFrame → ℕ → Prop} {beforeMs : ℕ} (poll : Poll)
    (hold : (acceptedFrames protocol (UInt32.ofNat poll.startMs) service.context
      poll.bytes).getLast? = none → Fresh service accepted beforeMs)
    (hnew : ∀ frame, (acceptedFrames protocol (UInt32.ofNat poll.startMs) service.context
      poll.bytes).getLast? = some frame → accepted frame poll.startMs)
    (hcall : poll.startMs ≤ poll.checkMs) (hlong : poll.checkMs < poll.startMs + 2 ^ 32)
    (hbetween : beforeMs ≤ poll.checkMs)
    (hapart : poll.checkMs + service.failsafeTimeoutMs.toNat < beforeMs + 2 ^ 32) :
    Fresh (process protocol service poll) accepted poll.checkMs := by
  rw [process]
  obtain ⟨context, hlast⟩ :=
    @receive_last σ protocol (UInt32.ofNat poll.startMs) poll.bytes service
  rw [hlast]
  cases hframe : (acceptedFrames protocol (UInt32.ofNat poll.startMs) service.context
    poll.bytes).getLast? with
  | none =>
    cases hold hframe with
    | none hf ha =>
      refine checkTimeout_none ?_ ?_ _
      · exact hf
      · exact ha
    | flagged hf ha =>
      refine checkTimeout_flagged ?_ ?_ _
      · exact hf
      · exact ha
    | current frame t h hc =>
      have hage := hc.age
      exact checkTimeout_fresh h hc.latestFrame hc.lastFrameTimeMs hc.failsafeActive
        (hc.order.trans hbetween) (by omega)
  | some frame => exact checkTimeout_fresh (hnew frame hframe) rfl rfl rfl hcall hlong

variable {polls : ℕ → Poll}

theorem serviceAt_failsafeTimeoutMs (n : ℕ) :
    (serviceAt protocol service polls n).failsafeTimeoutMs = service.failsafeTimeoutMs := by
  induction n with
  | zero => rfl
  | succ n ih => exact (process_failsafeTimeoutMs (polls n)).trans ih

/-- `frame` was accepted at `acceptedMs` by one of the calls before call `n`. -/
def Accepted (protocol : RadioProtocol σ) (service : RcReceiverService σ) (polls : ℕ → Poll)
    (n : ℕ) (frame : RcInputFrame) (acceptedMs : ℕ) : Prop :=
  ∃ j < n, frame ∈ acceptedAt protocol service polls j ∧ (polls j).startMs = acceptedMs

/-- The frame accepted last before call `n`, with the clock then. -/
def lastAccepted (protocol : RadioProtocol σ) (service : RcReceiverService σ) (polls : ℕ → Poll) :
    ℕ → Option (RcInputFrame × ℕ)
  | 0 => none
  | n + 1 =>
    match (acceptedAt protocol service polls n).getLast? with
    | none => lastAccepted protocol service polls n
    | some frame => some (frame, (polls n).startMs)

theorem lastAccepted_none {n : ℕ} (h : (acceptedAt protocol service polls n).getLast? = none) :
    lastAccepted protocol service polls (n + 1) = lastAccepted protocol service polls n := by
  rw [lastAccepted, h]

theorem lastAccepted_some {n : ℕ} {frame : RcInputFrame}
    (h : (acceptedAt protocol service polls n).getLast? = some frame) :
    lastAccepted protocol service polls (n + 1) = some (frame, (polls n).startMs) := by
  rw [lastAccepted, h]

theorem accepted_of_last {n : ℕ} {frame : RcInputFrame} {acceptedMs : ℕ}
    (h : lastAccepted protocol service polls n = some (frame, acceptedMs)) :
    Accepted protocol service polls n frame acceptedMs := by
  induction n with
  | zero => cases h
  | succ n ih =>
    cases hframe : (acceptedAt protocol service polls n).getLast? with
    | none =>
      rw [lastAccepted_none hframe] at h
      obtain ⟨j, hj, hmem⟩ := ih h
      exact ⟨j, by omega, hmem⟩
    | some last =>
      rw [lastAccepted_some hframe] at h
      cases h
      exact ⟨n, by omega, List.mem_of_getLast? hframe, rfl⟩

/-- After every call the service holds no frame, a flagged one, or the one that was accepted
last, which is not older than the time-out. -/
theorem serviceAt_fresh_last (hf : service.hasFrame = false) (ha : service.failsafeActive = true)
    (hs : Schedule service.failsafeTimeoutMs polls) (n : ℕ) :
    Fresh (serviceAt protocol service polls (n + 1))
      (fun frame t => lastAccepted protocol service polls (n + 1) = some (frame, t))
      (polls n).checkMs := by
  have hlt := service.failsafeTimeoutMs.toNat_lt
  induction n with
  | zero =>
    refine process_fresh (polls 0) (fun _ => .none hf ha) ?_ (hs.call 0) hs.first (le_refl _) ?_
    · intro frame hframe
      exact lastAccepted_some hframe
    · show (polls 0).checkMs + service.failsafeTimeoutMs.toNat < (polls 0).checkMs + 2 ^ 32
      omega
  | succ n ih =>
    have hcall := hs.call (n + 1)
    have hbetween := hs.between n
    have hapart := hs.apart n
    refine process_fresh (polls (n + 1)) ?_ ?_ hcall (by omega) (hbetween.trans hcall) ?_
    · intro hnone
      apply ih.mono
      intro frame t hlast
      exact (lastAccepted_none hnone).trans hlast
    · intro frame hframe
      exact lastAccepted_some hframe
    · rw [serviceAt_failsafeTimeoutMs]
      exact hapart

/-- **After every call the service holds no frame, a flagged one, or one that is not older than
the time-out.** -/
theorem serviceAt_fresh (hf : service.hasFrame = false) (ha : service.failsafeActive = true)
    (hs : Schedule service.failsafeTimeoutMs polls) (n : ℕ) :
    Fresh (serviceAt protocol service polls (n + 1)) (Accepted protocol service polls (n + 1))
      (polls n).checkMs :=
  (serviceAt_fresh_last hf ha hs n).mono fun _ _ => accepted_of_last

end RcReceiverService

end RadioConnection
