import RadioConnection.Lib.Interleaving

/-!
# Transmission by interrupts

`stm32f4_uart_tx_backend.c`: a frame is copied into a buffer of the backend, and
the HAL sends it from there.  The callbacks of the HAL can run between any two
statements of `stm32f4_uart_tx_try_write`, so the main loop has a place in that
function, and everything that can happen is a `TxOp`.

* `TxSystem.advance_tryWrite`: the function taken apart is the function.
* `TxSystem.frame_kept`: a frame in flight is kept in runs in which every error
  comes while none is.  The HAL reads the buffer and its length when it starts.
-/

namespace RadioConnection

def stm32f4UartTxBackendMaxFrameSize : ℕ := 64

structure Stm32f4UartTxBackendStats where
  startAttempts : UInt32
  startedFrames : UInt32
  completedFrames : UInt32
  busyRejections : UInt32
  invalidRequests : UInt32
  halErrors : UInt32
  uartErrors : UInt32
  bytesStarted : UInt32
  deriving DecidableEq, Repr

structure Stm32f4UartTxBackend where
  /-- Which UART the backend belongs to. -/
  uart : ℕ
  txBuffer : Vector UInt8 64
  txLength : UInt16
  busy : Bool
  stats : Stm32f4UartTxBackendStats
  deriving DecidableEq

namespace Stm32f4UartTxBackend

/-- `stm32f4_uart_tx_backend_init`. -/
def init (uart : ℕ) : Stm32f4UartTxBackend :=
  ⟨uart, Vector.replicate _ 0, 0, false, ⟨0, 0, 0, 0, 0, 0, 0, 0⟩⟩

/-- `stm32f4_uart_tx_backend_on_tx_complete`. -/
def onTxComplete (backend : Stm32f4UartTxBackend) (uart : ℕ) : Stm32f4UartTxBackend :=
  if uart ≠ backend.uart ∨ ¬ backend.busy then backend
  else
    { backend with
      busy := false
      txLength := 0
      stats := { backend.stats with completedFrames := backend.stats.completedFrames + 1 } }

/-- `stm32f4_uart_tx_backend_on_error`. -/
def onError (backend : Stm32f4UartTxBackend) (uart : ℕ) : Stm32f4UartTxBackend :=
  if uart ≠ backend.uart then backend
  else
    { backend with
      stats := { backend.stats with uartErrors := backend.stats.uartErrors + 1 }
      busy := false
      txLength := 0 }

/-- `memcpy` to the start of the buffer. -/
def copy (buffer : Vector UInt8 64) (data : List UInt8) : Vector UInt8 64 :=
  Vector.ofFn fun i => data.getD i.val buffer[i.val]

/-! ## The statements of `stm32f4_uart_tx_try_write` -/

def countAttempt (backend : Stm32f4UartTxBackend) : Stm32f4UartTxBackend :=
  { backend with
    stats := { backend.stats with startAttempts := backend.stats.startAttempts + 1 } }

def Invalid (data : List UInt8) : Prop :=
  data.length = 0 ∨ stm32f4UartTxBackendMaxFrameSize < data.length ∨ 65535 < data.length

instance (data : List UInt8) : Decidable (Invalid data) :=
  inferInstanceAs (Decidable (_ ∨ _ ∨ _))

def rejectInvalid (backend : Stm32f4UartTxBackend) : Stm32f4UartTxBackend :=
  { backend with
    stats := { backend.stats with invalidRequests := backend.stats.invalidRequests + 1 } }

def rejectBusy (backend : Stm32f4UartTxBackend) : Stm32f4UartTxBackend :=
  { backend with
    stats := { backend.stats with busyRejections := backend.stats.busyRejections + 1 } }

def copyData (backend : Stm32f4UartTxBackend) (data : List UInt8) : Stm32f4UartTxBackend :=
  { backend with txBuffer := copy backend.txBuffer data }

def setLength (backend : Stm32f4UartTxBackend) (length : UInt16) : Stm32f4UartTxBackend :=
  { backend with txLength := length }

def setBusy (backend : Stm32f4UartTxBackend) (busy : Bool) : Stm32f4UartTxBackend :=
  { backend with busy := busy }

/-- What the HAL is given to send. -/
def loaded (backend : Stm32f4UartTxBackend) : List UInt8 :=
  backend.txBuffer.toList.take backend.txLength.toNat

def countHalError (backend : Stm32f4UartTxBackend) : Stm32f4UartTxBackend :=
  { backend with stats := { backend.stats with halErrors := backend.stats.halErrors + 1 } }

def countStarted (backend : Stm32f4UartTxBackend) (length : ℕ) : Stm32f4UartTxBackend :=
  { backend with
    stats := { backend.stats with
      startedFrames := backend.stats.startedFrames + 1
      bytesStarted := backend.stats.bytesStarted + UInt32.ofNat length } }

/-- `stm32f4_uart_tx_try_write` when nothing interrupts it; `halOk` is what
`HAL_UART_Transmit_IT` returns. -/
def tryWrite (backend : Stm32f4UartTxBackend) (data : List UInt8) (halOk : Bool) :
    Bool × Stm32f4UartTxBackend :=
  let backend := backend.countAttempt
  if Invalid data then (false, backend.rejectInvalid)
  else if backend.busy then (false, backend.rejectBusy)
  else
    let backend := ((backend.copyData data).setLength (UInt16.ofNat data.length)).setBusy true
    if ¬ halOk then (false, ((backend.setBusy false).setLength 0).countHalError)
    else (true, backend.countStarted data.length)

end Stm32f4UartTxBackend

/-! ## The main loop, the HAL and the callbacks -/

/-- Where the main loop is in `stm32f4_uart_tx_try_write`: before which statement. -/
inductive TxPoint
  | idle
  | checking (data : List UInt8)
  | copying (data : List UInt8)
  | sizing (data : List UInt8)
  | claiming (data : List UInt8)
  | starting (data : List UInt8)
  | counting (data : List UInt8)
  | releasing
  | clearing
  deriving DecidableEq, Repr

namespace TxPoint

/-- The backend was found idle, and no frame has been started since. -/
def Claimed : TxPoint → Prop
  | idle | checking _ | counting _ => False
  | _ => True

/-- The frame is in the buffer, and not started. -/
def Copied (data : List UInt8) : TxPoint → Prop
  | sizing data' | claiming data' | starting data' => data' = data
  | _ => False

end TxPoint

structure TxSystem where
  backend : Stm32f4UartTxBackend
  point : TxPoint
  /-- What the HAL is sending from the buffer. -/
  inFlight : Option (List UInt8)
  /-- The frame for which `try_write` has returned true since the HAL started to send. -/
  returned : Option (List UInt8)
  /-- How many frames the HAL has sent. -/
  completed : ℕ
  deriving DecidableEq

inductive TxOp
  | tryWrite (data : List UInt8)
  /-- The next statement of the main loop; `halOk` is what an idle HAL answers. -/
  | advance (halOk : Bool)
  | txComplete (uart : ℕ)
  | error (uart : ℕ)
  deriving DecidableEq

namespace TxSystem

open Stm32f4UartTxBackend (Invalid)

def start (uart : ℕ) : TxSystem := ⟨.init uart, .idle, none, none, 0⟩

/-- `radio_tx_try_write`, which does not pass an empty frame on. -/
def tryWrite (s : TxSystem) (data : List UInt8) : TxSystem :=
  if s.point = .idle ∧ 0 < data.length then { s with point := .checking data } else s

def advance (s : TxSystem) (halOk : Bool) : TxSystem :=
  match s.point with
  | .idle => s
  | .checking data =>
    let backend := s.backend.countAttempt
    if Invalid data then { s with backend := backend.rejectInvalid, point := .idle }
    else if backend.busy then { s with backend := backend.rejectBusy, point := .idle }
    else { s with backend := backend, point := .copying data }
  | .copying data => { s with backend := s.backend.copyData data, point := .sizing data }
  | .sizing data =>
    { s with backend := s.backend.setLength (UInt16.ofNat data.length), point := .claiming data }
  | .claiming data => { s with backend := s.backend.setBusy true, point := .starting data }
  | .starting data =>
    -- `HAL_BUSY` when it is sending, and `HAL_ERROR` when there is nothing to send
    if s.inFlight.isSome ∨ s.backend.txLength = 0 ∨ ¬ halOk then { s with point := .releasing }
    else
      { s with inFlight := some s.backend.loaded, returned := none, point := .counting data }
  | .counting data =>
    { s with
      backend := s.backend.countStarted data.length
      returned := some data
      point := .idle }
  | .releasing => { s with backend := s.backend.setBusy false, point := .clearing }
  | .clearing => { s with backend := (s.backend.setLength 0).countHalError, point := .idle }

/-- The HAL reports for its UART that the frame in flight is sent. -/
def txComplete (s : TxSystem) (uart : ℕ) : TxSystem :=
  if uart ≠ s.backend.uart then { s with backend := s.backend.onTxComplete uart }
  else if s.inFlight = none then s
  else
    { s with
      backend := s.backend.onTxComplete uart
      inFlight := none
      completed := s.completed + 1 }

/-- A receive error does not stop the transmission. -/
def error (s : TxSystem) (uart : ℕ) : TxSystem := { s with backend := s.backend.onError uart }

def step (s : TxSystem) : TxOp → TxSystem
  | .tryWrite data => s.tryWrite data
  | .advance halOk => s.advance halOk
  | .txComplete uart => s.txComplete uart
  | .error uart => s.error uart

/-- The bytes of the frame in flight are in the buffer, and the backend is busy. -/
def Holds (s : TxSystem) (frame : List UInt8) : Prop :=
  s.backend.txBuffer.toList.take frame.length = frame ∧ s.backend.busy = true

/-- A frame for which `try_write` has returned true is kept until it is sent, and every frame that
is sent is counted once. -/
structure Kept (s : TxSystem) : Prop where
  frame : ∀ sent frame, s.inFlight = some sent → s.returned = some frame →
    sent = frame ∧ s.Holds frame
  completed : s.backend.stats.completedFrames = UInt32.ofNat s.completed

/-- No error comes while a frame is in flight. -/
def Meets (s : TxSystem) : TxOp → Prop
  | .error uart => uart = s.backend.uart → s.inFlight = none
  | _ => True

instance (s : TxSystem) : ∀ op, Decidable (s.Meets op)
  | .error _ => inferInstanceAs (Decidable (_ = _ → _ = _))
  | .tryWrite _ | .advance _ | .txComplete _ => isTrue trivial

/-! ## Without interrupts -/

variable {s : TxSystem} {data : List UInt8}

theorem length_ne_zero (h : ¬ Invalid data) : UInt16.ofNat data.length ≠ 0 := by
  rw [Invalid, not_or, not_or] at h
  intro hzero
  have hmod : data.length % 65536 = 0 := congrArg UInt16.toNat hzero
  omega

/-- **The function taken apart is the function.** -/
theorem advance_tryWrite (hidle : s.point = .idle) (hdata : 0 < data.length) (halOk : Bool) :
    ∃ k, ((fun s => advance s halOk)^[k] (s.tryWrite data)).point = .idle ∧
      ((fun s => advance s halOk)^[k] (s.tryWrite data)).backend =
        (s.backend.tryWrite data (halOk && s.inFlight.isNone)).2 := by
  have hcall : s.tryWrite data = { s with point := .checking data } := if_pos ⟨hidle, hdata⟩
  rw [hcall, Stm32f4UartTxBackend.tryWrite]
  by_cases hinvalid : Invalid data
  · refine ⟨1, ?_⟩
    simp [advance, hinvalid]
  by_cases hbusy : s.backend.countAttempt.busy = true
  · refine ⟨1, ?_⟩
    simp [advance, hinvalid, hbusy]
  have hlength : UInt16.ofNat data.length ≠ 0 := length_ne_zero hinvalid
  by_cases hok : halOk = true ∧ s.inFlight = none
  · refine ⟨6, ?_⟩
    simp [advance, hinvalid, hbusy, hok.1, hok.2, hlength, Stm32f4UartTxBackend.setLength,
      Stm32f4UartTxBackend.setBusy, Function.iterate_succ_apply]
  · refine ⟨7, ?_⟩
    cases halOk <;> cases hf : s.inFlight <;>
      simp_all [advance, Function.iterate_succ_apply]

/-! ## The invariant -/

/-- What the main loop knows of the buffer and of the HAL at its place.  An error before the start
leaves nothing to send. -/
structure Sound (s : TxSystem) : Prop where
  completed : s.backend.stats.completedFrames = UInt32.ofNat s.completed
  inFlight : ∀ sent, s.inFlight = some sent → s.Holds sent
  returned : ∀ sent frame, s.inFlight = some sent → s.returned = some frame → sent = frame
  claimed : s.point.Claimed → s.inFlight = none
  fits : ∀ data, s.point = .copying data → data.length ≤ stm32f4UartTxBackendMaxFrameSize
  copied : ∀ data, s.point.Copied data → data.length ≤ stm32f4UartTxBackendMaxFrameSize ∧
    s.backend.txBuffer.toList.take data.length = data
  sized : ∀ data, s.point = .claiming data →
    s.backend.txLength = 0 ∨ s.backend.txLength = UInt16.ofNat data.length
  ready : ∀ data, s.point = .starting data → s.backend.txLength = 0 ∨
    (s.backend.txLength = UInt16.ofNat data.length ∧ s.backend.busy = true)
  started : ∀ data sent, s.point = .counting data → s.inFlight = some sent → sent = data

theorem take_copy (buffer : Vector UInt8 64) (h : data.length ≤ 64) :
    (Stm32f4UartTxBackend.copy buffer data).toList.take data.length = data := by
  apply List.ext_getElem
  · simp [h]
  · intro i hi hi'
    simp [Stm32f4UartTxBackend.copy, hi']

theorem sound_start (uart : ℕ) : Sound (start uart) :=
  ⟨rfl, nofun, nofun, fun _ => rfl, nofun, nofun, nofun, nofun, nofun⟩

theorem sound_tryWrite (h : Sound s) (data : List UInt8) : Sound (s.tryWrite data) := by
  unfold tryWrite
  split
  · exact ⟨h.completed, h.inFlight, h.returned, nofun, nofun, nofun, nofun, nofun, nofun⟩
  · exact h

theorem sound_error (h : Sound s) {uart : ℕ} (hmeets : s.Meets (.error uart)) :
    Sound (s.error uart) := by
  unfold error Stm32f4UartTxBackend.onError
  split
  · exact h
  · next huart =>
    have hnone : s.inFlight = none := hmeets (not_not.mp huart)
    refine ⟨h.completed, ?_, h.returned, h.claimed, h.fits, h.copied, fun _ _ => .inl rfl,
      fun _ _ => .inl rfl, h.started⟩
    intro sent hsent
    rw [hnone] at hsent
    cases hsent

theorem onTxComplete_counts {backend : Stm32f4UartTxBackend} (h : backend.busy = true) :
    (backend.onTxComplete backend.uart).stats.completedFrames =
      backend.stats.completedFrames + 1 ∧
    (backend.onTxComplete backend.uart).txBuffer = backend.txBuffer := by
  rw [Stm32f4UartTxBackend.onTxComplete, if_neg (by simp [h])]
  exact ⟨rfl, rfl⟩

theorem sound_txComplete (h : Sound s) (uart : ℕ) : Sound (s.txComplete uart) := by
  unfold txComplete
  by_cases huart : uart = s.backend.uart
  · rw [if_neg (not_not.mpr huart)]
    split
    · exact h
    · next hsome =>
      obtain ⟨frame, hframe⟩ := Option.ne_none_iff_exists'.mp hsome
      obtain ⟨hcounts, hbuffer⟩ := onTxComplete_counts (h.inFlight frame hframe).2
      subst huart
      refine ⟨?_, nofun, nofun, fun _ => rfl, h.fits, ?_, ?_, ?_, nofun⟩
      · show (s.backend.onTxComplete s.backend.uart).stats.completedFrames = _
        rw [hcounts, h.completed, UInt32.ofNat_add]
        rfl
      · intro data hdata
        rw [hbuffer]
        exact h.copied data hdata
      · intro data hdata
        exact absurd (h.claimed (hdata ▸ trivial)) hsome
      · intro data hdata
        exact absurd (h.claimed (hdata ▸ trivial)) hsome
  · have hsame : s.backend.onTxComplete uart = s.backend := if_pos (.inl huart)
    rw [if_pos huart, hsame]
    exact h

theorem sound_checking (h : Sound s) (hp : s.point = .checking data) (halOk : Bool) :
    Sound (s.advance halOk) := by
  simp only [advance, hp]
  by_cases hinvalid : Invalid data
  · rw [if_pos hinvalid]
    exact ⟨h.completed, h.inFlight, h.returned, nofun, nofun, nofun, nofun, nofun, nofun⟩
  rw [if_neg hinvalid]
  by_cases hbusy : s.backend.countAttempt.busy = true
  · rw [if_pos hbusy]
    exact ⟨h.completed, h.inFlight, h.returned, nofun, nofun, nofun, nofun, nofun, nofun⟩
  · rw [if_neg hbusy]
    refine ⟨h.completed, h.inFlight, h.returned, fun _ => ?_, ?_, nofun, nofun, nofun, nofun⟩
    · by_contra hsome
      obtain ⟨frame, hframe⟩ := Option.ne_none_iff_exists'.mp hsome
      exact hbusy (h.inFlight frame hframe).2
    · intro data' hdata
      obtain rfl := TxPoint.copying.inj hdata
      exact Nat.not_lt.mp fun hlt => hinvalid (.inr (.inl hlt))

/-- The call of the HAL: what it takes is the frame, and no error has cleared `busy`. -/
theorem sound_starting (h : Sound s) (hp : s.point = .starting data) (halOk : Bool) :
    Sound (s.advance halOk) := by
  obtain ⟨hcompleted, hinFlight, hreturned, hclaimed, hfits, hcopied, -, hready, -⟩ := h
  simp only [advance, hp]
  rw [hp] at hclaimed hcopied
  have hnone : s.inFlight = none := hclaimed trivial
  split
  · exact ⟨hcompleted, hinFlight, hreturned, fun _ => hnone, nofun, nofun, nofun, nofun, nofun⟩
  · next hstarts =>
    rw [not_or, not_or] at hstarts
    obtain ⟨hlength, hbusy⟩ := (hready data hp).resolve_left hstarts.2.1
    obtain ⟨hfit, hbytes⟩ := hcopied data rfl
    have hsmall : data.length < UInt16.size := hfit.trans_lt (by decide)
    have hloaded : s.backend.loaded = data := by
      rw [Stm32f4UartTxBackend.loaded, hlength, UInt16.toNat_ofNat_of_lt' hsmall]
      exact hbytes
    refine ⟨hcompleted, ?_, nofun, nofun, nofun, nofun, nofun, nofun, ?_⟩
    · intro sent hsent
      obtain rfl : data = sent := hloaded.symm.trans (Option.some.inj hsent)
      exact ⟨hbytes, hbusy⟩
    · intro data' sent hdata hsent
      obtain rfl := TxPoint.counting.inj hdata
      exact (Option.some.inj hsent).symm.trans hloaded

theorem sound_advance (h : Sound s) (halOk : Bool) : Sound (s.advance halOk) := by
  have hsound := h
  obtain ⟨hcompleted, hinFlight, hreturned, hclaimed, hfits, hcopied, hsized, -, hstarted⟩ := h
  cases hp : s.point with
  | idle =>
    unfold advance
    rw [hp]
    exact hsound
  | checking data => exact sound_checking hsound hp halOk
  | copying data =>
    simp only [advance, hp]
    rw [hp] at hclaimed
    refine ⟨hcompleted, ?_, hreturned, fun _ => hclaimed trivial, nofun, ?_, nofun, nofun, nofun⟩
    · intro sent hsent
      rw [hclaimed trivial] at hsent
      cases hsent
    · intro data' hdata
      obtain rfl : data = data' := hdata
      exact ⟨hfits data hp, take_copy _ (hfits data hp)⟩
  | sizing data =>
    simp only [advance, hp]
    rw [hp] at hclaimed hcopied
    refine ⟨hcompleted, hinFlight, hreturned, fun _ => hclaimed trivial, nofun, hcopied, ?_, nofun,
      nofun⟩
    intro data' hdata
    obtain rfl := TxPoint.claiming.inj hdata
    exact .inr rfl
  | claiming data =>
    simp only [advance, hp]
    rw [hp] at hclaimed hcopied
    refine ⟨hcompleted, ?_, hreturned, fun _ => hclaimed trivial, nofun, hcopied, nofun, ?_, nofun⟩
    · intro sent hsent
      exact ⟨(hinFlight sent hsent).1, rfl⟩
    · intro data' hdata
      obtain rfl := TxPoint.starting.inj hdata
      exact (hsized data hp).imp_right fun hlength => ⟨hlength, rfl⟩
  | starting data => exact sound_starting hsound hp halOk
  | counting data =>
    simp only [advance, hp]
    refine ⟨hcompleted, hinFlight, ?_, nofun, nofun, nofun, nofun, nofun, nofun⟩
    intro sent frame hsent hframe
    rw [hstarted data sent hp hsent]
    exact Option.some.inj hframe
  | releasing =>
    simp only [advance, hp]
    rw [hp] at hclaimed
    refine ⟨hcompleted, ?_, hreturned, fun _ => hclaimed trivial, nofun, nofun, nofun, nofun, nofun⟩
    intro sent hsent
    rw [hclaimed trivial] at hsent
    cases hsent
  | clearing =>
    simp only [advance, hp]
    exact ⟨hcompleted, hinFlight, hreturned, nofun, nofun, nofun, nofun, nofun, nofun⟩

theorem sound_step (h : Sound s) (op : TxOp) (hmeets : s.Meets op) : Sound (s.step op) := by
  cases op with
  | tryWrite data => exact sound_tryWrite h data
  | advance halOk => exact sound_advance h halOk
  | txComplete uart => exact sound_txComplete h uart
  | error uart => exact sound_error h hmeets

/-! ## Runs -/

open Interleaving (Allowed)

/-- **A frame in flight is kept**, and counted once when it is sent, in runs in which every error
comes while no frame is in flight. -/
theorem frame_kept {uart : ℕ} {ops : List TxOp} (h : Allowed step Meets (start uart) ops) :
    Kept (ops.foldl step (start uart)) := by
  have hsound : Sound (ops.foldl step (start uart)) :=
    h.invariant (sound_start uart) fun _ op hs hmeets => sound_step hs op hmeets
  refine ⟨fun sent frame hsent hframe => ?_, hsound.completed⟩
  obtain rfl := hsound.returned sent frame hsent hframe
  exact ⟨rfl, hsound.inFlight sent hsent⟩

/-- The main loop hands a frame to an idle HAL. -/
def writeOps (data : List UInt8) : List TxOp := .tryWrite data :: List.replicate 6 (.advance true)

/-- Errors before a frame and after it, and one right before the start of the next, which the HAL
refuses then. -/
def sentOps : List TxOp :=
  .error 2 :: writeOps [1, 2, 3] ++ [.txComplete 2, .error 2, .tryWrite [4, 5], .advance true,
    .advance true, .advance true, .advance true, .error 2, .advance true]

theorem frame_kept_sent : Kept (sentOps.foldl step (start 2)) := by
  have hallowed : Allowed step Meets (start 2) sentOps := by
    decide
  exact frame_kept hallowed

/-- A receive error while a frame is in flight, and another frame. -/
def overwrittenOps : List TxOp := writeOps [1, 2, 3] ++ .error 2 :: writeOps [7, 8, 9]

/-- **The next frame is copied over the one in flight.** -/
theorem frame_overwritten : ¬ ∀ (uart : ℕ) (ops : List TxOp), Kept (ops.foldl step (start uart)) := by
  intro hclaim
  have hframe : (overwrittenOps.foldl step (start 2)).inFlight = some [1, 2, 3] := by
    decide
  have hreturned : (overwrittenOps.foldl step (start 2)).returned = some [1, 2, 3] := by
    decide
  obtain ⟨-, hbytes, -⟩ := (hclaim 2 overwrittenOps).frame _ _ hframe hreturned
  exact absurd hbytes (by decide)

end TxSystem

end RadioConnection
