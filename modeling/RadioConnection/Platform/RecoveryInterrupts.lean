import RadioConnection.Platform.UartDma
import RadioConnection.Lib.Interleaving

/-!
# A recovery that is interrupted

`stm32f4_uart_dma_backend_process`, with the callbacks of the HAL between any two
of its statements.  The error callback and this function write the same two flags.

* `remembered_iff`: when an error that comes after the restart is remembered.
-/

namespace RadioConnection

/-- What can run between two statements of the main loop. -/
inductive UartInterrupt
  | rxEvent (uart : ℕ) (dmaPosition : UInt16)
  | error (uart : ℕ) (errorCode : UInt32)
  deriving DecidableEq

/-- What `HAL_UARTEx_ReceiveToIdle_DMA` does: it refuses, it restarts the reception and fails, or
it restarts it and returns `HAL_OK`. -/
inductive HalReceive
  | refused | failed | ok
  deriving DecidableEq, Repr

/-- A call of `stm32f4_uart_dma_backend_process` in progress. -/
structure RecoveryRun where
  backend : Stm32f4UartDmaBackend
  /-- The HAL has restarted the reception. -/
  restarted : Bool
  /-- The request has been cleared. -/
  cleared : Bool
  /-- The error callback of this UART has run since the restart. -/
  errorSinceRestart : Bool
  /-- It has run since the request was cleared. -/
  errorSinceClear : Bool
  deriving DecidableEq

namespace RecoveryRun

open Interleaving (serve exec)

def start (backend : Stm32f4UartDmaBackend) : RecoveryRun := ⟨backend, false, false, false, false⟩

def interrupt (r : RecoveryRun) : UartInterrupt → RecoveryRun
  | .rxEvent uart dmaPosition => { r with backend := r.backend.onRxEvent uart dmaPosition }
  | .error uart errorCode =>
    { r with
      backend := r.backend.onError uart errorCode
      errorSinceRestart := r.errorSinceRestart || (r.restarted && decide (uart = r.backend.uart))
      errorSinceClear := r.errorSinceClear || (r.cleared && decide (uart = r.backend.uart)) }

/-! ## The statements -/

def countAttempt (r : RecoveryRun) : RecoveryRun :=
  { r with backend := { r.backend with
      stats := { r.backend.stats with
        recoveryAttempts := r.backend.stats.recoveryAttempts + 1 } } }

def setStarted (started : Bool) (r : RecoveryRun) : RecoveryRun :=
  { r with backend := { r.backend with started := started } }

def clearPosition (r : RecoveryRun) : RecoveryRun :=
  { r with backend := { r.backend with lastDmaPosition := 0 } }

/-- `HAL_UARTEx_ReceiveToIdle_DMA` up to the restart; it returns after the next gap. -/
def restart (hal : HalReceive) (r : RecoveryRun) : RecoveryRun :=
  { r with restarted := decide (hal ≠ .refused) }

def clearRequest (r : RecoveryRun) : RecoveryRun :=
  { r with backend := { r.backend with recoveryRequested := false }, cleared := true }

def countSuccess (r : RecoveryRun) : RecoveryRun :=
  { r with backend := { r.backend with
      stats := { r.backend.stats with
        recoverySuccesses := r.backend.stats.recoverySuccesses + 1 } } }

def countFailure (r : RecoveryRun) : RecoveryRun :=
  { r with backend := { r.backend with
      stats := { r.backend.stats with
        recoveryFailures := r.backend.stats.recoveryFailures + 1 } } }

/-- The statements behind the check of the request.  `HAL_UART_DMAStop`, whose result is not
looked at, lies in the gap behind the first. -/
def recovery (hal : HalReceive) : List (RecoveryRun → RecoveryRun) :=
  [countAttempt, setStarted false, clearPosition, restart hal] ++
    if hal = .ok then [setStarted true, clearRequest, countSuccess]
    else [setStarted false, countFailure]

/-- `stm32f4_uart_dma_backend_process` with the callbacks in its gaps. -/
def process (gaps : ℕ → List UartInterrupt) (hal : HalReceive) (backend : Stm32f4UartDmaBackend) :
    Bool × RecoveryRun :=
  let r := serve interrupt gaps 0 (start backend)
  if ¬ r.backend.recoveryRequested then (false, serve interrupt gaps 1 r)
  else
    (decide (hal = .ok), serve interrupt gaps (1 + (recovery hal).length)
      (exec interrupt gaps 1 (recovery hal) r))

/-! ## What a callback does -/

/-- What a callback does to the flags; `error` says whether it is the error callback of this
UART. -/
structure Served (r r' : RecoveryRun) (error : Bool) : Prop where
  restarted : r'.restarted = r.restarted
  cleared : r'.cleared = r.cleared
  requested : r'.backend.recoveryRequested = (r.backend.recoveryRequested || error)
  started : r'.backend.started = (r.backend.started && !error)
  sinceRestart : r'.errorSinceRestart = (r.errorSinceRestart || (r.restarted && error))
  sinceClear : r'.errorSinceClear = (r.errorSinceClear || (r.cleared && error))

theorem onRxEvent_flags (backend : Stm32f4UartDmaBackend) (uart : ℕ) (dmaPosition : UInt16) :
    (backend.onRxEvent uart dmaPosition).uart = backend.uart ∧
      (backend.onRxEvent uart dmaPosition).recoveryRequested = backend.recoveryRequested ∧
      (backend.onRxEvent uart dmaPosition).started = backend.started := by
  unfold Stm32f4UartDmaBackend.onRxEvent
  dsimp only
  split_ifs <;> exact ⟨rfl, rfl, rfl⟩

theorem interrupt_served (r : RecoveryRun) (i : UartInterrupt) :
    ∃ error, Served r (r.interrupt i) error := by
  cases i with
  | rxEvent uart dmaPosition =>
    obtain ⟨-, hrequested, hstarted⟩ := onRxEvent_flags r.backend uart dmaPosition
    refine ⟨false, rfl, rfl, ?_, ?_, ?_, ?_⟩
    · rw [Bool.or_false]
      exact hrequested
    · rw [Bool.not_false, Bool.and_true]
      exact hstarted
    · rw [Bool.and_false, Bool.or_false]
      rfl
    · rw [Bool.and_false, Bool.or_false]
      rfl
  | error uart errorCode =>
    refine ⟨decide (uart = r.backend.uart), ?_⟩
    by_cases huart : uart = r.backend.uart
    · constructor <;> simp [interrupt, Stm32f4UartDmaBackend.onError, huart]
    · constructor <;> simp [interrupt, Stm32f4UartDmaBackend.onError, huart]

/-! ## The invariants of the code -/

structure Unrestarted (r : RecoveryRun) : Prop where
  restarted : r.restarted = false
  sinceRestart : r.errorSinceRestart = false

structure Uncleared (r : RecoveryRun) : Prop where
  cleared : r.cleared = false
  sinceClear : r.errorSinceClear = false

/-- The request is cleared, and stands again when an error has come since. -/
structure Cleared (r : RecoveryRun) : Prop where
  cleared : r.cleared = true
  requested : r.backend.recoveryRequested = r.errorSinceClear
  stopped : r.errorSinceClear = true → r.backend.started = false

structure Waiting (r : RecoveryRun) : Prop where
  requested : r.backend.recoveryRequested = true
  stopped : r.backend.started = false

theorem Unrestarted.interrupt {r : RecoveryRun} (h : Unrestarted r) (i : UartInterrupt) :
    Unrestarted (r.interrupt i) := by
  obtain ⟨error, hs⟩ := interrupt_served r i
  refine ⟨hs.restarted.trans h.restarted, ?_⟩
  rw [hs.sinceRestart, h.sinceRestart, h.restarted, Bool.false_and, Bool.or_false]

theorem Uncleared.interrupt {r : RecoveryRun} (h : Uncleared r) (i : UartInterrupt) :
    Uncleared (r.interrupt i) := by
  obtain ⟨error, hs⟩ := interrupt_served r i
  refine ⟨hs.cleared.trans h.cleared, ?_⟩
  rw [hs.sinceClear, h.sinceClear, h.cleared, Bool.false_and, Bool.or_false]

theorem Cleared.interrupt {r : RecoveryRun} (h : Cleared r) (i : UartInterrupt) :
    Cleared (r.interrupt i) := by
  obtain ⟨error, hs⟩ := interrupt_served r i
  have hsince : (r.interrupt i).errorSinceClear = (r.errorSinceClear || error) := by
    rw [hs.sinceClear, h.cleared, Bool.true_and]
  refine ⟨hs.cleared.trans h.cleared, ?_, ?_⟩
  · rw [hs.requested, h.requested, hsince]
  · intro hlate
    rw [hsince] at hlate
    rw [hs.started]
    rcases Bool.or_eq_true_iff.mp hlate with hearlier | herror
    · rw [h.stopped hearlier, Bool.false_and]
    · rw [herror, Bool.not_true, Bool.and_false]

theorem requested_interrupt {r : RecoveryRun} (h : r.backend.recoveryRequested = true)
    (i : UartInterrupt) : (r.interrupt i).backend.recoveryRequested = true := by
  obtain ⟨error, hs⟩ := interrupt_served r i
  rw [hs.requested, h, Bool.true_or]

theorem Waiting.interrupt {r : RecoveryRun} (h : Waiting r) (i : UartInterrupt) :
    Waiting (r.interrupt i) := by
  obtain ⟨error, hs⟩ := interrupt_served r i
  refine ⟨requested_interrupt h.requested i, ?_⟩
  rw [hs.started, h.stopped, Bool.false_and]

theorem exec_ok (gaps : ℕ → List UartInterrupt) {r : RecoveryRun} (h : Uncleared r) :
    Cleared (serve interrupt gaps 8 (exec interrupt gaps 1 (recovery .ok) r)) := by
  have hcode : recovery .ok = [countAttempt, setStarted false, clearPosition, restart .ok,
    setStarted true] ++ ([clearRequest] ++ [countSuccess]) := rfl
  rw [hcode, Interleaving.exec_append, Interleaving.exec_append]
  have hbefore : Uncleared (exec interrupt gaps 1
      [countAttempt, setStarted false, clearPosition, restart .ok, setStarted true] r) := by
    refine Interleaving.exec_invariant 1 h (fun _ i hr => hr.interrupt i) ?_
    intro f hf r hr
    simp only [List.mem_cons, List.not_mem_nil, or_false] at hf
    rcases hf with rfl | rfl | rfl | rfl | rfl <;> exact ⟨hr.cleared, hr.sinceClear⟩
  generalize exec interrupt gaps 1 _ r = r₁ at hbefore ⊢
  have hserved : Uncleared (serve interrupt gaps 6 r₁) :=
    Interleaving.serve_invariant 6 hbefore fun _ i hr => hr.interrupt i
  have hcleared : Cleared (exec interrupt gaps 6 [clearRequest] r₁) := by
    refine ⟨rfl, hserved.sinceClear.symm, ?_⟩
    intro hsince
    exact absurd (hserved.sinceClear.symm.trans hsince) Bool.false_ne_true
  refine Interleaving.serve_invariant 8 ?_ fun _ i hr => hr.interrupt i
  refine Interleaving.exec_invariant 7 hcleared (fun _ i hr => hr.interrupt i) ?_
  intro f hf r hr
  obtain rfl := List.mem_singleton.mp hf
  exact ⟨hr.cleared, hr.requested, hr.stopped⟩

theorem exec_failed (gaps : ℕ → List UartInterrupt) {hal : HalReceive} (hne : hal ≠ .ok)
    {r : RecoveryRun} (h : r.backend.recoveryRequested = true) :
    Waiting (serve interrupt gaps 7 (exec interrupt gaps 1 (recovery hal) r)) := by
  have hcode : recovery hal = [countAttempt] ++ ([setStarted false] ++
      [clearPosition, restart hal, setStarted false, countFailure]) := by
    rw [recovery, if_neg hne]
    rfl
  rw [hcode, Interleaving.exec_append, Interleaving.exec_append]
  have hkept : ∀ n (r : RecoveryRun), r.backend.recoveryRequested = true →
      (serve interrupt gaps n r).backend.recoveryRequested = true := fun n r hr =>
    Interleaving.serve_invariant (P := fun r : RecoveryRun => r.backend.recoveryRequested = true)
      n hr fun _ i h => requested_interrupt h i
  have hcounted : (exec interrupt gaps 1 [countAttempt] r).backend.recoveryRequested = true :=
    hkept 1 r h
  have hwaiting : Waiting (exec interrupt gaps 2 [setStarted false]
      (exec interrupt gaps 1 [countAttempt] r)) := ⟨hkept 2 _ hcounted, rfl⟩
  refine Interleaving.serve_invariant 7 ?_ fun _ i hr => hr.interrupt i
  refine Interleaving.exec_invariant 3 hwaiting (fun _ i hr => hr.interrupt i) ?_
  intro f hf r hr
  simp only [List.mem_cons, List.not_mem_nil, or_false] at hf
  rcases hf with rfl | rfl | rfl | rfl
  · exact ⟨hr.requested, hr.stopped⟩
  · exact ⟨hr.requested, hr.stopped⟩
  · exact ⟨hr.requested, rfl⟩
  · exact ⟨hr.requested, hr.stopped⟩

/-! ## What is remembered -/

/-- The error asks for another recovery, and the next call makes it. -/
structure Remembered (backend : Stm32f4UartDmaBackend) : Prop where
  requested : backend.recoveryRequested = true
  stopped : backend.started = false
  restarts : (backend.process true).1 = true ∧ (backend.process true).2.started = true

theorem remembered_iff_flags (backend : Stm32f4UartDmaBackend) :
    Remembered backend ↔ backend.recoveryRequested = true ∧ backend.started = false := by
  constructor
  · intro h
    exact ⟨h.requested, h.stopped⟩
  · intro ⟨hrequested, hstopped⟩
    refine ⟨hrequested, hstopped, ?_⟩
    rw [Stm32f4UartDmaBackend.process, if_neg (not_not.mpr hrequested)]
    exact ⟨rfl, rfl⟩

/-- **An error after the restart is remembered exactly when one comes after the request is
cleared**, or the HAL does not return `HAL_OK`. -/
theorem remembered_iff (gaps : ℕ → List UartInterrupt) (hal : HalReceive)
    (backend : Stm32f4UartDmaBackend) {r : RecoveryRun} (hr : r = (process gaps hal backend).2) :
    (r.errorSinceRestart = true → Remembered r.backend) ↔
      (hal = .ok → r.errorSinceRestart = true → r.errorSinceClear = true) := by
  have huncleared : Uncleared (serve interrupt gaps 0 (start backend)) :=
    Interleaving.serve_invariant 0 ⟨rfl, rfl⟩ fun _ i hr => hr.interrupt i
  have hunrestarted : Unrestarted (serve interrupt gaps 0 (start backend)) :=
    Interleaving.serve_invariant 0 ⟨rfl, rfl⟩ fun _ i hr => hr.interrupt i
  unfold process at hr
  dsimp only at hr
  generalize serve interrupt gaps 0 (start backend) = r₀ at huncleared hunrestarted hr
  by_cases hrequested : r₀.backend.recoveryRequested = true
  · rw [if_neg (not_not.mpr hrequested)] at hr
    by_cases hok : hal = .ok
    · subst hok
      have hcleared : Cleared r := hr ▸ exec_ok gaps huncleared
      rw [remembered_iff_flags, hcleared.requested]
      constructor
      · intro h _ hsome
        exact (h hsome).1
      · intro h hsome
        exact ⟨h rfl hsome, hcleared.stopped (h rfl hsome)⟩
    · have hlength : 1 + (recovery hal).length = 7 := by
        rw [recovery, if_neg hok]
        rfl
      rw [hlength] at hr
      have hwaiting : Waiting r := hr ▸ exec_failed gaps hok hrequested
      constructor
      · intro _ h
        exact absurd h hok
      · intro _ _
        exact (remembered_iff_flags r.backend).mpr ⟨hwaiting.requested, hwaiting.stopped⟩
  · rw [if_pos hrequested] at hr
    have hnone : Unrestarted r :=
      hr ▸ Interleaving.serve_invariant 1 hunrestarted fun _ i hr => hr.interrupt i
    rw [hnone.sinceRestart]
    exact ⟨fun _ _ => nofun, fun _ => nofun⟩

def requestedBackend : Stm32f4UartDmaBackend :=
  ⟨2, 256, 0, true, 0, false, ⟨0, 0, 0, 0, 0, 0, 0, 0⟩⟩

def errorIn (gap : ℕ) : ℕ → List UartInterrupt := fun n => if n = gap then [.error 2 8] else []

/-- An error behind the last statement is remembered. -/
theorem remembered_iff_last : Remembered (process (errorIn 8) .ok requestedBackend).2.backend := by
  refine (remembered_iff (errorIn 8) .ok requestedBackend rfl).mpr ?_ (by decide)
  intro _ _
  decide

/-- **An error while `HAL_UARTEx_ReceiveToIdle_DMA` returns is forgotten.** -/
theorem error_forgotten : ¬ ∀ (gaps : ℕ → List UartInterrupt) (hal : HalReceive)
    (backend : Stm32f4UartDmaBackend),
    (process gaps hal backend).2.errorSinceRestart = true →
      Remembered (process gaps hal backend).2.backend := by
  intro hclaim
  have hremembered := hclaim (errorIn 5) .ok requestedBackend (by decide)
  exact absurd hremembered.requested (by decide)

end RecoveryRun

end RadioConnection
