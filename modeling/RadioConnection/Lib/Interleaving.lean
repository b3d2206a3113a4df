import Mathlib

/-!
# Code between interrupts

Operations on one state, in the order of a list, and straight-line code with
interrupts in the gaps before its statements.

* `Allowed.invariant`: what every allowed operation keeps holds after a run of them.
* `exec`: the code, with the interrupts of its gaps.
* `exec_invariant`: what the statements and the interrupts keep, the code keeps.
-/

namespace Interleaving

variable {σ ι : Type}

/-! ## Runs -/

/-- Every operation is allowed in the state that it finds. -/
def Allowed (step : σ → ι → σ) (ok : σ → ι → Prop) : σ → List ι → Prop
  | _, [] => True
  | s, op :: ops => ok s op ∧ Allowed step ok (step s op) ops

instance decidableAllowed (step : σ → ι → σ) (ok : σ → ι → Prop) [∀ s op, Decidable (ok s op)] :
    ∀ s ops, Decidable (Allowed step ok s ops)
  | _, [] => isTrue trivial
  | s, op :: ops => @instDecidableAnd _ _ _ (decidableAllowed step ok (step s op) ops)

theorem Allowed.invariant {step : σ → ι → σ} {ok : σ → ι → Prop} {P : σ → Prop} {s : σ}
    {ops : List ι} (h : Allowed step ok s ops) (hs : P s)
    (hstep : ∀ s op, P s → ok s op → P (step s op)) : P (ops.foldl step s) := by
  induction ops generalizing s with
  | nil => exact hs
  | cons op ops ih => exact ih h.2 (hstep s op hs h.1)

/-! ## Straight-line code -/

section

variable (handle : σ → ι → σ) (gaps : ℕ → List ι)

/-- The interrupts of gap `n`. -/
def serve (n : ℕ) (s : σ) : σ := (gaps n).foldl handle s

/-- The statements, with gap `n` before the first. -/
def exec : ℕ → List (σ → σ) → σ → σ
  | _, [], s => s
  | n, statement :: code, s => exec (n + 1) code (statement (serve handle gaps n s))

variable {handle gaps}

theorem serve_invariant {P : σ → Prop} {s : σ} (n : ℕ) (hs : P s)
    (hhandle : ∀ s i, P s → P (handle s i)) : P (serve handle gaps n s) := by
  unfold serve
  induction gaps n generalizing s with
  | nil => exact hs
  | cons i rest ih => exact ih (hhandle s i hs)

/-- **What the statements and the interrupts keep, the code keeps.** -/
theorem exec_invariant {P : σ → Prop} {code : List (σ → σ)} {s : σ} (n : ℕ) (hs : P s)
    (hhandle : ∀ s i, P s → P (handle s i)) (hcode : ∀ f ∈ code, ∀ s, P s → P (f s)) :
    P (exec handle gaps n code s) := by
  induction code generalizing n s with
  | nil => exact hs
  | cons f code ih =>
    have hserved : P (serve handle gaps n s) := serve_invariant n hs hhandle
    have hfirst := hcode f (.head code) _ hserved
    exact ih (n + 1) hfirst fun g hg => hcode g (.tail f hg)

theorem exec_append (code code' : List (σ → σ)) (n : ℕ) (s : σ) :
    exec handle gaps n (code ++ code') s =
      exec handle gaps (n + code.length) code' (exec handle gaps n code s) := by
  induction code generalizing n s with
  | nil => rfl
  | cons f code ih =>
    rw [List.cons_append, exec, ih, exec, List.length_cons, Nat.add_right_comm, Nat.add_assoc]

end

end Interleaving
