import Mathlib

/-!
# Bounded queues that are flushed

A log of what was done to a queue of at most `n` elements: pushes with what they
returned, takes with what they returned, and flushes.

* `Step n q op q'`: `op` is what a bounded first-in-first-out queue does in `q`.
* `Run.accepted_sinceFlush`: **since the last flush nothing is lost, doubled or
  reordered**: what was accepted has been taken or waits.
* `Run.sublist`: over the whole log the elements that were taken, and those
  that wait, are some of the accepted ones in their order.
-/

namespace BoundedQueue

inductive Op (α : Type)
  | push (x : α) (accepted : Bool)
  | take (taken : Option α)
  | flush
  deriving DecidableEq

variable {α : Type} {n : ℕ} {q q' : List α} {ops : List (Op α)}

/-- One operation on a queue of at most `n` elements. -/
def Step (n : ℕ) (q : List α) : Op α → List α → Prop
  | .push x accepted, q' =>
    accepted = decide (q.length < n) ∧ q' = if accepted then q ++ [x] else q
  | .take taken, q' => taken = q.head? ∧ q' = q.tail
  | .flush, q' => q' = []

/-- The operations `ops`, the last one last, lead from the queue `q` to `q'`. -/
inductive Run (n : ℕ) (q : List α) : List (Op α) → List α → Prop
  | nil : Run n q [] q
  | snoc {ops : List (Op α)} {op : Op α} {m q' : List α} : Run n q ops m → Step n m op q' →
      Run n q (ops ++ [op]) q'

def accepted (ops : List (Op α)) : List α :=
  ops.filterMap fun | .push x true => some x | _ => none

def taken (ops : List (Op α)) : List α :=
  ops.filterMap fun | .take (some x) => some x | _ => none

def sinceFlush (ops : List (Op α)) : List (Op α) :=
  ops.foldl (fun since op => match op with | .flush => [] | op => since ++ [op]) []

theorem accepted_append (ops ops' : List (Op α)) :
    accepted (ops ++ ops') = accepted ops ++ accepted ops' := List.filterMap_append

theorem taken_append (ops ops' : List (Op α)) : taken (ops ++ ops') = taken ops ++ taken ops' :=
  List.filterMap_append

theorem sinceFlush_snoc (ops : List (Op α)) (op : Op α) :
    sinceFlush (ops ++ [op]) = match op with | .flush => [] | op => sinceFlush ops ++ [op] := by
  rw [sinceFlush, List.foldl_append]
  rfl

theorem sinceFlush_eq (h : .flush ∉ ops) : sinceFlush ops = ops := by
  induction ops using List.reverseRecOn with
  | nil => rfl
  | append_singleton ops op ih =>
    rw [List.mem_append, List.mem_singleton, not_or] at h
    rw [sinceFlush_snoc, ih h.1]
    cases op with
    | push x accepted => rfl
    | take taken => rfl
    | flush => exact absurd rfl h.2

theorem Run.append {m : List α} {ops' : List (Op α)} (h : Run n q ops m) (h' : Run n m ops' q') :
    Run n q (ops ++ ops') q' := by
  induction h' with
  | nil =>
    rw [List.append_nil]
    exact h
  | snoc _ hstep ih =>
    rw [← List.append_assoc]
    exact .snoc ih hstep

theorem Step.account {op : Op α} (h : Step n q op q') (hop : op ≠ .flush) {all out : List α}
    (heq : all = out ++ q) : all ++ accepted [op] = out ++ taken [op] ++ q' := by
  cases op with
  | push x stored =>
    obtain ⟨-, rfl⟩ := h
    cases stored with
    | true => simp [accepted, taken, heq]
    | false => simp [accepted, taken, heq]
  | take first =>
    obtain ⟨rfl, rfl⟩ := h
    cases q with
    | nil => simp [accepted, taken, heq]
    | cons x q => simp [accepted, taken, heq]
  | flush => exact absurd rfl hop

/-- **Since the last flush, what was accepted has been taken or waits, in order.** -/
theorem Run.accepted_sinceFlush (h : Run n [] ops q) :
    accepted (sinceFlush ops) = taken (sinceFlush ops) ++ q := by
  induction h with
  | nil => rfl
  | @snoc ops op m q' _ hstep ih =>
    rw [sinceFlush_snoc]
    cases op with
    | push x stored =>
      have hkeep := hstep.account nofun ih
      rwa [← accepted_append, ← taken_append] at hkeep
    | take first =>
      have hkeep := hstep.account nofun ih
      rwa [← accepted_append, ← taken_append] at hkeep
    | flush =>
      obtain rfl := hstep
      rfl

/-- **What was taken, and what waits, are some of the accepted elements in their order.** -/
theorem Run.sublist (h : Run n [] ops q) : (taken ops ++ q).Sublist (accepted ops) := by
  induction h with
  | nil => exact .slnil
  | @snoc ops op m q' _ hstep ih =>
    rw [accepted_append, taken_append]
    by_cases hop : op = .flush
    · subst hop
      obtain rfl := hstep
      have hkept : (taken ops).Sublist (accepted ops) := (List.sublist_append_left _ m).trans ih
      simpa [accepted, taken] using hkept
    · rw [← hstep.account hop rfl]
      exact ih.append (List.Sublist.refl _)

end BoundedQueue
