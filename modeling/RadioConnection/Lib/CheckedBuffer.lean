import Mathlib

/-!
# Checked access to a buffer

The accesses of a program with a fixed buffer and 8-bit counters, each with its
own check: `none` for a place outside the buffer, and for a counter that would
wrap.

* `read_eq_some`, `write_eq_some`, `span_eq_some`: inside the buffer the checks
  change nothing.
* `add_eq_some`, `sub_eq_some`: nor do they where a counter does not wrap.
* `foldlM_eq_some`: **a run whose steps keep to the checks never fails**, and
  ends as it does without them.
-/

namespace CheckedBuffer

variable {α β σ : Type} {n : ℕ}

def read (buffer : Vector α n) (i : ℕ) : Option α := buffer[i]?

def write (buffer : Vector α n) (i : ℕ) (a : α) : Option (Vector α n) :=
  if i < n then some (buffer.setIfInBounds i a) else none

/-- The reads of a loop over `length` places from `start` on. -/
def span (buffer : Vector α n) (start length : ℕ) : Option (Vector α length) :=
  Vector.ofFnM fun i : Fin length => read buffer (start + i.val)

def add (a b : UInt8) : Option UInt8 := if a.toNat + b.toNat < 256 then some (a + b) else none

def sub (a b : UInt8) : Option UInt8 := if b ≤ a then some (a - b) else none

theorem read_eq_some (buffer : Vector α n) {i : ℕ} (hi : i < n) :
    read buffer i = some buffer[i] := Vector.getElem?_eq_getElem hi

theorem write_eq_some (buffer : Vector α n) {i : ℕ} (hi : i < n) (a : α) :
    write buffer i a = some (buffer.setIfInBounds i a) := if_pos hi

theorem span_eq_some (buffer : Vector α n) {start length : ℕ} (h : start + length ≤ n) :
    span buffer start length =
      some (Vector.ofFn fun i : Fin length => buffer[start + i.val]) := by
  have hread : ∀ i : Fin length, read buffer (start + i.val) = pure buffer[start + i.val] :=
    fun i => read_eq_some buffer (by omega)
  rw [span, funext hread]
  exact Vector.ofFnM_pure

theorem toList_span {buffer : Vector α n} {start length : ℕ} {v : Vector α length}
    (h : start + length ≤ n) (hv : span buffer start length = some v) :
    v.toList = (buffer.toList.drop start).take length := by
  rw [span_eq_some buffer h] at hv
  obtain rfl := Option.some.inj hv
  apply List.ext_getElem
  · rw [Vector.length_toList, List.length_take, List.length_drop, Vector.length_toList]
    omega
  · intro i hi _
    simp

theorem add_eq_some {a b : UInt8} (h : a.toNat + b.toNat < 256) : add a b = some (a + b) :=
  if_pos h

theorem sub_eq_some {a b : UInt8} (h : b.toNat ≤ a.toNat) : sub a b = some (a - b) :=
  if_pos (UInt8.le_iff_toNat_le.mpr h)

/-- **A run whose steps keep to the checks never fails.** -/
theorem foldlM_eq_some {step : σ → β → σ} {checked : σ → β → Option σ} {I : σ → Prop}
    (hstep : ∀ s b, I s → checked s b = some (step s b) ∧ I (step s b)) {s : σ} (hs : I s)
    (bs : List β) : bs.foldlM checked s = some (bs.foldl step s) := by
  induction bs generalizing s with
  | nil => rfl
  | cons b bs ih =>
    obtain ⟨hchecked, hnext⟩ := hstep s b hs
    rw [List.foldlM_cons, hchecked]
    exact ih hnext

end CheckedBuffer
