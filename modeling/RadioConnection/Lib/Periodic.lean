import Mathlib

/-!
# Marks along a periodic stream

Some instants of a stream are marked.  From one mark to the next is a gap that
depends only on where in its period the stream is, so the marks follow the orbit
of one map on the residues, and whether a mark ever falls on the start of a
period is whether that orbit reaches zero.
-/

namespace Periodic

/-- The marks of a stream of period `period`, with the gap after each. -/
structure Hops (mark : ℕ → Prop) (period : ℕ) (gap : ℕ → ℕ) : Prop where
  pos : ∀ i, 0 < gap i
  next : ∀ t, mark t → mark (t + gap (t % period))
  between : ∀ t, mark t → ∀ d, 0 < d → d < gap (t % period) → ¬ mark (t + d)

/-- The place in the period of the mark after one at `i`. -/
def hop (period : ℕ) (gap : ℕ → ℕ) (i : ℕ) : ℕ := (i + gap i) % period

variable {mark : ℕ → Prop} {period : ℕ} {gap : ℕ → ℕ}

theorem hop_mod (t : ℕ) : hop period gap (t % period) = (t + gap (t % period)) % period := by
  rw [hop, Nat.mod_add_mod]

/-- Every iterate of `hop` is the place of a later mark. -/
theorem Hops.reaches (h : Hops mark period gap) {t : ℕ} (ht : mark t) (k : ℕ) :
    ∃ u, t ≤ u ∧ mark u ∧ u % period = (hop period gap)^[k] (t % period) := by
  induction k with
  | zero => exact ⟨t, le_refl t, ht, rfl⟩
  | succ k ih =>
    obtain ⟨u, htu, hu, hmod⟩ := ih
    refine ⟨u + gap (u % period), by omega, h.next u hu, ?_⟩
    rw [Function.iterate_succ_apply', ← hmod, hop_mod]

theorem Hops.reached (h : Hops mark period gap) {t u : ℕ} (ht : mark t) (htu : t ≤ u)
    (hu : mark u) : ∃ k, u % period = (hop period gap)^[k] (t % period) := by
  induction hn : u - t using Nat.strong_induction_on generalizing t with
  | _ n ih =>
    by_cases heq : u = t
    · exact ⟨0, by rw [heq]; rfl⟩
    have hgap : gap (t % period) ≤ u - t := by
      by_contra hlt
      refine h.between t ht (u - t) (by omega) (by omega) ?_
      rw [Nat.add_sub_of_le htu]
      exact hu
    have hpos := h.pos (t % period)
    obtain ⟨k, hk⟩ := ih (u - (t + gap (t % period))) (by omega) (h.next t ht) (by omega) rfl
    refine ⟨k + 1, ?_⟩
    rw [Function.iterate_succ_apply, hop_mod, hk]

/-- **A mark falls on the start of a period when the orbit reaches zero.** -/
theorem Hops.aligned_iff (h : Hops mark period gap) {t : ℕ} (ht : mark t) :
    (∃ u, t ≤ u ∧ mark u ∧ u % period = 0) ↔ ∃ k, (hop period gap)^[k] (t % period) = 0 := by
  constructor
  · intro ⟨u, htu, hu, hmod⟩
    obtain ⟨k, hk⟩ := h.reached ht htu hu
    exact ⟨k, hk.symm.trans hmod⟩
  · intro ⟨k, hk⟩
    obtain ⟨u, htu, hu, hmod⟩ := h.reaches ht k
    exact ⟨u, htu, hu, hmod.trans hk⟩

/-! ## A machine on the stream -/

section

variable {α σ : Type} (step : σ → α → σ) (stream : ℕ → α)

/-- The state after `t` elements of the stream. -/
def run (s : σ) : ℕ → σ
  | 0 => s
  | t + 1 => step (run s t) (stream t)

variable {step stream} {s : σ}

theorem foldl_run (n : ℕ) (elements : List α)
    (h : ∀ i (hi : i < elements.length), elements.get ⟨i, hi⟩ = stream (n + i)) :
    elements.foldl step (run step stream s n) = run step stream s (n + elements.length) := by
  induction elements generalizing n with
  | nil => rfl
  | cons a elements ih =>
    have hfirst : a = stream n := h 0 (by simp)
    rw [List.foldl_cons, hfirst]
    show elements.foldl step (run step stream s (n + 1)) = _
    rw [ih (n + 1), List.length_cons, Nat.add_right_comm, Nat.add_assoc]
    intro i hi
    have hnext := h (i + 1) (by simpa using hi)
    rw [show n + 1 + i = n + (i + 1) by omega, ← hnext]
    rfl

theorem foldl_copies {copy : List α} {period : ℕ} (hperiod : copy.length = period)
    (h : ∀ n i (hi : i < copy.length), copy.get ⟨i, hi⟩ = stream (period * n + i)) (n : ℕ) :
    (List.replicate n copy).flatten.foldl step s = run step stream s (period * n) := by
  induction n with
  | zero => rfl
  | succ n ih =>
    rw [List.replicate_succ', List.flatten_append, List.foldl_append, ih, List.flatten_singleton,
      foldl_run _ copy (h n), hperiod, Nat.mul_succ]

end

end Periodic
