import Mathlib

/-!
# A latch with an interlock

A latch is set by an input that is *on* and cleared by one that is *off*; between
the two it keeps its value.  An input may be missing, which clears the latch and
locks it, and a locked latch is only unlocked by an input that is off.

The state of the latch is two bits.  The theorems say what the bits mean in terms
of the whole history of inputs:

* `locked_iff`: the latch is unlocked when some input was off and none was
  missing since.
* `latched_iff`: the latch is set when some input was on, not locked, and every
  input since was there and not off.
-/

namespace Interlock

variable {ι : Type}

/-- When an input is off and when it is on, and whether there is a lock at all. -/
structure Rule (ι : Type) where
  off : ι → Prop
  on : ι → Prop
  locks : Prop
  off_not_on : ∀ x, off x → ¬ on x

structure State where
  latched : Prop
  locked : Prop

/-- Nothing is known of the inputs before the first. -/
def start (r : Rule ι) : State := ⟨False, r.locks⟩

def next (r : Rule ι) (s : State) : Option ι → State
  | none => start r
  | some x =>
    { latched := ¬ (s.locked ∧ ¬ r.off x) ∧ (s.latched ∧ ¬ r.off x ∨ ¬ s.latched ∧ r.on x)
      locked := s.locked ∧ ¬ r.off x }

/-- The state before input `n`. -/
def state (r : Rule ι) (u : ℕ → Option ι) : ℕ → State
  | 0 => start r
  | n + 1 => next r (state r u n) (u n)

/-! ## The history -/

/-- No input from `m` up to `n` is missing. -/
def Present (u : ℕ → Option ι) (m n : ℕ) : Prop := ∀ i, m ≤ i → i < n → ∃ x, u i = some x

/-- Every input from `k` up to `n` is there and not off. -/
def Held (r : Rule ι) (u : ℕ → Option ι) (k n : ℕ) : Prop :=
  ∀ i, k ≤ i → i < n → ∃ x, u i = some x ∧ ¬ r.off x

/-- Some input before `n` was off, and none since is missing. -/
def Unlocked (r : Rule ι) (u : ℕ → Option ι) (n : ℕ) : Prop :=
  ∃ m, m < n ∧ (∃ x, u m = some x ∧ r.off x) ∧ Present u m n

/-- Some input before `n` was on while the latch was unlocked, and all since are held. -/
def Set (r : Rule ι) (u : ℕ → Option ι) (n : ℕ) : Prop :=
  ∃ k, k < n ∧ Held r u k n ∧ (∃ x, u k = some x ∧ r.on x) ∧ (r.locks → Unlocked r u k)

section

variable {r : Rule ι} {u : ℕ → Option ι} {n : ℕ}

theorem Held.present {k : ℕ} (h : Held r u k n) : Present u k n := by
  intro i hk hi
  obtain ⟨x, hx, -⟩ := h i hk hi
  exact ⟨x, hx⟩

theorem Present.trans {m k : ℕ} (h : Present u m k) (h' : Present u k n) : Present u m n := by
  intro i hm hi
  by_cases hk : i < k
  · exact h i hm hk
  · exact h' i (by omega) hi

theorem Present.single {x : ι} (h : u n = some x) : Present u n (n + 1) := by
  intro i hn hi
  have hin : i = n := by omega
  exact ⟨x, hin ▸ h⟩

theorem not_unlocked_of_none (h : u n = none) : ¬ Unlocked r u (n + 1) := by
  intro ⟨m, hm, _, hp⟩
  obtain ⟨x, hx⟩ := hp n (by omega) (by omega)
  rw [h] at hx
  cases hx

theorem not_set_of_none (h : u n = none) : ¬ Set r u (n + 1) := by
  intro ⟨k, hk, hh, _⟩
  obtain ⟨x, hx, -⟩ := hh n (by omega) (by omega)
  rw [h] at hx
  cases hx

theorem unlocked_succ_iff {x : ι} (h : u n = some x) :
    Unlocked r u (n + 1) ↔ r.off x ∨ Unlocked r u n := by
  constructor
  · intro ⟨m, hm, ⟨y, hy, hoff⟩, hp⟩
    by_cases hmn : m = n
    · rw [hmn, h] at hy
      cases hy
      exact .inl hoff
    · exact .inr ⟨m, by omega, ⟨y, hy, hoff⟩, fun i hm hi => hp i hm (by omega)⟩
  · intro hor
    rcases hor with hoff | ⟨m, hm, hy, hp⟩
    · exact ⟨n, by omega, ⟨x, h, hoff⟩, .single h⟩
    · exact ⟨m, by omega, hy, hp.trans (.single h)⟩

theorem set_succ_iff {x : ι} (h : u n = some x) :
    Set r u (n + 1) ↔
      ¬ r.off x ∧ (Set r u n ∨ r.on x ∧ (r.locks → Unlocked r u n)) := by
  constructor
  · intro ⟨k, hk, hh, ⟨y, hy, hon⟩, hlock⟩
    obtain ⟨z, hz, hoff⟩ := hh n (by omega) (by omega)
    rw [h] at hz
    cases hz
    refine ⟨hoff, ?_⟩
    by_cases hkn : k = n
    · subst hkn
      rw [h] at hy
      cases hy
      exact .inr ⟨hon, hlock⟩
    · exact .inl ⟨k, by omega, fun i hk hi => hh i hk (by omega), ⟨y, hy, hon⟩, hlock⟩
  · intro ⟨hoff, hor⟩
    rcases hor with ⟨k, hk, hh, hy, hlock⟩ | ⟨hon, hlock⟩
    · refine ⟨k, by omega, fun i hki hi => ?_, hy, hlock⟩
      by_cases hin : i = n
      · exact ⟨x, hin ▸ h, hoff⟩
      · exact hh i hki (by omega)
    · refine ⟨n, by omega, fun i hni hi => ?_, ⟨x, h, hon⟩, hlock⟩
      have hin : i = n := by omega
      exact ⟨x, hin ▸ h, hoff⟩

theorem Set.unlocked (h : Set r u n) (hl : r.locks) : Unlocked r u n := by
  obtain ⟨k, hk, hh, _, hlock⟩ := h
  obtain ⟨m, hm, hy, hp⟩ := hlock hl
  exact ⟨m, by omega, hy, hp.trans hh.present⟩

end

/-! ## What the bits mean -/

variable (r : Rule ι) (u : ℕ → Option ι) (n : ℕ)

theorem locked_iff : (state r u n).locked ↔ r.locks ∧ ¬ Unlocked r u n := by
  induction n with
  | zero =>
    have hnone : ¬ Unlocked r u 0 := fun ⟨m, hm, _⟩ => absurd hm (Nat.not_lt_zero m)
    exact ⟨fun h => ⟨h, hnone⟩, fun h => h.1⟩
  | succ n ih =>
    cases h : u n with
    | none =>
      rw [state, h]
      exact ⟨fun hl => ⟨hl, not_unlocked_of_none h⟩, fun hl => hl.1⟩
    | some x =>
      rw [unlocked_succ_iff h, state, h]
      show (state r u n).locked ∧ ¬ r.off x ↔ _
      rw [ih]
      tauto

theorem latched_iff : (state r u n).latched ↔ Set r u n := by
  induction n with
  | zero =>
    have hnone : ¬ Set r u 0 := fun ⟨k, hk, _⟩ => absurd hk (Nat.not_lt_zero k)
    exact ⟨False.elim, hnone⟩
  | succ n ih =>
    cases h : u n with
    | none =>
      rw [state, h]
      exact ⟨False.elim, not_set_of_none h⟩
    | some x =>
      have hunlocked : Set r u n → r.locks → Unlocked r u n := Set.unlocked
      have hdisjoint := r.off_not_on x
      rw [set_succ_iff h, state, h]
      show ¬ ((state r u n).locked ∧ ¬ r.off x) ∧
        ((state r u n).latched ∧ ¬ r.off x ∨ ¬ (state r u n).latched ∧ r.on x) ↔ _
      rw [ih, locked_iff]
      tauto

end Interlock
