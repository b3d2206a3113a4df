import Mathlib.Data.List.Basic

/-!
# Slots that take turns

`n` slots in a circle.  A round looks at them from the turn `i` on, serves the first
that waits, and passes the turn to the slot after it.

* `Serves`: one round.
* `Rounds`: the slots that a run of rounds serves.  Between the rounds slots may
  begin and cease to wait as they like, except for `k`, which waits until it is
  served.
* `Rounds.mem_take`: a slot that is `d` slots ahead of the turn is served within
  `d + 1` rounds, as each round that serves another slot brings the turn closer.
* `Rounds.fair`: **every waiting slot is served within `n` rounds.**
-/

namespace RoundRobin

variable {n k i slot next : ℕ} {waits : ℕ → Prop} {slots : List ℕ}

/-- From the turn `i` on, `slot` is the first that waits; the slot after it has the next turn. -/
def Serves (n i : ℕ) (waits : ℕ → Prop) (slot next : ℕ) : Prop :=
  ∃ e < n, slot = (i + e) % n ∧ next = (i + e + 1) % n ∧ waits slot ∧
    ∀ e' < e, ¬ waits ((i + e') % n)

/-- The slots that are served from the turn `i` on, where `k` waits until it is served. -/
inductive Rounds (n k : ℕ) : ℕ → List ℕ → Prop
  | nil (i : ℕ) : Rounds n k i []
  | served (i : ℕ) (slots : List ℕ) : Rounds n k i (k :: slots)
  | passed {i slot next : ℕ} {waits : ℕ → Prop} {slots : List ℕ} : Serves n i waits slot next →
    waits k → Rounds n k next slots → Rounds n k i (slot :: slots)

/-- A round that passes a waiting slot over brings the turn closer to it. -/
theorem Serves.closer (h : Serves n i waits slot next) (hk : waits k) (hslot : slot ≠ k) {d : ℕ}
    (hd : (i + d) % n = k) : ∃ d' < d, (next + d') % n = k := by
  obtain ⟨e, -, rfl, rfl, -, hidle⟩ := h
  have hlt : e < d := by
    by_contra hle
    obtain hlt | rfl := Nat.lt_or_eq_of_le (Nat.not_lt.mp hle)
    · exact hidle d hlt (hd ▸ hk)
    · exact hslot hd
  refine ⟨d - (e + 1), by omega, ?_⟩
  rw [Nat.mod_add_mod, ← hd]
  congr 1
  omega

theorem Rounds.mem_take (h : Rounds n k i slots) {d : ℕ} (hd : (i + d) % n = k)
    (hlength : d < slots.length) : k ∈ slots.take (d + 1) := by
  induction h generalizing d with
  | nil i => exact absurd hlength (Nat.not_lt_zero d)
  | served i slots => exact List.mem_cons_self
  | @passed i slot next waits slots hserves hk _ ih =>
    rw [List.take_succ_cons]
    by_cases hslot : slot = k
    · rw [hslot]
      exact List.mem_cons_self
    · obtain ⟨d', hlt, hd'⟩ := hserves.closer hk hslot hd
      rw [List.length_cons] at hlength
      have hmem := ih hd' (by omega)
      exact List.mem_cons_of_mem _ (List.take_subset_take_left _ hlt hmem)

theorem exists_turn (hk : k < n) (i : ℕ) : ∃ d < n, (i + d) % n = k := by
  have hpos : 0 < n := by omega
  have hi : i % n < n := Nat.mod_lt i hpos
  refine ⟨(k + (n - i % n)) % n, Nat.mod_lt _ hpos, ?_⟩
  rw [Nat.add_mod_mod, ← Nat.mod_add_mod]
  have hsum : i % n + (k + (n - i % n)) = k + n := by omega
  rw [hsum, Nat.add_mod_right, Nat.mod_eq_of_lt hk]

/-- **Every waiting slot is served within `n` rounds.** -/
theorem Rounds.fair (h : Rounds n k i slots) (hk : k < n) (hlength : n ≤ slots.length) :
    k ∈ slots.take n := by
  obtain ⟨d, hlt, hd⟩ := exists_turn hk i
  exact List.take_subset_take_left _ hlt (h.mem_take hd (by omega))

end RoundRobin
