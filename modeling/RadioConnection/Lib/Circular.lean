import Mathlib

/-!
# A stream in a circular memory

A writer puts the elements of an unbounded stream at consecutive places of a
memory, taken modulo `n`, so the memory holds the last `n` of them.  A reader that
knows the stream only through counters needs two facts: how far the writer has
come between two of its places (`advance_eq`), and that a counter taken modulo `m`
still gives the place (`mod_mod_of`).
-/

namespace Circular

variable {β : Type} {n : ℕ}

/-- The last `n` elements of the stream are at their places. -/
def Holds (n : ℕ) (memory : ℕ → β) (stream : List β) : Prop :=
  ∀ i (hi : i < stream.length), stream.length ≤ i + n → memory (i % n) = stream.get ⟨i, hi⟩

theorem holds_nil (memory : ℕ → β) : Holds n memory [] := by
  intro i hi
  exact absurd hi (Nat.not_lt_zero i)

theorem mod_ne {i j : ℕ} (hij : i < j) (hji : j < i + n) : i % n ≠ j % n := by
  intro heq
  have hdvd : n ∣ j - i := (Nat.modEq_iff_dvd' hij.le).mp heq
  have hle := Nat.le_of_dvd (by omega) hdvd
  omega

theorem Holds.write {memory : ℕ → β} {stream : List β} (h : Holds n memory stream)
    (b : β) : Holds n (Function.update memory (stream.length % n) b) (stream ++ [b]) := by
  intro i hi hlen
  rw [List.length_append, List.length_singleton] at hi hlen
  by_cases hlast : i = stream.length
  · subst hlast
    rw [Function.update_self]
    simp
  · have hlt : i < stream.length := by omega
    rw [Function.update_of_ne (mod_ne hlt (by omega)), h i hlt (by omega)]
    simp [hlt]

/-- How far the writer has come from the place `last` to the place `place`, in less than a
round. -/
def advance (n last place : ℕ) : ℕ := if last ≤ place then place - last else n - last + place

theorem advance_eq (hn : 0 < n) {p w : ℕ} (hle : p ≤ w) (hlt : w < p + n) :
    advance n (p % n) (w % n) = w - p := by
  have hp := Nat.div_add_mod p n
  have hw := Nat.div_add_mod w n
  have hpn := Nat.mod_lt p hn
  have hwn := Nat.mod_lt w hn
  have hdiv : p / n ≤ w / n := Nat.div_le_div_right hle
  have hdiv' : w / n ≤ p / n + 1 := by
    have hup := Nat.div_le_div_right (c := n) hlt.le
    rwa [Nat.add_div_right p hn] at hup
  have hround : w / n = p / n ∨ w / n = p / n + 1 := by omega
  unfold advance
  rcases hround with heq | heq
  · rw [heq] at hw
    split <;> omega
  · rw [heq, Nat.mul_add, Nat.mul_one] at hw
    split <;> omega

/-- A counter modulo `m` gives the place exactly when the part that it lost is whole rounds. -/
theorem mod_mod_iff {m c : ℕ} : c % m % n = c % n ↔ n ∣ m * (c / m) := by
  have hdiv : c - c % m = m * (c / m) := by
    have hc := Nat.div_add_mod c m
    omega
  rw [← hdiv]
  exact Nat.modEq_iff_dvd' (Nat.mod_le c m)

theorem mod_mod_of {m c : ℕ} (h : n ∣ m ∨ c < m) : c % m % n = c % n := by
  rcases h with hdvd | hlt
  · exact Nat.mod_mod_of_dvd c hdvd
  · rw [Nat.mod_eq_of_lt hlt]

end Circular
