import Mathlib

/-!
# Sending in chunks

A loop that hands out a list in chunks of at most `n` elements and stops at the
first chunk that is not answered well.

* `Sends ok n xs log all`: `log` lists the chunks of `xs` with their answers, and
  `all` says whether the loop came to the end.
* `Sends.whole`: **a loop that comes to the end has sent the list, in as few chunks
  as there can be.**
* `Sends.cut`: one that stops has sent a beginning of it, and only its last answer
  was bad.
* `Sends.chunk`: in any case the chunks are cut off the list one after the other.
-/

namespace Chunks

variable {α β : Type}

inductive Sends (ok : β → Prop) (n : ℕ) : List α → List (List α × β) → Bool → Prop
  | done : Sends ok n [] [] true
  | failed {xs : List α} {b : β} : xs ≠ [] → ¬ ok b → Sends ok n xs [(xs.take n, b)] false
  | next {xs : List α} {b : β} {log : List (List α × β)} {all : Bool} : xs ≠ [] → ok b →
      Sends ok n (xs.drop n) log all → Sends ok n xs ((xs.take n, b) :: log) all

def sent (log : List (List α × β)) : List α := (log.map Prod.fst).flatten

@[simp] theorem sent_nil : sent ([] : List (List α × β)) = [] := rfl

@[simp] theorem sent_cons (e : List α × β) (log : List (List α × β)) :
    sent (e :: log) = e.1 ++ sent log := rfl

variable {ok : β → Prop} {n : ℕ} {xs : List α} {log : List (List α × β)} {all : Bool}

theorem Sends.sizes (h : Sends ok n xs log all) (hn : 0 < n) :
    ∀ e ∈ log, 0 < e.1.length ∧ e.1.length ≤ n := by
  have hchunk : ∀ {ys : List α}, ys ≠ [] → 0 < (ys.take n).length ∧ (ys.take n).length ≤ n := by
    intro ys hys
    have hlength := List.length_pos_iff.mpr hys
    rw [List.length_take]
    omega
  induction h with
  | done =>
    intro e he
    cases he
  | failed hxs _ =>
    intro e he
    obtain rfl := List.mem_singleton.mp he
    exact hchunk hxs
  | next hxs _ _ ih =>
    intro e he
    rcases List.mem_cons.mp he with rfl | he
    · exact hchunk hxs
    · exact ih e he

/-- **A loop that comes to the end has sent the list, in as few chunks as there can be.** -/
theorem Sends.whole (h : Sends ok n xs log true) (hn : 0 < n) :
    sent log = xs ∧ log.length = (xs.length + n - 1) / n ∧ ∀ e ∈ log, ok e.2 := by
  generalize hall : true = all at h
  induction h with
  | done =>
    refine ⟨rfl, ?_, fun e he => by cases he⟩
    rw [List.length_nil, List.length_nil, Nat.zero_add, Nat.div_eq_of_lt (by omega)]
  | failed => cases hall
  | @next xs b log all hxs hb _ ih =>
    obtain ⟨hsent, hlength, hok⟩ := ih hall
    refine ⟨?_, ?_, ?_⟩
    · rw [sent_cons, hsent, List.take_append_drop]
    · have hpos := List.length_pos_iff.mpr hxs
      rw [List.length_cons, hlength, List.length_drop]
      by_cases hle : xs.length ≤ n
      · have hlast : (xs.length - n + n - 1) / n = 0 := Nat.div_eq_of_lt (by omega)
        have hfirst : (xs.length + n - 1) / n = 1 := by
          rw [Nat.div_eq_iff hn]
          omega
        rw [hlast, hfirst]
      · have hstep : xs.length + n - 1 = xs.length - n + n - 1 + n := by omega
        rw [hstep, Nat.add_div_right _ hn]
    · intro e he
      rcases List.mem_cons.mp he with rfl | he
      · exact hb
      · exact hok e he

/-- A loop that stops has sent a beginning of the list, and only its last answer was bad. -/
theorem Sends.cut (h : Sends ok n xs log false) :
    sent log <+: xs ∧ ∃ before e, log = before ++ [e] ∧ ¬ ok e.2 ∧ ∀ e ∈ before, ok e.2 := by
  generalize hall : false = all at h
  induction h with
  | done => cases hall
  | @failed xs b hxs hb =>
    refine ⟨?_, [], _, rfl, hb, fun e he => by cases he⟩
    rw [sent_cons, sent_nil, List.append_nil]
    exact List.take_prefix n xs
  | @next xs b log all hxs hb _ ih =>
    obtain ⟨hsent, before, e, rfl, he, hok⟩ := ih hall
    refine ⟨?_, (xs.take n, b) :: before, e, rfl, he, ?_⟩
    · rw [sent_cons]
      conv_rhs => rw [← List.take_append_drop n xs]
      exact (List.prefix_append_right_inj _).mpr hsent
    · intro e' he'
      rcases List.mem_cons.mp he' with rfl | he'
      · exact hb
      · exact hok e' he'

theorem Sends.chunk (h : Sends ok n xs log all) {k : ℕ} {e : List α × β} (hk : log[k]? = some e) :
    e.1 = (xs.drop (n * k)).take n := by
  induction h generalizing k with
  | done => cases hk
  | failed _ _ =>
    cases k with
    | zero =>
      obtain rfl := Option.some.inj hk
      rfl
    | succ k => cases hk
  | next _ _ _ ih =>
    cases k with
    | zero =>
      obtain rfl := Option.some.inj hk
      rfl
    | succ k =>
      rw [ih hk, List.drop_drop, Nat.mul_succ, Nat.add_comm]

theorem Sends.ok_dropLast (h : Sends ok n xs log all) (hn : 0 < n) : ∀ e ∈ log.dropLast, ok e.2 := by
  cases all with
  | true => exact fun e he => (h.whole hn).2.2 e (List.mem_of_mem_dropLast he)
  | false =>
    obtain ⟨-, before, e, rfl, -, hok⟩ := h.cut
    rw [List.dropLast_concat]
    exact hok

theorem Sends.sent_isPrefix (h : Sends ok n xs log all) (hn : 0 < n) : sent log <+: xs := by
  cases all with
  | true => exact (h.whole hn).1 ▸ List.prefix_rfl
  | false => exact h.cut.1

end Chunks
