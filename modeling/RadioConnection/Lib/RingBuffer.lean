import Mathlib

/-!
# Bounded ring buffers

A `RingBuffer α n` is a queue kept in an array of `n` slots as a read index and a
count; its fields say that both stay inside the array.  `RingBuffer.toList` is the
queue it holds, oldest element first, and the operations are the ones of a
bounded FIFO on it:

* `toList_push`: a push on a ring that is not full appends;
  `push_of_isFull`: a push on a full ring changes nothing.
* `toList_pop`: a pop takes the oldest element; `pop_eq_none_iff`.
* `toList_clear`: clearing the indices empties the queue.

The last section is about a log of pushes and pops on a bounded queue:
`Fifo n q ops q'` says that the log `ops` leads from the queue `q` to `q'`, and
`Fifo.pushed_eq` that nothing which was stored is lost or reordered.
-/

/-- A queue of at most `n` elements in an array of `n` slots. -/
structure RingBuffer (α : Type) (n : Nat) where
  slots : Vector α n
  head : Nat
  count : Nat
  head_lt : head < n
  count_le : count ≤ n
  deriving DecidableEq

namespace RingBuffer

variable {α : Type} {n : Nat}

/-- The empty ring, its slots filled with `x`. -/
def empty (x : α) (hn : 0 < n) : RingBuffer α n := ⟨Vector.replicate n x, 0, 0, hn, Nat.zero_le n⟩

/-- The slot that is `i` places after the read index. -/
def slot (r : RingBuffer α n) (i : Nat) : α :=
  r.slots.get ⟨(r.head + i) % n, Nat.mod_lt _ (Nat.zero_lt_of_lt r.head_lt)⟩

/-- The elements that wait in the ring, oldest first. -/
def toList (r : RingBuffer α n) : List α := (List.range r.count).map r.slot

def isFull (r : RingBuffer α n) : Bool := decide (n ≤ r.count)

/-- Store `x` after the waiting elements; a full ring is left as it is. -/
def push (r : RingBuffer α n) (x : α) : RingBuffer α n :=
  if h : r.count < n then
    { r with
      slots := r.slots.set ((r.head + r.count) % n) x (Nat.mod_lt _ (Nat.zero_lt_of_lt h))
      count := r.count + 1
      count_le := h }
  else r

def pop (r : RingBuffer α n) : Option (α × RingBuffer α n) :=
  if 0 < r.count then
    some (r.slot 0,
      { r with
        head := (r.head + 1) % n
        count := r.count - 1
        head_lt := Nat.mod_lt _ (Nat.zero_lt_of_lt r.head_lt)
        count_le := (Nat.sub_le _ _).trans r.count_le })
  else none

/-- Set both indices back to `0`. -/
def clear (r : RingBuffer α n) : RingBuffer α n :=
  { r with
    head := 0, count := 0
    head_lt := Nat.zero_lt_of_lt r.head_lt, count_le := Nat.zero_le n }

@[simp] theorem toList_length (r : RingBuffer α n) : r.toList.length = r.count := by simp [toList]

@[simp] theorem toList_empty (x : α) (hn : 0 < n) : (empty x hn).toList = [] := rfl

@[simp] theorem toList_clear (r : RingBuffer α n) : r.clear.toList = [] := rfl

theorem isFull_iff (r : RingBuffer α n) : r.isFull = true ↔ r.count = n := by
  have := r.count_le
  simp only [isFull, decide_eq_true_eq]
  omega

theorem not_isFull_iff (r : RingBuffer α n) : r.isFull = false ↔ r.count < n := by simp [isFull]

theorem push_of_isFull {r : RingBuffer α n} (h : r.isFull = true) (x : α) : r.push x = r := by
  rw [push, dif_neg]
  rw [isFull_iff] at h
  omega

theorem slot_index_ne {h i j : Nat} (hi : i < n) (hj : j < n) (hne : i ≠ j) :
    (h + i) % n ≠ (h + j) % n := by
  intro e
  have hij : i ≡ j [MOD n] := Nat.ModEq.add_left_cancel' h e
  exact hne (Nat.ModEq.eq_of_lt_of_lt hij hi hj)

/-- **A push appends.** -/
theorem toList_push {r : RingBuffer α n} (h : r.isFull = false) (x : α) :
    (r.push x).toList = r.toList ++ [x] := by
  rw [not_isFull_iff] at h
  have hn := Nat.zero_lt_of_lt h
  rw [toList, toList, push, dif_pos h, List.range_succ, List.map_append]
  congr 1
  · refine List.map_congr_left fun i hi => ?_
    rw [List.mem_range] at hi
    simp only [slot, Vector.get_eq_getElem]
    exact Vector.getElem_set_ne _ _ (slot_index_ne h (by omega) (by omega))
  · simp [slot, Vector.get_eq_getElem]

theorem pop_eq_none_iff {r : RingBuffer α n} : r.pop = none ↔ r.toList = [] := by
  rw [← List.length_eq_zero_iff, toList_length, pop]
  split <;> simp <;> omega

/-- **A pop takes the oldest element.** -/
theorem toList_pop {r r' : RingBuffer α n} {x : α} (h : r.pop = some (x, r')) :
    r.toList = x :: r'.toList := by
  rw [pop] at h
  split at h
  · rename_i hc
    obtain ⟨rfl, rfl⟩ := Prod.mk.inj (Option.some.inj h)
    obtain ⟨c, hc⟩ : ∃ c, r.count = c + 1 := ⟨r.count - 1, by omega⟩
    simp only [toList, hc, Nat.add_sub_cancel, List.range_succ_eq_map, List.map_cons, List.map_map]
    congr 1
    refine List.map_congr_left fun i _ => ?_
    have hindex : r.head + i.succ = r.head + 1 + i := by omega
    simp only [slot, Function.comp, Nat.mod_add_mod, hindex]
  · exact absurd h (by simp)

theorem pop_eq_some_of_toList {r : RingBuffer α n} {x : α} {l : List α} (h : r.toList = x :: l) :
    ∃ r', r.pop = some (x, r') ∧ r'.toList = l := by
  cases hp : r.pop with
  | none =>
    rw [pop_eq_none_iff.mp hp] at h
    exact absurd h (by simp)
  | some p =>
    obtain ⟨y, r'⟩ := p
    rw [toList_pop hp] at h
    obtain ⟨rfl, rfl⟩ := List.cons.inj h
    exact ⟨r', rfl, rfl⟩

/-! ## Logs of a bounded queue -/

/-- A push with the information whether there was room, or a pop. -/
inductive Op (α : Type)
  | push (x : α) (stored : Bool)
  | pop (x : α)

/-- The operations `ops` on a queue of at most `n` elements lead from `q` to `q'`. -/
def Fifo (n : Nat) : List α → List (Op α) → List α → Prop
  | q, [], q' => q' = q
  | q, .push x stored :: ops, q' =>
    stored = decide (q.length < n) ∧ Fifo n (if stored then q ++ [x] else q) ops q'
  | q, .pop x :: ops, q' => ∃ r, q = x :: r ∧ Fifo n r ops q'

def pushed (ops : List (Op α)) : List α :=
  ops.filterMap fun | .push x true => some x | _ => none

def popped (ops : List (Op α)) : List α :=
  ops.filterMap fun | .pop x => some x | _ => none

theorem fifo_append_iff {q q' : List α} {ops ops' : List (Op α)} :
    Fifo n q (ops ++ ops') q' ↔ ∃ m, Fifo n q ops m ∧ Fifo n m ops' q' := by
  induction ops generalizing q with
  | nil => simp [Fifo]
  | cons op ops ih =>
    cases op with
    | push x stored =>
      simp only [List.cons_append, Fifo, ih]
      constructor
      · rintro ⟨hs, m, hm, h⟩
        exact ⟨m, ⟨hs, hm⟩, h⟩
      · rintro ⟨m, ⟨hs, hm⟩, h⟩
        exact ⟨hs, m, hm, h⟩
    | pop x =>
      simp only [List.cons_append, Fifo, ih]
      constructor
      · rintro ⟨r, hr, m, hm, h⟩
        exact ⟨m, ⟨r, hr, hm⟩, h⟩
      · rintro ⟨m, ⟨r, hr, hm⟩, h⟩
        exact ⟨r, hr, m, hm, h⟩

/-- **What was stored has been taken or waits, in the order of the pushes.** -/
theorem Fifo.pushed_eq {q q' : List α} {ops : List (Op α)} (h : Fifo n q ops q') :
    q ++ pushed ops = popped ops ++ q' := by
  induction ops generalizing q with
  | nil =>
    obtain rfl := h
    simp [pushed, popped]
  | cons op ops ih =>
    cases op with
    | push x stored =>
      have h' := ih h.2
      cases stored <;> simpa [pushed, popped] using h'
    | pop x =>
      obtain ⟨r, rfl, h⟩ := h
      simpa [pushed, popped] using ih h

theorem Fifo.stored_of_room {q q' : List α} {ops : List (Op α)} (h : Fifo n q ops q')
    (hroom : q.length + ops.length ≤ n) {x : α} {stored : Bool} (hx : .push x stored ∈ ops) :
    stored = true := by
  induction ops generalizing q with
  | nil => cases hx
  | cons op ops ih =>
    rw [List.length_cons] at hroom
    cases op with
    | push y b =>
      obtain ⟨hb, h⟩ := h
      obtain rfl : b = true := hb.trans (decide_eq_true (by omega))
      rcases List.mem_cons.mp hx with he | hx
      · cases he
        rfl
      · refine ih h ?_ hx
        rw [if_pos rfl, List.length_append, List.length_singleton]
        omega
    | pop y =>
      obtain ⟨r, rfl, h⟩ := h
      rw [List.length_cons] at hroom
      rcases List.mem_cons.mp hx with he | hx
      · cases he
      · exact ih h (by omega) hx

theorem Fifo.length_le {q q' : List α} {ops : List (Op α)} (h : Fifo n q ops q')
    (hq : q.length ≤ n) : q'.length ≤ n := by
  induction ops generalizing q with
  | nil =>
    obtain rfl := h
    exact hq
  | cons op ops ih =>
    cases op with
    | push x stored =>
      obtain ⟨rfl, h⟩ := h
      refine ih h ?_
      by_cases hlt : q.length < n
      · simp only [hlt, decide_true, if_true, List.length_append, List.length_singleton]
        omega
      · simp only [hlt, decide_false, Bool.false_eq_true, if_false]
        exact hq
    | pop x =>
      obtain ⟨r, rfl, h⟩ := h
      rw [List.length_cons] at hq
      exact ih h (by omega)

theorem pushed_append (ops ops' : List (Op α)) : pushed (ops ++ ops') = pushed ops ++ pushed ops' :=
  List.filterMap_append

theorem fifo_push (r : RingBuffer α n) (x : α) :
    Fifo n r.toList [.push x (!r.isFull)] (r.push x).toList := by
  cases h : r.isFull with
  | true =>
    rw [push_of_isFull h]
    have := (isFull_iff r).mp h
    exact ⟨by simp [this], rfl⟩
  | false =>
    rw [toList_push h]
    have := (not_isFull_iff r).mp h
    exact ⟨by simp [this], rfl⟩

theorem fifo_pop {r r' : RingBuffer α n} {x : α} (h : r.pop = some (x, r')) :
    Fifo n r.toList [.pop x] r'.toList := ⟨r'.toList, toList_pop h, rfl⟩

end RingBuffer
