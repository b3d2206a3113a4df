import Mathlib

/-!
# A reader that may fall behind

Elements arrive in a stream, and a reader takes them one by one, but may skip the
oldest ones that it has not read.  A `Feed` is where such a reader stands, and its
fields say that what it returned is part of the stream, in order.

* `Feed.CatchUp`: the reader skips until at most `size` elements are unread.
* `Feed.Run`: what the reader may do, operation by operation.
* `Feed.Run.unread_le`: how far behind it can be.
-/

structure Feed (β : Type) where
  stream : List β
  returned : List β
  skipped : ℕ
  le : returned.length + skipped ≤ stream.length
  sublist : returned.Sublist (stream.take (returned.length + skipped))

namespace Feed

variable {β : Type}

/-- The place of the next element in the stream. -/
def next (f : Feed β) : ℕ := f.returned.length + f.skipped

def unread (f : Feed β) : ℕ := f.stream.length - f.next

def empty : Feed β := ⟨[], [], 0, le_refl 0, List.Sublist.refl _⟩

theorem next_le (f : Feed β) : f.next ≤ f.stream.length := f.le

def arrive (f : Feed β) (elements : List β) : Feed β where
  stream := f.stream ++ elements
  returned := f.returned
  skipped := f.skipped
  le := by
    rw [List.length_append]
    exact Nat.le_add_right_of_le f.le
  sublist := by
    rw [List.take_append_of_le_length f.le]
    exact f.sublist

def skip (f : Feed β) (k : ℕ) (h : k ≤ f.unread) : Feed β where
  stream := f.stream
  returned := f.returned
  skipped := f.skipped + k
  le := by
    have hle := f.next_le
    unfold unread at h
    unfold next at h hle
    omega
  sublist := f.sublist.trans (List.take_sublist_take_left (by omega))

/-- The reader takes the next element, if there is one. -/
def take (f : Feed β) : Feed β :=
  if h : f.next < f.stream.length then
    { stream := f.stream
      returned := f.returned ++ [f.stream.get ⟨f.next, h⟩]
      skipped := f.skipped
      le := by
        have hnext : f.returned.length + f.skipped < f.stream.length := h
        rw [List.length_append, List.length_singleton]
        omega
      sublist := by
        have hlen : (f.returned ++ [f.stream.get ⟨f.next, h⟩]).length + f.skipped =
            f.next + 1 := by
          rw [List.length_append, List.length_singleton]
          unfold next
          omega
        rw [hlen, List.take_succ_eq_append_getElem h]
        exact f.sublist.append_right _ }
  else f

theorem take_stream (f : Feed β) : f.take.stream = f.stream := by
  unfold take
  split <;> rfl

theorem take_skipped (f : Feed β) : f.take.skipped = f.skipped := by
  unfold take
  split <;> rfl

theorem take_returned (f : Feed β) : f.take.returned = f.returned ++ f.stream[f.next]?.toList := by
  unfold take
  split
  · next h =>
    rw [List.getElem?_eq_getElem h]
    rfl
  · next h =>
    rw [List.getElem?_eq_none (Nat.not_lt.mp h)]
    exact (List.append_nil _).symm

theorem take_next (f : Feed β) (h : f.next < f.stream.length) : f.take.next = f.next + 1 := by
  rw [next, take_returned, take_skipped, List.getElem?_eq_getElem h]
  simp only [Option.toList_some, List.length_append, List.length_singleton, next]
  omega

theorem take_of_le (f : Feed β) (h : f.stream.length ≤ f.next) : f.take = f :=
  dif_neg (Nat.not_lt.mpr h)

theorem skip_next (f : Feed β) (k : ℕ) (h : k ≤ f.unread) : (f.skip k h).next = f.next + k :=
  (Nat.add_assoc _ _ _).symm

theorem skip_unread (f : Feed β) (k : ℕ) (h : k ≤ f.unread) :
    (f.skip k h).unread = f.unread - k := by
  change f.stream.length - (f.returned.length + (f.skipped + k)) = _
  unfold unread next
  omega

theorem take_unread_le (f : Feed β) : f.take.unread ≤ f.unread := by
  have hlen : f.returned.length ≤ f.take.returned.length := by
    rw [take_returned, List.length_append]
    exact Nat.le_add_right _ _
  unfold unread next
  rw [take_stream, take_skipped]
  omega

/-! ## What a reader does -/

inductive Op (β : Type)
  /-- Elements arrive together. -/
  | burst (elements : List β)
  | readOne
  | read (n : ℕ)
  /-- The reader looks how much there is. -/
  | available
  deriving DecidableEq, Repr

/-- The reader skips until at most `size` elements are unread, and no further if `minimal`. -/
def CatchUp (size : ℕ) (minimal : Prop) (f f' : Feed β) : Prop :=
  ∃ k, ∃ h : k ≤ f.unread, f' = f.skip k h ∧ f'.unread ≤ size ∧ (minimal → k = f.unread - size)

/-- What the operations lead to.  A reader that is asked for nothing does nothing. -/
inductive Run (size : ℕ) (minimal : Prop) : List (Op β) → Feed β → Prop
  | nil : Run size minimal [] empty
  | burst {ops : List (Op β)} {f : Feed β} (h : Run size minimal ops f) (elements : List β) :
      Run size minimal (ops ++ [.burst elements]) (f.arrive elements)
  | available {ops : List (Op β)} {f f' : Feed β} (h : Run size minimal ops f)
      (hc : CatchUp size minimal f f') : Run size minimal (ops ++ [.available]) f'
  | readOne {ops : List (Op β)} {f f' : Feed β} (h : Run size minimal ops f)
      (hc : CatchUp size minimal f f') : Run size minimal (ops ++ [.readOne]) f'.take
  | readNone {ops : List (Op β)} {f : Feed β} (h : Run size minimal ops f) :
      Run size minimal (ops ++ [.read 0]) f
  | read {ops : List (Op β)} {f f' : Feed β} (h : Run size minimal ops f)
      (hc : CatchUp size minimal f f') (n : ℕ) :
      Run size minimal (ops ++ [.read (n + 1)]) (take^[n + 1] f')

/-- The elements that arrived since the reader last looked, when `waiting` did before. -/
def Op.since (waiting : ℕ) : Op β → ℕ
  | .burst elements => waiting + elements.length
  | .read 0 => waiting
  | .read (_ + 1) | .readOne | .available => 0

/-- The elements that arrived since the reader last looked. -/
def since (ops : List (Op β)) : ℕ := ops.foldl Op.since 0

theorem since_concat (ops : List (Op β)) (op : Op β) : since (ops ++ [op]) = op.since (since ops) :=
  List.foldl_concat _ _ _ _

theorem arrive_unread (f : Feed β) (elements : List β) :
    (f.arrive elements).unread = f.unread + elements.length := by
  have hle := f.next_le
  unfold unread
  rw [show (f.arrive elements).next = f.next from rfl, arrive, List.length_append]
  omega

theorem iterate_take_unread_le (f : Feed β) (n : ℕ) : (take^[n] f).unread ≤ f.unread := by
  induction n generalizing f with
  | zero => exact le_refl _
  | succ n ih => exact (ih f.take).trans f.take_unread_le

variable {size : ℕ} {minimal : Prop} {ops : List (Op β)} {f : Feed β}

/-- **How far behind a reader can be.** -/
theorem Run.unread_le (h : Run size minimal ops f) : f.unread ≤ size + since ops := by
  induction h with
  | nil => exact Nat.zero_le _
  | burst h elements ih =>
    rw [since_concat, arrive_unread, Op.since]
    omega
  | available h hc ih =>
    obtain ⟨k, hk, rfl, hsize, -⟩ := hc
    exact Nat.le_add_right_of_le hsize
  | readOne h hc ih =>
    obtain ⟨k, hk, rfl, hsize, -⟩ := hc
    exact Nat.le_add_right_of_le ((take_unread_le _).trans hsize)
  | readNone h ih =>
    rw [since_concat]
    exact ih
  | read h hc n ih =>
    obtain ⟨k, hk, rfl, hsize, -⟩ := hc
    exact Nat.le_add_right_of_le ((iterate_take_unread_le _ _).trans hsize)

theorem CatchUp.mono {minimal' : Prop} {f' : Feed β} (h : CatchUp size minimal f f')
    (h' : minimal' → minimal) : CatchUp size minimal' f f' := by
  obtain ⟨k, hk, heq, hsize, hmin⟩ := h
  exact ⟨k, hk, heq, hsize, hmin ∘ h'⟩

theorem Run.mono {minimal' : Prop} (h : Run size minimal ops f) (h' : minimal' → minimal) :
    Run size minimal' ops f := by
  induction h with
  | nil => exact .nil
  | burst h elements ih => exact ih.burst elements
  | available h hc ih => exact ih.available (hc.mono h')
  | readOne h hc ih => exact ih.readOne (hc.mono h')
  | readNone h ih => exact ih.readNone
  | read h hc n ih => exact ih.read (hc.mono h') n

end Feed
