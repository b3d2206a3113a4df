import Mathlib

/-!
# Channels that lose but do not reorder

The state of such a channel is the list of what may still be delivered, oldest
first.  A send appends to it, and a delivery takes any element and loses those
before it: `Delivers air x air'`.

What is delivered was sent, and it goes before everything that is delivered
later (`Delivers.rel`).  So a receiver that takes an element only when it is new
takes a sublist of what was sent; `sublist_of_increasing` is the last step of
such an argument, from positions to the elements there.
-/

namespace LossyChannel

variable {α β : Type}

/-- `x` is delivered, and `air'` may still be. -/
def Delivers (air : List α) (x : α) (air' : List α) : Prop := ∃ lost, air = lost ++ x :: air'

namespace Delivers

variable {air air' : List α} {x : α}

theorem head (x : α) (air : List α) : Delivers (x :: air) x air := ⟨[], rfl⟩

theorem cons (y : α) (h : Delivers air x air') : Delivers (y :: air) x air' := by
  obtain ⟨lost, rfl⟩ := h
  exact ⟨y :: lost, rfl⟩

theorem mem (h : Delivers air x air') : x ∈ air := by
  obtain ⟨lost, rfl⟩ := h
  exact List.mem_append_right lost List.mem_cons_self

theorem mem_of_mem (h : Delivers air x air') {y : α} (hy : y ∈ air') : y ∈ air := by
  obtain ⟨lost, rfl⟩ := h
  exact List.mem_append_right lost (List.mem_cons_of_mem x hy)

/-- **In order**: what is delivered was sent before all that may still be. -/
theorem rel {R : α → α → Prop} (h : Delivers air x air') (hR : air.Pairwise R) {y : α}
    (hy : y ∈ air') : R x y := by
  obtain ⟨lost, rfl⟩ := h
  have htail : (x :: air').Pairwise R := (List.pairwise_append.mp hR).2.1
  exact (List.pairwise_cons.mp htail).1 y hy

theorem pairwise {R : α → α → Prop} (h : Delivers air x air') (hR : air.Pairwise R) :
    air'.Pairwise R := by
  obtain ⟨lost, rfl⟩ := h
  have htail : (x :: air').Pairwise R := (List.pairwise_append.mp hR).2.1
  exact (List.pairwise_cons.mp htail).2

end Delivers

/-- A receiver that may be delivered a sublist of what is on its way to it may be delivered the first
of these, and then the others. -/
theorem exists_delivers {air : List α} {p : α → Bool} {f : α → β} {y : β} {ys : List β}
    (h : (y :: ys).Sublist ((air.filter p).map f)) :
    ∃ x air', Delivers air x air' ∧ p x = true ∧ f x = y ∧ ys.Sublist ((air'.filter p).map f) := by
  induction air with
  | nil => cases h
  | cons a air ih =>
    by_cases ha : p a = true
    · rw [List.filter_cons_of_pos ha, List.map_cons] at h
      cases h with
      | cons _ h =>
        obtain ⟨x, air', hd, hx⟩ := ih h
        exact ⟨x, air', hd.cons a, hx⟩
      | cons_cons _ h => exact ⟨a, air, .head a air, ha, rfl, h⟩
    · rw [List.filter_cons_of_neg ha] at h
      obtain ⟨x, air', hd, hx⟩ := ih h
      exact ⟨x, air', hd.cons a, hx⟩

theorem pairwise_send {R : α → α → Prop} {air : List α} {x : α} (hair : air.Pairwise R)
    (hx : ∀ y ∈ air, R y x) : (air ++ [x]).Pairwise R := by
  refine List.pairwise_append.mpr ⟨hair, List.pairwise_singleton R x, ?_⟩
  intro y hy z hz
  rw [List.mem_singleton] at hz
  exact hz ▸ hx y hy

/-- Increasing positions, each with the element there, give a sublist. -/
theorem sublist_of_increasing {taken : List (Nat × β)} {sent : List β}
    (horder : taken.Pairwise fun a b => a.1 < b.1) (hat : ∀ a ∈ taken, sent[a.1]? = some a.2) :
    (taken.map Prod.snd).Sublist sent := by
  have hlt : ∀ a ∈ taken, a.1 < sent.length := fun a ha =>
    (List.getElem?_eq_some_iff.mp (hat a ha)).1
  let position (a : {a // a ∈ taken}) : Fin sent.length := ⟨a.val.1, hlt a.val a.property⟩
  have hmap : taken.map Prod.snd = (taken.attach.map position).map (sent[·]) := by
    rw [List.map_map]
    conv_lhs => rw [← List.attach_map_subtype_val taken, List.map_map]
    apply List.map_congr_left
    intro a _
    exact (List.getElem?_eq_some_iff.mp (hat a.val a.property)).2.symm
  rw [hmap]
  apply List.map_getElem_sublist
  rw [List.pairwise_map]
  apply List.Pairwise.of_map (S := fun a b => a.1 < b.1) Subtype.val
  · intro a b hab
    exact hab
  · rw [List.attach_map_subtype_val]
    exact horder

end LossyChannel
