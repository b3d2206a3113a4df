import RadioConnection.Lib.Interaction

/-!
# Two programs in lockstep

Two runs of programs that make their calls in pairs.  Which calls make a pair,
and how their answers are related, is a parameter: `pairs o o' C` says that `o`
and `o'` may be made together and are then answered as `C` says.

* `Lockstep pairs Q p p'`: `p` and `p'` make their calls in pairs, and end with
  results that `Q` relates.
* `Lockstep.pure`, `Lockstep.ask` and `Lockstep.bind`: the rules for composed
  programs.
* `Lockstep.follow` and `Lockstep.traces`: a trace of one program has a paired trace
  of the other, and two traces with the same inputs are paired.
* `Lockstep.exec`: **in two environments that answer pairs as they are meant to
  be answered, programs in lockstep end with related results**, and the states
  of the environments stay related.
-/

namespace Interaction

variable {Op : Type} {Ans : Op → Type} {α β γ δ σ τ : Type}

/-- Which calls make a pair, with the relation of their answers. -/
abbrev Pairs (Op : Type) (Ans : Op → Type) : Type :=
  (o o' : Op) → (Ans o → Ans o' → Prop) → Prop

inductive Lockstep (pairs : Pairs Op Ans) (Q : α → β → Prop) :
    Prog Op Ans α → Prog Op Ans β → Prop
  | ret {a : α} {b : β} : Q a b → Lockstep pairs Q (.ret a) (.ret b)
  | call {o o' : Op} {C : Ans o → Ans o' → Prop} {k : Ans o → Prog Op Ans α}
      {k' : Ans o' → Prog Op Ans β} : pairs o o' C →
      (∀ x x', C x x' → Lockstep pairs Q (k x) (k' x')) →
      Lockstep pairs Q (.call o k) (.call o' k')

namespace Lockstep

variable {pairs : Pairs Op Ans}

theorem pure {Q : α → β → Prop} {a : α} {b : β} (h : Q a b) :
    Lockstep pairs Q (pure a : Prog Op Ans α) (pure b) := .ret h

theorem ask {o o' : Op} {C : Ans o → Ans o' → Prop} (h : pairs o o' C) :
    Lockstep pairs C (Prog.ask o) (Prog.ask o') := .call h fun _ _ hx => .ret hx

theorem bind {Q : α → β → Prop} {R : γ → δ → Prop} {p : Prog Op Ans α} {p' : Prog Op Ans β}
    {f : α → Prog Op Ans γ} {f' : β → Prog Op Ans δ} (h : Lockstep pairs Q p p')
    (hf : ∀ a b, Q a b → Lockstep pairs R (f a) (f' b)) :
    Lockstep pairs R (p >>= f) (p' >>= f') := by
  induction h with
  | ret hQ => exact hf _ _ hQ
  | call ho _ ih => exact .call ho ih

theorem refl (hpairs : ∀ o, pairs o o (· = ·)) (p : Prog Op Ans α) :
    Lockstep pairs (· = ·) p p := by
  induction p with
  | ret a => exact .ret (Eq.refl a)
  | call o k ih =>
    refine .call (hpairs o) ?_
    rintro x _ rfl
    exact ih x

/-- **Programs in lockstep end alike** in environments that answer pairs alike. -/
theorem exec {Q : α → β → Prop} {W : σ → τ → Prop} {answer : (o : Op) → σ → Ans o × σ}
    {answer' : (o : Op) → τ → Ans o × τ}
    (hanswer : ∀ {o o' C}, pairs o o' C → ∀ {s t}, W s t →
      C (answer o s).1 (answer' o' t).1 ∧ W (answer o s).2 (answer' o' t).2)
    {p : Prog Op Ans α} {p' : Prog Op Ans β} (h : Lockstep pairs Q p p') {s : σ} {t : τ}
    (hs : W s t) :
    Q (p.exec answer s).1 (p'.exec answer' t).1 ∧
      W (p.exec answer s).2 (p'.exec answer' t).2 := by
  induction h generalizing s t with
  | ret hQ => exact ⟨hQ, hs⟩
  | call ho _ ih =>
    obtain ⟨hC, hW⟩ := hanswer ho hs
    exact ih _ _ hC hW

end Lockstep

/-! ## Paired traces -/

/-- Two calls with their answers that make a pair. -/
def Paired (pairs : Pairs Op Ans) (a a' : Action Op Ans) : Prop :=
  ∃ C, pairs a.1 a'.1 C ∧ C a.2 a'.2

/-- `input` is what a call tells the program: two calls of a pair tell as much, and are answered
as they are meant to be if they tell the same. -/
def DeterminedBy (pairs : Pairs Op Ans) (input : Action Op Ans → Option γ) : Prop :=
  ∀ {o o' C}, pairs o o' C →
    (∀ x x', input ⟨o, x⟩ = none ∧ input ⟨o', x'⟩ = none ∧ C x x') ∨
      ∀ x x', ∃ i i', input ⟨o, x⟩ = some i ∧ input ⟨o', x'⟩ = some i' ∧ (i' = i → C x x')

theorem filterMap_paired {pairs : Pairs Op Ans} {f : Action Op Ans → Option γ}
    (hf : ∀ {a a'}, Paired pairs a a' → f a' = f a) {tr tr' : List (Action Op Ans)}
    (h : List.Forall₂ (Paired pairs) tr tr') : tr'.filterMap f = tr.filterMap f := by
  induction h with
  | nil => rfl
  | cons hpair _ ih => rw [List.filterMap_cons, List.filterMap_cons, hf hpair, ih]

namespace Lockstep

variable {pairs : Pairs Op Ans} {Q : α → β → Prop} {p : Prog Op Ans α} {p' : Prog Op Ans β}
  {tr tr' : List (Action Op Ans)} {a : α} {b : β}

/-- **A trace of one program is followed by the other**, where every answer has a partner. -/
theorem follow (h : Lockstep pairs Q p p')
    (hpartner : ∀ {o o' C}, pairs o o' C → ∀ x, ∃ x', C x x') (ht : Prog.Trace p tr a) :
    ∃ tr' b, Prog.Trace p' tr' b ∧ Q a b ∧ List.Forall₂ (Paired pairs) tr tr' := by
  induction h generalizing tr with
  | ret hQ =>
    obtain ⟨rfl, rfl⟩ := Prog.trace_ret_iff.mp ht
    exact ⟨[], _, .ret _, hQ, .nil⟩
  | @call o o' C k k' ho _ ih =>
    obtain ⟨x, rest, rfl, hrest⟩ := Prog.trace_call_iff.mp ht
    obtain ⟨x', hx⟩ := hpartner ho x
    obtain ⟨tr', b, ht', hQ, hpaired⟩ := ih x x' hx hrest
    exact ⟨⟨o', x'⟩ :: tr', b, .call x' ht', hQ, .cons ⟨C, ho, hx⟩ hpaired⟩

/-- **Two traces with the same inputs are paired**, and end with related results. -/
theorem traces {input : Action Op Ans → Option γ} (hinput : DeterminedBy pairs input)
    (h : Lockstep pairs Q p p') (ht : Prog.Trace p tr a) (ht' : Prog.Trace p' tr' b)
    (heq : tr'.filterMap input = tr.filterMap input) :
    Q a b ∧ List.Forall₂ (Paired pairs) tr tr' := by
  induction h generalizing tr tr' with
  | ret hQ =>
    obtain ⟨rfl, rfl⟩ := Prog.trace_ret_iff.mp ht
    obtain ⟨rfl, rfl⟩ := Prog.trace_ret_iff.mp ht'
    exact ⟨hQ, .nil⟩
  | @call o o' C k k' ho _ ih =>
    obtain ⟨x, rest, rfl, hrest⟩ := Prog.trace_call_iff.mp ht
    obtain ⟨x', rest', rfl, hrest'⟩ := Prog.trace_call_iff.mp ht'
    have hpair : C x x' ∧ rest'.filterMap input = rest.filterMap input := by
      rcases hinput ho with hsilent | htold
      · obtain ⟨hnone, hnone', hx⟩ := hsilent x x'
        rw [List.filterMap_cons_none hnone, List.filterMap_cons_none hnone'] at heq
        exact ⟨hx, heq⟩
      · obtain ⟨i, i', hi, hi', hx⟩ := htold x x'
        rw [List.filterMap_cons_some hi, List.filterMap_cons_some hi'] at heq
        obtain ⟨hsame, hrest⟩ := List.cons.inj heq
        exact ⟨hx hsame, hrest⟩
    obtain ⟨hQ, hpaired⟩ := ih x x' hpair.1 hrest hrest' hpair.2
    exact ⟨hQ, .cons ⟨C, ho, hpair.1⟩ hpaired⟩

end Lockstep

end Interaction
