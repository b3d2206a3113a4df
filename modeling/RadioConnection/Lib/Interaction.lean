import Mathlib

/-!
# Programs that call their environment

A `Prog Op Ans α` is a program that calls its environment: it makes operations
`o : Op`, each answered by a value in `Ans o`, and ends with a value in `α`.
Nothing is said about the environment, so a fact about all traces of a program
is a fact about it in every environment.

* `Prog.Trace p tr a`: `p` ends with `a` when its calls are answered as in `tr`.
  `trace_pure_iff`, `trace_ask_iff` and `trace_bind_iff` read a trace off the
  program; with them `simp` turns a trace of a `do` block into its steps.
* `Env Op Ans σ` is an environment with states in `σ`, as a relation: it may
  answer a call in several ways or not at all.  `Env.Path` is its side of a
  trace, `Prog.Runs` the two sides together.
* `Prog.Runs.invariant` and `Prog.Runs.map`: what every call keeps, every run
  keeps, and a run in one environment is a run in any environment that allows
  the same answers.
* `Prog.exec` runs a program against an environment that is a function, and
  `exec_runs` says that this is one of its runs; `execHandler_runs` says it of an
  environment that is itself a program.
-/

namespace Interaction

/-- A program that makes calls `o : Op` answered in `Ans o`. -/
inductive Prog (Op : Type) (Ans : Op → Type) (α : Type) : Type
  | ret (a : α) : Prog Op Ans α
  | call (o : Op) (k : Ans o → Prog Op Ans α) : Prog Op Ans α

abbrev Action (Op : Type) (Ans : Op → Type) : Type := (o : Op) × Ans o

namespace Prog

variable {Op : Type} {Ans : Op → Type} {α β : Type}

/-- Run `p`, then the program it chooses. -/
def bind : Prog Op Ans α → (α → Prog Op Ans β) → Prog Op Ans β
  | .ret a, f => f a
  | .call o k, f => .call o fun x => (k x).bind f

instance : Monad (Prog Op Ans) where
  pure := .ret
  bind := .bind

def ask (o : Op) : Prog Op Ans (Ans o) := .call o .ret

theorem bind_ret (p : Prog Op Ans α) : p.bind .ret = p := by
  induction p with
  | ret a => rfl
  | call o k ih => exact congrArg (Prog.call o) (funext ih)

theorem bind_assoc {γ : Type} (p : Prog Op Ans α) (f : α → Prog Op Ans β)
    (g : β → Prog Op Ans γ) : (p.bind f).bind g = p.bind fun a => (f a).bind g := by
  induction p with
  | ret a => rfl
  | call o k ih => exact congrArg (Prog.call o) (funext ih)

instance : LawfulMonad (Prog Op Ans) :=
  LawfulMonad.mk' _ bind_ret (fun _ _ => rfl) bind_assoc

/-! ## Traces -/

/-- `p` ends with `a` when its calls are answered as `tr` lists them. -/
inductive Trace : Prog Op Ans α → List (Action Op Ans) → α → Prop
  | ret (a : α) : Trace (.ret a) [] a
  | call {o : Op} {k : Ans o → Prog Op Ans α} (x : Ans o) {tr : List (Action Op Ans)} {a : α} :
      Trace (k x) tr a → Trace (.call o k) (⟨o, x⟩ :: tr) a

theorem trace_ret_iff {a b : α} {tr : List (Action Op Ans)} :
    Trace (.ret a) tr b ↔ tr = [] ∧ b = a := by
  constructor
  · rintro ⟨⟩
    exact ⟨rfl, rfl⟩
  · rintro ⟨rfl, rfl⟩
    exact .ret b

theorem trace_call_iff {o : Op} {k : Ans o → Prog Op Ans α} {tr : List (Action Op Ans)} {b : α} :
    Trace (.call o k) tr b ↔ ∃ x tr', tr = ⟨o, x⟩ :: tr' ∧ Trace (k x) tr' b := by
  constructor
  · rintro (_ | ⟨x, h⟩)
    exact ⟨x, _, rfl, h⟩
  · rintro ⟨x, tr', rfl, h⟩
    exact .call x h

@[simp] theorem trace_pure_iff {a b : α} {tr : List (Action Op Ans)} :
    Trace (pure a : Prog Op Ans α) tr b ↔ tr = [] ∧ b = a := trace_ret_iff

@[simp] theorem trace_ask_iff {o : Op} {x : Ans o} {tr : List (Action Op Ans)} :
    Trace (ask o : Prog Op Ans (Ans o)) tr x ↔ tr = [⟨o, x⟩] := by
  simp only [ask, trace_call_iff, trace_ret_iff]
  constructor
  · rintro ⟨y, _, rfl, rfl, rfl⟩
    rfl
  · rintro rfl
    exact ⟨x, [], rfl, rfl, rfl⟩

@[simp] theorem trace_bind_iff {p : Prog Op Ans α} {f : α → Prog Op Ans β}
    {tr : List (Action Op Ans)} {b : β} :
    Trace (p >>= f) tr b ↔ ∃ a t₁ t₂, Trace p t₁ a ∧ Trace (f a) t₂ b ∧ tr = t₁ ++ t₂ := by
  change Trace (p.bind f) tr b ↔ _
  induction p generalizing tr with
  | ret a =>
    simp only [bind, trace_ret_iff]
    constructor
    · intro h
      exact ⟨a, [], tr, ⟨rfl, rfl⟩, h, rfl⟩
    · rintro ⟨_, _, _, ⟨rfl, rfl⟩, h, rfl⟩
      exact h
  | call o k ih =>
    simp only [bind, trace_call_iff, ih]
    constructor
    · rintro ⟨x, _, rfl, a, t₁, t₂, h₁, h₂, rfl⟩
      exact ⟨a, ⟨o, x⟩ :: t₁, t₂, ⟨x, t₁, rfl, h₁⟩, h₂, rfl⟩
    · rintro ⟨a, _, t₂, ⟨x, t₁, rfl, h₁⟩, h₂, rfl⟩
      exact ⟨x, t₁ ++ t₂, rfl, a, t₁, t₂, h₁, h₂, rfl⟩

@[simp] theorem trace_map_iff {p : Prog Op Ans α} {f : α → β} {tr : List (Action Op Ans)} {b : β} :
    Trace (f <$> p) tr b ↔ ∃ a, Trace p tr a ∧ b = f a := by
  rw [map_eq_pure_bind, trace_bind_iff]
  simp only [trace_pure_iff]
  constructor
  · rintro ⟨a, _, _, h, ⟨rfl, rfl⟩, rfl⟩
    exact ⟨a, by rwa [List.append_nil], rfl⟩
  · rintro ⟨a, h, rfl⟩
    exact ⟨a, tr, [], h, ⟨rfl, rfl⟩, (List.append_nil tr).symm⟩

end Prog

/-! ## Environments -/

/-- An environment with states in `σ`: `env o s x s'` says that in state `s` it
may answer the call `o` with `x` and move to `s'`. -/
abbrev Env (Op : Type) (Ans : Op → Type) (σ : Type) : Type := (o : Op) → σ → Ans o → σ → Prop

variable {Op : Type} {Ans : Op → Type} {α β σ τ : Type}

/-- The environment's side of a trace. -/
def Env.Path (env : Env Op Ans σ) : σ → List (Action Op Ans) → σ → Prop
  | s, [], s' => s' = s
  | s, ⟨o, x⟩ :: tr, s' => ∃ m, env o s x m ∧ env.Path m tr s'

namespace Env

@[simp] theorem path_nil_iff {env : Env Op Ans σ} {s s' : σ} : env.Path s [] s' ↔ s' = s := Iff.rfl

@[simp] theorem path_cons_iff {env : Env Op Ans σ} {s s' : σ} {o : Op} {x : Ans o}
    {tr : List (Action Op Ans)} :
    env.Path s (⟨o, x⟩ :: tr) s' ↔ ∃ m, env o s x m ∧ env.Path m tr s' := Iff.rfl

@[simp] theorem path_append_iff {env : Env Op Ans σ} {s s' : σ} {t₁ t₂ : List (Action Op Ans)} :
    env.Path s (t₁ ++ t₂) s' ↔ ∃ m, env.Path s t₁ m ∧ env.Path m t₂ s' := by
  induction t₁ generalizing s with
  | nil => simp
  | cons x t₁ ih =>
    obtain ⟨o, x⟩ := x
    simp only [List.cons_append, path_cons_iff, ih]
    constructor
    · rintro ⟨m, hm, n, hn, h⟩
      exact ⟨n, ⟨m, hm, hn⟩, h⟩
    · rintro ⟨n, ⟨m, hm, hn⟩, h⟩
      exact ⟨m, hm, n, hn, h⟩

def ofFun (answer : (o : Op) → σ → Ans o × σ) : Env Op Ans σ :=
  fun o s x s' => answer o s = (x, s')

/-- The environment that answers each call by a program over calls of its own; its state is
that of the program with a log of these. -/
def ofHandler {Op' : Type} {Ans' : Op' → Type}
    (handler : (o : Op) → σ → Prog Op' Ans' (Ans o × σ)) :
    Env Op Ans (σ × List (Action Op' Ans')) :=
  fun o s x s' => ∃ tr, Prog.Trace (handler o s.1) tr (x, s'.1) ∧ s'.2 = s.2 ++ tr

/-- What every answer keeps, every path keeps. -/
theorem Path.invariant {env : Env Op Ans σ} {I : σ → Prop}
    (hI : ∀ o s x s', env o s x s' → I s → I s') {tr : List (Action Op Ans)} :
    ∀ {s s' : σ}, env.Path s tr s' → I s → I s' := by
  induction tr with
  | nil =>
    rintro s _ rfl hs
    exact hs
  | cons x tr ih =>
    rintro s s' ⟨m, hm, h⟩ hs
    exact ih h (hI _ _ _ _ hm hs)

/-- A path through one environment is a path through any other that allows the same answers to its
calls, along a relation of their states. -/
theorem Path.map {env : Env Op Ans σ} {env' : Env Op Ans τ} {R : σ → τ → Prop}
    {tr : List (Action Op Ans)} {s s' : σ} {t : τ}
    (hR : ∀ a ∈ tr, ∀ s s' t, env a.1 s a.2 s' → R s t → ∃ t', env' a.1 t a.2 t' ∧ R s' t')
    (h : env.Path s tr s') (hs : R s t) : ∃ t', env'.Path t tr t' ∧ R s' t' := by
  induction tr generalizing s t with
  | nil =>
    obtain rfl := h
    exact ⟨t, rfl, hs⟩
  | cons x tr ih =>
    obtain ⟨m, hm, h⟩ := h
    obtain ⟨n, hn, hr⟩ := hR x List.mem_cons_self s m t hm hs
    obtain ⟨t', ht', hr'⟩ := ih (fun a ha => hR a (List.mem_cons_of_mem x ha)) h hr
    exact ⟨t', ⟨n, hn, ht'⟩, hr'⟩

end Env

/-- `p` runs to `a` in `env`, which moves from `s` to `s'`. -/
def Prog.Runs (env : Env Op Ans σ) (p : Prog Op Ans α) (s : σ) (a : α) (s' : σ) : Prop :=
  ∃ tr, Prog.Trace p tr a ∧ env.Path s tr s'

namespace Prog

variable {env : Env Op Ans σ}

@[simp] theorem runs_pure_iff {a b : α} {s s' : σ} :
    Runs env (pure a) s b s' ↔ b = a ∧ s' = s := by
  constructor
  · rintro ⟨tr, ht, hp⟩
    obtain ⟨rfl, rfl⟩ := trace_pure_iff.mp ht
    exact ⟨rfl, hp⟩
  · rintro ⟨rfl, rfl⟩
    exact ⟨[], trace_pure_iff.mpr ⟨rfl, rfl⟩, rfl⟩

@[simp] theorem runs_ask_iff {o : Op} {x : Ans o} {s s' : σ} :
    Runs env (ask o) s x s' ↔ env o s x s' := by
  constructor
  · rintro ⟨tr, ht, hp⟩
    obtain rfl := trace_ask_iff.mp ht
    obtain ⟨m, hm, rfl⟩ := hp
    exact hm
  · intro h
    exact ⟨_, trace_ask_iff.mpr rfl, _, h, rfl⟩

@[simp] theorem runs_bind_iff {p : Prog Op Ans α} {f : α → Prog Op Ans β} {s s' : σ} {b : β} :
    Runs env (p >>= f) s b s' ↔ ∃ a m, Runs env p s a m ∧ Runs env (f a) m b s' := by
  constructor
  · rintro ⟨tr, ht, hp⟩
    obtain ⟨a, t₁, t₂, h₁, h₂, rfl⟩ := trace_bind_iff.mp ht
    obtain ⟨m, hm₁, hm₂⟩ := Env.path_append_iff.mp hp
    exact ⟨a, m, ⟨t₁, h₁, hm₁⟩, ⟨t₂, h₂, hm₂⟩⟩
  · rintro ⟨a, m, ⟨t₁, h₁, hm₁⟩, ⟨t₂, h₂, hm₂⟩⟩
    exact ⟨t₁ ++ t₂, trace_bind_iff.mpr ⟨a, t₁, t₂, h₁, h₂, rfl⟩,
      Env.path_append_iff.mpr ⟨m, hm₁, hm₂⟩⟩

/-- **What every call keeps, every run keeps.** -/
theorem Runs.invariant {I : σ → Prop} (hI : ∀ o s x s', env o s x s' → I s → I s')
    {p : Prog Op Ans α} {s s' : σ} {a : α} (h : Runs env p s a s') (hs : I s) : I s' := by
  obtain ⟨tr, -, hp⟩ := h
  exact hp.invariant hI hs

/-- A run in one environment is a run in any other that allows the same answers
along a relation of their states. -/
theorem Runs.map {env' : Env Op Ans τ} {R : σ → τ → Prop}
    (hR : ∀ o s x s' t, env o s x s' → R s t → ∃ t', env' o t x t' ∧ R s' t')
    {p : Prog Op Ans α} {s s' : σ} {a : α} {t : τ} (h : Runs env p s a s') (hs : R s t) :
    ∃ t', Runs env' p t a t' ∧ R s' t' := by
  obtain ⟨tr, ht, hp⟩ := h
  obtain ⟨t', ht', hr⟩ := hp.map (fun a _ s s' t => hR a.1 s a.2 s' t) hs
  exact ⟨t', ⟨tr, ht, ht'⟩, hr⟩

/-! ## Environments that are functions -/

/-- Run `p` against an environment that answers every call in one way. -/
def exec (answer : (o : Op) → σ → Ans o × σ) : Prog Op Ans α → σ → α × σ
  | .ret a, s => (a, s)
  | .call o k, s => exec answer (k (answer o s).1) (answer o s).2

theorem exec_runs (answer : (o : Op) → σ → Ans o × σ) (p : Prog Op Ans α) (s : σ) :
    Runs (Env.ofFun answer) p s (exec answer p s).1 (exec answer p s).2 := by
  induction p generalizing s with
  | ret a => exact runs_pure_iff.mpr ⟨rfl, rfl⟩
  | call o k ih =>
    obtain ⟨tr, ht, hp⟩ := ih (answer o s).1 (answer o s).2
    exact ⟨⟨o, (answer o s).1⟩ :: tr, .call _ ht, (answer o s).2, rfl, hp⟩

/-- Run `p` against an environment that answers a call in one way or not at all. -/
def execPartial (answer : (o : Op) → σ → Option (Ans o × σ)) : Prog Op Ans α → σ → Option (α × σ)
  | .ret a, s => some (a, s)
  | .call o k, s => (answer o s).bind fun r => execPartial answer (k r.1) r.2

theorem execPartial_runs {env : Env Op Ans σ} {answer : (o : Op) → σ → Option (Ans o × σ)}
    (hanswer : ∀ o s x s', answer o s = some (x, s') → env o s x s') {p : Prog Op Ans α}
    {s s' : σ} {a : α} (h : execPartial answer p s = some (a, s')) : Runs env p s a s' := by
  induction p generalizing s with
  | ret b =>
    obtain ⟨rfl, rfl⟩ := Prod.mk.inj (Option.some.inj h)
    exact runs_pure_iff.mpr ⟨rfl, rfl⟩
  | call o k ih =>
    obtain ⟨⟨x, m⟩, hx, hrest⟩ := Option.bind_eq_some_iff.mp h
    obtain ⟨tr, ht, hp⟩ := ih x hrest
    exact ⟨⟨o, x⟩ :: tr, .call _ ht, m, hanswer _ _ _ _ hx, hp⟩

/-- Answer every call in one way and write it into a log. -/
def logged (reply : (o : Op) → Ans o) (o : Op) (log : List (Action Op Ans)) :
    Ans o × List (Action Op Ans) := (reply o, log ++ [⟨o, reply o⟩])

theorem exec_logged (reply : (o : Op) → Ans o) (p : Prog Op Ans α) (log : List (Action Op Ans)) :
    ∃ tr, Trace p tr (exec (logged reply) p log).1 ∧ (exec (logged reply) p log).2 = log ++ tr := by
  induction p generalizing log with
  | ret a => exact ⟨[], .ret a, (List.append_nil log).symm⟩
  | call o k ih =>
    obtain ⟨tr, ht, hlog⟩ := ih (reply o) (log ++ [⟨o, reply o⟩])
    exact ⟨⟨o, reply o⟩ :: tr, .call _ ht, hlog.trans (List.append_assoc log _ _)⟩

variable {Op' : Type} {Ans' : Op' → Type}

/-- Run a handler, whose own calls are answered in one way. -/
def execHandler (handler : (o : Op) → σ → Prog Op' Ans' (Ans o × σ)) (reply : (o : Op') → Ans' o)
    (o : Op) (s : σ × List (Action Op' Ans')) : Ans o × (σ × List (Action Op' Ans')) :=
  let r := exec (logged reply) (handler o s.1) s.2
  (r.1.1, r.1.2, r.2)

theorem execHandler_runs (handler : (o : Op) → σ → Prog Op' Ans' (Ans o × σ))
    (reply : (o : Op') → Ans' o) (p : Prog Op Ans α) (s : σ × List (Action Op' Ans')) :
    Runs (Env.ofHandler handler) p s (exec (execHandler handler reply) p s).1
      (exec (execHandler handler reply) p s).2 := by
  have hstep : ∀ o s x s' t, Env.ofFun (execHandler handler reply) o s x s' → s = t →
      ∃ t', Env.ofHandler handler o t x t' ∧ s' = t' := by
    intro o s x s' t h hst
    subst hst
    obtain ⟨tr, ht, hlog⟩ := exec_logged reply (handler o s.1) s.2
    obtain ⟨rfl, rfl⟩ := Prod.mk.inj h
    exact ⟨_, ⟨tr, ht, hlog⟩, rfl⟩
  obtain ⟨s', hruns, rfl⟩ := (exec_runs (execHandler handler reply) p s).map hstep rfl
  exact hruns

end Prog

end Interaction
