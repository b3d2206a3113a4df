import RadioConnection.Lib.Interaction

/-!
# Programs interpreted by programs

A handler answers each call of a program by a program over calls of its own, with a
state of its own, and may give up.  Handlers are how one layer of a system stands
on the next.

* `Prog.interp`: a program whose calls a handler answers.
* `Env.through`: an environment of the lower calls, seen through the handler.
* `runs_interp_iff`: **to interpret a program and to run it in the environment that
  the handler makes of the lower one are the same.**
* `trace_interp_iff`: what an interpreted program does is a trace of the program,
  expanded call by call.
* `Env.interrupted`: an environment that something else may interrupt before each call.
* `Prog.embed`: a program over some calls as a program over more of them.
-/

namespace Interaction

variable {Op : Type} {Ans : Op → Type} {Op' : Type} {Ans' : Op' → Type} {α β σ τ υ : Type}

/-- Answers each call by a program over other calls, which may give up. -/
abbrev Handler (Op : Type) (Ans : Op → Type) (Op' : Type) (Ans' : Op' → Type) (σ : Type) : Type :=
  (o : Op) → σ → Prog Op' Ans' (Option (Ans o × σ))

namespace Prog

/-- The program with its calls answered by the handler; `none` when the handler gives up. -/
def interp (handler : Handler Op Ans Op' Ans' σ) : Prog Op Ans α → σ → Prog Op' Ans' (Option (α × σ))
  | .ret a, s => pure (some (a, s))
  | .call o k, s => handler o s >>= fun r => r.elim (pure none) fun r => interp handler (k r.1) r.2

end Prog

namespace Env

/-- The environment that the handler makes of a lower one. -/
def through (handler : Handler Op Ans Op' Ans' σ) (env : Env Op' Ans' τ) : Env Op Ans (σ × τ) :=
  fun o s x s' => Prog.Runs env (handler o s.1) s.2 (some (x, s'.1)) s'.2

/-- The environment that is interrupted before each call. -/
def interrupted (interrupts : σ → σ → Prop) (env : Env Op Ans σ) : Env Op Ans σ :=
  fun o s x s' => ∃ m, interrupts s m ∧ env o m x s'

end Env

namespace Prog

variable {handler : Handler Op Ans Op' Ans' σ} {env : Env Op' Ans' τ}

theorem runs_call_iff {env : Env Op Ans σ} {o : Op} {k : Ans o → Prog Op Ans α} {s s' : σ} {a : α} :
    Runs env (.call o k) s a s' ↔ ∃ x m, env o s x m ∧ Runs env (k x) m a s' := by
  constructor
  · rintro ⟨tr, ht, hp⟩
    obtain ⟨x, tr', rfl, ht'⟩ := trace_call_iff.mp ht
    obtain ⟨m, hm, hp'⟩ := hp
    exact ⟨x, m, hm, tr', ht', hp'⟩
  · rintro ⟨x, m, hm, tr', ht', hp'⟩
    exact ⟨_, .call x ht', m, hm, hp'⟩

/-- **To interpret a program is to run it in the environment that the handler makes.** -/
theorem runs_interp_iff {p : Prog Op Ans α} {s s' : σ} {t t' : τ} {a : α} :
    Runs env (interp handler p s) t (some (a, s')) t' ↔
      Runs (env.through handler) p (s, t) a (s', t') := by
  induction p generalizing s t with
  | ret b =>
    change Runs env (pure (some (b, s))) t (some (a, s')) t' ↔ Runs _ (pure b) (s, t) a (s', t')
    rw [runs_pure_iff, runs_pure_iff, Option.some_inj, Prod.mk.injEq, Prod.mk.injEq, and_assoc]
  | call o k ih =>
    rw [interp, runs_bind_iff, runs_call_iff]
    constructor
    · rintro ⟨r, m, hr, hk⟩
      cases r with
      | none => exact absurd (runs_pure_iff.mp hk).1 (by simp)
      | some r => exact ⟨r.1, (r.2, m), hr, ih r.1 |>.mp hk⟩
    · rintro ⟨x, m, hr, hk⟩
      exact ⟨some (x, m.1), m.2, hr, ih x |>.mpr hk⟩

/-- The trace `tr` of the upper calls with the lower calls that answer it. -/
def Expands (handler : Handler Op Ans Op' Ans' σ) :
    σ → List (Action Op Ans) → List (Action Op' Ans') → σ → Prop
  | s, [], tr', s' => tr' = [] ∧ s' = s
  | s, ⟨o, x⟩ :: tr, tr', s' =>
    ∃ m t₁ t₂, Trace (handler o s) t₁ (some (x, m)) ∧ Expands handler m tr t₂ s' ∧ tr' = t₁ ++ t₂

theorem expands_append {tr₁ tr₂ : List (Action Op Ans)} {t₁ t₂ : List (Action Op' Ans')}
    {s m s' : σ} (h₁ : Expands handler s tr₁ t₁ m) (h₂ : Expands handler m tr₂ t₂ s') :
    Expands handler s (tr₁ ++ tr₂) (t₁ ++ t₂) s' := by
  induction tr₁ generalizing s t₁ with
  | nil =>
    obtain ⟨rfl, rfl⟩ := h₁
    exact h₂
  | cons a tr₁ ih =>
    obtain ⟨n, u₁, u₂, hu, hrest, rfl⟩ := h₁
    exact ⟨n, u₁, u₂ ++ t₂, hu, ih hrest, List.append_assoc u₁ u₂ t₂⟩

/-- **What an interpreted program does is a trace of the program, expanded.** -/
theorem trace_interp_iff {p : Prog Op Ans α} {s s' : σ} {tr' : List (Action Op' Ans')} {a : α} :
    Trace (interp handler p s) tr' (some (a, s')) ↔
      ∃ tr, Trace p tr a ∧ Expands handler s tr tr' s' := by
  induction p generalizing s tr' with
  | ret b =>
    change Trace (pure (some (b, s))) tr' (some (a, s')) ↔ _
    rw [trace_pure_iff]
    constructor
    · rintro ⟨rfl, he⟩
      obtain ⟨rfl, rfl⟩ := Prod.mk.inj (Option.some.inj he)
      exact ⟨[], .ret _, rfl, rfl⟩
    · rintro ⟨tr, ht, hx⟩
      obtain ⟨rfl, rfl⟩ := trace_ret_iff.mp ht
      obtain ⟨rfl, rfl⟩ := hx
      exact ⟨rfl, rfl⟩
  | call o k ih =>
    rw [interp, trace_bind_iff]
    constructor
    · rintro ⟨r, t₁, t₂, hr, hk, rfl⟩
      cases r with
      | none => exact absurd (trace_pure_iff.mp hk).2 (by simp)
      | some r =>
        obtain ⟨tr, ht, hx⟩ := (ih r.1).mp hk
        exact ⟨⟨o, r.1⟩ :: tr, .call r.1 ht, r.2, t₁, t₂, hr, hx, rfl⟩
    · rintro ⟨tr, ht, hx⟩
      obtain ⟨x, rest, rfl, hrest⟩ := trace_call_iff.mp ht
      obtain ⟨m, t₁, t₂, hr, hx, rfl⟩ := hx
      exact ⟨some (x, m), t₁, t₂, hr, (ih x).mpr ⟨rest, hrest, hx⟩, rfl⟩

/-- What the handler keeps, whatever answers its calls, an expansion keeps. -/
theorem Expands.invariant {I : σ → Prop}
    (hI : ∀ o s tr x s', Trace (handler o s) tr (some (x, s')) → I s → I s')
    {tr : List (Action Op Ans)} {tr' : List (Action Op' Ans')} {s s' : σ}
    (h : Expands handler s tr tr' s') (hs : I s) : I s' := by
  induction tr generalizing s tr' with
  | nil =>
    obtain ⟨-, rfl⟩ := h
    exact hs
  | cons a tr ih =>
    obtain ⟨m, t₁, t₂, ht, hrest, -⟩ := h
    exact ih hrest (hI _ _ _ _ _ ht hs)

theorem Expands.path {tr : List (Action Op Ans)} {tr' : List (Action Op' Ans')} {s s' : σ}
    {t t' : τ} (h : Expands handler s tr tr' s') (hp : env.Path t tr' t') :
    (env.through handler).Path (s, t) tr (s', t') := by
  induction tr generalizing s t tr' with
  | nil =>
    obtain ⟨rfl, rfl⟩ := h
    obtain rfl := hp
    rfl
  | cons a tr ih =>
    obtain ⟨m, t₁, t₂, ht, hrest, rfl⟩ := h
    obtain ⟨n, hn, hp⟩ := Env.path_append_iff.mp hp
    exact ⟨(m, n), ⟨t₁, ht, hn⟩, ih hrest hp⟩

/-! ## Some of the calls -/

/-- A program over some of the calls; `g` reads their answers. -/
def embed (f : Op → Op') (g : (o : Op) → Ans' (f o) → Ans o) : Prog Op Ans α → Prog Op' Ans' α
  | .ret a => .ret a
  | .call o k => .call (f o) fun x => embed f g (k (g o x))

theorem trace_embed_iff {f : Op → Op'} {g : (o : Op) → Ans' (f o) → Ans o} {p : Prog Op Ans α}
    {tr' : List (Action Op' Ans')} {a : α} :
    Trace (embed f g p) tr' a ↔ ∃ tr, Trace p tr a ∧
      List.Forall₂ (fun c c' => ∃ x, c' = ⟨f c.1, x⟩ ∧ c.2 = g c.1 x) tr tr' := by
  induction p generalizing tr' with
  | ret b =>
    rw [embed, trace_ret_iff]
    constructor
    · rintro ⟨rfl, rfl⟩
      exact ⟨[], .ret a, .nil⟩
    · rintro ⟨tr, ht, hf⟩
      obtain ⟨rfl, rfl⟩ := trace_ret_iff.mp ht
      exact ⟨List.forall₂_nil_left_iff.mp hf, rfl⟩
  | call o k ih =>
    rw [embed, trace_call_iff]
    constructor
    · rintro ⟨x, rest, rfl, hrest⟩
      obtain ⟨tr, ht, hf⟩ := (ih _).mp hrest
      exact ⟨_, .call (g o x) ht, .cons ⟨x, rfl, rfl⟩ hf⟩
    · rintro ⟨tr, ht, hf⟩
      obtain ⟨y, rest, rfl, hrest⟩ := trace_call_iff.mp ht
      obtain ⟨c', t, ⟨x, rfl, hy⟩, hrel, rfl⟩ := List.forall₂_cons_left_iff.mp hf
      have hy' : y = g o x := hy
      exact ⟨x, t, rfl, (ih _).mpr ⟨rest, hy' ▸ hrest, hrel⟩⟩

end Prog

end Interaction
