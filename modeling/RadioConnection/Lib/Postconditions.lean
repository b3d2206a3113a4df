import RadioConnection.Lib.Interaction

/-!
# Postconditions of programs

What a program ends with, whatever its environment answers.  The rules follow the
program, so that a postcondition is proved along its `do` block.

* `Prog.Ends p post`: `p` only ends with values that satisfy `post`.
* `ends_pure`, `ends_ask_bind`, `ends_bind`, `ends_ite`: a rule for each way to put a
  program together.
-/

namespace Interaction

namespace Prog

variable {Op : Type} {Ans : Op → Type} {α β : Type} {p : Prog Op Ans α} {post : α → Prop}

def Ends (p : Prog Op Ans α) (post : α → Prop) : Prop := ∀ tr a, Trace p tr a → post a

theorem ends_pure {a : α} (h : post a) : Ends (pure a : Prog Op Ans α) post := by
  intro tr b ht
  rw [(trace_pure_iff.mp ht).2]
  exact h

theorem ends_bind {q : α → Prog Op Ans β} {post' : β → Prop} (hp : Ends p post)
    (hq : ∀ a, post a → Ends (q a) post') : Ends (p >>= q) post' := by
  intro tr b ht
  obtain ⟨a, t₁, t₂, h₁, h₂, -⟩ := trace_bind_iff.mp ht
  exact hq a (hp t₁ a h₁) t₂ b h₂

theorem ends_ask_bind {o : Op} {q : Ans o → Prog Op Ans β} {post' : β → Prop}
    (hq : ∀ x, Ends (q x) post') : Ends (ask o >>= q) post' :=
  ends_bind (fun _ _ _ => trivial : Ends (ask o) fun _ => True) fun x _ => hq x

theorem ends_ite {c : Prop} [Decidable c] {q : Prog Op Ans α} (hp : c → Ends p post)
    (hq : ¬ c → Ends q post) : Ends (if c then p else q) post := by
  split
  · rename_i hc
    exact hp hc
  · rename_i hc
    exact hq hc

theorem Ends.of_runs {σ : Type} {env : Env Op Ans σ} {s s' : σ} {a : α} (hp : Ends p post)
    (h : Runs env p s a s') : post a := by
  obtain ⟨tr, ht, -⟩ := h
  exact hp tr a ht

end Prog

end Interaction
