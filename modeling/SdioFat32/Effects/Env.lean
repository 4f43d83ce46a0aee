import SdioFat32.Effects.Prog

/-!
# Env — environments and runs

An environment is a labelled transition system: it says which responses an event may get in a
hidden state and how that state moves.  `req` is what a program must respect when it performs an
event.  This file defines:

* `Runs env p s a s'` — a complete run of `p` from `s` that returns `a` in `s'`;
* `Reaches env p s q s'` — a partial run that leaves `q` to be executed;
* `Prog.exec` — the run against a deterministic strategy, so that a run can be computed.
-/

namespace Effects

structure Env (E : Type) (R : E → Type) (σ : Type) where
  req : σ → E → Prop := fun _ _ => True
  step : σ → (e : E) → R e → σ → Prop

variable {G E : Type} {R : E → Type} {α β σ : Type} {env : Env E R σ}

inductive Runs (env : Env E R σ) : Prog E R α → σ → α → σ → Prop where
  | ret (a : α) (s : σ) : Runs env (.ret a) s a s
  | op {e : E} {k : R e → Prog E R α} {r : R e} {a : α} {s s₁ s' : σ} :
      env.step s e r s₁ → Runs env (k r) s₁ a s' → Runs env (.op e k) s a s'

inductive Reaches (env : Env E R σ) : Prog E R α → σ → Prog E R α → σ → Prop where
  | here (p : Prog E R α) (s : σ) : Reaches env p s p s
  | op {e : E} {k : R e → Prog E R α} {r : R e} {q : Prog E R α} {s s₁ s' : σ} :
      env.step s e r s₁ → Reaches env (k r) s₁ q s' → Reaches env (.op e k) s q s'

/-- The same transitions, with nothing for the program to respect. -/
def Env.lax (env : Env E R σ) : Env E R σ where
  step := env.step

theorem Runs.lax {p : Prog E R α} {a : α} {s s' : σ} (h : Runs env p s a s') :
    Runs env.lax p s a s' := by
  induction h with
  | ret a s => exact .ret a s
  | op hstep _ ih => exact .op hstep ih

/-- A run reaches its end. -/
theorem Runs.reaches {p : Prog E R α} {a : α} {s s' : σ} (h : Runs env p s a s') :
    Reaches env p s (.ret a) s' := by
  induction h with
  | ret a s => exact .here _ s
  | op hstep _ ih => exact .op hstep ih

/-- A run is a run of an environment that can do more. -/
theorem Runs.widen {env' : Env E R σ} {p : Prog E R α} {a : α} {s s' : σ}
    (hstep : ∀ s e r s', env.step s e r s' → env'.step s e r s') (h : Runs env p s a s') :
    Runs env' p s a s' := by
  induction h with
  | ret a s => exact .ret a s
  | op h _ ih => exact .op (hstep _ _ _ _ h) ih

theorem Reaches.widen {env' : Env E R σ} {p q : Prog E R α} {s s' : σ}
    (hstep : ∀ s e r s', env.step s e r s' → env'.step s e r s') (h : Reaches env p s q s') :
    Reaches env' p s q s' := by
  induction h with
  | here p s => exact .here p s
  | op h _ ih => exact .op (hstep _ _ _ _ h) ih

/-! ## Runs of a sequence -/

theorem Runs.bind {p : Prog E R α} {f : α → Prog E R β} {a : α} {b : β} {s s₁ s' : σ}
    (hp : Runs env p s a s₁) (hf : Runs env (f a) s₁ b s') : Runs env (p.bind f) s b s' := by
  induction hp with
  | ret a s => exact hf
  | op hstep _ ih => exact .op hstep (ih hf)

theorem Runs.of_bind {p : Prog E R α} {f : α → Prog E R β} {b : β} {s s' : σ}
    (h : Runs env (p.bind f) s b s') :
    ∃ a s₁, Runs env p s a s₁ ∧ Runs env (f a) s₁ b s' := by
  induction p generalizing s with
  | ret a => exact ⟨a, s, .ret a s, h⟩
  | op e k ih =>
      -- The first event of the sequence is the first event of `p`.
      cases h with
      | op hstep hrest =>
          obtain ⟨a, s₁, hk, hf⟩ := ih _ hrest
          exact ⟨a, s₁, .op hstep hk, hf⟩
  | spin => cases h

theorem runs_bind_iff {p : Prog E R α} {f : α → Prog E R β} {b : β} {s s' : σ} :
    Runs env (p.bind f) s b s' ↔ ∃ a s₁, Runs env p s a s₁ ∧ Runs env (f a) s₁ b s' := by
  constructor
  · exact Runs.of_bind
  · rintro ⟨a, s₁, hp, hf⟩
    exact hp.bind hf

/-- A sequence gets to wherever its second program gets to. -/
theorem Reaches.bind {p : Prog E R α} {f : α → Prog E R β} {q : Prog E R β} {a : α} {s s₁ s' : σ}
    (hp : Runs env p s a s₁) (hf : Reaches env (f a) s₁ q s') :
    Reaches env (p.bind f) s q s' := by
  induction hp with
  | ret a s => exact hf
  | op hstep _ ih => exact .op hstep (ih hf)

theorem Proc.reaches_bind {p : Proc G E R α} {f : α → Proc G E R β} {g g₁ : G} {a : α}
    {q : Prog E R (β × G)} {s s₁ s' : σ} (hp : Runs env (p g) s (a, g₁) s₁)
    (hf : Reaches env (f a g₁) s₁ q s') : Reaches env ((p >>= f) g) s q s' :=
  Reaches.bind hp hf

/-- A run of a sequence of procedures is a run of the first and then one of the second. -/
theorem Proc.runs_bind_iff {p : Proc G E R α} {f : α → Proc G E R β} {g g' : G} {b : β}
    {s s' : σ} :
    Runs env ((p >>= f) g) s (b, g') s' ↔
      ∃ a g₁ s₁, Runs env (p g) s (a, g₁) s₁ ∧ Runs env (f a g₁) s₁ (b, g') s' := by
  constructor
  · intro h
    obtain ⟨⟨a, g₁⟩, s₁, hp, hf⟩ := Runs.of_bind h
    exact ⟨a, g₁, s₁, hp, hf⟩
  · rintro ⟨a, g₁, s₁, hp, hf⟩
    exact hp.bind hf

/-- Where there is always an answer, a program returns or is cut off inside a loop. -/
theorem Prog.returns_or_spins (hlive : ∀ s e, ∃ r s', env.step s e r s') (p : Prog E R α) (s : σ) :
    (∃ a s', Runs env p s a s') ∨ ∃ s', Reaches env p s .spin s' := by
  induction p generalizing s with
  | ret a => exact Or.inl ⟨a, s, .ret a s⟩
  | op e k ih =>
      rcases hlive s e with ⟨r, s₁, hstep⟩
      rcases ih r s₁ with ⟨a, s', hrun⟩ | ⟨s', hreach⟩
      · exact Or.inl ⟨a, s', .op hstep hrun⟩
      · exact Or.inr ⟨s', .op hstep hreach⟩
  | spin => exact Or.inr ⟨s, .here _ s⟩

/-! ## Runs against a strategy -/

namespace Prog

/-- Run a program against a strategy that answers every event. -/
def exec (answer : σ → (e : E) → R e × σ) : Prog E R α → σ → Option (α × σ)
  | .ret a, s => some (a, s)
  | .op e k, s => (k (answer s e).1).exec answer (answer s e).2
  | .spin, _ => none

/-- The first `n` events of a run against a strategy: what is left, and the state. -/
def after (answer : σ → (e : E) → R e × σ) : Nat → Prog E R α → σ → Prog E R α × σ
  | n + 1, .op e k, s => after answer n (k (answer s e).1) (answer s e).2
  | _, p, s => (p, s)

/-- The event a program performs next. -/
def next? : Prog E R α → Option E
  | .op e _ => some e
  | _ => none

theorem eq_op_of_next? {p : Prog E R α} {e : E} (h : p.next? = some e) :
    ∃ k, p = .op e k := by
  cases p with
  | op e' k =>
      cases h
      exact ⟨k, rfl⟩
  | ret a => cases h
  | spin => cases h

theorem after_reaches {answer : σ → (e : E) → R e × σ}
    (hanswer : ∀ s e, env.step s e (answer s e).1 (answer s e).2) (n : Nat)
    (p : Prog E R α) (s : σ) :
    Reaches env p s (p.after answer n s).1 (p.after answer n s).2 := by
  induction n generalizing p s with
  | zero => exact .here p s
  | succ n ih =>
      cases p with
      | ret a => exact .here _ s
      | op e k => exact .op (hanswer s e) (ih _ _)
      | spin => exact .here _ s

/-- Where a strategy gets to, if another event comes next. -/
theorem after_op {answer : σ → (e : E) → R e × σ}
    (hanswer : ∀ s e, env.step s e (answer s e).1 (answer s e).2) (n : Nat) {p : Prog E R α}
    {s : σ} {e : E} (h : (p.after answer n s).1.next? = some e) :
    ∃ k, Reaches env p s (.op e k) (p.after answer n s).2 := by
  rcases eq_op_of_next? h with ⟨k, hk⟩
  have hreach := after_reaches hanswer n p s
  rw [hk] at hreach
  exact ⟨k, hreach⟩

/-- The same, with a view of the state. -/
theorem after_stops {answer : σ → (e : E) → R e × σ} (view : σ → β)
    (hanswer : ∀ s e, env.step s e (answer s e).1 (answer s e).2) (n : Nat)
    {p : Prog E R α} {s : σ} {e : E} {b : β}
    (h : ((p.after answer n s).1.next?, view (p.after answer n s).2) = (some e, b)) :
    ∃ k s', Reaches env p s (.op e k) s' ∧ view s' = b := by
  rcases Prod.mk.inj h with ⟨hnext, hview⟩
  rcases after_op hanswer n hnext with ⟨k, hreach⟩
  exact ⟨k, _, hreach, hview⟩

/-- A strategy that the environment allows computes runs of the environment. -/
theorem exec_runs {answer : σ → (e : E) → R e × σ}
    (hanswer : ∀ s e, env.step s e (answer s e).1 (answer s e).2)
    {p : Prog E R α} {s s' : σ} {a : α} (h : p.exec answer s = some (a, s')) :
    Runs env p s a s' := by
  induction p generalizing s with
  | ret b =>
      cases h
      exact .ret _ _
  | op e k ih => exact .op (hanswer s e) (ih _ h)
  | spin => cases h

/-- The same for what is seen of the end: the result, and a view of the state. -/
theorem exec_ends {G : Type} {answer : σ → (e : E) → R e × σ} (view : σ → β)
    (hanswer : ∀ s e, env.step s e (answer s e).1 (answer s e).2)
    {p : Prog E R (α × G)} {s : σ} {a : α} {b : β}
    (h : (p.exec answer s).map (fun x => (x.1.1, view x.2)) = some (a, b)) :
    ∃ g' s', Runs env p s (a, g') s' ∧ view s' = b := by
  rcases Option.map_eq_some_iff.1 h with ⟨⟨⟨a', g'⟩, s'⟩, hexec, hend⟩
  rcases Prod.mk.inj hend with ⟨rfl, hview⟩
  exact ⟨g', s', exec_runs hanswer hexec, hview⟩

theorem exec_returns {G : Type} {answer : σ → (e : E) → R e × σ}
    (hanswer : ∀ s e, env.step s e (answer s e).1 (answer s e).2)
    {p : Prog E R (α × G)} {s : σ} {a : α}
    (h : (p.exec answer s).map (fun x => x.1.1) = some a) : ∃ g' s', Runs env p s (a, g') s' := by
  rcases Option.map_eq_some_iff.1 h with ⟨⟨⟨a', g'⟩, s'⟩, hexec, rfl⟩
  exact ⟨g', s', exec_runs hanswer hexec⟩

theorem exec_bind (answer : σ → (e : E) → R e × σ) (p : Prog E R α) (f : α → Prog E R β) (s : σ) :
    (p.bind f).exec answer s = (p.exec answer s).bind fun x => (f x.1).exec answer x.2 := by
  induction p generalizing s with
  | ret a => rfl
  | op e k ih => exact ih _ _
  | spin => rfl

end Prog

namespace Proc

variable {answer : σ → (e : E) → R e × σ} {g : G} {s : σ}

@[simp] theorem exec_bind {p : Proc G E R α} {f : α → Proc G E R β} :
    ((p >>= f) g).exec answer s =
      ((p g).exec answer s).bind fun x => (f x.1.1 x.1.2).exec answer x.2 :=
  Prog.exec_bind answer (p g) (fun x => f x.1 x.2) s

@[simp] theorem exec_pure {a : α} :
    ((pure a : Proc G E R α) g).exec answer s = some ((a, g), s) := rfl

@[simp] theorem exec_globals :
    ((globals : Proc G E R G) g).exec answer s = some ((g, g), s) := rfl

end Proc

/-- The environment that follows a strategy. -/
def Env.following (answer : σ → (e : E) → R e × σ) : Env E R σ where
  step s e r s' := (r, s') = answer s e

theorem Env.following_step (answer : σ → (e : E) → R e × σ) (s : σ) (e : E) :
    (Env.following answer).step s e (answer s e).1 (answer s e).2 := rfl

theorem Env.following_runs {answer : σ → (e : E) → R e × σ} {p : Prog E R α} {s s' : σ} {a : α}
    (h : p.exec answer s = some (a, s')) : Runs (Env.following answer) p s a s' :=
  Prog.exec_runs (Env.following_step answer) h

end Effects
