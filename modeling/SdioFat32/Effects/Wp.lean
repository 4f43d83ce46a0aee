import SdioFat32.Effects.Env

/-!
# Wp — weakest preconditions over an environment

`Prog.wp env D p Q s` says of every run of `p` from `s` under `env`: each event it performs meets
`env.req`, a run that returns ends in `Q`, and a run that is cut off inside a loop is in a state
of `D`.  With `D := fun _ => False` the program is shown to return.

The rules below follow the syntax of procedures; `iter` has an invariant rule, and `Emits` is the
frame rule: a procedure preserves whatever each event it may perform preserves.
-/

namespace Effects

variable {G E : Type} {R : E → Type} {α β γ σ : Type}

namespace Prog

def wp (env : Env E R σ) (D : σ → Prop) : Prog E R α → (α → σ → Prop) → σ → Prop
  | .ret a, Q, s => Q a s
  | .op e k, Q, s => env.req s e ∧ ∀ r s', env.step s e r s' → (k r).wp env D Q s'
  -- The loop that was cut off here would have gone on.
  | .spin, _, s => D s

variable {env : Env E R σ} {D : σ → Prop} {Q Q' : α → σ → Prop}

theorem wp_mono {p : Prog E R α} {s : σ} (h : p.wp env D Q s) (hQ : ∀ a s, Q a s → Q' a s) :
    p.wp env D Q' s := by
  induction p generalizing s with
  | ret a => exact hQ a s h
  | op e k ih => exact ⟨h.1, fun r s' hstep => ih r (h.2 r s' hstep)⟩
  | spin => exact h

theorem wp_and {p : Prog E R α} {s : σ} (h : p.wp env D Q s) (h' : p.wp env D Q' s) :
    p.wp env D (fun a s' => Q a s' ∧ Q' a s') s := by
  induction p generalizing s with
  | ret a => exact ⟨h, h'⟩
  | op e k ih => exact ⟨h.1, fun r s' hstep => ih r (h.2 r s' hstep) (h'.2 r s' hstep)⟩
  | spin => exact h

theorem wp_bind {p : Prog E R α} {f : α → Prog E R β} {Q : β → σ → Prop} {s : σ} :
    (p.bind f).wp env D Q s ↔ p.wp env D (fun a s' => (f a).wp env D Q s') s := by
  induction p generalizing s with
  | ret a => rfl
  | op e k ih =>
      simp only [bind, wp, ih]
  | spin => rfl

/-! ## Soundness against runs -/

theorem wp_runs {p : Prog E R α} {s s' : σ} {a : α} (h : p.wp env D Q s)
    (hrun : Runs env p s a s') : Q a s' := by
  induction hrun with
  | ret a s => exact h
  | op hstep _ ih => exact ih (h.2 _ _ hstep)

theorem wp_reaches {p q : Prog E R α} {s s' : σ} (h : p.wp env D Q s)
    (hreach : Reaches env p s q s') : q.wp env D Q s' := by
  induction hreach with
  | here p s => exact h
  | op hstep _ ih => exact ih (h.2 _ _ hstep)

theorem wp_req {p : Prog E R α} {e : E} {k : R e → Prog E R α} {s s' : σ}
    (h : p.wp env D Q s) (hreach : Reaches env p s (.op e k) s') : env.req s' e :=
  (wp_reaches h hreach).1

/-- What the requirement and the postcondition imply holds in every state that is reached. -/
theorem wp_invariant {p q : Prog E R α} {I : σ → Prop} {s s' : σ} (h : p.wp env D Q s)
    (hreq : ∀ s e, env.req s e → I s) (hpost : ∀ a s, Q a s → I s) (hcut : ∀ s, D s → I s)
    (hreach : Reaches env p s q s') : I s' := by
  have hwp := wp_reaches h hreach
  cases q with
  | ret a => exact hpost a s' hwp
  | op e k => exact hreq s' e hwp.1
  | spin => exact hcut s' hwp

/-- Another environment may do less and require less. -/
theorem wp_narrow {env' : Env E R σ} {p : Prog E R α} {s : σ}
    (hstep : ∀ s e r s', env'.step s e r s' → env.step s e r s')
    (hreq : ∀ s e, env.req s e → env'.req s e) (h : p.wp env D Q s) : p.wp env' D Q s := by
  induction p generalizing s with
  | ret a => exact h
  | op e k ih => exact ⟨hreq s e h.1, fun r s' hs => ih r (h.2 r s' (hstep s e r s' hs))⟩
  | spin => exact h

/-- Under an environment that requires nothing, every program has the trivial postcondition. -/
theorem wp_lax {p : Prog E R α} {s : σ} :
    p.wp env.lax (fun _ => True) (fun _ _ => True) s := by
  induction p generalizing s with
  | ret a => trivial
  | op e k ih => exact ⟨trivial, fun r s' _ => ih r⟩
  | spin => trivial

/-- What is shown of the transitions alone adds to what is shown under the requirements. -/
theorem wp_and_lax {p : Prog E R α} {s : σ} (h : p.wp env D Q s) (h' : p.wp env.lax D Q' s) :
    p.wp env D (fun a s' => Q a s' ∧ Q' a s') s := by
  induction p generalizing s with
  | ret a => exact ⟨h, h'⟩
  | op e k ih => exact ⟨h.1, fun r s' hstep => ih r (h.2 r s' hstep) (h'.2 r s' hstep)⟩
  | spin => exact h

/-- Against an environment that always answers, a program that is shown to return has a run. -/
theorem exists_run {p : Prog E R α} {s : σ} (h : p.wp env (fun _ => False) Q s)
    (hlive : ∀ s e, ∃ r s', env.step s e r s') : ∃ a s', Runs env p s a s' ∧ Q a s' := by
  induction p generalizing s with
  | ret a => exact ⟨a, s, .ret a s, h⟩
  | op e k ih =>
      rcases hlive s e with ⟨r, s₁, hstep⟩
      rcases ih r (h.2 r s₁ hstep) with ⟨a, s', hrun, hpost⟩
      exact ⟨a, s', .op hstep hrun, hpost⟩
  | spin => exact h.elim

theorem wp_not_spin {p : Prog E R α} {s s' : σ} (h : p.wp env (fun _ => False) Q s) :
    ¬ Reaches env p s .spin s' := by
  intro hreach
  exact wp_reaches h hreach

end Prog

namespace Proc

def wp (env : Env E R σ) (D : σ → Prop) (p : Proc G E R α) (Q : α → G → σ → Prop) (g : G)
    (s : σ) : Prop :=
  (p g).wp env D (fun x s' => Q x.1 x.2 s') s

variable {env : Env E R σ} {D : σ → Prop} {Q Q' : α → G → σ → Prop} {g : G} {s : σ}

theorem wp_mono {p : Proc G E R α} (h : p.wp env D Q g s)
    (hQ : ∀ a g s, Q a g s → Q' a g s) : p.wp env D Q' g s :=
  Prog.wp_mono h (fun x s' => hQ x.1 x.2 s')

theorem wp_and {p : Proc G E R α} (h : p.wp env D Q g s) (h' : p.wp env D Q' g s) :
    p.wp env D (fun a g' s' => Q a g' s' ∧ Q' a g' s') g s :=
  Prog.wp_and h h'

theorem wp_runs {p : Proc G E R α} {a : α} {g' : G} {s' : σ} (h : p.wp env D Q g s)
    (hrun : Runs env (p g) s (a, g') s') : Q a g' s' := by
  have hpost := Prog.wp_runs h hrun
  exact hpost

theorem exists_run {p : Proc G E R α} (h : p.wp env (fun _ => False) Q g s)
    (hlive : ∀ s e, ∃ r s', env.step s e r s') :
    ∃ a g' s', Runs env (p g) s (a, g') s' ∧ Q a g' s' := by
  rcases Prog.exists_run h hlive with ⟨⟨a, g'⟩, s', hrun, hpost⟩
  exact ⟨a, g', s', hrun, hpost⟩

theorem wp_invariant {p : Proc G E R α} {q : Prog E R (α × G)} {I : σ → Prop} {s' : σ}
    (h : p.wp env D Q g s) (hreq : ∀ s e, env.req s e → I s) (hpost : ∀ a g s, Q a g s → I s)
    (hcut : ∀ s, D s → I s) (hreach : Reaches env (p g) s q s') : I s' :=
  Prog.wp_invariant h hreq (fun x s => hpost x.1 x.2 s) hcut hreach

theorem wp_narrow {env' : Env E R σ} {p : Proc G E R α}
    (hstep : ∀ s e r s', env'.step s e r s' → env.step s e r s')
    (hreq : ∀ s e, env.req s e → env'.req s e) (h : p.wp env D Q g s) : p.wp env' D Q g s :=
  Prog.wp_narrow hstep hreq h

theorem wp_lax {p : Proc G E R α} : p.wp env.lax (fun _ => True) (fun _ _ _ => True) g s :=
  Prog.wp_lax

theorem wp_relax {p : Proc G E R α} (h : p.wp env D Q g s) : p.wp env.lax D Q g s := by
  refine wp_narrow ?_ ?_ h
  · exact fun _ _ _ _ hstep => hstep
  · exact fun _ _ _ => trivial

theorem wp_and_lax {p : Proc G E R α} (h : p.wp env D Q g s) (h' : p.wp env.lax D Q' g s) :
    p.wp env D (fun a g' s' => Q a g' s' ∧ Q' a g' s') g s :=
  Prog.wp_and_lax h h'

/-! ## One rule per construct -/

@[simp] theorem wp_pure {a : α} : (pure a : Proc G E R α).wp env D Q g s ↔ Q a g s := Iff.rfl

@[simp] theorem wp_bind {p : Proc G E R α} {f : α → Proc G E R β} {Q : β → G → σ → Prop} :
    (p >>= f).wp env D Q g s ↔ p.wp env D (fun a g' s' => (f a).wp env D Q g' s') g s :=
  Prog.wp_bind

@[simp] theorem wp_perform {e : E} {Q : R e → G → σ → Prop} :
    (perform e : Proc G E R (R e)).wp env D Q g s ↔
      env.req s e ∧ ∀ r s', env.step s e r s' → Q r g s' := Iff.rfl

/-- An event that has one answer. -/
theorem wp_perform_answered {e : E} {r : R e} {s₁ : σ} {Q : R e → G → σ → Prop}
    (hreq : env.req s e) (hstep : ∀ r' s', env.step s e r' s' ↔ r' = r ∧ s' = s₁) :
    (perform e : Proc G E R (R e)).wp env D Q g s ↔ Q r g s₁ := by
  rw [wp_perform]
  constructor
  · rintro ⟨_, h⟩
    exact h r s₁ ((hstep r s₁).2 ⟨rfl, rfl⟩)
  · intro h
    refine ⟨hreq, ?_⟩
    intro r' s' hanswer
    rcases (hstep r' s').1 hanswer with ⟨rfl, rfl⟩
    exact h

@[simp] theorem wp_globals {Q : G → G → σ → Prop} :
    (globals : Proc G E R G).wp env D Q g s ↔ Q g g s := Iff.rfl

@[simp] theorem wp_assign {f : G → G} {Q : Unit → G → σ → Prop} :
    (assign f : Proc G E R Unit).wp env D Q g s ↔ Q () (f g) s := Iff.rfl

/-- A test that may end the procedure. -/
theorem wp_guard {c : Prop} [Decidable c] {a : α} {p : Proc G E R α} (hstop : c → Q a g s)
    (hgo : ¬c → p.wp env D Q g s) : (if c then pure a else p).wp env D Q g s := by
  split
  · rename_i hc
    exact hstop hc
  · rename_i hc
    exact hgo hc

/-- Sequencing with an intermediate assertion. -/
theorem wp_seq {p : Proc G E R α} {f : α → Proc G E R β} {P : α → G → σ → Prop}
    {Q : β → G → σ → Prop} (hp : p.wp env D P g s)
    (hf : ∀ a g' s', P a g' s' → (f a).wp env D Q g' s') : (p >>= f).wp env D Q g s :=
  wp_bind.2 (wp_mono hp hf)

/-- A loop keeps its invariant for as long as it runs. -/
theorem wp_iter {body : β → Proc G E R (β ⊕ α)} (I : β → G → σ → Prop)
    (hbody : ∀ b g s, I b g s →
      (body b).wp env D (fun r g' s' => r.elim (fun b' => I b' g' s') (fun a => Q a g' s')) g s)
    (hcut : ∀ b g s, I b g s → D s) :
    ∀ (n : Nat) {b : β} {g : G} {s : σ}, I b g s → (iter body n b).wp env D Q g s := by
  intro n
  induction n with
  | zero =>
      -- The bound is reached inside the loop.
      intro b g s hI
      exact hcut b g s hI
  | succ n ih =>
      intro b g s hI
      refine wp_seq (hbody b g s hI) ?_
      intro r g' s' hr
      cases r with
      | inl b' => exact ih hr
      | inr a => exact hr

/-- A loop whose measure drops in every iteration leaves within its bound. -/
theorem wp_iter_total {body : β → Proc G E R (β ⊕ α)} (I : β → G → σ → Prop)
    (μ : β → G → σ → Nat)
    (hbody : ∀ b g s, I b g s →
      (body b).wp env D (fun r g' s' =>
        r.elim (fun b' => I b' g' s' ∧ μ b' g' s' < μ b g s) (fun a => Q a g' s')) g s) :
    ∀ (n : Nat) {b : β} {g : G} {s : σ}, I b g s → μ b g s < n →
      (iter body n b).wp env D Q g s := by
  intro n
  induction n with
  | zero =>
      -- A measure of at least 0 leaves at least one iteration.
      intro b g s _ hμ
      exact absurd hμ (Nat.not_lt_zero _)
  | succ n ih =>
      intro b g s hI hμ
      refine wp_seq (hbody b g s hI) ?_
      intro r g' s' hr
      cases r with
      | inl b' =>
          -- The next iteration starts with a smaller measure and one unit of the bound less.
          obtain ⟨hI', hlt⟩ := hr
          exact ih hI' (by omega)
      | inr a => exact hr

/-- A loop of which it may be unknown that it leaves: then it may be cut off anywhere. -/
theorem wp_iter_live {body : β → Proc G E R (β ⊕ α)} {total : Prop} (I : β → G → σ → Prop)
    (μ : β → G → σ → Nat)
    (hbody : ∀ b g s, I b g s →
      (body b).wp env D (fun r g' s' =>
        r.elim (fun b' => I b' g' s' ∧ (total → μ b' g' s' < μ b g s)) (fun a => Q a g' s')) g s)
    (n : Nat) {b : β} {g : G} {s : σ} (hI : I b g s)
    (hlive : (∀ s, D s) ∨ total ∧ μ b g s < n) : (iter body n b).wp env D Q g s := by
  rcases hlive with hcut | ⟨htotal, hμ⟩
  · refine wp_iter I (fun b₁ g₁ s₁ h₁ => ?_) (fun _ _ s₁ _ => hcut s₁) n hI
    refine wp_mono (hbody b₁ g₁ s₁ h₁) ?_
    intro r g' s' hr
    cases r with
    | inl b' => exact hr.1
    | inr a => exact hr
  · refine wp_iter_total I μ (fun b₁ g₁ s₁ h₁ => ?_) n hI hμ
    refine wp_mono (hbody b₁ g₁ s₁ h₁) ?_
    intro r g' s' hr
    cases r with
    | inl b' => exact ⟨hr.1, hr.2 htotal⟩
    | inr a => exact hr

end Proc

/-! ## The frame rule -/

/-- Every event the program may perform satisfies `P`; a loop may be cut off only if `cut`. -/
def Prog.Emits (P : E → Prop) (cut : Prop) : Prog E R α → Prop
  | .ret _ => True
  | .op e k => P e ∧ ∀ r, (k r).Emits P cut
  | .spin => cut

variable {P P' : E → Prop} {cut : Prop}

theorem Prog.Emits.bind {p : Prog E R α} {f : α → Prog E R β}
    (hp : p.Emits P cut) (hf : ∀ a, (f a).Emits P cut) : (p.bind f).Emits P cut := by
  induction p with
  | ret a => exact hf a
  | op e k ih => exact ⟨hp.1, fun r => ih r (hp.2 r)⟩
  | spin => exact hp

theorem Prog.Emits.mono {p : Prog E R α} (hp : p.Emits P cut) (h : ∀ e, P e → P' e) :
    p.Emits P' cut := by
  induction p with
  | ret a => trivial
  | op e k ih => exact ⟨h e hp.1, fun r => ih r (hp.2 r)⟩
  | spin => exact hp

/-- A program that is never cut off returns against every strategy. -/
theorem Prog.Emits.exec_isSome {p : Prog E R α} (hp : p.Emits P False)
    (answer : σ → (e : E) → R e × σ) (s : σ) : (p.exec answer s).isSome := by
  induction p generalizing s with
  | ret a => rfl
  | op e k ih => exact ih (answer s e).1 (hp.2 (answer s e).1) (answer s e).2
  | spin => exact hp.elim

/-- What is emitted does not depend on where a loop may be cut off. -/
theorem Prog.Emits.cutAnywhere {p : Prog E R α} (hp : p.Emits P cut) : p.Emits P True := by
  induction p with
  | ret a => trivial
  | op e k ih => exact ⟨hp.1, fun r => ih r (hp.2 r)⟩
  | spin => trivial

/-- Another environment with the same steps may require something else of the program. -/
theorem Prog.wp_relabel {env env' : Env E R σ} {D : σ → Prop} {Q : α → σ → Prop}
    (hstep : env'.step = env.step) (hreq : ∀ s e, P e → env'.req s e) {p : Prog E R α}
    (hp : p.Emits P cut) {s : σ} (h : p.wp env D Q s) : p.wp env' D Q s := by
  induction p generalizing s with
  | ret a => exact h
  | op e k ih =>
      refine ⟨hreq s e hp.1, fun r s' hs => ih r (hp.2 r) (h.2 r s' ?_)⟩
      rw [← hstep]
      exact hs
  | spin => exact h

theorem Prog.wp_of_emits {env : Env E R σ} {D : σ → Prop} {I : σ → Prop}
    (hstep : ∀ s e, I s → P e → env.req s e ∧ ∀ r s', env.step s e r s' → I s')
    (hcut : ∀ s, cut → I s → D s) {p : Prog E R α} (hp : p.Emits P cut) {s : σ} (hs : I s) :
    p.wp env D (fun _ s' => I s') s := by
  induction p generalizing s with
  | ret a => exact hs
  | op e k ih =>
      obtain ⟨hreq, hnext⟩ := hstep s e hs hp.1
      exact ⟨hreq, fun r s' h => ih r (hp.2 r) (hnext r s' h)⟩
  | spin => exact hcut s hp hs

namespace Proc

def Emits (P : E → Prop) (cut : Prop) (p : Proc G E R α) : Prop :=
  ∀ g, (p g).Emits P cut

theorem Emits.bind {p : Proc G E R α} {f : α → Proc G E R β} (hp : p.Emits P cut)
    (hf : ∀ a, (f a).Emits P cut) : (p >>= f).Emits P cut :=
  fun g => (hp g).bind (fun x => hf x.1 x.2)

theorem Emits.mono {p : Proc G E R α} (hp : p.Emits P cut) (h : ∀ e, P e → P' e) :
    p.Emits P' cut :=
  fun g => (hp g).mono h

theorem Emits.cutAnywhere {p : Proc G E R α} (hp : p.Emits P cut) : p.Emits P True :=
  fun g => (hp g).cutAnywhere

@[simp] theorem emits_pure (a : α) : (pure a : Proc G E R α).Emits P cut := fun _ => trivial

theorem emits_perform {e : E} (h : P e) : (perform e : Proc G E R (R e)).Emits P cut :=
  fun _ => ⟨h, fun _ => trivial⟩

@[simp] theorem emits_globals : (globals : Proc G E R G).Emits P cut := fun _ => trivial

@[simp] theorem emits_assign (f : G → G) : (assign f : Proc G E R Unit).Emits P cut :=
  fun _ => trivial

theorem emits_ite {c : Prop} [Decidable c] {p q : Proc G E R α} (hp : p.Emits P cut)
    (hq : q.Emits P cut) : (if c then p else q).Emits P cut := by
  split
  · exact hp
  · exact hq

theorem emits_iter {body : β → Proc G E R (β ⊕ α)} (hbody : ∀ b, (body b).Emits P True) :
    ∀ (n : Nat) (b : β), (iter body n b).Emits P True := by
  intro n
  induction n with
  | zero =>
      intro b g
      trivial
  | succ n ih =>
      intro b
      refine (hbody b).bind ?_
      intro r
      cases r with
      | inl b' => exact ih b'
      | inr a => exact emits_pure a

theorem wp_relabel {env env' : Env E R σ} {D : σ → Prop} {Q : α → G → σ → Prop}
    {p : Proc G E R α} (hp : p.Emits P cut) (hstep : env'.step = env.step)
    (hreq : ∀ s e, P e → env'.req s e) {g : G} {s : σ} (h : p.wp env D Q g s) :
    p.wp env' D Q g s :=
  Prog.wp_relabel hstep hreq (hp g) h

/-- A procedure preserves what all its events preserve. -/
theorem wp_frame {env : Env E R σ} {D : σ → Prop} {I : σ → Prop} {p : Proc G E R α}
    (hp : p.Emits P cut)
    (hstep : ∀ s e, I s → P e → env.req s e ∧ ∀ r s', env.step s e r s' → I s')
    (hcut : ∀ s, cut → I s → D s) {g : G} {s : σ} (hs : I s) :
    p.wp env D (fun _ _ s' => I s') g s :=
  Prog.wp_of_emits hstep hcut (hp g) hs

/-- Any procedure preserves what every event preserves. -/
theorem wp_of_step {env : Env E R σ} {D : σ → Prop} {I : σ → Prop} {p : Proc G E R α}
    (hstep : ∀ s e, I s → env.req s e ∧ ∀ r s', env.step s e r s' → I s')
    (hcut : ∀ s, I s → D s) {g : G} {s : σ} (hs : I s) :
    p.wp env D (fun _ _ s' => I s') g s := by
  have hany : ∀ q : Prog E R (α × G), q.Emits (fun _ => True) True := by
    intro q
    induction q with
    | ret a => trivial
    | op e k ih => exact ⟨trivial, ih⟩
    | spin => trivial
  exact wp_frame (fun g => hany (p g)) (fun s e hI _ => hstep s e hI) (fun s _ hI => hcut s hI) hs

end Proc

end Effects
