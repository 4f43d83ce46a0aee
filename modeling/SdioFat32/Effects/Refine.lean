import SdioFat32.Effects.Interp

/-!
# Refine — what a program over a lower layer looks like from above

A state of the lower layer is looked at through a `view`.  This file defines:

* `Prog.wp_view` — what is shown over the upper environment holds over the lower one, for a
  program whose events do there what the view shows of them;
* `Handles` — every implementation of an event is a step of the upper environment;
* `Handles.runs` — then every run of an interpreted program is a run of the program itself;
* `Proc.Keeps` — a part of the globals that a procedure does not change.
-/

namespace Effects

variable {G H E E' : Type} {R : E → Type} {R' : E' → Type} {α β σ σ' : Type}

/-! ## A view of the state -/

/-- `J` is what the lower layer keeps besides; the events of the program satisfy `P`. -/
structure Shown (env : Env E R σ) (env' : Env E R σ') (view : σ' → σ) (P : E → Prop)
    (J : σ' → Prop) : Prop where
  req : ∀ s e, J s → P e → env.req (view s) e → env'.req s e
  step : ∀ s e r s', J s → P e → env'.step s e r s' → env.step (view s) e r (view s') ∧ J s'

variable {env : Env E R σ} {D : σ → Prop}

namespace Prog

variable {env' : Env E R σ'} {D' : σ' → Prop} {view : σ' → σ} {P : E → Prop} {J : σ' → Prop}
  {cut : Prop} {Q : α → σ → Prop}

theorem wp_view (hshown : Shown env env' view P J) (hcut : ∀ s, J s → D (view s) → D' s)
    {p : Prog E R α} (hp : p.Emits P cut) {s : σ'} (hs : J s) (h : p.wp env D Q (view s)) :
    p.wp env' D' (fun a s' => Q a (view s') ∧ J s') s := by
  induction p generalizing s with
  | ret a => exact ⟨h, hs⟩
  | op e k ih =>
      refine ⟨hshown.req s e hs hp.1 h.1, ?_⟩
      intro r s' hstep
      have hshow := hshown.step s e r s' hs hp.1 hstep
      exact ih r (hp.2 r) hshow.2 (h.2 r (view s') hshow.1)
  | spin => exact hcut s hs h

end Prog

theorem Proc.wp_view {env' : Env E R σ'} {D' : σ' → Prop} {view : σ' → σ} {P : E → Prop}
    {J : σ' → Prop} {cut : Prop} {Q : α → G → σ → Prop} (hshown : Shown env env' view P J)
    (hcut : ∀ s, J s → D (view s) → D' s) {p : Proc G E R α} (hp : p.Emits P cut) {g : G} {s : σ'}
    (hs : J s) (h : p.wp env D Q g (view s)) :
    p.wp env' D' (fun a g' s' => Q a g' (view s') ∧ J s') g s :=
  Prog.wp_view hshown hcut (hp g) hs h

/-! ## Handlers that meet a contract -/

/-- Every implementation is a step of the upper environment, as far as the view shows, and keeps
the invariant `I` of the lower layer. -/
def Handles (env : Env E R σ) (env' : Env E' R' σ') (view : σ' → σ) (I : H → σ' → Prop)
    (h : (e : E) → Proc H E' R' (R e)) : Prop :=
  ∀ e g s, I g s → env.req (view s) e →
    (h e).wp env' (fun _ => True) (fun r g' s' => env.step (view s) e r (view s') ∧ I g' s') g s

variable {env' : Env E' R' σ'} {view : σ' → σ} {I : H → σ' → Prop}
  {h : (e : E) → Proc H E' R' (R e)}

theorem Handles.prog_runs (hh : Handles env env' view I h) {p : Prog E R α} {Q : α → σ → Prop}
    {g g' : H} {s s' : σ'} {a : α} (hI : I g s) (hp : p.wp env D Q (view s))
    (hrun : Runs env' (p.interp h g) s (a, g') s') :
    Runs env p (view s) a (view s') ∧ I g' s' := by
  induction p generalizing g s with
  | ret b =>
      cases hrun
      exact ⟨.ret _ _, hI⟩
  | op e k ih =>
      -- The first event is a run of its implementation.
      obtain ⟨r, g₁, s₁, hfirst, hrest⟩ := Proc.runs_bind_iff.1 hrun
      obtain ⟨hstep, hI₁⟩ := Proc.wp_runs (hh e g s hI hp.1) hfirst
      obtain ⟨hruns, hI'⟩ := ih r hI₁ (hp.2 r _ hstep) hrest
      exact ⟨.op hstep hruns, hI'⟩
  | spin => cases hrun

/-- Every run of the interpreted procedure is a run of the procedure, if the procedure respects
the upper environment. -/
theorem Handles.runs (hh : Handles env env' view I h) {p : Proc G E R α} {Q : α → G → σ → Prop}
    {g g' : G × H} {s s' : σ'} {a : α} (hI : I g.2 s) (hp : p.wp env D Q g.1 (view s))
    (hrun : Runs env' (p.interp h g) s (a, g') s') :
    Runs env (p g.1) (view s) (a, g'.1) (view s') ∧ I g'.2 s' := by
  obtain ⟨⟨⟨b, g₁⟩, h₁⟩, s₁, hfirst, hend⟩ := Runs.of_bind hrun
  cases hend
  exact hh.prog_runs hI hp hfirst

theorem Handles.prog_wp (hh : Handles env env' view I h) {p : Prog E R α} {Q : α → σ → Prop}
    {g : H} {s : σ'} (hI : I g s) (hp : p.wp env D Q (view s)) :
    (p.interp h).wp env' (fun _ => True) (fun a g' s' => Q a (view s') ∧ I g' s') g s := by
  induction p generalizing g s with
  | ret a => exact ⟨hp, hI⟩
  | op e k ih =>
      refine Proc.wp_seq (hh e g s hI hp.1) ?_
      rintro r g₁ s₁ ⟨hstep, hI₁⟩
      exact ih r hI₁ (hp.2 r _ hstep)
  | spin => trivial

/-- What is shown over the upper environment holds of the interpreted procedure. -/
theorem Handles.wp (hh : Handles env env' view I h) {p : Proc G E R α} {Q : α → G → σ → Prop}
    {g : G × H} {s : σ'} (hI : I g.2 s) (hp : p.wp env D Q g.1 (view s)) :
    (p.interp h).wp env' (fun _ => True) (fun a g' s' => Q a g'.1 (view s') ∧ I g'.2 s') g s :=
  Proc.wp_interp.2 (hh.prog_wp hI hp)

/-- What holds of every run for each index holds for all of them at once. -/
theorem Prog.wp_all {ι : Type} [Nonempty ι] {Q : ι → α → σ → Prop} {p : Prog E R α} {s : σ}
    (h : ∀ i, p.wp env D (Q i) s) : p.wp env D (fun a s' => ∀ i, Q i a s') s := by
  induction p generalizing s with
  | ret a => exact h
  | op e k ih =>
      obtain ⟨i⟩ := ‹Nonempty ι›
      exact ⟨(h i).1, fun r s' hstep => ih r fun j => (h j).2 r s' hstep⟩
  | spin =>
      obtain ⟨i⟩ := ‹Nonempty ι›
      exact h i

/-- Every program has events. -/
theorem Prog.emits_any (p : Prog E R α) : p.Emits (fun _ => True) True := by
  induction p with
  | ret a => trivial
  | op e k ih => exact ⟨trivial, ih⟩
  | spin => trivial

/-! ## What a procedure leaves alone -/

/-- Wherever the program returns, it returns a value of `P`. -/
def Prog.Ends (P : α → Prop) : Prog E R α → Prop
  | .ret a => P a
  | .op _ k => ∀ r, (k r).Ends P
  | .spin => True

theorem Prog.Ends.bind {P : α → Prop} {P' : β → Prop} {p : Prog E R α} {f : α → Prog E R β}
    (hp : p.Ends P) (hf : ∀ a, P a → (f a).Ends P') : (p.bind f).Ends P' := by
  induction p with
  | ret a => exact hf a hp
  | op e k ih => exact fun r => ih r (hp r)
  | spin => trivial

theorem Prog.Ends.wp {P : α → Prop} {Q : α → σ → Prop} {p : Prog E R α} {s : σ} (hp : p.Ends P)
    (h : p.wp env D Q s) : p.wp env D (fun a s' => Q a s' ∧ P a) s := by
  induction p generalizing s with
  | ret a => exact ⟨h, hp⟩
  | op e k ih => exact ⟨h.1, fun r s' hstep => ih r (hp r) (h.2 r s' hstep)⟩
  | spin => exact h

namespace Proc

/-- The procedure does not change the part `f` of the globals. -/
def Keeps (f : G → β) (p : Proc G E R α) : Prop :=
  ∀ g, (p g).Ends fun x => f x.2 = f g

variable {f : G → β} {γ : Type}

theorem Keeps.wp {p : Proc G E R α} {Q : α → G → σ → Prop} {g : G} {s : σ} (hp : p.Keeps f)
    (h : p.wp env D Q g s) : p.wp env D (fun a g' s' => Q a g' s' ∧ f g' = f g) g s :=
  (hp g).wp h

theorem Keeps.bind {p : Proc G E R α} {q : α → Proc G E R γ} (hp : p.Keeps f)
    (hq : ∀ a, (q a).Keeps f) : (p >>= q).Keeps f := by
  intro g
  refine Prog.Ends.bind (hp g) ?_
  rintro ⟨a, g₁⟩ hkept
  have hend := hq a g₁
  rw [hkept] at hend
  exact hend

theorem keeps_pure (a : α) : (pure a : Proc G E R α).Keeps f := fun _ => rfl

theorem keeps_perform (e : E) : (perform e : Proc G E R (R e)).Keeps f := fun _ _ => rfl

theorem keeps_globals : (globals : Proc G E R G).Keeps f := fun _ => rfl

theorem keeps_ite {c : Prop} [Decidable c] {p q : Proc G E R α} (hp : p.Keeps f)
    (hq : q.Keeps f) : (if c then p else q).Keeps f := by
  split
  · exact hp
  · exact hq

theorem keeps_iter {body : γ → Proc G E R (γ ⊕ α)} (hbody : ∀ b, (body b).Keeps f) :
    ∀ (n : Nat) (b : γ), (iter body n b).Keeps f := by
  intro n
  induction n with
  | zero =>
      intro b g
      trivial
  | succ n ih =>
      intro b
      refine (hbody b).bind ?_
      intro r
      cases r with
      | inl b' => exact ih b'
      | inr a => exact keeps_pure a

end Proc

end Effects
