import SdioFat32.Effects.Wp

/-!
# Interp — one layer of a program on top of another

A handler implements each event of the upper layer by a program of the lower layer, which keeps
its own globals.  `interp` replaces the events of a program by their implementations; it commutes
with sequencing, so a procedure of the upper layer reads the same over the lower one.

`beside` runs a procedure where there are more globals than its own.  `embed` is the case of a
signature that is a part of a larger one: the events stay what they are, and so do the globals.
-/

namespace Effects

variable {G H E E' : Type} {R : E → Type} {R' : E' → Type} {α β : Type}

namespace Prog

def interp (h : (e : E) → Proc H E' R' (R e)) : Prog E R α → Proc H E' R' α
  | .ret a => pure a
  | .op e k => h e >>= fun r => (k r).interp h
  | .spin => Proc.stillRunning

theorem interp_bind (h : (e : E) → Proc H E' R' (R e)) (p : Prog E R α) (f : α → Prog E R β) :
    (p.bind f).interp h = p.interp h >>= fun a => (f a).interp h := by
  induction p with
  | ret a => rfl
  | op e k ih =>
      simp only [bind, interp, ih]
      exact (Proc.bind_assoc _ _ _).symm
  | spin => rfl

end Prog

namespace Proc

/-- The globals of the upper layer stand beside those of the lower one. -/
def interp (h : (e : E) → Proc H E' R' (R e)) (p : Proc G E R α) : Proc (G × H) E' R' α :=
  fun g => ((p g.1).interp h g.2).bind fun x => .ret (x.1.1, (x.1.2, x.2))

variable {h : (e : E) → Proc H E' R' (R e)} {σ : Type} {env : Env E' R' σ} {D : σ → Prop}
  {g : G × H} {s : σ}

theorem wp_interp {p : Proc G E R α} {Q : α → G × H → σ → Prop} :
    (p.interp h).wp env D Q g s ↔
      ((p g.1).interp h).wp env D (fun x g' s' => Q x.1 (x.2, g') s') g.2 s :=
  Prog.wp_bind

@[simp] theorem wp_interp_bind {p : Proc G E R α} {f : α → Proc G E R β}
    {Q : β → G × H → σ → Prop} :
    ((p >>= f).interp h).wp env D Q g s ↔
      (p.interp h).wp env D (fun a g' s' => ((f a).interp h).wp env D Q g' s') g s := by
  rw [wp_interp, wp_interp]
  -- The globals of the upper layer are threaded through `p` before the handler is applied.
  have hbind : (p >>= f) g.1 = (p g.1).bind (fun x => f x.1 x.2) := rfl
  rw [hbind, Prog.interp_bind, wp_bind]
  simp only [wp_interp]

@[simp] theorem wp_interp_perform {e : E} {Q : R e → G × H → σ → Prop} :
    ((perform e : Proc G E R (R e)).interp h).wp env D Q g s ↔
      (h e).wp env D (fun r g' s' => Q r (g.1, g') s') g.2 s := by
  rw [wp_interp]
  exact wp_bind

/-- Sequencing with an intermediate assertion, over the lower layer. -/
theorem wp_interp_seq {p : Proc G E R α} {f : α → Proc G E R β} {P : α → G × H → σ → Prop}
    {Q : β → G × H → σ → Prop} (hp : (p.interp h).wp env D P g s)
    (hf : ∀ a g' s', P a g' s' → ((f a).interp h).wp env D Q g' s') :
    ((p >>= f).interp h).wp env D Q g s :=
  wp_interp_bind.2 (wp_mono hp hf)

end Proc

/-! ## More globals -/

namespace Proc

/-- A procedure that leaves the globals `H` beside its own alone. -/
def beside (p : Proc G E R α) : Proc (G × H) E R α :=
  fun g => (p g.1).bind fun x => .ret (x.1, (x.2, g.2))

theorem wp_beside {σ : Type} {env : Env E R σ} {D : σ → Prop} {p : Proc G E R α}
    {Q : α → G × H → σ → Prop} {g : G × H} {s : σ} :
    p.beside.wp env D Q g s ↔ p.wp env D (fun a g' s' => Q a (g', g.2) s') g.1 s :=
  Prog.wp_bind

end Proc

/-! ## A signature within a larger one -/

namespace Prog

/-- The same program over a signature that contains its own. -/
def embed (f : E → E') (back : ∀ e, R' (f e) → R e) : Prog E R α → Prog E' R' α
  | .ret a => .ret a
  | .op e k => .op (f e) fun r => (k (back e r)).embed f back
  | .spin => .spin

variable {f : E → E'} {back : ∀ e, R' (f e) → R e} {σ σ' : Type} {env : Env E R σ}
  {D : σ → Prop} {Q : α → σ → Prop}

/-- What is shown of a program under its own signature holds under the larger one, of the part
`view` of a larger state. -/
theorem wp_embed_view {env' : Env E' R' σ'} {D' : σ' → Prop} (view : σ' → σ)
    (hreq : ∀ s e, env.req (view s) e → env'.req s (f e))
    (hstep : ∀ s e r s', env'.step s (f e) r s' → env.step (view s) e (back e r) (view s'))
    (hcut : ∀ s, D (view s) → D' s) {p : Prog E R α} {s : σ'} (h : p.wp env D Q (view s)) :
    (p.embed f back).wp env' D' (fun a s' => Q a (view s')) s := by
  induction p generalizing s with
  | ret a => exact h
  | op e k ih => exact ⟨hreq s e h.1, fun r s' hs => ih (back e r) (h.2 _ _ (hstep s e r s' hs))⟩
  | spin => exact hcut s h

theorem wp_embed {env' : Env E' R' σ} (hreq : ∀ s e, env.req s e → env'.req s (f e))
    (hstep : ∀ s e r s', env'.step s (f e) r s' → env.step s e (back e r) s') {p : Prog E R α}
    {s : σ} (h : p.wp env D Q s) : (p.embed f back).wp env' D Q s :=
  wp_embed_view id hreq hstep (fun _ hs => hs) h

end Prog

namespace Proc

def embed (f : E → E') (back : ∀ e, R' (f e) → R e) (p : Proc G E R α) : Proc G E' R' α :=
  fun g => (p g).embed f back

theorem wp_embed {f : E → E'} {back : ∀ e, R' (f e) → R e} {σ : Type} {env : Env E R σ}
    {env' : Env E' R' σ} {D : σ → Prop} {Q : α → G → σ → Prop}
    (hreq : ∀ s e, env.req s e → env'.req s (f e))
    (hstep : ∀ s e r s', env'.step s (f e) r s' → env.step s e (back e r) s') {p : Proc G E R α}
    {g : G} {s : σ} (h : p.wp env D Q g s) : (p.embed f back).wp env' D Q g s :=
  Prog.wp_embed hreq hstep h

theorem wp_embed_view {f : E → E'} {back : ∀ e, R' (f e) → R e} {σ σ' : Type} {env : Env E R σ}
    {env' : Env E' R' σ'} {D : σ → Prop} {D' : σ' → Prop} {Q : α → G → σ → Prop} (view : σ' → σ)
    (hreq : ∀ s e, env.req (view s) e → env'.req s (f e))
    (hstep : ∀ s e r s', env'.step s (f e) r s' → env.step (view s) e (back e r) (view s'))
    (hcut : ∀ s, D (view s) → D' s) {p : Proc G E R α} {g : G} {s : σ'}
    (h : p.wp env D Q g (view s)) :
    (p.embed f back).wp env' D' (fun a g' s' => Q a g' (view s')) g s :=
  Prog.wp_embed_view view hreq hstep hcut h

/-- A procedure without globals of its own, called from one that has some. -/
def aside (f : E → E') (back : ∀ e, R' (f e) → R e) (p : Proc Unit E R α) : Proc G E' R' α :=
  fun g => ((p ()).embed f back).bind fun x => .ret (x.1, g)

theorem wp_aside {f : E → E'} {back : ∀ e, R' (f e) → R e} {σ : Type} {env : Env E R σ}
    {env' : Env E' R' σ} {D : σ → Prop} {Q : α → σ → Prop}
    (hreq : ∀ s e, env.req s e → env'.req s (f e))
    (hstep : ∀ s e r s', env'.step s (f e) r s' → env.step s e (back e r) s')
    {p : Proc Unit E R α} {g : G} {s : σ} (h : p.wp env D (fun a _ s' => Q a s') () s) :
    (p.aside f back).wp env' D (fun a g' s' => g' = g ∧ Q a s') g s := by
  refine Prog.wp_bind.2 (Prog.wp_mono (Prog.wp_embed hreq hstep h) ?_)
  intro x s' hx
  exact ⟨rfl, hx⟩

/-- A procedure on a part of the globals. -/
def within (get : H → G) (set : G → H → H) (p : Proc G E R α) : Proc H E R α :=
  fun g => (p (get g)).bind fun x => .ret (x.1, set x.2 g)

theorem wp_within {get : H → G} {set : G → H → H} {σ : Type} {env : Env E R σ} {D : σ → Prop}
    {p : Proc G E R α} {Q : α → H → σ → Prop} {g : H} {s : σ} :
    (p.within get set).wp env D Q g s ↔
      p.wp env D (fun a g' s' => Q a (set g' g) s') (get g) s :=
  Prog.wp_bind

end Proc

theorem Prog.Emits.embed {f : E → E'} {back : ∀ e, R' (f e) → R e} {P : E → Prop}
    {P' : E' → Prop} {cut : Prop} {p : Prog E R α} (hp : p.Emits P cut)
    (h : ∀ e, P e → P' (f e)) : (p.embed f back).Emits P' cut := by
  induction p with
  | ret a => trivial
  | op e k ih => exact ⟨h e hp.1, fun r => ih _ (hp.2 (back e r))⟩
  | spin => exact hp

/-! ## A part of a larger state -/

section Place

variable {σ σ' : Type} {f : E → E'} {back : ∀ e, R' (f e) → R e} {env : Env E R σ}
  {env' : Env E' R' σ'} {D : σ → Prop} {D' : σ' → Prop} {P : E → Prop} {cut : Prop}

/-- The events of the program change nothing but the part `σ` of the state, which `place` puts
among the rest of it. -/
theorem Prog.wp_embed_place {place : σ → σ'}
    (hreq : ∀ x e, P e → env.req x e → env'.req (place x) (f e))
    (hstep : ∀ x e r s', P e → env'.step (place x) (f e) r s' →
      ∃ x', env.step x e (back e r) x' ∧ s' = place x')
    (hcut : ∀ x, cut → D x → D' (place x)) {p : Prog E R α} {Q : α → σ → Prop}
    (hp : p.Emits P cut) {x : σ} (h : p.wp env D Q x) :
    (p.embed f back).wp env' D' (fun a s' => ∃ x', Q a x' ∧ s' = place x') (place x) := by
  induction p generalizing x with
  | ret a => exact ⟨x, h, rfl⟩
  | op e k ih =>
      refine ⟨hreq x e hp.1 h.1, ?_⟩
      intro r s' hr
      obtain ⟨x', hx', rfl⟩ := hstep x e r s' hp.1 hr
      exact ih (back e r) (hp.2 _) (h.2 _ _ hx')
  | spin => exact hcut x hp h

theorem Proc.wp_aside_place {place : σ → σ'}
    (hreq : ∀ x e, P e → env.req x e → env'.req (place x) (f e))
    (hstep : ∀ x e r s', P e → env'.step (place x) (f e) r s' →
      ∃ x', env.step x e (back e r) x' ∧ s' = place x')
    (hcut : ∀ x, cut → D x → D' (place x)) {p : Proc Unit E R α} {Q : α → σ → Prop}
    (hp : p.Emits P cut) {g : G} {x : σ} (h : p.wp env D (fun a _ x' => Q a x') () x) :
    (p.aside f back).wp env' D' (fun a g' s' => g' = g ∧ ∃ x', Q a x' ∧ s' = place x') g
      (place x) := by
  refine Prog.wp_bind.2 (Prog.wp_mono (Prog.wp_embed_place hreq hstep hcut (hp ()) h) ?_)
  rintro a s' ⟨x', hx', rfl⟩
  exact ⟨rfl, x', hx', rfl⟩

end Place

end Effects
