import SdioFat32.Effects.Wp

/-!
# Watched — a program together with notes about what it does

Some of what a program does is not an event of its signature, such as an access to an array among
its globals.  A watched program performs a note for it.  The environment does not react to a note,
so that leaving the notes out (`unwatch`) changes no run; what is required of the notes is shown
of the watched program.
-/

namespace Effects

/-- The events of `E`, and notes. -/
inductive Watched (E A : Type) where
  | call (e : E)
  | note (a : A)

def Watched.Response {E : Type} (R : E → Type) {A : Type} : Watched E A → Type
  | .call e => R e
  | .note _ => Unit

variable {G E A : Type} {R : E → Type} {α β σ : Type}

/-- The same transitions; a note must be `ok` and changes nothing. -/
def Env.watch (env : Env E R σ) (ok : A → Prop) :
    Env (Watched E A) (Watched.Response R) σ where
  req s e :=
    match e with
    | .call e => env.req s e
    | .note a => ok a
  step s e r s' :=
    match e, r with
    | .call e, r => env.step s e r s'
    | .note _, _ => s' = s

namespace Prog

/-- Leave the notes out. -/
def unwatch : Prog (Watched E A) (Watched.Response R) α → Prog E R α
  | .ret a => .ret a
  | .op (.call e) k => .op e fun r => (k r).unwatch
  | .op (.note _) k => (k ()).unwatch
  | .spin => .spin

theorem unwatch_bind (p : Prog (Watched E A) (Watched.Response R) α)
    (f : α → Prog (Watched E A) (Watched.Response R) β) :
    (p.bind f).unwatch = p.unwatch.bind fun a => (f a).unwatch := by
  induction p with
  | ret a => rfl
  | op e k ih =>
      cases e with
      | call e =>
          simp only [bind, unwatch]
          congr 1
          funext r
          exact ih r
      | note a => exact ih ()
  | spin => rfl

/-- What is shown of the watched program holds without the notes. -/
theorem wp_unwatch {env : Env E R σ} {ok : A → Prop} {D : σ → Prop} {Q : α → σ → Prop}
    {p : Prog (Watched E A) (Watched.Response R) α} {s : σ} (h : p.wp (env.watch ok) D Q s) :
    p.unwatch.wp env D Q s := by
  induction p generalizing s with
  | ret a => exact h
  | op e k ih =>
      cases e with
      | call e => exact ⟨h.1, fun r s' hstep => ih r (h.2 r s' hstep)⟩
      | note a => exact ih () (h.2 () s rfl)
  | spin => exact h

end Prog

namespace Proc

def unwatch (p : Proc G (Watched E A) (Watched.Response R) α) : Proc G E R α :=
  fun g => (p g).unwatch

/-- Perform an event of `E`. -/
def call (e : E) : Proc G (Watched E A) (Watched.Response R) (R e) :=
  perform (R := Watched.Response R) (Watched.call e)

def note (a : A) : Proc G (Watched E A) (Watched.Response R) Unit :=
  perform (R := Watched.Response R) (Watched.note a)

/-! ## Without the notes -/

@[simp] theorem unwatch_bind {p : Proc G (Watched E A) (Watched.Response R) α}
    {f : α → Proc G (Watched E A) (Watched.Response R) β} :
    (p >>= f).unwatch = p.unwatch >>= fun a => (f a).unwatch := by
  funext g
  exact Prog.unwatch_bind (p g) fun x => f x.1 x.2

@[simp] theorem unwatch_pure (a : α) :
    (pure a : Proc G (Watched E A) (Watched.Response R) α).unwatch = pure a := rfl

@[simp] theorem unwatch_globals :
    (globals : Proc G (Watched E A) (Watched.Response R) G).unwatch = globals := rfl

@[simp] theorem unwatch_assign (f : G → G) :
    (assign f : Proc G (Watched E A) (Watched.Response R) Unit).unwatch = assign f := rfl

@[simp] theorem unwatch_note (a : A) :
    (note a : Proc G (Watched E A) (Watched.Response R) Unit).unwatch = pure () := rfl

theorem unwatch_iter {body : β → Proc G (Watched E A) (Watched.Response R) (β ⊕ α)}
    {plain : β → Proc G E R (β ⊕ α)} (hbody : ∀ b, (body b).unwatch = plain b) (n : Nat) (b : β) :
    (iter body n b).unwatch = iter plain n b := by
  induction n generalizing b with
  | zero => rfl
  | succ n ih =>
      unfold iter
      rw [unwatch_bind, hbody]
      congr 1
      funext r
      cases r with
      | inl b' => exact ih b'
      | inr a => rfl

/-! ## Rules -/

variable {env : Env E R σ} {ok : A → Prop} {D : σ → Prop} {g : G} {s : σ}

@[simp] theorem wp_call {e : E} {Q : R e → G → σ → Prop} :
    (call e : Proc G (Watched E A) (Watched.Response R) (R e)).wp (env.watch ok) D Q g s ↔
      (perform e : Proc G E R (R e)).wp env D Q g s := Iff.rfl

@[simp] theorem wp_note {a : A} {Q : Unit → G → σ → Prop} :
    (note a : Proc G (Watched E A) (Watched.Response R) Unit).wp (env.watch ok) D Q g s ↔
      ok a ∧ Q () g s := by
  constructor
  · rintro ⟨hok, h⟩
    exact ⟨hok, h () s rfl⟩
  · rintro ⟨hok, h⟩
    refine ⟨hok, ?_⟩
    rintro _ s' rfl
    exact h

theorem wp_unwatch {p : Proc G (Watched E A) (Watched.Response R) α} {Q : α → G → σ → Prop}
    (h : p.wp (env.watch ok) D Q g s) : p.unwatch.wp env D Q g s :=
  Prog.wp_unwatch h

end Proc

end Effects
