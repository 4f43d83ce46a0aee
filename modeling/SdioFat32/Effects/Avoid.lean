import SdioFat32.Effects.Refine

/-!
# Avoid — runs that end without a sign of something

An environment may do more than another one, where whatever it does more leaves a sign on the
state.  A program that never takes the sign away can be studied over the smaller environment: a run
that ends without the sign is a run there.  This file defines:

* `Signs` — the sign is left, and lasts for as long as the program keeps to a contract;
* `Signs.runs` — a run that ends without the sign is a run over the smaller environment;
* `Proc.Complies` — the procedure keeps to a contract, with one rule for each construct.

A contract is an environment without a state: `req` is what the program does, `step` says which
answers it may rely on.
-/

namespace Effects

variable {G E : Type} {R : E → Type} {α β σ : Type} {contract : Env E R Unit}

/-- Over `env'`, whatever is no step of `env` leaves the sign, and the program keeps it. -/
structure Signs (contract : Env E R Unit) (env env' : Env E R σ) (sign : σ → Prop) : Prop where
  answers : ∀ s e r s', env'.step s e r s' → contract.step () e r ()
  lasts : ∀ s e r s', contract.req () e → env'.step s e r s' → sign s → sign s'
  leaves : ∀ s e r s', contract.req () e → env'.step s e r s' → sign s' ∨ env.step s e r s'

variable {env env' : Env E R σ} {sign : σ → Prop} {D : Unit → Prop} {Q : α → Unit → Prop}
  {p : Prog E R α} {a : α} {s s' : σ}

theorem Signs.lasts_runs (h : Signs contract env env' sign) (hp : p.wp contract D Q ())
    (hrun : Runs env' p s a s') (hs : sign s) : sign s' := by
  induction hrun with
  | ret a s => exact hs
  | op hstep _ ih =>
      exact ih (hp.2 _ () (h.answers _ _ _ _ hstep)) (h.lasts _ _ _ _ hp.1 hstep hs)

/-- Such a run ends with the sign, or is a run over the smaller environment. -/
theorem Signs.runs (h : Signs contract env env' sign) (hp : p.wp contract D Q ())
    (hrun : Runs env' p s a s') : sign s' ∨ Runs env p s a s' := by
  induction hrun with
  | ret a s => exact Or.inr (.ret a s)
  | op hstep hrest ih =>
      have hp₁ := hp.2 _ () (h.answers _ _ _ _ hstep)
      rcases h.leaves _ _ _ _ hp.1 hstep with hsign | hstep'
      · exact Or.inl (h.lasts_runs hp₁ hrest hsign)
      · rcases ih hp₁ with hsign | hruns
        · exact Or.inl hsign
        · exact Or.inr (.op hstep' hruns)

/-! ## Procedures that keep to a contract -/

namespace Proc

/-- Whatever its variables are. -/
def Complies (contract : Env E R Unit) (p : Proc G E R α) : Prop :=
  ∀ g, p.wp contract (fun _ => True) (fun _ _ _ => True) g ()

variable {P : E → Prop} {cut : Prop}

theorem Complies.bind {p : Proc G E R α} {f : α → Proc G E R β} (hp : p.Complies contract)
    (hf : ∀ a, (f a).Complies contract) : (p >>= f).Complies contract :=
  fun g => wp_seq (hp g) fun a g' _ _ => hf a g'

theorem complies_pure (a : α) : (pure a : Proc G E R α).Complies contract := fun _ => trivial

theorem complies_globals : (globals : Proc G E R G).Complies contract := fun _ => trivial

theorem complies_perform {e : E} (h : contract.req () e) :
    (perform e : Proc G E R (R e)).Complies contract := fun _ => ⟨h, fun _ _ _ => trivial⟩

theorem complies_ite {c : Prop} [Decidable c] {p q : Proc G E R α} (hp : p.Complies contract)
    (hq : q.Complies contract) : (if c then p else q).Complies contract := by
  split
  · exact hp
  · exact hq

/-- Events that the contract does not restrict. -/
theorem Emits.complies {p : Proc G E R α} (hp : p.Emits P cut)
    (h : ∀ e, P e → contract.req () e) : p.Complies contract := by
  intro g
  have hstep : ∀ (s : Unit) (e : E), True → P e →
      contract.req s e ∧ ∀ r s', contract.step s e r s' → True :=
    fun _ e _ he => ⟨h e he, fun _ _ _ => trivial⟩
  exact wp_frame hp hstep (fun _ _ _ => trivial) trivial

variable {H E' : Type} {R' : E' → Type} {contract' : Env E' R' Unit}

/-- What every implementation keeps to, an interpreted procedure keeps to. -/
theorem complies_interp {h : (e : E) → Proc H E' R' (R e)}
    (hh : ∀ e, (h e).Complies contract') (p : Proc G E R α) :
    (p.interp h).Complies contract' := by
  intro g
  -- Above, nothing is asked of the procedure.
  let free : Env E R Unit := { step := fun _ _ _ _ => True }
  have hhandles : Handles free contract' (fun s => s) (fun _ _ => True) h :=
    fun e g₁ _ _ _ => wp_mono (hh e g₁) fun _ _ _ _ => ⟨trivial, trivial⟩
  have hfree : p.wp free (fun _ => True) (fun _ _ _ => True) g.1 () :=
    wp_of_step (fun _ _ _ => ⟨trivial, fun _ _ _ => trivial⟩) (fun _ _ => trivial) trivial
  exact wp_mono (hhandles.wp trivial hfree) fun _ _ _ _ => trivial

end Proc

end Effects
