import SdioFat32.Effects.Wp
import Mathlib.Logic.Relation

/-!
# Interference — a program among steps that are not its own

Between two events of a program others may take turns: the hardware, or a handler that interrupts
the program.  `Env.amid turn` is an environment in which any number of turns comes before each
event.  What the turns keep can be assumed at every event, which is the rule of reliance.
-/

namespace Effects

open Relation

variable {G E : Type} {R : E → Type} {α σ : Type}

/-- Any number of turns, then the event. -/
def Env.amid (env : Env E R σ) (turn : σ → σ → Prop) : Env E R σ where
  req s e := ∀ s₁, ReflTransGen turn s s₁ → env.req s₁ e
  step s e r s' := ∃ s₁, ReflTransGen turn s s₁ ∧ env.step s₁ e r s'

/-- No turn takes the property away. -/
def Stable (turn : σ → σ → Prop) (I : σ → Prop) : Prop :=
  ∀ s s', turn s s' → I s → I s'

variable {env : Env E R σ} {turn : σ → σ → Prop} {I : σ → Prop} {s s' : σ}

theorem Stable.turns (h : Stable turn I) (hturns : ReflTransGen turn s s') (hs : I s) : I s' := by
  induction hturns with
  | refl => exact hs
  | tail _ hturn ih => exact h _ _ hturn ih

/-- A step that is not preceded by a turn. -/
theorem Env.amid_of_step {e : E} {r : R e} (h : env.step s e r s') :
    (env.amid turn).step s e r s' := ⟨s, .refl, h⟩

namespace Proc

variable {D : σ → Prop} {g : G}

/-- At its event a program can rely on what the turns keep. -/
theorem wp_perform_amid {e : E} {Q : R e → G → σ → Prop} (hstable : Stable turn I) (hs : I s)
    (hreq : ∀ s₁, I s₁ → env.req s₁ e)
    (hstep : ∀ s₁ r s', I s₁ → env.step s₁ e r s' → Q r g s') :
    (perform e : Proc G E R (R e)).wp (env.amid turn) D Q g s := by
  refine wp_perform.2 ⟨fun s₁ hturns => hreq s₁ (hstable.turns hturns hs), ?_⟩
  rintro r s' ⟨s₁, hturns, h⟩
  exact hstep s₁ r s' (hstable.turns hturns hs) h

/-- A procedure preserves what the turns and all its events preserve. -/
theorem wp_frame_amid {P : E → Prop} {cut : Prop} {p : Proc G E R α} (hp : p.Emits P cut)
    (hstable : Stable turn I)
    (hstep : ∀ s e, I s → P e → env.req s e ∧ ∀ r s', env.step s e r s' → I s')
    (hcut : ∀ s, cut → I s → D s) (hs : I s) :
    p.wp (env.amid turn) D (fun _ _ s' => I s') g s := by
  refine wp_frame hp (fun s e hI he => ⟨fun s₁ hturns => ?_, ?_⟩) hcut hs
  · exact (hstep s₁ e (hstable.turns hturns hI) he).1
  · rintro r s' ⟨s₁, hturns, h⟩
    exact (hstep s₁ e (hstable.turns hturns hI) he).2 r s' h

end Proc

end Effects
