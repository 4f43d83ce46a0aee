import Mathlib.Computability.StateTransition

/-!
# Machine — loops of a deterministic machine

The machine is a function from a state to the next one, with `none` where it stops, and its runs are
those of `StateTransition`.
-/

namespace Effects
namespace Machine

open Relation StateTransition

variable {σ : Type*} {f : σ → Option σ} {a b c : σ}

theorem reaches_head (h : f a = some b) (hreach : StateTransition.Reaches f b c) :
    StateTransition.Reaches f a c :=
  ReflTransGen.head (Option.mem_def.2 h) hreach

/-- A loop of `n` passes: `I k` holds at its head after `k` of them. -/
theorem reaches_loop {n : ℕ} {I : ℕ → σ → Prop}
    (hpass : ∀ k < n, ∀ s, I k s → ∃ s', StateTransition.Reaches f s s' ∧ I (k + 1) s')
    (h : I 0 a) : ∃ b, StateTransition.Reaches f a b ∧ I n b := by
  have hpasses : ∀ k ≤ n, ∃ b, StateTransition.Reaches f a b ∧ I k b := by
    intro k
    induction k with
    | zero => exact fun _ => ⟨a, ReflTransGen.refl, h⟩
    | succ k ih =>
        intro hk
        obtain ⟨s, hreach, hs⟩ := ih (Nat.le_of_succ_le hk)
        obtain ⟨s', hreach', hs'⟩ := hpass k hk s hs
        exact ⟨s', hreach.trans hreach', hs'⟩
  exact hpasses n le_rfl

end Machine
end Effects
