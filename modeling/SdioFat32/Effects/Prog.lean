import Mathlib.Logic.Basic

/-!
# Prog — programs that talk to an environment

A program is a tree: it returns, or it performs one event of a signature `E` and continues with
the response.  `spin` marks a run of an unbounded loop that was cut off before the loop ended,
so every result about an arbitrary cut-off is a result about the loop.

`Proc` adds global variables.  Its loops are `iter` (cut off by a bound) and ordinary recursion.
-/

namespace Effects

universe u

/-- A program over events `E`, whose event `e` is answered by a value of `R e`. -/
inductive Prog (E : Type) (R : E → Type) (α : Type) : Type where
  | ret (a : α)
  | op (e : E) (k : R e → Prog E R α)
  | spin

/-- A procedure: a program that reads and writes globals of type `G`. -/
def Proc (G E : Type) (R : E → Type) (α : Type) : Type :=
  G → Prog E R (α × G)

variable {G E : Type} {R : E → Type} {α β γ : Type}

/-! ## Sequencing -/

namespace Prog

def bind : Prog E R α → (α → Prog E R β) → Prog E R β
  | .ret a, f => f a
  | .op e k, f => .op e (fun r => (k r).bind f)
  | .spin, _ => .spin

theorem bind_assoc (p : Prog E R α) (f : α → Prog E R β) (h : β → Prog E R γ) :
    (p.bind f).bind h = p.bind (fun a => (f a).bind h) := by
  induction p with
  | ret a => rfl
  | op e k ih =>
      simp only [bind]
      congr 1
      funext r
      exact ih r
  | spin => rfl

end Prog

namespace Proc

instance : Monad (Proc G E R) where
  pure a := fun g => .ret (a, g)
  bind p f := fun g => (p g).bind (fun x => f x.1 x.2)

/-- Perform one event and return its response. -/
def perform (e : E) : Proc G E R (R e) :=
  fun g => .op e (fun r => .ret (r, g))

/-- Read the globals. -/
def globals : Proc G E R G :=
  fun g => .ret (g, g)

/-- Assign to the globals. -/
def assign (f : G → G) : Proc G E R Unit :=
  fun g => .ret ((), f g)

/-- The loop is still running when the bound is reached. -/
def stillRunning : Proc G E R α :=
  fun _ => .spin

/-- Run `body` until it leaves the loop with `inr`, for at most `n` iterations. -/
def iter (body : β → Proc G E R (β ⊕ α)) : Nat → β → Proc G E R α
  | 0, _ => stillRunning
  | n + 1, b => do
      match ← body b with
      -- Every iteration uses up one unit of the bound.
      | .inl b' => iter body n b'
      | .inr a => return a

theorem bind_assoc (p : Proc G E R α) (f : α → Proc G E R β) (h : β → Proc G E R γ) :
    (p >>= f) >>= h = p >>= fun a => f a >>= h := by
  funext g
  exact Prog.bind_assoc (p g) (fun x => f x.1 x.2) (fun x => h x.1 x.2)

/-- One iteration, and the loop from there on. -/
theorem iter_succ (body : β → Proc G E R (β ⊕ α)) (n : Nat) (b : β) (g : G) :
    iter body (n + 1) b g =
      (body b g).bind fun x => x.1.elim (fun b' => iter body n b' x.2) fun a => .ret (a, x.2) := by
  refine congrArg (Prog.bind (body b g)) (funext fun x => ?_)
  rcases x with ⟨b' | a, g'⟩
  · rfl
  · rfl

@[simp] theorem ret_bind (a : α) (f : α → Proc G E R β) :
    (pure a : Proc G E R α) >>= f = f a := rfl

end Proc

end Effects
