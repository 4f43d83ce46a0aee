import SdioFat32.Driver.Csd

/-!
# MathPow — the powers behind the capacity

`math_pow` squares and multiplies in 32 bits, with a shortcut for the exponents 0 and 1.

* `PowLoop`, `MathPowReturns` — the `while` loop without a bound on its turns, and a call;
* `powLoop_iff` — the loop comes to an end, with the value that the 32 turns of `mathPowLoop` give;
* `mathPow_pow_mod` — every call returns the power modulo `2 ^ 32`.
-/

namespace SdioFat32
namespace Driver

/-- The variables of `math_pow`. -/
structure PowState where
  value : BitVec 32
  exp : BitVec 32
  result : BitVec 32

/-- The body of the loop. -/
def PowState.turn (s : PowState) : PowState where
  value := s.value * s.value
  exp := s.exp >>> 1
  result := if hasFlag s.exp 1#32 then s.result * s.value else s.result

/-- `while (exp)` ends after finitely many turns, and leaves `out` in `result`. -/
inductive PowLoop : PowState → BitVec 32 → Prop where
  | ended {s : PowState} : s.exp = 0#32 → PowLoop s s.result
  | turned {s : PowState} {out : BitVec 32} : s.exp ≠ 0#32 → PowLoop s.turn out → PowLoop s out

/-- `math_pow(value, exp)` returns `out`. -/
inductive MathPowReturns (value exp : BitVec 32) : BitVec 32 → Prop where
  | shortcut : exp ≤ 1#32 → MathPowReturns value exp (if exp = 0#32 then 1#32 else value)
  | loop {out : BitVec 32} : ¬ exp ≤ 1#32 → PowLoop ⟨value, exp, 1#32⟩ out →
      MathPowReturns value exp out

/-- A turn halves the exponent. -/
theorem PowState.toNat_exp_turn (s : PowState) : s.turn.exp.toNat = s.exp.toNat / 2 := by
  show (s.exp >>> 1).toNat = s.exp.toNat / 2
  rw [BitVec.toNat_ushiftRight, Nat.shiftRight_one]

theorem powLoop_mathPowLoop {steps : Nat} {s : PowState} (h : s.exp.toNat < 2 ^ steps) :
    PowLoop s (mathPowLoop steps s.value s.exp s.result) := by
  induction steps generalizing s with
  | zero =>
      have hzero : s.exp = 0#32 := BitVec.eq_of_toNat_eq (by simpa using h)
      exact PowLoop.ended hzero
  | succ steps ih =>
      rw [mathPowLoop]
      by_cases hzero : s.exp = 0#32
      · rw [if_pos hzero]
        exact PowLoop.ended hzero
      · rw [if_neg hzero]
        refine PowLoop.turned hzero (ih (s := s.turn) ?_)
        rw [PowState.toNat_exp_turn]
        omega

theorem PowLoop.unique {s : PowState} {out out' : BitVec 32} (h : PowLoop s out)
    (h' : PowLoop s out') : out = out' := by
  induction h with
  | ended hzero =>
      cases h' with
      | ended _ => rfl
      | turned hne _ => exact absurd hzero hne
  | turned hne _ ih =>
      cases h' with
      | ended hzero => exact absurd hzero hne
      | turned _ hturn => exact ih hturn

/-- An exponent of 32 bits is zero after 32 turns. -/
theorem powLoop_iff (s : PowState) (out : BitVec 32) :
    PowLoop s out ↔ out = mathPowLoop 32 s.value s.exp s.result := by
  have hends : PowLoop s (mathPowLoop 32 s.value s.exp s.result) := powLoop_mathPowLoop s.exp.isLt
  constructor
  · intro h
    exact h.unique hends
  · rintro rfl
    exact hends

theorem mathPowReturns_iff (value exp out : BitVec 32) :
    MathPowReturns value exp out ↔ out = mathPow value exp := by
  unfold mathPow
  constructor
  · intro h
    cases h with
    | shortcut hsmall => rw [if_pos hsmall]
    | loop hlarge hloop =>
        rw [if_neg hlarge]
        exact (powLoop_iff _ _).mp hloop
  · rintro rfl
    by_cases hsmall : exp ≤ 1#32
    · rw [if_pos hsmall]
      exact MathPowReturns.shortcut hsmall
    · rw [if_neg hsmall]
      exact MathPowReturns.loop hsmall ((powLoop_iff _ _).mpr rfl)

/-- Every call returns, with the power modulo `2 ^ 32`; the block length and the multiplier of
`load_csd_sd` are the powers of two that the register names. -/
theorem mathPow_pow_mod (value exp : BitVec 32) :
    (∀ out, MathPowReturns value exp out ↔ out = mathPow value exp) ∧
      (mathPow value exp).toNat = value.toNat ^ exp.toNat % 2 ^ 32 ∧
      mathPow value 0#32 = 1#32 ∧
      ∀ csd : CsdType,
        (2 ^ csd.readBlLen.toNat < 2 ^ 32 →
          (mathPow 2#32 (csd.readBlLen.setWidth 32)).toNat = 2 ^ csd.readBlLen.toNat) ∧
        (2 ^ csd.cSizeMult.toNat < 2 ^ 32 →
          (mathPow 2#32 (csd.cSizeMult.setWidth 32)).toNat = 2 ^ csd.cSizeMult.toNat) := by
  refine ⟨mathPowReturns_iff value exp, toNat_mathPow value exp, rfl, ?_⟩
  intro csd
  exact ⟨toNat_mathPow_two, toNat_mathPow_two⟩

/-- 512 bytes. -/
theorem mathPow_two_nine : (mathPow 2#32 9#32).toNat = 512 := by
  have hlen := (mathPow_pow_mod 2#32 9#32).2.2.2 { CsdType.zero with readBlLen := 9#8 }
  exact hlen.1 (by decide)

end Driver
end SdioFat32
