import SdioFat32.Core.Rcc
import Mathlib.Algebra.Order.Floor.Semifield
import Mathlib.Data.Rat.Floor
import Mathlib.Tactic.FieldSimp
import Mathlib.Tactic.Linarith
import Mathlib.Tactic.NormNum

/-!
# BaudRate — the divisor of the serial line

`calculate_USART_BRR` splits the quotient `usart_clk / (16 * baud_rate)` into an integral part of
twelve bits and a number of sixteenths.  The `float` expressions are read as exact rationals, and
the conversions to `uint16_t` cut the fractional part off.

* `toNat_calculateUsartBrr` — the register value, in integer division;
* `calculateUsartBrr_error_le_half_iff` — the divisor is correctly rounded unless the sixteenths
  round up to sixteen: four bits cannot hold that carry.
-/

namespace SdioFat32
namespace Core

/-- `USART_BRR(mantissa, fraction)`; the arguments are promoted before the shift. -/
def usartBrr (mantissa fraction : BitVec 16) : BitVec 32 :=
  mantissa.setWidth 32 <<< 4 ||| (fraction.setWidth 32 &&& 0xF#32) <<< 0

/-- `(uint16_t)x` of a number that is not negative. -/
def truncToUint16 (x : ℚ) : BitVec 16 := BitVec.ofNat 16 ⌊x⌋₊

def calculateUsartBrr (usartClk baudRate : BitVec 32) : BitVec 32 :=
  let usartdiv : ℚ := usartClk.toNat / (baudRate * 16#32).toNat
  let divMantissa := truncToUint16 usartdiv
  let divFraction := truncToUint16 ((usartdiv - divMantissa.toNat) * 16 + 1 / 2)
  usartBrr divMantissa divFraction

/-- 84 MHz at 115200 baud: the quotient is 729.17. -/
example : calculateUsartBrr 84000000#32 115200#32 = 729#32 := by decide +kernel

/-! ## The register value -/

theorem toNat_truncToUint16 {x : ℚ} {n : Nat} (hx : ⌊x⌋₊ = n) (hn : n < 2 ^ 16) :
    (truncToUint16 x).toNat = n := by
  unfold truncToUint16
  rw [hx, BitVec.toNat_ofNat]
  exact Nat.mod_eq_of_lt hn

/-- The mantissa above the low four bits of the fraction. -/
theorem toNat_usartBrr {mantissa fraction : BitVec 16} :
    (usartBrr mantissa fraction).toNat = 16 * mantissa.toNat + fraction.toNat % 16 := by
  have hmantissa : mantissa.toNat < 2 ^ 16 := mantissa.isLt
  have hlow : fraction.toNat % 16 < 2 ^ 4 := Nat.mod_lt _ (by decide)
  have hmask : fraction.toNat &&& 15 = fraction.toNat % 16 :=
    Nat.and_two_pow_sub_one_eq_mod fraction.toNat 4
  have hshift : mantissa.toNat * 2 ^ 4 % 2 ^ 32 = mantissa.toNat * 2 ^ 4 :=
    Nat.mod_eq_of_lt (by omega)
  have hwide : fraction.toNat % 2 ^ 32 = fraction.toNat :=
    Nat.mod_eq_of_lt (by have := fraction.isLt; omega)
  have hwide' : mantissa.toNat % 2 ^ 32 = mantissa.toNat := Nat.mod_eq_of_lt (by omega)
  simp only [usartBrr, BitVec.toNat_or, BitVec.toNat_shiftLeft, BitVec.toNat_and,
    BitVec.toNat_setWidth, BitVec.toNat_ofNat, Nat.shiftLeft_eq, hwide, hwide', hshift]
  have hor := Nat.two_pow_add_eq_or_of_lt hlow mantissa.toNat
  simp only [Nat.reducePow, Nat.reduceMod, hmask, Nat.mul_one, pow_zero] at hor ⊢
  have hsmall : fraction.toNat % 16 % 4294967296 = fraction.toNat % 16 :=
    Nat.mod_eq_of_lt (by omega)
  rw [hsmall, Nat.mul_comm mantissa.toNat, ← hor]

/-- Half a unit added before the cut rounds to the nearest unit. -/
theorem floor_div_add_half (r b : Nat) (hb : 0 < b) :
    ⌊(r : ℚ) / b + 1 / 2⌋₊ = (2 * r + b) / (2 * b) := by
  have hne : (b : ℚ) ≠ 0 := by exact_mod_cast hb.ne'
  have hquot : (r : ℚ) / b + 1 / 2 = ((2 * r + b : Nat) : ℚ) / ((2 * b : Nat) : ℚ) := by
    push_cast
    field_simp
  rw [hquot, Nat.floor_div_eq_div]

section Divisor

variable {usartClk baudRate : BitVec 32} {c b : Nat}

theorem toNat_calculateUsartBrr (hc : usartClk.toNat = c) (hb : baudRate.toNat = b)
    (hpos : 1 ≤ b) (hfit : b * 16 < 2 ^ 32) (hhigh : c ≤ 65535 * b) :
    (calculateUsartBrr usartClk baudRate).toNat =
      16 * (c / (16 * b)) + (2 * (c % (16 * b)) + b) / (2 * b) % 16 := by
  have hden : (baudRate * 16#32).toNat = 16 * b := by
    rw [BitVec.toNat_mul, hb]
    simp only [BitVec.toNat_ofNat]
    omega
  have hmod : c % (16 * b) < 16 * b := Nat.mod_lt _ (by omega)
  have hmantissa : (truncToUint16 ((c : ℚ) / (16 * b : Nat))).toNat = c / (16 * b) := by
    have hlt : c / (16 * b) < 2 ^ 16 := by
      rw [Nat.div_lt_iff_lt_mul (by omega)]
      omega
    exact toNat_truncToUint16 (Nat.floor_div_eq_div c (16 * b)) hlt
  -- What the mantissa leaves, in sixteenths.
  have hrest : ((c : ℚ) / (16 * b : Nat) - (c / (16 * b) : Nat)) * 16 + 1 / 2 =
      (c % (16 * b) : Nat) / b + 1 / 2 := by
    have hne : (b : ℚ) ≠ 0 := by exact_mod_cast (by omega : b ≠ 0)
    have hsplit : (c : ℚ) = 16 * b * (c / (16 * b) : Nat) + (c % (16 * b) : Nat) := by
      exact_mod_cast (Nat.div_add_mod c (16 * b)).symm
    push_cast at hsplit ⊢
    field_simp
    linarith
  have hfraction : (truncToUint16 (((c : ℚ) / (16 * b : Nat) - (c / (16 * b) : Nat)) * 16 +
      1 / 2)).toNat = (2 * (c % (16 * b)) + b) / (2 * b) := by
    have hlt : (2 * (c % (16 * b)) + b) / (2 * b) < 2 ^ 16 := by
      rw [Nat.div_lt_iff_lt_mul (by omega)]
      omega
    rw [hrest]
    exact toNat_truncToUint16 (floor_div_add_half _ _ (by omega)) hlt
  simp only [calculateUsartBrr, toNat_usartBrr, hc, hden, hmantissa, hfraction]

end Divisor

/-! ## The error -/

theorem abs_sub_div_le_half_iff (n c b : Nat) (hb : 0 < b) :
    |(n : ℚ) - c / b| ≤ 1 / 2 ↔ 2 * (b * n) ≤ 2 * c + b ∧ 2 * c ≤ 2 * (b * n) + b := by
  have hpos : (0 : ℚ) < b := by exact_mod_cast hb
  have hlow : -(1 / 2) ≤ (n : ℚ) - c / b ↔ 2 * c ≤ 2 * (b * n) + b := by
    rw [neg_le_sub_iff_le_add, div_le_iff₀ hpos]
    constructor
    · intro h
      have hq : (2 * c : ℚ) ≤ 2 * (b * n) + b := by linarith
      exact_mod_cast hq
    · intro h
      have hq : (2 * c : ℚ) ≤ 2 * (b * n) + b := by exact_mod_cast h
      linarith
  have hhigh : (n : ℚ) - c / b ≤ 1 / 2 ↔ 2 * (b * n) ≤ 2 * c + b := by
    rw [sub_le_iff_le_add', ← sub_le_iff_le_add, le_div_iff₀ hpos]
    constructor
    · intro h
      have hq : (2 * (b * n) : ℚ) ≤ 2 * c + b := by linarith
      exact_mod_cast hq
    · intro h
      have hq : (2 * (b * n) : ℚ) ≤ 2 * c + b := by exact_mod_cast h
      linarith
  rw [abs_le, hlow, hhigh, and_comm]

/-- Sixteen sixteenths lose their carry, and the divisor comes out sixteen too small. -/
theorem calculateUsartBrr_error_le_half_iff (usartClk baudRate : BitVec 32)
    (hpos : 1 ≤ baudRate.toNat) (hfit : baudRate.toNat * 16 < 2 ^ 32)
    (hhigh : (usartClk.toNat : ℚ) / baudRate.toNat ≤ 65535) :
    |((calculateUsartBrr usartClk baudRate).toNat : ℚ) - usartClk.toNat / baudRate.toNat| ≤ 1 / 2 ↔
      2 * (usartClk.toNat % (16 * baudRate.toNat)) < 31 * baudRate.toNat := by
  obtain ⟨c, hc⟩ : ∃ c, usartClk.toNat = c := ⟨_, rfl⟩
  obtain ⟨b, hb⟩ : ∃ b, baudRate.toNat = b := ⟨_, rfl⟩
  simp only [hc, hb] at hpos hfit hhigh ⊢
  have hrange : c ≤ 65535 * b := by
    have hq : (0 : ℚ) < b := by exact_mod_cast hpos
    rw [div_le_iff₀ hq] at hhigh
    exact_mod_cast hhigh
  rw [toNat_calculateUsartBrr hc hb hpos hfit hrange, abs_sub_div_le_half_iff _ _ _ hpos]
  have hsplit : c = b * (16 * (c / (16 * b))) + c % (16 * b) := by
    calc
      c = 16 * b * (c / (16 * b)) + c % (16 * b) := (Nat.div_add_mod c (16 * b)).symm
      _ = b * (16 * (c / (16 * b))) + c % (16 * b) := by ring
  have hrest : c % (16 * b) < 16 * b := Nat.mod_lt _ (by omega)
  generalize c % (16 * b) = r at hsplit hrest ⊢
  generalize 16 * (c / (16 * b)) = m at hsplit ⊢
  -- `k` is the number of sixteenths, rounded to the nearest.
  obtain ⟨k, hk⟩ : ∃ k, (2 * r + b) / (2 * b) = k := ⟨_, rfl⟩
  have hkle : 2 * (b * k) ≤ 2 * r + b := by
    have h := Nat.div_mul_le_self (2 * r + b) (2 * b)
    rw [hk] at h
    linarith
  have hklt : 2 * r + b < 2 * (b * k) + 2 * b := by
    have h := Nat.lt_div_mul_add (a := 2 * r + b) (b := 2 * b) (by omega)
    rw [hk] at h
    linarith
  rw [hk, Nat.mul_add]
  by_cases hcarry : 2 * r < 31 * b
  · have hlt : k < 16 := by
      by_contra hge
      have hmul : b * 16 ≤ b * k := Nat.mul_le_mul_left b (by omega)
      omega
    rw [Nat.mod_eq_of_lt hlt]
    omega
  · have hsixteen : k = 16 := by
      have hupper : b * k < b * 17 := by omega
      have hlower : b * 15 < b * k := by omega
      have := Nat.lt_of_mul_lt_mul_left hupper
      have := Nat.lt_of_mul_lt_mul_left hlower
      omega
    rw [hsixteen]
    omega

theorem calculateUsartBrr_84MHz_error_le_half :
    |((calculateUsartBrr 84000000#32 115200#32).toNat : ℚ) -
      (84000000#32 : BitVec 32).toNat / (115200#32 : BitVec 32).toNat| ≤ 1 / 2 :=
  (calculateUsartBrr_error_le_half_iff 84000000#32 115200#32 (by decide) (by decide)
    (by norm_num)).mpr (by decide)

/-- 35 MHz at 115200 baud: the quotient is 303.82, and the register holds 288. -/
theorem calculateUsartBrr_35MHz_loses_carry :
    calculateUsartBrr 35000000#32 115200#32 = 288#32 ∧
      1 ≤ (115200#32 : BitVec 32).toNat ∧ (115200#32 : BitVec 32).toNat * 16 < 2 ^ 32 ∧
      (16 : ℚ) ≤ (35000000#32 : BitVec 32).toNat / (115200#32 : BitVec 32).toNat ∧
      ((35000000#32 : BitVec 32).toNat : ℚ) / (115200#32 : BitVec 32).toNat ≤ 65535 ∧
      ¬ |((calculateUsartBrr 35000000#32 115200#32).toNat : ℚ) -
        (35000000#32 : BitVec 32).toNat / (115200#32 : BitVec 32).toNat| ≤ 1 / 2 := by
  have hbrr : calculateUsartBrr 35000000#32 115200#32 = 288#32 := by decide +kernel
  refine ⟨hbrr, by decide, by decide, by norm_num, by norm_num, ?_⟩
  rw [hbrr]
  norm_num [abs_le]

end Core
end SdioFat32
