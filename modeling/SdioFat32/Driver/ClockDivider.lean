import SdioFat32.Core.ClockReport
import SdioFat32.Driver.Sdio

/-!
# ClockDivider — the rate of the card clock

`SDIO_CK` is the 48 MHz output of the PLL divided by `CLKDIV + 2`.  `sdio_calc_clkcr_div` cuts the
quotient of source and target off, so that the divider is the largest one that is at least as fast
as the target.

* `toNat_sdioCalcClkcrDiv` — the divider between its two clamps;
* `sdioCalcClkcrDiv_le_iff` — the target is an upper bound only where the division is exact, or the
  source too slow for a divider to matter.
-/

namespace SdioFat32
namespace Driver

/-- The lower clamp serves the quotients below two; a quotient of at most 257 never reaches the
upper one. -/
theorem toNat_sdioCalcClkcrDiv {f t : BitVec 32} (ht : 1 ≤ t.toNat)
    (hf : f.toNat ≤ 257 * t.toNat) :
    (sdioCalcClkcrDiv f t).toNat = f.toNat / t.toNat - 2 := by
  have hquot : f.toNat / t.toNat ≤ 257 := by
    apply Nat.div_le_of_le_mul
    rw [Nat.mul_comm]
    exact hf
  have hne : t ≠ 0#32 := by
    rintro rfl
    exact absurd ht (by decide)
  have hint : (f / t).toInt = (f.toNat / t.toNat : Nat) := by
    rw [BitVec.toInt_eq_toNat_of_lt, BitVec.toNat_udiv]
    rw [BitVec.toNat_udiv]
    omega
  unfold sdioCalcClkcrDiv
  rw [if_neg hne]
  dsimp only
  rw [hint]
  generalize f.toNat / t.toNat = q at hquot ⊢
  by_cases hsmall : (q : Int) - 2 < 0
  · rw [if_pos hsmall]
    show 0 = q - 2
    omega
  · rw [if_neg hsmall, if_neg (by omega), BitVec.toNat_ofInt]
    omega

/-- The truncated quotient rounds the clock up, unless nothing was cut off. -/
theorem sdioCalcClkcrDiv_le_iff (f t : BitVec 32) (ht : 1 ≤ t.toNat)
    (hf : f.toNat ≤ 257 * t.toNat) :
    f.toNat ≤ t.toNat * ((sdioCalcClkcrDiv f t).toNat + 2) ↔
      f.toNat < 2 * t.toNat ∨ t.toNat ∣ f.toNat := by
  rw [toNat_sdioCalcClkcrDiv ht hf]
  by_cases hslow : f.toNat < 2 * t.toNat
  · have hquot : f.toNat / t.toNat < 2 := (Nat.div_lt_iff_lt_mul ht).mpr hslow
    have hclamped : f.toNat / t.toNat - 2 + 2 = 2 := by omega
    rw [hclamped, Nat.mul_comm]
    exact ⟨fun _ => Or.inl hslow, fun _ => Nat.le_of_lt hslow⟩
  · have hquot : 2 ≤ f.toNat / t.toNat := (Nat.le_div_iff_mul_le ht).mpr (by omega)
    have hwhole : f.toNat / t.toNat - 2 + 2 = f.toNat / t.toNat := by omega
    have hle : t.toNat * (f.toNat / t.toNat) ≤ f.toNat := Nat.mul_div_le _ _
    rw [hwhole]
    constructor
    · intro hbound
      have hexact : t.toNat * (f.toNat / t.toNat) = f.toNat := Nat.le_antisymm hle hbound
      exact Or.inr ⟨_, hexact.symm⟩
    · rintro (hlt | hdvd)
      · exact absurd hlt hslow
      · exact Nat.le_of_eq (Nat.mul_div_cancel' hdvd).symm

/-- 48 MHz are 120 times 400 kHz. -/
theorem sdioCalcClkcrDiv_48MHz_le :
    (48000000#32 : BitVec 32).toNat ≤
      (400000#32 : BitVec 32).toNat * ((sdioCalcClkcrDiv 48000000#32 400000#32).toNat + 2) :=
  (sdioCalcClkcrDiv_le_iff 48000000#32 400000#32 (by decide) (by decide)).mpr
    (Or.inr (by decide))

/-- The registers with `PLLM` 25, `PLLN` 335 and `PLLQ` 7 on the external crystal. -/
def plln335 : Core.ClockRegs where
  pllcfgr := 7#32 <<< 24 ||| 1#32 <<< 22 ||| 335#32 <<< 6 ||| 25#32
  cfgr := 0#32
  acr := 0#32

/-- The PLL gives 47857142 Hz, and the divider 117 makes 402 kHz of them. -/
theorem sdioCalcClkcrDiv_plln335_exceeds :
    plln335.pll48clk = 47857142#32 ∧ plln335.pll48clk.toNat ≤ 257 * (400000#32 : BitVec 32).toNat ∧
      (sdioCalcClkcrDiv plln335.pll48clk 400000#32).toNat = 117 ∧
      ¬ plln335.pll48clk.toNat ≤
        (400000#32 : BitVec 32).toNat * ((sdioCalcClkcrDiv plln335.pll48clk 400000#32).toNat + 2) :=
  ⟨by decide, by decide, by decide, by decide⟩

end Driver
end SdioFat32
