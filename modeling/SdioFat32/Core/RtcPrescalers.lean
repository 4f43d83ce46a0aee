import SdioFat32.Core.RtcClock

/-!
# RtcPrescalers — one second out of the clock of the RTC

The calendar counts a second every `(a + 1) * (s + 1)` cycles.  The loop of
`calculate_prescalers_rtc` stops at the first divider `a + 1` whose quotient fits the 15 bits of
`s`, whether it divides the frequency or not.

* `leastDivider` — that divider, in closed form;
* `calculatePrescalersRtc_eq` — what the search returns wherever some divider fits;
* `calculatePrescalersRtc_exact_iff` — a second is exact if and only if the least divider divides
  the frequency, however many larger ones do.
-/

namespace SdioFat32
namespace Core

/-- The smallest divider with a quotient of at most `0x8000`. -/
def leastDivider (f : Nat) : Nat := f / 32769 + 1

theorem div_le_iff_leastDivider_le {f d : Nat} (hd : 0 < d) :
    f / d ≤ 32768 ↔ leastDivider f ≤ d := by
  have hquot : f / d ≤ 32768 ↔ f < 32769 * d := by
    rw [← Nat.lt_succ_iff, Nat.div_lt_iff_lt_mul hd]
  have hleast : leastDivider f ≤ d ↔ f < 32769 * d := by
    rw [leastDivider, Nat.succ_le_iff, Nat.div_lt_iff_lt_mul (by decide), Nat.mul_comm]
  rw [hquot, hleast]

theorem leastDivider_le_self {f : Nat} (hf : 1 ≤ f) : leastDivider f ≤ f := by
  unfold leastDivider
  omega

/-! ## The search -/

section Search

variable {f a : BitVec 32} {left : Nat}

theorem toNat_divider (ha : a.toNat ≤ 127) : (a + 1#32).toNat = a.toNat + 1 := by
  rw [BitVec.toNat_add]
  simp only [BitVec.toNat_ofNat]
  omega

/-- The subtraction wraps only where the quotient is zero. -/
theorem toNat_prescaler (ha : a.toNat ≤ 127) (hquot : 1 ≤ f.toNat / (a.toNat + 1)) :
    (f / (a + 1#32) - 1#32).toNat = f.toNat / (a.toNat + 1) - 1 := by
  have hle : f.toNat / (a.toNat + 1) ≤ f.toNat := Nat.div_le_self _ _
  have hf : f.toNat < 2 ^ 32 := f.isLt
  rw [BitVec.toNat_sub, BitVec.toNat_udiv, toNat_divider ha]
  simp only [BitVec.toNat_ofNat]
  omega

/-- From a divider that is not past the least one, the search ends at the least one. -/
theorem prescalersFrom_eq (hf : 1 ≤ f.toNat) (ha : a.toNat + 1 ≤ leastDivider f.toNat)
    (hleft : leastDivider f.toNat ≤ a.toNat + left) (hbound : a.toNat + left ≤ 128) :
    (prescalersFrom f left a).1.toNat + 1 = leastDivider f.toNat ∧
      (prescalersFrom f left a).2.toNat + 1 = f.toNat / leastDivider f.toNat := by
  induction left generalizing a with
  | zero => omega
  | succ left ih =>
      have hself : leastDivider f.toNat ≤ f.toNat := leastDivider_le_self hf
      have hquot : 1 ≤ f.toNat / (a.toNat + 1) := by
        rw [Nat.le_div_iff_mul_le (by omega)]
        omega
      have hs := toNat_prescaler (f := f) (a := a) (by omega) hquot
      have hfits : f / (a + 1#32) - 1#32 ≤ 0x7FFF#32 ↔ leastDivider f.toNat ≤ a.toNat + 1 := by
        rw [← div_le_iff_leastDivider_le (by omega), BitVec.le_def, hs]
        simp only [BitVec.toNat_ofNat]
        omega
      unfold prescalersFrom
      dsimp only
      by_cases hleast : leastDivider f.toNat ≤ a.toNat + 1
      · rw [if_pos (hfits.mpr hleast)]
        have heq : a.toNat + 1 = leastDivider f.toNat := by omega
        refine ⟨heq, ?_⟩
        rw [hs, ← heq]
        omega
      · -- The quotient does not fit: the next divider is still not past the least one.
        rw [if_neg (fun h => hleast (hfits.mp h))]
        have hnext : (a + 1#32).toNat = a.toNat + 1 := toNat_divider (by omega)
        apply ih <;> omega

theorem calculatePrescalersRtc_eq (hf : 1 ≤ f.toNat) (hfit : leastDivider f.toNat ≤ 128) :
    (calculatePrescalersRtc f).1.toNat + 1 = leastDivider f.toNat ∧
      (calculatePrescalersRtc f).2.toNat + 1 = f.toNat / leastDivider f.toNat := by
  have hpos : 1 ≤ leastDivider f.toNat := Nat.succ_pos _
  exact prescalersFrom_eq hf hpos (by simpa using hfit) (Nat.le_refl _)

end Search

/-! ## One second -/

/-- Prescalers that fit their fields and divide the frequency down to one second. -/
def OneSecond (f a s : Nat) : Prop := a ≤ 127 ∧ s ≤ 0x7FFF ∧ (a + 1) * (s + 1) = f

theorem OneSecond.leastDivider_le {f a s : Nat} (h : OneSecond f a s) : leastDivider f ≤ 128 := by
  obtain ⟨ha, hs, rfl⟩ := h
  have hle : leastDivider ((a + 1) * (s + 1)) ≤ a + 1 := by
    rw [← div_le_iff_leastDivider_le (Nat.succ_pos a), Nat.mul_div_cancel_left _ (Nat.succ_pos a)]
    omega
  omega

/-- Among the exact pairs only the one with the least divider is ever returned. -/
theorem calculatePrescalersRtc_exact_iff (f : BitVec 32) (hf : 1 ≤ f.toNat)
    (hexact : ∃ a s, OneSecond f.toNat a s) :
    OneSecond f.toNat (calculatePrescalersRtc f).1.toNat (calculatePrescalersRtc f).2.toNat ↔
      (f.toNat / 32769 + 1) ∣ f.toNat := by
  obtain ⟨a, s, hpair⟩ := hexact
  obtain ⟨hdivider, hquotient⟩ := calculatePrescalersRtc_eq hf hpair.leastDivider_le
  obtain ⟨ha, hs⟩ := calculatePrescalersRtc_le f
  have hproduct : OneSecond f.toNat (calculatePrescalersRtc f).1.toNat
      (calculatePrescalersRtc f).2.toNat ↔
        leastDivider f.toNat * (f.toNat / leastDivider f.toNat) = f.toNat := by
    rw [OneSecond, hdivider, hquotient]
    exact ⟨fun h => h.2.2, fun h => ⟨ha, hs, h⟩⟩
  rw [hproduct]
  exact Nat.mul_div_eq_iff_dvd

/-- The crystal of a watch: 32768 Hz. -/
theorem calculatePrescalersRtc_watch :
    OneSecond (32768#32 : BitVec 32).toNat (calculatePrescalersRtc 32768#32).1.toNat
      (calculatePrescalersRtc 32768#32).2.toNat :=
  (calculatePrescalersRtc_exact_iff 32768#32 (by decide)
    ⟨0, 32767, by decide, by decide, by decide⟩).mpr (by decide)

/-- At 1 MHz, which is the 25 MHz crystal divided by 25, the search stops at 31 and loses two
cycles; 32 divides the frequency. -/
theorem calculatePrescalersRtc_1MHz_inexact :
    OneSecond (1000000#32 : BitVec 32).toNat 31 31249 ∧
      calculatePrescalersRtc 1000000#32 = (30#32, 32257#32) ∧
      ¬ OneSecond (1000000#32 : BitVec 32).toNat (calculatePrescalersRtc 1000000#32).1.toNat
        (calculatePrescalersRtc 1000000#32).2.toNat := by
  have hresult : calculatePrescalersRtc 1000000#32 = (30#32, 32257#32) := by decide
  refine ⟨⟨by decide, by decide, by decide⟩, hresult, ?_⟩
  rw [hresult]
  rintro ⟨_, _, hproduct⟩
  exact absurd hproduct (by decide)

end Core
end SdioFat32
