import SdioFat32.Core.Timer
import Mathlib.Tactic.Ring
import Mathlib.Tactic.FieldSimp
import Mathlib.Data.Rat.Defs

/-!
# TimerClock — the prescaler of `init_timer` against the clock of TIM2

`PSC + 1` should be the number of cycles in a millisecond.  The truncating divisions of the driver
do not spoil a clock of whole kilohertz; three things do: a PLL input that `PLLM` does not divide, a
VCO frequency that leaves 32 bits, and an AHB divisor from 64 on.  The register holds 16 bits.

The first part is about numbers: `1000 * t` divides the clock before the AHB prescaler, `n` is the
number of cycles in a millisecond, and `u` the factor by which the AHB divisor is misread.
-/

namespace SdioFat32
namespace Core

open Cells

/-! ## Numbers -/

section Numbers

variable {src m plln t n u W : Nat}

/-- A quotient that is short of an exact one by less than the divisor. -/
theorem div_of_short {T M e : Nat} (hshort : W + e = M * T) (he : e < T) (hM : 0 < M) :
    W / T = if e = 0 then M else M - 1 := by
  have hT : 0 < T := Nat.lt_of_le_of_lt (Nat.zero_le e) he
  split
  · next hzero =>
    rw [hzero, Nat.add_zero] at hshort
    rw [hshort, Nat.mul_div_cancel _ hT]
  · next hpos =>
    have hpred : M * T = (M - 1) * T + T := by
      rw [← Nat.succ_mul, Nat.succ_eq_add_one, Nat.sub_add_cancel hM]
    refine Nat.div_eq_of_lt_le ?_ ?_
    · omega
    · rw [Nat.succ_mul]
      omega

/-- A clock too fast for 32 bits is not recovered from what 32 bits hold of it. -/
theorem prescaler_of_wrapped (hexact : W = n * u * (1000 * t)) (hn : 0 < n) (hn' : n ≤ 65536)
    (hu : u = 1 ∨ u = 2 ∧ 64 ≤ t) (hlow : 2 ^ 32 ≤ W) (hhigh : W < 3 * 2 ^ 32) :
    W % 2 ^ 32 / (1000 * t) % 65536 ≠ n % 65536 := by
  intro hsame
  have hT : 0 < 1000 * t := by
    refine Nat.pos_of_ne_zero fun hzero => ?_
    rw [hzero, Nat.mul_zero] at hexact
    omega
  have hle : W % 2 ^ 32 / (1000 * t) * (1000 * t) ≤ W % 2 ^ 32 := Nat.div_mul_le_self _ _
  have hlt : W % 2 ^ 32 < W % 2 ^ 32 / (1000 * t) * (1000 * t) + 1000 * t := Nat.lt_div_mul_add hT
  have hwrapped : W % 2 ^ 32 + 2 ^ 32 ≤ W := by omega
  generalize hQ : W % 2 ^ 32 / (1000 * t) = Q at hsame hle hlt
  -- What was lost is more than nothing, so the quotient is smaller than the exact one.
  have hQlt : Q < n * u := by
    refine Nat.lt_of_mul_lt_mul_right (a := 1000 * t) ?_
    rw [← hexact]
    omega
  have hlost : W / 2 ^ 32 = 1 ∨ W / 2 ^ 32 = 2 := by omega
  rcases hu with rfl | ⟨rfl, ht⟩
  · have hQzero : Q = 0 ∧ n = 65536 := by omega
    rcases hQzero with ⟨rfl, rfl⟩
    -- A multiple of 65536000 that is so close above a multiple of 2 ^ 32 is not small.
    rcases hlost with hlost | hlost
    · omega
    · omega
  · have hcases : Q = n ∨ Q = 0 ∧ n = 65536 := by omega
    rcases hcases with rfl | ⟨rfl, rfl⟩
    · have hdouble : W = 2 * (Q * (1000 * t)) := by
        rw [hexact]
        ring
      omega
    · rcases hlost with hlost | hlost
      · omega
      · omega

/-- In 32 bits the prescaler is right exactly if the AHB divisor is read correctly and the input of
the PLL is divided without a remainder. -/
theorem prescaler_of_fitting {e : Nat} (hexact : W + e = n * u * (1000 * t)) (he : e < 1000 * t)
    (hn : 0 < n) (hn' : n ≤ 65536) (hu : u = 1 ∨ u = 2 ∧ 64 ≤ t ∧ n ≠ 1) (hfits : W < 2 ^ 32) :
    W / (1000 * t) % 65536 = n % 65536 ↔ u = 1 ∧ e = 0 := by
  have hpos : 0 < n * u := by
    rcases hu with rfl | ⟨rfl, -⟩
    · exact Nat.mul_pos hn (by decide)
    · exact Nat.mul_pos hn (by decide)
  rw [div_of_short hexact he hpos]
  rcases hu with rfl | ⟨rfl, ht, hne⟩
  · split
    · next hzero =>
      rw [Nat.mul_one]
      exact iff_of_true rfl ⟨rfl, hzero⟩
    · next hrest =>
      refine iff_of_false ?_ fun h => hrest h.2
      omega
  · refine iff_of_false ?_ fun h => absurd h.1 (by decide)
    split
    · next hzero =>
      -- Only 65536 is congruent to its double, and a clock of that many cycles is too fast.
      intro hsame
      have hn65536 : n = 65536 := by omega
      rw [hn65536] at hexact
      omega
    · omega

/-- What the division by `m` leaves out of the exact clock. -/
theorem exists_short {X : Nat} (hexact : src * plln = m * X) (hm : 0 < m) (hX : 0 < X) :
    ∃ e, src / m * plln + e = X ∧ e < plln ∧ (e = 0 ↔ m ∣ src) := by
  have hsplit : m * (src / m * plln) + src % m * plln = m * X := by
    calc m * (src / m * plln) + src % m * plln = (m * (src / m) + src % m) * plln := by
          rw [Nat.add_mul, Nat.mul_assoc]
      _ = src * plln := by rw [Nat.div_add_mod]
      _ = m * X := hexact
  have hle : src / m * plln ≤ X := by
    refine Nat.le_of_mul_le_mul_left ?_ hm
    rw [← hsplit]
    exact Nat.le_add_right _ _
  have hplln : 0 < plln := by
    refine Nat.pos_of_ne_zero fun hzero => ?_
    rw [hzero, Nat.mul_zero] at hexact
    exact absurd hexact (Nat.mul_pos hm hX).ne
  -- `m` times what is missing is the remainder of the source, times `plln`.
  have hrest : m * (X - src / m * plln) = src % m * plln := by
    calc m * (X - src / m * plln) = m * X - m * (src / m * plln) := Nat.mul_sub _ _ _
      _ = m * (src / m * plln) + src % m * plln - m * (src / m * plln) := by rw [hsplit]
      _ = src % m * plln := Nat.add_sub_cancel_left _ _
  refine ⟨X - src / m * plln, Nat.add_sub_cancel' hle, ?_, ?_⟩
  · refine Nat.lt_of_mul_lt_mul_left (a := m) ?_
    rw [hrest]
    exact Nat.mul_lt_mul_of_pos_right (Nat.mod_lt _ hm) hplln
  · constructor
    · intro hzero
      rw [hzero, Nat.mul_zero] at hrest
      rcases Nat.mul_eq_zero.1 hrest.symm with hmod | hnone
      · exact Nat.dvd_of_mod_eq_zero hmod
      · exact absurd hnone hplln.ne'
    · intro hdvd
      rw [Nat.mod_eq_zero_of_dvd hdvd, Nat.zero_mul] at hrest
      exact (Nat.mul_eq_zero.1 hrest).resolve_left hm.ne'

/-- Only an oscillator that is hardly divided makes the VCO leave 32 bits. -/
theorem dvd_of_wrapped (hsrc : src = 16000000 ∨ src = 25000000) (hm : 0 < m) (hplln : plln < 512)
    (hlow : 2 ^ 32 ≤ src / m * plln) : m ∣ src ∧ src / m * plln < 3 * 2 ^ 32 := by
  have hm2 : m ≤ 2 := by
    by_contra hlarge
    have hquot : src / m ≤ 25000000 / 3 :=
      Nat.div_le_div (by omega) (Nat.lt_of_not_le hlarge) (by decide)
    have hmul : src / m * plln ≤ 25000000 / 3 * 511 :=
      Nat.mul_le_mul hquot (Nat.le_of_lt_succ hplln)
    omega
  have hmul : src / m * plln ≤ 25000000 * 511 :=
    Nat.mul_le_mul ((Nat.div_le_self src m).trans (by omega)) (Nat.le_of_lt_succ hplln)
  refine ⟨?_, by omega⟩
  have hcases : m = 1 ∨ m = 2 := by omega
  rcases hcases with rfl | rfl
  · exact Nat.one_dvd src
  · rcases hsrc with rfl | rfl
    · decide
    · decide

/-- The oscillators are multiples of `5 ^ 6`, which no small divider takes down to 2 kHz. -/
theorem not_one_of_dvd (hsrc : src = 16000000 ∨ src = 25000000) (hm : 0 < m) (hm' : m < 64)
    (hcoprime : Nat.Coprime 125 t) (hexact : src * plln = m * (n * 2 * (1000 * t))) : n ≠ 1 := by
  rintro rfl
  have hfive : 125 * 125 ∣ src := by
    rcases hsrc with rfl | rfl
    · decide
    · decide
  have hdvd : 125 * 125 ∣ 125 * (m * (16 * t)) := by
    have hmul : src * plln = 125 * (m * (16 * t)) := by
      rw [hexact]
      ring
    rw [← hmul]
    exact Dvd.dvd.mul_right hfive plln
  have hrest : 125 ∣ m * (16 * t) := Nat.dvd_of_mul_dvd_mul_left (by decide) hdvd
  have hm125 : 125 ∣ m :=
    Nat.Coprime.dvd_of_dvd_mul_right (Nat.Coprime.mul_right (by decide) hcoprime) hrest
  exact absurd (Nat.le_of_dvd hm hm125) (by omega)

theorem pll_prescaler_iff (hsrc : src = 16000000 ∨ src = 25000000) (hm : 0 < m) (hm' : m < 64)
    (hplln : plln < 512) (hcoprime : Nat.Coprime 125 t) (ht : 0 < t)
    (hexact : src * plln = m * (n * u * (1000 * t))) (hn : 0 < n) (hn' : n ≤ 65536)
    (hu : u = 1 ∨ u = 2 ∧ 64 ≤ t) :
    src / m * plln % 2 ^ 32 / (1000 * t) % 65536 = n % 65536 ↔
      u = 1 ∧ m ∣ src ∧ src / m * plln < 2 ^ 32 := by
  have hupos : 0 < u := by omega
  have hpos : 0 < n * u * (1000 * t) :=
    Nat.mul_pos (Nat.mul_pos hn hupos) (Nat.mul_pos (by decide) ht)
  rcases exists_short hexact hm hpos with ⟨e, hshort, he, hdvd⟩
  by_cases hfits : src / m * plln < 2 ^ 32
  · have hu' : u = 1 ∨ u = 2 ∧ 64 ≤ t ∧ n ≠ 1 := by
      rcases hu with hone | ⟨rfl, hlarge⟩
      · exact Or.inl hone
      · exact Or.inr ⟨rfl, hlarge, not_one_of_dvd hsrc hm hm' hcoprime hexact⟩
    rw [Nat.mod_eq_of_lt hfits, prescaler_of_fitting hshort (by omega) hn hn' hu' hfits, hdvd]
    exact ⟨fun h => ⟨h.1, h.2, hfits⟩, fun h => ⟨h.1, h.2.1⟩⟩
  · have hlow : 2 ^ 32 ≤ src / m * plln := Nat.not_lt.1 hfits
    rcases dvd_of_wrapped hsrc hm hplln hlow with ⟨hdiv, hhigh⟩
    rw [hdvd.2 hdiv, Nat.add_zero] at hshort
    exact iff_of_false (prescaler_of_wrapped hshort hn hn' hu hlow hhigh) fun h => hfits h.2.2

/-- Without the PLL. -/
theorem direct_prescaler_iff (hsrc : src = 16000000 ∨ src = 25000000) (ht : 0 < t)
    (hexact : src = n * u * (1000 * t)) (hn : 0 < n) (hn' : n ≤ 65536) (hu : u = 1 ∨ u = 2) :
    src / (1000 * t) % 65536 = n % 65536 ↔ u = 1 := by
  have hT : 0 < 1000 * t := Nat.mul_pos (by decide) ht
  have hquot : src / (1000 * t) = n * u := by
    rw [hexact, Nat.mul_div_cancel _ hT]
  rw [hquot]
  rcases hu with rfl | rfl
  · rw [Nat.mul_one]
    exact iff_of_true rfl rfl
  · refine iff_of_false (fun hsame => ?_) (by decide)
    have hn65536 : n = 65536 := by omega
    rw [hn65536] at hexact
    omega

end Numbers

/-! ## The clock of TIM2 -/

/-- The frequency of the oscillator that feeds the PLL. -/
def ClockRegs.pllSource (ρ : ClockRegs) : Nat :=
  if (field ρ.pllcfgr 22 1).toNat = 0 then 16000000 else 25000000

def ClockRegs.pllm (ρ : ClockRegs) : Nat := (field ρ.pllcfgr 0 6).toNat

def ClockRegs.plln (ρ : ClockRegs) : Nat := (field ρ.pllcfgr 6 9).toNat

/-- What the PLL divides the VCO clock by. -/
def ClockRegs.pllDivisor (ρ : ClockRegs) : Nat := 2 * ((field ρ.pllcfgr 16 2).toNat + 1)

/-- The system clock selected, in Hz; nothing is rounded, and there is no fourth clock. -/
def ClockRegs.exactSysclk (ρ : ClockRegs) : ℚ :=
  if ρ.sw = 0#2 then 16000000
  else if ρ.sw = 1#2 then 25000000
  else if ρ.sw = pllSelected then ρ.pllSource * ρ.plln / (ρ.pllm * ρ.pllDivisor)
  else 0

/-- The clock of TIM2: APB1, doubled when APB1 is divided. -/
def ClockRegs.timerClock (ρ : ClockRegs) (ahb : RccAhbPresc) (apb1 : RccApbPresc) : ℚ :=
  ρ.exactSysclk / ahb.divisor / apb1.divisor * (if apb1.divisor = 1 then 1 else 2)

/-- What the clock of TIM2 is of the AHB clock. -/
def RccApbPresc.timerDivisor : RccApbPresc → Nat
  | .notDiv => 1
  | .div2 => 1
  | .div4 => 2
  | .div8 => 4
  | .div16 => 8

/-- The divisor that `get_clock_frequencies` takes a code of `HPRE` for. -/
def RccAhbPresc.misread (ahb : RccAhbPresc) : Nat :=
  if ahb.divisor ≤ 16 then ahb.divisor else ahb.divisor / 2

/-- The factor between the two. -/
def RccAhbPresc.excess (ahb : RccAhbPresc) : Nat := if ahb.divisor ≤ 16 then 1 else 2

theorem RccAhbPresc.divisor_eq (ahb : RccAhbPresc) : ahb.divisor = ahb.excess * ahb.misread := by
  cases ahb <;> rfl

theorem RccAhbPresc.excess_eq_one_iff (ahb : RccAhbPresc) : ahb.excess = 1 ↔ ahb.divisor ≤ 16 := by
  unfold excess
  split
  · next hsmall => exact iff_of_true rfl hsmall
  · next hlarge => exact iff_of_false (by decide) hlarge

theorem RccAhbPresc.excess_cases (ahb : RccAhbPresc) :
    ahb.excess = 1 ∨ ahb.excess = 2 ∧ 32 ≤ ahb.misread := by
  cases ahb <;> decide

theorem RccAhbPresc.misread_coprime (ahb : RccAhbPresc) :
    0 < ahb.misread ∧ Nat.Coprime 125 ahb.misread := by
  cases ahb <;> decide

theorem RccApbPresc.timerDivisor_coprime (apb1 : RccApbPresc) :
    0 < apb1.timerDivisor ∧ Nat.Coprime 125 apb1.timerDivisor := by
  cases apb1 <;> decide

theorem ClockRegs.pllDivisor_coprime (ρ : ClockRegs) :
    2 ≤ ρ.pllDivisor ∧ Nat.Coprime 125 ρ.pllDivisor := by
  have hall : ∀ p < 2 ^ 2, 2 ≤ 2 * (p + 1) ∧ Nat.Coprime 125 (2 * (p + 1)) := by decide
  exact hall _ (field_lt ρ.pllcfgr 16 2)

section Exact

variable {ρ : ClockRegs} {ahb : RccAhbPresc} {apb1 : RccApbPresc} {n : Nat}

theorem ClockRegs.timerClock_eq :
    ρ.timerClock ahb apb1 = ρ.exactSysclk / (ahb.divisor * apb1.timerDivisor : Nat) := by
  unfold timerClock
  cases apb1 <;> simp [RccApbPresc.divisor, RccApbPresc.timerDivisor] <;> ring

/-- The number of cycles that makes up a millisecond of the clock before the prescalers. -/
def msDivisor (ahb : RccAhbPresc) (apb1 : RccApbPresc) : Nat := ahb.misread * apb1.timerDivisor

theorem msDivisor_pos : 0 < msDivisor ahb apb1 :=
  Nat.mul_pos ahb.misread_coprime.1 apb1.timerDivisor_coprime.1

/-- The exact clock, in whole numbers. -/
theorem ClockRegs.exactSysclk_eq (hclock : ρ.timerClock ahb apb1 = 1000 * n) :
    ρ.exactSysclk = (n * ahb.excess * (1000 * msDivisor ahb apb1) : Nat) := by
  have hpos : ((ahb.divisor * apb1.timerDivisor : Nat) : ℚ) ≠ 0 := by
    have hne : ahb.divisor * apb1.timerDivisor ≠ 0 := by
      cases ahb <;> cases apb1 <;> decide
    exact_mod_cast hne
  rw [timerClock_eq, div_eq_iff hpos] at hclock
  rw [hclock, ahb.divisor_eq]
  unfold msDivisor
  push_cast
  ring

theorem RccAhbPresc.excess_pos (ahb : RccAhbPresc) : 0 < ahb.excess := by
  cases ahb <;> decide

theorem ClockRegs.exact_pll (hsw : ρ.sw = pllSelected) (hn : 0 < n)
    (hclock : ρ.timerClock ahb apb1 = 1000 * n) :
    0 < ρ.pllm ∧ ρ.pllSource * ρ.plln =
      ρ.pllm * (n * ahb.excess * (1000 * (ρ.pllDivisor * msDivisor ahb apb1))) := by
  have hsysclk : ρ.exactSysclk = ρ.pllSource * ρ.plln / (ρ.pllm * ρ.pllDivisor) := by
    unfold exactSysclk
    rw [hsw]
    rfl
  have hexact := exactSysclk_eq hclock
  rw [hsysclk] at hexact
  have hm : 0 < ρ.pllm := by
    refine Nat.pos_of_ne_zero fun hzero => ?_
    -- A PLL whose input is divided by 0 has no frequency.
    rw [hzero, Nat.cast_zero, zero_mul, div_zero] at hexact
    have hpos : 0 < n * ahb.excess * (1000 * msDivisor ahb apb1) :=
      Nat.mul_pos (Nat.mul_pos hn ahb.excess_pos) (Nat.mul_pos (by decide) msDivisor_pos)
    exact hpos.ne (by exact_mod_cast hexact)
  have hden : ((ρ.pllm * ρ.pllDivisor : Nat) : ℚ) ≠ 0 := by
    have hd := ρ.pllDivisor_coprime.1
    exact_mod_cast (Nat.mul_pos hm (by omega)).ne'
  rw [← Nat.cast_mul, ← Nat.cast_mul, div_eq_iff hden] at hexact
  refine ⟨hm, ?_⟩
  have hnat : ρ.pllSource * ρ.plln =
      n * ahb.excess * (1000 * msDivisor ahb apb1) * (ρ.pllm * ρ.pllDivisor) := by
    exact_mod_cast hexact
  rw [hnat]
  ring

/-! ## The prescaler -/

/-- What `PSC` is made of. -/
theorem ClockRegs.timerPsc_succ_iff {source : BitVec 2} :
    (ρ.timerPsc source).toNat + 1 = n ↔
      0 < n ∧ n ≤ 65536 ∧ (ρ.timerClk source).toNat / 1000 % 65536 = n % 65536 := by
  have hone : (1#32).toNat = 1 := rfl
  have hthousand : (1000#32).toNat = 1000 := rfl
  have hlt := (ρ.timerClk source).isLt
  unfold timerPsc
  rw [BitVec.toNat_setWidth, BitVec.toNat_sub, BitVec.toNat_udiv, hone, hthousand]
  omega

/-- Halving, doubling and dividing by 1000 is one division. -/
theorem half_double_div (y : Nat) : y / 2 * 2 / 1000 = y / 1000 := by
  calc y / 2 * 2 / 1000 = y / 2 * 2 / (500 * 2) := rfl
    _ = y / 2 / 500 := Nat.mul_div_mul_right _ _ (by decide)
    _ = y / (2 * 500) := Nat.div_div_eq_div_mul _ _ _

theorem RccApbPresc.divided (apb1 : RccApbPresc) :
    apb1 = .notDiv ∨ 1#8 < apb1.code ∧ apb1.divisor = apb1.timerDivisor * 2 := by
  cases apb1 <;> decide

/-- A clock that is not the PLL is reported as it is. -/
theorem ClockRegs.exists_direct (hsw : ρ.sw ≠ pllSelected) (hne : ρ.exactSysclk ≠ 0) :
    ∃ src : Nat, (src = 16000000 ∨ src = 25000000) ∧ ρ.exactSysclk = src ∧
      (ρ.reportSysclk ρ.sw 0#32).toNat = src := by
  have hsources : ∀ sw : BitVec 2, sw ≠ pllSelected → sw = 0#2 ∨ sw = 1#2 ∨ sw = 3#2 := by decide
  unfold exactSysclk at hne ⊢
  rcases hsources ρ.sw hsw with hsource | hsource | hsource
  · rw [hsource]
    exact ⟨16000000, Or.inl rfl, rfl, rfl⟩
  · rw [hsource]
    exact ⟨25000000, Or.inr rfl, rfl, rfl⟩
  · rw [hsource] at hne
    exact absurd rfl hne

theorem ClockRegs.direct_exact_iff (hsw : ρ.sw ≠ pllSelected) (hn : 0 < n) (hn' : n ≤ 65536)
    (hclock : ρ.timerClock ahb apb1 = 1000 * n) :
    (ρ.reportSysclk ρ.sw 0#32).toNat / (1000 * msDivisor ahb apb1) % 65536 = n % 65536 ↔
      ahb.excess = 1 ∧
        (ρ.sw = pllSelected → ρ.pllm ∣ ρ.pllSource ∧ ρ.pllSource / ρ.pllm * ρ.plln < 2 ^ 32) := by
  have hu : ahb.excess = 1 ∨ ahb.excess = 2 := ahb.excess_cases.imp_right And.left
  have hexact := exactSysclk_eq hclock
  have hne : ρ.exactSysclk ≠ 0 := by
    have hpos : 0 < n * ahb.excess * (1000 * msDivisor ahb apb1) :=
      Nat.mul_pos (Nat.mul_pos hn ahb.excess_pos) (Nat.mul_pos (by decide) msDivisor_pos)
    rw [hexact]
    exact_mod_cast hpos.ne'
  rcases exists_direct hsw hne with ⟨src, hsrc, hsysclk, hreport⟩
  rw [hsysclk] at hexact
  rw [hreport, direct_prescaler_iff hsrc msDivisor_pos (by exact_mod_cast hexact) hn hn' hu]
  exact (and_iff_left fun hpll => absurd hpll hsw).symm

theorem ClockRegs.pll_exact_iff (hsw : ρ.sw = pllSelected) (hn : 0 < n) (hn' : n ≤ 65536)
    (hclock : ρ.timerClock ahb apb1 = 1000 * n) :
    (ρ.reportSysclk ρ.sw 0#32).toNat / (1000 * msDivisor ahb apb1) % 65536 = n % 65536 ↔
      ahb.excess = 1 ∧
        (ρ.sw = pllSelected → ρ.pllm ∣ ρ.pllSource ∧ ρ.pllSource / ρ.pllm * ρ.plln < 2 ^ 32) := by
  have hreport : (ρ.reportSysclk ρ.sw 0#32).toNat =
      ρ.pllSource / ρ.pllm * ρ.plln % 2 ^ 32 / ρ.pllDivisor := by
    rw [hsw]
    exact toNat_pllBits_mod (Nat.le_of_lt_succ (field_lt ρ.pllcfgr 16 2))
  have hsrc : ρ.pllSource = 16000000 ∨ ρ.pllSource = 25000000 := by
    unfold pllSource
    split
    · exact Or.inl rfl
    · exact Or.inr rfl
  rcases exact_pll hsw hn hclock with ⟨hm, hexact⟩
  rcases ρ.pllDivisor_coprime with ⟨hd, hdcoprime⟩
  have hcoprime : Nat.Coprime 125 (ρ.pllDivisor * msDivisor ahb apb1) :=
    hdcoprime.mul_right (ahb.misread_coprime.2.mul_right apb1.timerDivisor_coprime.2)
  -- An AHB divisor that is misread is at least 64.
  have hu : ahb.excess = 1 ∨ ahb.excess = 2 ∧ 64 ≤ ρ.pllDivisor * msDivisor ahb apb1 := by
    refine ahb.excess_cases.imp_right fun h => ⟨h.1, ?_⟩
    calc 64 = 2 * (32 * 1) := rfl
      _ ≤ ρ.pllDivisor * msDivisor ahb apb1 :=
        Nat.mul_le_mul hd (Nat.mul_le_mul h.2 apb1.timerDivisor_coprime.1)
  have ht : 0 < ρ.pllDivisor * msDivisor ahb apb1 := Nat.mul_pos (by omega) msDivisor_pos
  have hone : ρ.pllDivisor * (1000 * msDivisor ahb apb1) =
      1000 * (ρ.pllDivisor * msDivisor ahb apb1) := Nat.mul_left_comm _ _ _
  have hm' : ρ.pllm < 64 := field_lt ρ.pllcfgr 0 6
  have hplln : ρ.plln < 512 := field_lt ρ.pllcfgr 6 9
  rw [hreport, Nat.div_div_eq_div_mul, hone,
    pll_prescaler_iff hsrc hm hm' hplln hcoprime ht hexact hn hn' hu]
  exact and_congr_right fun _ => ⟨fun h _ => h, fun h => h hsw⟩

variable (hahb : field ρ.cfgr 4 4 = ahb.code.setWidth 32)
  (happ : field ρ.cfgr 10 3 = apb1.code.setWidth 32)

include hahb happ

theorem ClockRegs.toNat_apb1Freq {source : BitVec 2} :
    (ρ.report source 0#32).apb1Freq.toNat =
      (ρ.reportSysclk source 0#32).toNat / ahb.misread / apb1.divisor := by
  unfold report
  dsimp only
  rw [hahb, happ, toNat_prescaled (k := 3) (by decide), toNat_prescaled (k := 7) (by decide),
    RccAhbPresc.decoded, RccApbPresc.decoded]
  rfl

/-- So are all the divisions of the driver. -/
theorem ClockRegs.toNat_timerClk_div {source : BitVec 2} :
    (ρ.timerClk source).toNat / 1000 =
      (ρ.reportSysclk source 0#32).toNat / (1000 * msDivisor ahb apb1) := by
  have hfreq := @toNat_apb1Freq ρ ahb apb1 hahb happ source
  have hpresc : ρ.dividers.apb1Prescaler = apb1.code := by
    unfold dividers
    rw [happ]
    simp
  unfold timerClk
  rw [hpresc]
  rcases apb1.divided with rfl | ⟨hdivided, hdivisor⟩
  · rw [if_neg (by decide), hfreq]
    show _ / ahb.misread / 1 / 1000 = _ / (1000 * (ahb.misread * 1))
    rw [Nat.div_one, Nat.mul_one, Nat.div_div_eq_div_mul, Nat.mul_comm]
  · have hlt := (ρ.reportSysclk source 0#32).isLt
    rw [hdivisor, ← Nat.div_div_eq_div_mul] at hfreq
    have hle : (ρ.reportSysclk source 0#32).toNat / ahb.misread / apb1.timerDivisor ≤
        (ρ.reportSysclk source 0#32).toNat :=
      (Nat.div_le_self _ _).trans (Nat.div_le_self _ _)
    -- The clock was halved at least once, so that doubling it does not overflow.
    have hdoubled : ((ρ.report source 0#32).apb1Freq * 2#32).toNat =
        (ρ.reportSysclk source 0#32).toNat / ahb.misread / apb1.timerDivisor / 2 * 2 := by
      have htwo : (2#32).toNat = 2 := rfl
      rw [BitVec.toNat_mul, htwo, hfreq, Nat.mod_eq_of_lt (by omega)]
    rw [if_pos hdivided, hdoubled]
    calc (ρ.reportSysclk source 0#32).toNat / ahb.misread / apb1.timerDivisor / 2 * 2 / 1000
        = (ρ.reportSysclk source 0#32).toNat / ahb.misread / apb1.timerDivisor / 1000 :=
          half_double_div _
      _ = (ρ.reportSysclk source 0#32).toNat / msDivisor ahb apb1 / 1000 :=
          congrArg (· / 1000) (Nat.div_div_eq_div_mul _ _ _)
      _ = (ρ.reportSysclk source 0#32).toNat / (msDivisor ahb apb1 * 1000) :=
          Nat.div_div_eq_div_mul _ _ _
      _ = (ρ.reportSysclk source 0#32).toNat / (1000 * msDivisor ahb apb1) := by
          rw [Nat.mul_comm]

/-- When the prescaler is right. -/
theorem ClockRegs.timerPsc_exact_iff (hclock : ρ.timerClock ahb apb1 = 1000 * n) :
    (ρ.timerPsc ρ.sw).toNat + 1 = n ↔ 0 < n ∧ n ≤ 65536 ∧ ahb.divisor ≤ 16 ∧
      (ρ.sw = pllSelected → ρ.pllm ∣ ρ.pllSource ∧ ρ.pllSource / ρ.pllm * ρ.plln < 2 ^ 32) := by
  rw [timerPsc_succ_iff, toNat_timerClk_div hahb happ]
  refine and_congr_right fun hn => and_congr_right fun hn' => ?_
  rw [← ahb.excess_eq_one_iff]
  by_cases hpll : ρ.sw = pllSelected
  · exact pll_exact_iff hpll hn hn' hclock
  · exact direct_exact_iff hpll hn hn' hclock

end Exact

end Core
end SdioFat32
