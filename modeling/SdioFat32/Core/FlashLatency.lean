import SdioFat32.Core.ObligingClock

/-!
# FlashLatency — the wait states of the flash interface over sequences of setups

`switch_to_pll_rcc` raises the latency before a switch to a faster clock and lowers it after a
switch to a slower one.  `set_flash_latency` gets to its value through zero, and has none for a
clock above 180 MHz.  This file defines:

* `Sufficient` — the latency is at least that of the table;
* `Cautious` — the setups for which neither shows;
* `Configured` — the states that such setups lead to from reset.
-/

namespace SdioFat32
namespace Core

open Effects Cells Proc

/-! ## The table -/

/-- `LATENCY` is at least what the table gives for the frequency. -/
def Sufficient (freq : Nat) (acr : BitVec 32) : Prop :=
  ∃ cycles ∈ flashLatency freq, cycles ≤ (field acr 0 3).toNat

instance (freq : Nat) (acr : BitVec 32) : Decidable (Sufficient freq acr) :=
  inferInstanceAs (Decidable (∃ cycles ∈ flashLatency freq, cycles ≤ (field acr 0 3).toNat))

theorem flashLatency_mono {f f' cycles cycles' : Nat} (hle : f' ≤ f)
    (h : flashLatency f = some cycles) (h' : flashLatency f' = some cycles') :
    cycles' ≤ cycles := by
  unfold flashLatency at h h'
  -- One case for each row of the table that `f` may be in.
  split_ifs at h
  all_goals
    cases h
    grind

theorem flashLatency_le {f cycles : Nat} (h : flashLatency f = some cycles) :
    f ≤ 180000000 ∧ cycles ≤ 6 := by
  unfold flashLatency at h
  grind

theorem flashLatency_isSome {f : Nat} (hle : f ≤ 180000000) :
    ∃ cycles, flashLatency f = some cycles := by
  unfold flashLatency
  split_ifs
  all_goals exact ⟨_, rfl⟩

variable {freq freq' : Nat} {acr : BitVec 32}

theorem Sufficient.mono (h : Sufficient freq acr) (hle : freq' ≤ freq) : Sufficient freq' acr := by
  rcases h with ⟨cycles, hcycles, henough⟩
  have hrange := (flashLatency_le hcycles).1
  rcases flashLatency_isSome (hle.trans hrange) with ⟨cycles', hcycles'⟩
  exact ⟨cycles', hcycles', (flashLatency_mono hle hcycles hcycles').trans henough⟩

theorem Sufficient.le (h : Sufficient freq acr) : freq ≤ 180000000 := by
  rcases h with ⟨cycles, hcycles, _⟩
  exact (flashLatency_le hcycles).1

/-- Up to 30 MHz the flash needs no wait states. -/
theorem sufficient_of_slow (hslow : freq ≤ 30000000) : Sufficient freq acr :=
  ⟨0, if_pos hslow, Nat.zero_le _⟩

/-- What `set_flash_latency` ends with. -/
theorem sufficient_latencyBits (hle : freq ≤ 180000000) : Sufficient freq (latencyBits freq acr) := by
  rcases flashLatency_isSome hle with ⟨cycles, hcycles⟩
  have hsmall := (flashLatency_le hcycles).2
  have hmask : (0x7#32 : BitVec 32) = fieldMask 32 0 3 := by decide
  have hnat : (BitVec.ofNat 32 cycles).toNat = cycles :=
    (BitVec.toNat_ofNat cycles 32).trans (Nat.mod_eq_of_lt (by omega))
  have hvalue : BitVec.ofNat 32 cycles &&& fieldMask 32 0 3 = BitVec.ofNat 32 cycles := by
    have hself : field (BitVec.ofNat 32 cycles <<< 0) 0 3 = BitVec.ofNat 32 cycles :=
      field_shiftLeft_self (by omega) (by decide)
    simpa [field] using hself
  have hfield : field (latencyBits freq acr) 0 3 = BitVec.ofNat 32 cycles := by
    have hself : field (BitVec.ofNat 32 cycles) 0 3 = BitVec.ofNat 32 cycles := by
      rw [field, hvalue]
      simp
    unfold latencyBits
    rw [hcycles]
    dsimp only
    rw [hmask, hvalue, field_or, field_clear (by decide), hself, BitVec.zero_or]
  refine ⟨cycles, hcycles, ?_⟩
  rw [hfield, hnat]

/-! ## Frequencies -/

section Frequencies

variable {ρ ρ' : ClockRegs} {source : BitVec 2} {unset : BitVec 32}

theorem ClockRegs.freqOf_congr (h : ρ'.pllcfgr = ρ.pllcfgr) : ρ'.freqOf source = ρ.freqOf source := by
  unfold freqOf pllFreq
  rw [h]

/-- The oscillators are slow. -/
theorem ClockRegs.freqOf_slow (hne : source ≠ pllSelected) : ρ.freqOf source ≤ 30000000 := by
  unfold freqOf
  rw [if_neg hne]
  split
  · decide
  · split
    · decide
    · decide

/-- A PLL that the flash keeps up with has a VCO within 32 bits. -/
theorem vco_lt {source pllm plln pllp : Nat} (hpllp : pllp ≤ 3)
    (hle : pllOutput source pllm plln pllp ≤ 180000000) :
    (if source = 0 then 16000000 else 25000000) / pllm * plln < 2 ^ 32 := by
  unfold pllOutput at hle
  have hdiv : 2 * (pllp + 1) ≤ 8 := by omega
  have hlt := Nat.lt_mul_of_div_lt (Nat.lt_succ_of_le hle) (by omega : 0 < 2 * (pllp + 1))
  have hbound : (2 * (pllp + 1)) * (180000000 + 1) ≤ 8 * (180000000 + 1) :=
    Nat.mul_le_mul_right _ hdiv
  omega

/-- The report of such a clock does not wrap either. -/
theorem ClockRegs.toNat_reportSysclk (hvalid : source ≠ 3#2) (hle : ρ.freqOf source ≤ 180000000) :
    (ρ.reportSysclk source unset).toNat = ρ.freqOf source := by
  have hcodes : ∀ c : BitVec 2, c ≠ 3#2 → c = 0#2 ∨ c = 1#2 ∨ c = pllSelected := by decide
  rcases hcodes source hvalid with rfl | rfl | rfl
  · rfl
  · rfl
  · have hpllp : (field ρ.pllcfgr 16 2).toNat ≤ 3 := Nat.le_of_lt_succ (field_lt ρ.pllcfgr 16 2)
    exact toNat_pllBits hpllp (vco_lt hpllp hle)

/-- Nor does the target of such a configuration. -/
theorem toNat_targetSysclk_of_le {pll : RccPllConfig} (hin : pll.InRange)
    (hle : pll.output ≤ 180000000) : (targetSysclk pll).toNat = pll.output :=
  toNat_targetSysclk hin (vco_lt hin.pllp_le hle)

end Frequencies

/-! ## The invariant -/

/-- The latency suffices for the clock selected. -/
def FlashOk (ρ : ClockRegs) (_ : BitVec 2) : Prop := Sufficient ρ.sysclk ρ.acr

/-- What holds between the setups: the latency suffices for the clock in use as well. -/
structure LatencyInv (s : ClockState) : Prop where
  locked : Locked s
  selected : Sufficient s.regs.sysclk s.regs.acr
  inUse : Sufficient (s.regs.freqOf s.sws) s.regs.acr
  sw : s.regs.sw ≠ 3#2
  sws : s.sws ≠ 3#2

section Invariant

variable {s s' s₁ : ClockState}

theorem LatencyInv.allowed (h : LatencyInv s) : Allowed FlashOk s := ⟨h.selected, h.selected⟩

theorem LatencyInv.quiet (h : LatencyInv s) (hquiet : Quiet s s') (hlock : Locked s → Locked s') :
    LatencyInv s' := by
  have hregs := hquiet.regs
  refine ⟨hlock h.locked, hregs ▸ h.selected, ?_, hregs ▸ h.sw, ?_⟩
  · rw [hregs]
    rcases hquiet.sws with hsws | hsws
    · rw [hsws]
      exact h.inUse
    · rw [hsws]
      exact h.selected
  · rcases hquiet.sws with hsws | hsws
    · rw [hsws]
      exact h.sws
    · rw [hsws]
      exact h.sw

/-- A clock in use that is an oscillator, or the one selected. -/
theorem LatencyInv.of_selected (hlock : Locked s) (hsel : Sufficient s.regs.sysclk s.regs.acr)
    (hsw : s.regs.sw ≠ 3#2) (hsws : s.sws ≠ 3#2)
    (hpll : s.sws = pllSelected → s.regs.sw = pllSelected) : LatencyInv s := by
  refine ⟨hlock, hsel, ?_, hsw, hsws⟩
  by_cases huse : s.sws = pllSelected
  · rw [huse, ← hpll huse]
    exact hsel
  · exact sufficient_of_slow (ClockRegs.freqOf_slow huse)

theorem LatencyInv.of_pll (hlock : Locked s) (hsel : Sufficient s.regs.sysclk s.regs.acr)
    (hpll : s.regs.sw = pllSelected) (hsws : s.sws ≠ 3#2) : LatencyInv s := by
  refine .of_selected hlock hsel ?_ hsws fun _ => hpll
  rw [hpll]
  decide

theorem latencyInv_reset : LatencyInv resetState :=
  .of_selected (fun huse => absurd huse (by decide)) (by decide) (by decide) (by decide)
    (by decide)

/-! ## The oscillators -/

theorem selectAllowed_flashOk {src : BitVec 32} {ρ : ClockRegs} {sws : BitVec 2}
    (hsrc : src.toNat < 2 ^ 2) (hne : src.setWidth 2 ≠ pllSelected) :
    SelectAllowed FlashOk src ρ sws := by
  refine ⟨fun _ _ => sufficient_of_slow (ClockRegs.freqOf_slow ?_),
    fun _ _ => sufficient_of_slow (ClockRegs.freqOf_slow ?_)⟩
  · rw [ClockRegs.sw_andNot]
    decide
  · rw [ClockRegs.sw_select _ hsrc]
    exact hne

/-- An oscillator is selected. -/
theorem Selected.latencyInv {src : BitVec 32} (h : Selected src s s') (hsrc : src.toNat < 2 ^ 2)
    (hne : src.setWidth 2 ≠ pllSelected) (hvalid : src.setWidth 2 ≠ 3#2) (hinv : LatencyInv s) :
    LatencyInv s' := by
  have hsw : s'.regs.sw = src.setWidth 2 := by
    rw [h.regs]
    exact ClockRegs.sw_select _ hsrc
  have hacr : s'.regs.acr = s.regs.acr := by
    rw [h.regs]
    rfl
  have hfreq : ∀ c, s'.regs.freqOf c = s.regs.freqOf c := by
    intro c
    apply ClockRegs.freqOf_congr
    rw [h.regs]
    rfl
  refine ⟨h.locked hsrc (fun heq => absurd heq hne) hinv.locked, ?_, ?_, hsw ▸ hvalid, ?_⟩
  · -- An oscillator is slow enough for any latency.
    refine sufficient_of_slow (ClockRegs.freqOf_slow ?_)
    rw [hsw]
    exact hne
  · -- The clock in use is the old one, or an oscillator.
    rw [hfreq, hacr]
    rcases h.sws with heq | heq | heq | heq
    · rw [heq]
      exact hinv.inUse
    · rw [heq]
      exact hinv.selected
    · rw [heq]
      exact sufficient_of_slow (ClockRegs.freqOf_slow (by decide))
    · rw [heq]
      exact sufficient_of_slow (ClockRegs.freqOf_slow hne)
  · rcases h.sws with heq | heq | heq | heq
    · rw [heq]
      exact hinv.sws
    · rw [heq]
      exact hinv.sw
    · rw [heq]
      decide
    · rw [heq]
      exact hvalid

variable {D : ClockState → Prop} {g : Unit}

/-- `switch_to_hsi_rcc` and `switch_to_hse_rcc`, which differ in the bits. -/
theorem wp_switchToOscillator {on ready src off₁ off₂ : BitVec 32} {timeout : Nat}
    (hsrc : IsClockSource src) (hne : src.setWidth 2 ≠ pllSelected) (hinv : LatencyInv s) :
    (do
      let status ← startOscillator on ready timeout (-1)
      if status ≠ 0 then return status
      let status ← selectSysClock src
      if status ≠ 0 then return -2
      stopOscillator off₁
      stopOscillator off₂
      return 0 : RccProc Int).wp (clockHardware FlashOk) D (fun _ _ s' => LatencyInv s') g s := by
  have hvalid : src.setWidth 2 ≠ 3#2 := by
    rcases hsrc with rfl | rfl | rfl <;> decide
  refine wp_seq (wp_quiet emits_startOscillator hinv.allowed) ?_
  rintro status _ s₁ ⟨hquiet₁, hlock₁⟩
  have hinv₁ := hinv.quiet hquiet₁ hlock₁
  split
  · exact hinv₁
  refine wp_seq (wp_selectSysClock hsrc hinv₁.allowed (selectAllowed_flashOk hsrc.lt hne)) ?_
  intro status _ s₂ hselect
  have hinv₂ : LatencyInv s₂ := by
    rcases hselect with ⟨_, hdrift⟩ | ⟨hsel, _⟩
    · exact hinv₁.quiet hdrift.quiet hdrift.locked
    · exact hsel.latencyInv hsrc.lt hne hvalid hinv₁
  split
  · exact hinv₂
  -- Stopping the others writes to `CR` alone.
  refine wp_seq (wp_quiet emits_stopOscillator hinv₂.allowed) ?_
  rintro _ _ s₃ ⟨hquiet₃, hlock₃⟩
  have hinv₃ := hinv₂.quiet hquiet₃ hlock₃
  refine wp_seq (wp_quiet emits_stopOscillator hinv₃.allowed) ?_
  rintro _ _ s₄ ⟨hquiet₄, hlock₄⟩
  exact hinv₃.quiet hquiet₄ hlock₄

theorem wp_switchToHsiRcc (hinv : LatencyInv s) :
    switchToHsiRcc.wp (clockHardware FlashOk) D (fun _ _ s' => LatencyInv s') g s :=
  wp_switchToOscillator (Or.inl rfl) (by decide) hinv

theorem wp_switchToHseRcc (hinv : LatencyInv s) :
    switchToHseRcc.wp (clockHardware FlashOk) D (fun _ _ s' => LatencyInv s') g s :=
  wp_switchToOscillator (Or.inr (Or.inl rfl)) (by decide) hinv

/-! ## The PLL -/

/-- The setups of the PLL for which neither defect shows:

* with the PLL selected, the latency is not raised, or the PLL is so slow that it need not be;
* otherwise the table covers the new frequency, and the latency is not lowered after the switch,
  or need not be.

The second matters only while the PLL is still in use. -/
structure Cautious (pll : RccPllConfig) (s : ClockState) : Prop where
  again : s.regs.sw = pllSelected → s.regs.sysclk ≤ 30000000 ∨
    (targetSysclk pll).toNat ≤ s.regs.freqOf s.sws ∧ (targetSysclk pll).toNat ≤ s.regs.sysclk
  covered : s.regs.sw ≠ pllSelected → pll.output ≤ 180000000
  slower : s.regs.sw ≠ pllSelected → s.sws = pllSelected →
    pll.output ≤ 30000000 ∨ s.regs.pllFreq ≤ pll.output

section Switch

variable {pll : RccPllConfig} {source : BitVec 2} {current : BitVec 32}

/-- The clock whose frequency is read is one that the latency suffices for. -/
theorem LatencyInv.reported (hinv : LatencyInv s) (hsource : source = s.sws ∨ source = s.regs.sw)
    (unset : BitVec 32) :
    Sufficient (s.regs.freqOf source) s.regs.acr ∧
      (s.regs.reportSysclk source unset).toNat = s.regs.freqOf source := by
  have hboth : Sufficient (s.regs.freqOf source) s.regs.acr ∧ source ≠ 3#2 := by
    rcases hsource with rfl | rfl
    · exact ⟨hinv.inUse, hinv.sws⟩
    · exact ⟨hinv.selected, hinv.sw⟩
  exact ⟨hboth.1, ClockRegs.toNat_reportSysclk hboth.2 hboth.1.le⟩

/-- The latency is cleared only while the clock selected needs none. -/
theorem Cautious.slow_of_raise {unset : BitVec 32} (hcaut : Cautious pll s) (hinv : LatencyInv s)
    (hsource : source = s.sws ∨ source = s.regs.sw)
    (hlt : s.regs.reportSysclk source unset < targetSysclk pll) :
    s.regs.sysclk ≤ 30000000 := by
  by_cases hsw : s.regs.sw = pllSelected
  · rcases hcaut.again hsw with hslow | ⟨hsws, hsel⟩
    · exact hslow
    · have hreport : s.regs.freqOf source < (targetSysclk pll).toNat := by
        rw [← (hinv.reported hsource unset).2]
        exact BitVec.lt_def.1 hlt
      rcases hsource with rfl | rfl
      · omega
      · have hsysclk : s.regs.sysclk = s.regs.freqOf s.regs.sw := rfl
        omega
  · exact ClockRegs.freqOf_slow hsw

theorem raised_acr_of_lt (hlt : current < targetSysclk pll) :
    (s.regs.raised pll current).acr = latencyBits (targetSysclk pll).toNat s.regs.acr := by
  unfold ClockRegs.raised
  rw [if_pos hlt]
  rfl

theorem raised_eq_of_not_lt (hlt : ¬current < targetSysclk pll) :
    s.regs.raised pll current = s.regs := if_neg hlt

/-- After the latency was raised it suffices for the new frequency. -/
theorem Raised.sufficient (h : Raised pll source current s s₁) (hinv : LatencyInv s)
    (hin : pll.InRange) (hcovered : pll.output ≤ 180000000) :
    Sufficient pll.output s₁.regs.acr := by
  have htarget := toNat_targetSysclk_of_le hin hcovered
  rw [h.regs]
  by_cases hlt : current < targetSysclk pll
  · rw [raised_acr_of_lt hlt, htarget]
    exact sufficient_latencyBits hcovered
  · rw [raised_eq_of_not_lt hlt]
    rcases h.reported with ⟨unset, hcurrent⟩
    rcases hinv.reported h.found unset with ⟨henough, hreport⟩
    refine henough.mono ?_
    rw [← hreport, ← hcurrent, ← htarget]
    exact Nat.not_lt.1 fun h => hlt (BitVec.lt_def.2 h)

theorem Raised.freqOf (h : Raised pll source current s s₁) (c : BitVec 2) :
    s₁.regs.freqOf c = s.regs.freqOf c := by
  apply ClockRegs.freqOf_congr
  rw [h.regs, ClockRegs.pllcfgr_raised]

theorem Raised.sw (h : Raised pll source current s s₁) : s₁.regs.sw = s.regs.sw := by
  rw [h.regs, ClockRegs.sw_raised]

theorem Raised.valid (h : Raised pll source current s s₁) (hinv : LatencyInv s) :
    s₁.regs.sw ≠ 3#2 ∧ s₁.sws ≠ 3#2 := by
  refine ⟨?_, ?_⟩
  · rw [h.sw]
    exact hinv.sw
  · rcases h.sws with heq | heq
    · rw [heq]
      rcases h.found with rfl | rfl
      · exact hinv.sws
      · exact hinv.sw
    · rw [heq]
      exact hinv.sw

/-- The clock in use after the latency was raised is one that it suffices for. -/
theorem Raised.latencyInv (h : Raised pll source current s s₁) (hinv : LatencyInv s)
    (hin : pll.InRange) (hcaut : Cautious pll s) (hlock : Locked s₁)
    (hsel : Sufficient s₁.regs.sysclk s₁.regs.acr) : LatencyInv s₁ := by
  refine ⟨hlock, hsel, ?_, (h.valid hinv).1, (h.valid hinv).2⟩
  by_cases hselected : s.regs.sw = pllSelected
  · by_cases huse : s₁.sws = pllSelected
    · rw [huse, ← hselected, ← h.sw]
      exact hsel
    · exact sufficient_of_slow (ClockRegs.freqOf_slow huse)
  · -- If the PLL is in use it was when the frequency was read, so it is slower than the new one.
    rcases h.sws with heq | heq
    · rw [heq, h.freqOf]
      by_cases hlt : current < targetSysclk pll
      · have hcovered := hcaut.covered hselected
        refine (h.sufficient hinv hin hcovered).mono ?_
        rcases h.reported with ⟨unset, hcurrent⟩
        have hreport := (hinv.reported h.found unset).2
        have hlt' := BitVec.lt_def.1 hlt
        rw [hcurrent, hreport, toNat_targetSysclk_of_le hin hcovered] at hlt'
        exact Nat.le_of_lt hlt'
      · rw [h.regs, raised_eq_of_not_lt hlt]
        exact (hinv.reported h.found 0#32).1
    · rw [heq]
      exact sufficient_of_slow (ClockRegs.freqOf_slow hselected)

/-- With the PLL off, it is neither selected nor in use. -/
theorem Raised.idle (h : Raised pll source current s s₁) (hlock : Locked s₁)
    (hoff : s₁.cr &&& rccCrPllon = 0#32) : s.regs.sw ≠ pllSelected ∧ s₁.sws ≠ pllSelected := by
  refine ⟨?_, ?_⟩
  · intro hsw
    exact hlock (Or.inl (h.sw.trans hsw)) hoff
  · intro hsws
    exact hlock (Or.inr hsws) hoff

theorem sysclk_select_pll {ρ : ClockRegs} (hin : pll.InRange) :
    ((pll.configured ρ).select rccPll).sysclk = pll.output := by
  have hsw : ((pll.configured ρ).select rccPll).sw = pllSelected :=
    ClockRegs.sw_select _ (by decide)
  have hfreq : ((pll.configured ρ).select rccPll).pllFreq = pll.output :=
    RccPllConfig.pllFreq_encode hin (v := ρ.pllcfgr) rfl
  unfold ClockRegs.sysclk
  rw [hsw, ← hfreq]
  rfl

/-- The latency is lowered only for a clock that needs none. -/
theorem Cautious.slow_of_lower (hcaut : Cautious pll s) (hinv : LatencyInv s) (hin : pll.InRange)
    (hsw : s.regs.sw ≠ pllSelected) (h : Raised pll source current s s₁)
    (hlt : targetSysclk pll < current) : pll.output ≤ 30000000 := by
  rcases h.reported with ⟨unset, hcurrent⟩
  have hreport := (hinv.reported h.found unset).2
  have hlt' := BitVec.lt_def.1 hlt
  rw [hcurrent, hreport, toNat_targetSysclk_of_le hin (hcaut.covered hsw)] at hlt'
  by_cases hpll : source = pllSelected
  · rcases h.found with heq | heq
    · rcases hcaut.slower hsw (heq ▸ hpll) with hslow | hslower
      · exact hslow
      · have hfreq : s.regs.freqOf source = s.regs.pllFreq := by
          rw [hpll]
          rfl
        omega
    · exact absurd (heq ▸ hpll) hsw
  · have hslow : s.regs.freqOf source ≤ 30000000 := ClockRegs.freqOf_slow hpll
    omega

theorem switchAllowed_flashOk (hinv : LatencyInv s) (hin : pll.InRange) (hcaut : Cautious pll s) :
    SwitchAllowed FlashOk pll s := by
  refine ⟨?_, ?_, ?_⟩
  · -- Before the latency is raised the clock in use is slow.
    intro source unset s₁ hsource hlt hregs _
    have hslow := hcaut.slow_of_raise hinv hsource hlt
    rw [← hregs] at hslow
    exact ⟨fun _ _ => sufficient_of_slow hslow, fun _ _ => sufficient_of_slow hslow⟩
  · -- While the PLL is programmed it is not in use; once it is selected the latency suffices.
    intro source current s₁ hraised hlock hoff
    have hidle := hraised.idle (hlock hinv.locked) hoff
    refine ⟨fun v c _ => sufficient_of_slow (ClockRegs.freqOf_slow ?_), fun c _ => ⟨?_, ?_⟩⟩
    · show s₁.regs.sw ≠ pllSelected
      rw [hraised.sw]
      exact hidle.1
    · intro _ _
      refine sufficient_of_slow (ClockRegs.freqOf_slow ?_)
      rw [ClockRegs.sw_andNot]
      decide
    · intro _ _
      show Sufficient ((pll.configured s₁.regs).select rccPll).sysclk s₁.regs.acr
      rw [sysclk_select_pll hin]
      exact hraised.sufficient hinv hin (hcaut.covered hidle.1)
  · -- The latency is lowered for a clock that needs less.
    intro source current s₁ s₂ hraised hlock hoff hlt hregs _
    have hidle := hraised.idle (hlock hinv.locked) hoff
    have hslow : s₂.regs.sysclk ≤ 30000000 := by
      rw [hregs, sysclk_select_pll hin]
      exact hcaut.slow_of_lower hinv hin hidle.1 hraised hlt
    exact ⟨fun _ _ => sufficient_of_slow hslow, fun _ _ => sufficient_of_slow hslow⟩

/-- What the switch to the PLL keeps, and when it fails. -/
theorem wp_switchToPllRcc_latency (hinv : LatencyInv s) (hin : pll.InRange)
    (hcaut : Cautious pll s) :
    (switchToPllRcc (some pll)).wp (clockHardware FlashOk) D
      (fun status _ s' => LatencyInv s' ∧
        (180000000 < pll.output → status ≠ 0 ∧ s'.regs.cfgr = s.regs.cfgr)) g s := by
  refine wp_mono (wp_switchToPllRcc hinv.allowed (switchAllowed_flashOk hinv hin hcaut)) ?_
  rintro status _ s' ⟨hswitched, hlock, hok⟩
  have hlock' := hlock hinv.locked
  have hsel : Sufficient s'.regs.sysclk s'.regs.acr := hok.now
  rcases hswitched with ⟨hstatus, hquiet⟩ | ⟨source, current, s₁, hraised, hlock₁, hswitched⟩
  · exact ⟨hinv.quiet hquiet hlock, fun _ => ⟨hstatus, by rw [hquiet.regs]⟩⟩
  have hlocked₁ := hlock₁ hinv.locked
  cases hswitched with
  | refused hstatus hquiet =>
      rw [hquiet.regs] at hsel
      refine ⟨(hraised.latencyInv hinv hin hcaut hlocked₁ hsel).quiet hquiet fun _ => hlock',
        fun _ => ⟨hstatus, ?_⟩⟩
      rw [hquiet.regs, hraised.regs, ClockRegs.cfgr_raised]
  | programmed hstatus hoff hregs hsws =>
      -- The PLL was off when it was programmed, so no clock in use came from it.
      have hidle := hraised.idle hlocked₁ hoff
      have hvalid := hraised.valid hinv
      have hsw : s'.regs.sw = s₁.regs.sw := by
        rw [hregs]
        rfl
      have hsws' : s'.sws ≠ 3#2 ∧ s'.sws ≠ pllSelected := by
        rcases hsws with heq | heq
        · rw [heq]
          exact ⟨hvalid.2, hidle.2⟩
        · rw [heq, hraised.sw]
          exact ⟨hinv.sw, hidle.1⟩
      exact ⟨.of_selected hlock' hsel (hsw ▸ hvalid.1) hsws'.1 fun heq => absurd heq hsws'.2,
        fun hfast => absurd (hcaut.covered hidle.1) (Nat.not_le.2 hfast)⟩
  | selected hstatus hoff hregs hsws =>
      have hidle := hraised.idle hlocked₁ hoff
      have hvalid := hraised.valid hinv
      have hsw : s'.regs.sw = pllSelected := by
        rw [hregs]
        exact ClockRegs.sw_select _ (by decide)
      have hsws' : s'.sws ≠ 3#2 := by
        rcases hsws with heq | heq | heq | heq
        · rw [heq]
          exact hvalid.2
        · rw [heq]
          exact hvalid.1
        · rw [heq]
          decide
        · rw [heq]
          decide
      exact ⟨.of_pll hlock' hsel hsw hsws',
        fun hfast => absurd (hcaut.covered hidle.1) (Nat.not_le.2 hfast)⟩
  | switched hstatus hoff hregs hsws =>
      have hidle := hraised.idle hlocked₁ hoff
      have hsw : s'.regs.sw = pllSelected := by
        rw [hregs, ClockRegs.sw_lowered]
        exact ClockRegs.sw_select _ (by decide)
      have hsws' : s'.sws ≠ 3#2 := by
        rw [hsws]
        decide
      exact ⟨.of_pll hlock' hsel hsw hsws',
        fun hfast => absurd (hcaut.covered hidle.1) (Nat.not_le.2 hfast)⟩

end Switch

/-! ## A setup -/

/-- A setup with the sources of the enumeration and a PLL configuration within its ranges. -/
structure ValidSetup (config : RccSystemConfig) : Prop where
  source : IsClockSource config.source
  pll : ∀ pll ∈ config.pllConfig, pll.InRange

/-- Only the setup of the PLL takes caution. -/
def CautiousSetup (config : RccSystemConfig) (s : ClockState) : Prop :=
  config.source = rccPll → ∀ pll ∈ config.pllConfig, Cautious pll s

theorem divideAllowed_flashOk (hinv : LatencyInv s) : DivideAllowed FlashOk s := by
  intro ρ c hpllcfgr hacr hsw _
  have hsysclk : ρ.sysclk = s.regs.sysclk := by
    unfold ClockRegs.sysclk
    rw [hsw, ClockRegs.freqOf_congr hpllcfgr]
  show Sufficient ρ.sysclk ρ.acr
  rw [hsysclk, hacr]
  exact hinv.selected

theorem Dividing.latencyInv {ρ : ClockRegs} (h : Dividing ρ s s') (hinv : LatencyInv s) :
    LatencyInv s' := by
  have hsw : s'.regs.sw = s.regs.sw := by
    rw [h.regs, h.sw]
  have hacr : s'.regs.acr = s.regs.acr := by
    rw [h.regs, h.acr]
  -- The prescalers act behind the system clock.
  have hfreq : ∀ c, s'.regs.freqOf c = s.regs.freqOf c := by
    intro c
    apply ClockRegs.freqOf_congr
    rw [h.regs, h.pllcfgr]
  refine ⟨?_, (h.allowed (divideAllowed_flashOk hinv)).now, ?_, hsw ▸ hinv.sw, ?_⟩
  · intro huse
    rw [h.cr]
    apply hinv.locked
    rcases huse with hsel | hsws
    · exact Or.inl (hsw ▸ hsel)
    · rcases h.sws with heq | heq
      · exact Or.inr (heq ▸ hsws)
      · exact Or.inl (heq ▸ hsws)
  · rw [hfreq, hacr]
    rcases h.sws with heq | heq
    · rw [heq]
      exact hinv.inUse
    · rw [heq]
      exact hinv.selected
  · rcases h.sws with heq | heq
    · rw [heq]
      exact hinv.sws
    · rw [heq]
      exact hinv.sw

theorem wp_setBusDividersIfAny {busConfig : Option RccBusConfig} (hinv : LatencyInv s) :
    (setBusDividersIfAny busConfig).wp (clockHardware FlashOk) D (fun _ _ s' => LatencyInv s')
      g s := by
  cases busConfig with
  | none => exact hinv
  | some busConf =>
      refine wp_mono (wp_setBusDividersRcc hinv.allowed (divideAllowed_flashOk hinv)) ?_
      rintro _ _ s' hdivided
      exact hdivided.latencyInv hinv

/-- The clock in use may follow before the switch begins. -/
theorem Cautious.quiet {pll : RccPllConfig} (hcaut : Cautious pll s) (hquiet : Quiet s s') :
    Cautious pll s' := by
  have hregs := hquiet.regs
  refine ⟨?_, ?_, ?_⟩
  · rw [hregs]
    intro hsw
    rcases hcaut.again hsw with hslow | ⟨hsws, hsel⟩
    · exact Or.inl hslow
    · refine Or.inr ⟨?_, hsel⟩
      rcases hquiet.sws with heq | heq
      · rw [heq]
        exact hsws
      · rw [heq]
        exact hsel
  · rw [hregs]
    exact hcaut.covered
  · rw [hregs]
    intro hsw huse
    rcases hquiet.sws with heq | heq
    · exact hcaut.slower hsw (heq ▸ huse)
    · exact absurd (heq ▸ huse) hsw

/-- A PLL that is too fast is refused before the switch. -/
def RefusesFast (config : RccSystemConfig) (s : ClockState) (status : Int) (s' : ClockState) :
    Prop :=
  ∀ pll ∈ config.pllConfig, config.source = rccPll → 180000000 < pll.output →
    status ≠ 0 ∧ s'.regs.cfgr = s.regs.cfgr

variable {config : RccSystemConfig} {s₀ : ClockState}

/-- The bus dividers keep the invariant, and are not written after a refusal. -/
theorem wp_thenDivide {p : RccProc Int}
    (h : p.wp (clockHardware FlashOk) D
      (fun status _ s' => LatencyInv s' ∧ RefusesFast config s status s') g s₀) :
    p.wp (clockHardware FlashOk) D (fun status g' s' =>
      (status ≠ 0 → LatencyInv s' ∧ RefusesFast config s status s') ∧
      (status = 0 → (setBusDividersIfAny config.busConfig).wp (clockHardware FlashOk) D
        (fun _ _ s'' => LatencyInv s'' ∧ RefusesFast config s 0 s'') g' s')) g s₀ := by
  refine wp_mono h fun status g' s' ⟨hinv', hrefuses⟩ => ⟨fun _ => ⟨hinv', hrefuses⟩, ?_⟩
  rintro rfl
  refine wp_mono (wp_setBusDividersIfAny hinv') fun _ _ _ hinv'' => ⟨hinv'', ?_⟩
  intro pll hpll hsrc hfast
  exact absurd rfl (hrefuses pll hpll hsrc hfast).1

/-- A setup keeps the invariant, and refuses a PLL that is too fast. -/
theorem wp_setup_latency (hvalid : ValidSetup config) (hcaut : CautiousSetup config s)
    (hinv : LatencyInv s) :
    (setupSystemConfigRcc (some config)).wp (clockHardware FlashOk) D
      (fun status _ s' => LatencyInv s' ∧ RefusesFast config s status s') g s := by
  refine wp_setupSystemConfigRcc (Q := fun status s' => LatencyInv s' ∧
    RefusesFast config s status s') hinv.allowed ?_
  intro s₀ hquiet hlock _
  have hinv₀ := hinv.quiet hquiet hlock
  apply wp_thenDivide
  unfold switchClock
  -- One case for each source; only the PLL can be too fast.
  rcases hvalid.source with hsrc | hsrc | hsrc
  · rw [hsrc, if_neg (by decide), if_pos rfl]
    refine wp_mono (wp_switchToHsiRcc hinv₀) fun _ _ _ h => ⟨h, fun _ _ hpll => ?_⟩
    exact absurd (hsrc.symm.trans hpll) (by decide)
  · rw [hsrc, if_pos rfl]
    refine wp_mono (wp_switchToHseRcc hinv₀) fun _ _ _ h => ⟨h, fun _ _ hpll => ?_⟩
    exact absurd (hsrc.symm.trans hpll) (by decide)
  · rw [hsrc, if_neg (by decide), if_neg (by decide), if_pos rfl]
    cases hconfig : config.pllConfig with
    | none =>
        refine ⟨hinv₀, fun pll hpll => ?_⟩
        rw [hconfig] at hpll
        cases hpll
    | some pll =>
        have hin : pll.InRange := hvalid.pll pll hconfig
        have hcaut₀ : Cautious pll s₀ := (hcaut hsrc pll hconfig).quiet hquiet
        refine wp_mono (wp_switchToPllRcc_latency hinv₀ hin hcaut₀) ?_
        rintro status _ s' ⟨hinv', hfast⟩
        refine ⟨hinv', fun pll' hpll' _ hfast' => ?_⟩
        have hsame : pll' = pll := Option.some.inj (hpll'.symm.trans hconfig)
        subst hsame
        rw [← hquiet.regs]
        exact hfast hfast'

end Invariant

/-! ## Sequences of setups -/

/-- The states between the setups of a cautious sequence from reset. -/
inductive Configured : ClockState → Prop where
  | reset : Configured resetState
  /-- The clock in use follows the one selected. -/
  | follow {s : ClockState} : Configured s → Configured s.follow
  | setup {s s' : ClockState} {config : RccSystemConfig} {status : Int} : Configured s →
      ValidSetup config → CautiousSetup config s →
      Runs (clockHardware anyClock) (setupSystemConfigRcc (some config) ()) s (status, ()) s' →
      Configured s'

theorem Configured.latencyInv {s : ClockState} (h : Configured s) : LatencyInv s := by
  induction h with
  | reset => exact latencyInv_reset
  | @follow s _ ih =>
      have hdrift : Drift s s.follow := Or.inr rfl
      exact ih.quiet hdrift.quiet hdrift.locked
  | setup _ hvalid hcaut hrun ih =>
      have hwp := wp_setup_latency (D := fun _ => True) (g := ()) hvalid hcaut ih
      exact (wp_runs hwp (runs_reask hrun)).1

/-- In a cautious sequence of setups from reset the latency suffices in every state, and a PLL
above 180 MHz is refused before the switch. -/
theorem flash_latency_suffices {s : ClockState} (hs : Configured s) {config : RccSystemConfig}
    (hvalid : ValidSetup config) (hcaut : CautiousSetup config s) :
    (∀ q s', Reaches (clockHardware anyClock) (setupSystemConfigRcc (some config) ()) s q s' →
      Sufficient s'.regs.sysclk s'.regs.acr) ∧
    ∀ status s', Runs (clockHardware anyClock) (setupSystemConfigRcc (some config) ()) s
      (status, ()) s' → RefusesFast config s status s' := by
  have hinv := hs.latencyInv
  refine ⟨?_, ?_⟩
  · intro q s' hreach
    have hwp := wp_setup_latency (D := fun _ => False) (g := ()) hvalid hcaut hinv
    exact wp_invariant (I := fun s : ClockState => Sufficient s.regs.sysclk s.regs.acr) hwp
      (fun _ _ h => h) (fun _ _ _ h => h.1.selected) (fun _ => False.elim) (reaches_reask hreach)
  · intro status s' hrun
    have hwp := wp_setup_latency (D := fun _ => True) (g := ()) hvalid hcaut hinv
    exact (wp_runs hwp (runs_reask hrun)).2

theorem validSetup_pllSystem {pll : RccPllConfig} (h : pll.InRange) :
    ValidSetup (pllSystem pll none) := by
  refine ⟨Or.inr (Or.inr rfl), ?_⟩
  rintro pll' hpll
  cases hpll
  exact h

/-- After reset the internal oscillator is selected. -/
theorem cautiousSetup_reset {pll : RccPllConfig} (hle : pll.output ≤ 180000000) :
    CautiousSetup (pllSystem pll none) resetState := by
  rintro - pll' hpll
  cases hpll
  exact ⟨fun h => absurd h (by decide), fun _ => hle, fun _ h => absurd h (by decide)⟩

/-- 25 MHz. -/
def pll25 : RccPllConfig where
  pllm := 16#32
  plln := 200#32
  pllp := 3#32
  pllq := 4#32
  source := 0#8

/-- 216 MHz. -/
def pll216 : RccPllConfig where
  pllm := 8#32
  plln := 216#32
  pllp := 0#32
  pllq := 9#32
  source := 0#8

/-- The PLL gives 168 MHz; or it gives 25 MHz, and then 216 MHz are refused. -/
theorem flash_latency_two_setups :
    (∀ q s', Reaches (clockHardware anyClock)
      (setupSystemConfigRcc (some (pllSystem pll168 none)) ()) resetState q s' →
        Sufficient s'.regs.sysclk s'.regs.acr) ∧
    ∃ s₁, Runs (clockHardware anyClock) (setupSystemConfigRcc (some (pllSystem pll25 none)) ())
        resetState (0, ()) s₁ ∧
      (∀ q s', Reaches (clockHardware anyClock)
        (setupSystemConfigRcc (some (pllSystem pll216 none)) ()) s₁ q s' →
          Sufficient s'.regs.sysclk s'.regs.acr) ∧
      ∀ status s', Runs (clockHardware anyClock)
        (setupSystemConfigRcc (some (pllSystem pll216 none)) ()) s₁ (status, ()) s' →
          status ≠ 0 ∧ s'.regs.cfgr = s₁.regs.cfgr := by
  have hexec : ((setupSystemConfigRcc (some (pllSystem pll25 none)) ()).exec obliging
      resetState).map (fun x => (x.1.1,
        decide (x.2.regs.sw = pllSelected ∧ x.2.regs.sysclk ≤ 30000000))) = some (0, true) := by
    decide +kernel
  rcases Prog.exec_ends
    (fun s : ClockState => decide (s.regs.sw = pllSelected ∧ s.regs.sysclk ≤ 30000000))
    (obliging_allowed anyClock) hexec with ⟨_, s₁, hrun, hend⟩
  rcases of_decide_eq_true hend with ⟨hsw, hslow⟩
  have hcautious : CautiousSetup (pllSystem pll216 none) s₁ := by
    rintro - pll hpll
    cases hpll
    exact ⟨fun _ => Or.inl hslow, fun h => absurd hsw h, fun h => absurd hsw h⟩
  have hvalid25 : ValidSetup (pllSystem pll25 none) :=
    validSetup_pllSystem ⟨by decide, by decide, by decide, by decide, by decide, Or.inl rfl⟩
  have hvalid216 : ValidSetup (pllSystem pll216 none) :=
    validSetup_pllSystem ⟨by decide, by decide, by decide, by decide, by decide, Or.inl rfl⟩
  have hs₁ : Configured s₁ := .setup .reset hvalid25 (cautiousSetup_reset (by decide)) hrun
  rcases flash_latency_suffices hs₁ hvalid216 hcautious with ⟨hsuffices, hrefuses⟩
  refine ⟨?_, s₁, hrun, hsuffices, ?_⟩
  · exact (flash_latency_suffices .reset (validSetup_pllSystem pll168_inRange)
      (cautiousSetup_reset (by decide))).1
  · intro status s' hrun'
    exact hrefuses status s' hrun' pll216 rfl rfl (by decide)

/-- 1728 MHz. -/
def pll1728 : RccPllConfig where
  pllm := 2#32
  plln := 432#32
  pllp := 0#32
  pllq := 2#32
  source := 0#8

/-- 100 MHz. -/
def pll100 : RccPllConfig where
  pllm := 16#32
  plln := 200#32
  pllp := 0#32
  pllq := 4#32
  source := 0#8

/-- The number of events up to the first write of a setup from one PLL to a faster one. -/
def eventsToClear : Nat := 19

set_option maxRecDepth 10000 in
/-- A PLL that is far too fast is accepted, and from 100 to 168 MHz the latency goes through zero. -/
theorem flash_latency_fails :
    (ValidSetup (pllSystem pll1728 none) ∧ 180000000 < pll1728.output ∧
      ∃ s', Runs (clockHardware anyClock) (setupSystemConfigRcc (some (pllSystem pll1728 none)) ())
          resetState (0, ()) s' ∧ ¬Sufficient s'.regs.sysclk s'.regs.acr) ∧
    (ValidSetup (pllSystem pll100 none) ∧ ValidSetup (pllSystem pll168 none) ∧
      ∃ s₁ q s', Runs (clockHardware anyClock)
          (setupSystemConfigRcc (some (pllSystem pll100 none)) ()) resetState (0, ()) s₁ ∧
        Reaches (clockHardware anyClock) (setupSystemConfigRcc (some (pllSystem pll168 none)) ())
          s₁ q s' ∧ ¬Sufficient s'.regs.sysclk s'.regs.acr) := by
  -- The first run ends with too few wait states, the second passes through such a state.
  have hfast : ((setupSystemConfigRcc (some (pllSystem pll1728 none)) ()).exec obliging
      resetState).map (fun x => (x.1.1, decide (Sufficient x.2.regs.sysclk x.2.regs.acr))) =
        some (0, false) := by
    decide +kernel
  have hfaster : ((setupSystemConfigRcc (some (pllSystem pll100 none)) ()).exec obliging
      resetState).map (fun x =>
        let y := (setupSystemConfigRcc (some (pllSystem pll168 none)) ()).after obliging
          eventsToClear x.2
        (x.1.1, decide (Sufficient y.2.regs.sysclk y.2.regs.acr))) = some (0, false) := by
    decide +kernel
  have hallowed := obliging_allowed anyClock
  refine ⟨⟨validSetup_pllSystem ?_, by decide, ?_⟩,
    validSetup_pllSystem ?_, validSetup_pllSystem pll168_inRange, ?_⟩
  · exact ⟨by decide, by decide, by decide, by decide, by decide, Or.inl rfl⟩
  · rcases Prog.exec_ends (fun s : ClockState => decide (Sufficient s.regs.sysclk s.regs.acr))
      hallowed hfast with ⟨_, s', hrun, hshort⟩
    exact ⟨s', hrun, of_decide_eq_false hshort⟩
  · exact ⟨by decide, by decide, by decide, by decide, by decide, Or.inl rfl⟩
  · rcases Option.map_eq_some_iff.1 hfaster with ⟨⟨⟨status, _⟩, s₁⟩, hrun, hend⟩
    rcases Prod.mk.inj hend with ⟨hstatus, hshort⟩
    have hzero : status = 0 := hstatus
    subst hzero
    exact ⟨s₁, _, _, Prog.exec_runs hallowed hrun,
      Prog.after_reaches hallowed eventsToClear _ s₁, of_decide_eq_false hshort⟩

end Core
end SdioFat32
