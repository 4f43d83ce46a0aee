import SdioFat32.Core.ObligingClock

/-!
# BusLimits — the frequencies of the peripheral buses during the setup

`RCC_Frequencies` gives 42 MHz for APB1 and 84 MHz for APB2.  `setup_system_config_rcc` writes the
bus dividers after it has switched to the PLL, so for a while both buses run undivided: the limits
hold all the way exactly when the PLL itself is no faster than APB1 may be.
-/

namespace SdioFat32
namespace Core

open Effects Cells Proc

/-! ## The limits -/

/-- What a code of `HPRE` divides by. -/
def ahbDivisor (code : Nat) : Nat :=
  if code < 8 then 1 else if code < 12 then 2 ^ (code - 7) else 2 ^ (code - 6)

/-- What a code of `PPRE1` or `PPRE2` divides by. -/
def apbDivisor (code : Nat) : Nat :=
  if code < 4 then 1 else 2 ^ (code - 3)

/-- The buses are within their limits for the clock `source`. -/
structure BusLimits (ρ : ClockRegs) (source : BitVec 2) : Prop where
  apb1 : ρ.freqOf source ≤
    42000000 * (ahbDivisor (field ρ.cfgr 4 4).toNat * apbDivisor (field ρ.cfgr 10 3).toNat)
  apb2 : ρ.freqOf source ≤
    84000000 * (ahbDivisor (field ρ.cfgr 4 4).toNat * apbDivisor (field ρ.cfgr 13 3).toNat)

instance (ρ : ClockRegs) (source : BitVec 2) : Decidable (BusLimits ρ source) :=
  decidable_of_iff (_ ∧ _) ⟨fun h => ⟨h.1, h.2⟩, fun h => ⟨h.apb1, h.apb2⟩⟩

theorem ahbDivisor_pos (code : Nat) : 0 < ahbDivisor code := by
  unfold ahbDivisor
  split
  · exact Nat.one_pos
  · split
    · exact Nat.two_pow_pos _
    · exact Nat.two_pow_pos _

theorem apbDivisor_pos (code : Nat) : 0 < apbDivisor code := by
  unfold apbDivisor
  split
  · exact Nat.one_pos
  · exact Nat.two_pow_pos _

/-- A clock that needs no divider. -/
theorem busLimits_of_slow {ρ : ClockRegs} {source : BitVec 2}
    (hslow : source = pllSelected → ρ.pllFreq ≤ 42000000) : BusLimits ρ source := by
  have hfreq : ρ.freqOf source ≤ 42000000 := by
    unfold ClockRegs.freqOf
    split
    · decide
    · split
      · decide
      · split
        · next hpll => exact hslow hpll
        · decide
  have hdivided : ∀ a b, 0 < ahbDivisor a * apbDivisor b :=
    fun a b => Nat.mul_pos (ahbDivisor_pos a) (apbDivisor_pos b)
  refine ⟨?_, ?_⟩
  · have := hdivided (field ρ.cfgr 4 4).toNat (field ρ.cfgr 10 3).toNat
    omega
  · have := hdivided (field ρ.cfgr 4 4).toNat (field ρ.cfgr 13 3).toNat
    omega

/-! ## A slow PLL -/

section Slow

variable {pll : RccPllConfig} {s : ClockState} (hin : pll.InRange)
  (hslow : pll.output ≤ 42000000)

include hin hslow

theorem busLimits_of_encode {ρ : ClockRegs} {v : BitVec 32} {source : BitVec 2}
    (hρ : ρ.pllcfgr = pll.encode v) : BusLimits ρ source := by
  refine busLimits_of_slow fun _ => ?_
  rw [RccPllConfig.pllFreq_encode hin hρ]
  exact hslow

/-- Until the PLL is programmed no clock is faster than the external oscillator. -/
theorem switchAllowed_busLimits (hsw : s.regs.sw ≠ pllSelected) (hsws : s.sws ≠ pllSelected) :
    SwitchAllowed BusLimits pll s := by
  have hidle : ∀ {ρ c}, c ≠ pllSelected → BusLimits ρ c :=
    fun hne => busLimits_of_slow fun h => absurd h hne
  have hclock : ∀ {c}, c = s.sws ∨ c = s.regs.sw → c ≠ pllSelected := by
    rintro c (rfl | rfl)
    · exact hsws
    · exact hsw
  have hraised : ∀ {source current s₁}, Raised pll source current s s₁ →
      ∀ {c}, c = s₁.sws ∨ c = s₁.regs.sw → c ≠ pllSelected := by
    rintro source current s₁ h c (rfl | rfl)
    · rcases h.sws with heq | heq
      · rw [heq]
        exact hclock h.found
      · rw [heq]
        exact hsw
    · rw [h.regs, ClockRegs.sw_raised]
      exact hsw
  refine ⟨?_, ?_, ?_⟩
  -- Raising and starting happen on a clock that is not the PLL; lowering on the one asked for.
  · intro source unset s₁ hsource _ hregs hsws₁
    have hne : ∀ c, c = s₁.sws ∨ c = s₁.regs.sw → c ≠ pllSelected := by
      rintro c (rfl | rfl)
      · rcases hsws₁ with heq | heq
        · rw [heq]
          exact hclock hsource
        · rw [heq]
          exact hsw
      · rw [hregs]
        exact hsw
    exact ⟨fun c hc => hidle (hne c hc), fun c hc => hidle (hne c hc)⟩
  · intro source current s₁ h _ _
    refine ⟨fun _ c hc => hidle (hraised h hc), fun c _ => ⟨fun c' _ => ?_, fun c' _ => ?_⟩⟩
    · exact busLimits_of_encode hin hslow rfl
    · exact busLimits_of_encode hin hslow rfl
  · intro source current s₁ s₂ _ _ _ _ hregs _
    have hpllcfgr : s₂.regs.pllcfgr = pll.encode s₁.regs.pllcfgr := by
      rw [hregs]
      rfl
    exact ⟨fun _ _ => busLimits_of_encode hin hslow hpllcfgr,
      fun _ _ => busLimits_of_encode hin hslow hpllcfgr⟩

/-- The whole setup keeps the limits. -/
theorem wp_setup_busLimits {busConfig : Option RccBusConfig} {g : Unit}
    (hsw : s.regs.sw ≠ pllSelected) (hsws : s.sws ≠ pllSelected) :
    (setupSystemConfigRcc (some (pllSystem pll busConfig))).wp (clockHardware BusLimits)
      (fun _ => False) (fun _ _ s' => BusLimits s'.regs s'.sws) g s := by
  have hidle : Allowed BusLimits s :=
    ⟨busLimits_of_slow fun h => absurd h hsws, busLimits_of_slow fun h => absurd h hsw⟩
  refine wp_setupSystemConfigRcc (Q := fun _ s' => BusLimits s'.regs s'.sws) hidle ?_
  intro s₀ hquiet _ hok₀
  have hsw₀ : s₀.regs.sw ≠ pllSelected := by
    rw [hquiet.regs]
    exact hsw
  have hsws₀ : s₀.sws ≠ pllSelected := by
    rcases hquiet.sws with heq | heq
    · rw [heq]
      exact hsws
    · rw [heq]
      exact hsw
  refine wp_mono (wp_switchToPllRcc hok₀ (switchAllowed_busLimits hin hslow hsw₀ hsws₀)) ?_
  rintro status _ s₁ ⟨hswitched, _, hok₁⟩
  refine ⟨fun _ => hok₁.now, ?_⟩
  -- After a successful switch the dividers are set, if there are any to set.
  rintro rfl
  cases busConfig with
  | none => exact hok₁.now
  | some busConf =>
      rcases exists_switched hswitched with ⟨source, current, s₂, -, hregs, -⟩
      have hpllcfgr : s₁.regs.pllcfgr = pll.encode s₂.regs.pllcfgr := by
        rw [hregs]
        exact ClockRegs.pllcfgr_switched
      have hdivide : DivideAllowed BusLimits s₁ := by
        intro ρ c hρ _ _ _
        exact busLimits_of_encode hin hslow (hρ.trans hpllcfgr)
      refine wp_mono (wp_setBusDividersRcc hok₁ hdivide) ?_
      rintro _ _ s₃ hdivided
      exact (hdivided.allowed hdivide).now

end Slow

/-! ## A fast PLL -/

/-- The state in which the switch begins. -/
def beforeSwitch : ClockState := (obliging resetState (.write .cr (readyFlags ||| rccCrCsson))).2

set_option maxRecDepth 10000 in
/-- The setup gets to the switch. -/
theorem reset_beforeSwitch :
    (disableAllGpioClocksRcc ()).exec obliging resetState = some (((), ()), resetState) ∧
      (setBits .cr rccCrCsson ()).exec obliging resetState = some (((), ()), beforeSwitch) := by
  decide +kernel

/-- From reset the setup may get to a state in which the PLL is in use and no bus is divided. -/
theorem reaches_undivided {pll : RccPllConfig} (hin : pll.InRange)
    (busConfig : Option RccBusConfig) :
    ∃ q s', Reaches (clockHardware anyClock)
        (setupSystemConfigRcc (some (pllSystem pll busConfig)) ()) resetState q s' ∧
      s'.sws = pllSelected ∧ s'.regs.pllFreq = pll.output ∧ field s'.regs.cfgr 4 4 = 0#32 ∧
      field s'.regs.cfgr 10 3 = 0#32 := by
  have hoff : beforeSwitch.cr &&& rccCrPllon = 0#32 := by decide
  -- The switch succeeds on the obliging hardware, and does there what it does on any other.
  have hwp := wp_and (wp_obliging (D := fun _ => False) (g := ())
      (wp_switchToPllRcc (allowed_anyClock beforeSwitch) (switchAllowed_anyClock pll beforeSwitch)))
    (wp_switchToPllRcc_obliging hin hoff)
  rcases Prog.exists_run hwp fun s e => ⟨_, _, rfl⟩ with
    ⟨⟨status, _⟩, s', hrun, ⟨hswitched, _, _⟩, hstatus⟩
  have hzero : status = 0 := hstatus
  subst hzero
  have hrun' := hrun.widen (@obliging_step anyClock)
  have hdisable := Prog.exec_runs (obliging_allowed anyClock) reset_beforeSwitch.1
  have hcsson := Prog.exec_runs (obliging_allowed anyClock) reset_beforeSwitch.2
  have hreach : Reaches (clockHardware anyClock)
      (setupSystemConfigRcc (some (pllSystem pll busConfig)) ()) resetState
      ((do
        setBusDividersIfAny busConfig
        return 0 : RccProc Int) ()) s' := by
    refine Proc.reaches_bind hdisable (Proc.reaches_bind hcsson (Proc.reaches_bind hrun' ?_))
    rw [if_neg (by decide)]
    exact Reaches.here _ _
  refine ⟨_, s', hreach, ?_⟩
  rcases exists_switched hswitched with ⟨source, current, s₁, hraised, hregs, hsws⟩
  have hcfgr : s₁.regs.cfgr = 0#32 := by
    rw [hraised.regs, ClockRegs.cfgr_raised]
    rfl
  refine ⟨hsws, ?_, ?_, ?_⟩
  · have hpllcfgr : s'.regs.pllcfgr = pll.encode s₁.regs.pllcfgr := by
      rw [hregs]
      exact ClockRegs.pllcfgr_switched
    exact RccPllConfig.pllFreq_encode hin hpllcfgr
  · rw [hregs, ClockRegs.cfgr_lowered,
      ClockRegs.field_select (by decide) (by decide) (by decide) (by decide)]
    show field s₁.regs.cfgr 4 4 = 0#32
    rw [hcfgr]
    rfl
  · rw [hregs, ClockRegs.cfgr_lowered,
      ClockRegs.field_select (by decide) (by decide) (by decide) (by decide)]
    show field s₁.regs.cfgr 10 3 = 0#32
    rw [hcfgr]
    rfl

/-- Every state on the way from reset keeps the limits exactly when the PLL is no faster than APB1
may be, whatever the bus dividers. -/
theorem bus_limits_iff {pll : RccPllConfig} (hin : pll.InRange) (busConfig : Option RccBusConfig) :
    (∀ q s', Reaches (clockHardware anyClock)
      (setupSystemConfigRcc (some (pllSystem pll busConfig)) ()) resetState q s' →
        BusLimits s'.regs s'.sws) ↔ pll.output ≤ 42000000 := by
  constructor
  · intro hall
    rcases reaches_undivided hin busConfig with ⟨q, s', hreach, hsws, hfreq, hhpre, hppre1⟩
    have hlimit := (hall q s' hreach).apb1
    rw [hsws, hhpre, hppre1] at hlimit
    have hpll : s'.regs.freqOf pllSelected = pll.output := by
      rw [← hfreq]
      rfl
    rw [hpll] at hlimit
    exact hlimit
  · intro hslow q s' hreach
    have hwp : (setupSystemConfigRcc (some (pllSystem pll busConfig))).wp (clockHardware BusLimits)
        (fun _ => False) (fun _ _ s' => BusLimits s'.regs s'.sws) () resetState :=
      wp_setup_busLimits hin hslow (by decide) (by decide)
    exact wp_invariant (I := fun s : ClockState => BusLimits s.regs s.sws) hwp (fun _ _ h => h)
      (fun _ _ _ h => h) (fun _ => False.elim) (reaches_reask hreach)

/-- 32 MHz. -/
def pll32 : RccPllConfig where
  pllm := 16#32
  plln := 64#32
  pllp := 0#32
  pllq := 4#32
  source := 0#8

theorem bus_limits_32 :
    pll32.output = 32000000 ∧
      ∀ q s', Reaches (clockHardware anyClock)
        (setupSystemConfigRcc (some (pllSystem pll32 none)) ()) resetState q s' →
          BusLimits s'.regs s'.sws := by
  have hin : pll32.InRange :=
    ⟨by decide, by decide, by decide, by decide, by decide, Or.inl rfl⟩
  exact ⟨by decide, (bus_limits_iff hin none).2 (by decide)⟩

/-- APB1 divided by four and APB2 by two. -/
def quarterHalf : RccBusConfig where
  ahbPrescaler := 0x0#8
  apb1Prescaler := 0x5#8
  apb2Prescaler := 0x4#8
  rtcPrescaler := 0x0#8

set_option maxRecDepth 10000 in
/-- At 168 MHz the setup ends at 42 and 84 MHz, and both buses run at 168 MHz on the way. -/
theorem bus_limits_168 :
    pll168.InRange ∧
      (∃ s', Runs (clockHardware anyClock)
          (setupSystemConfigRcc (some (pllSystem pll168 (some quarterHalf))) ()) resetState
          (0, ()) s' ∧ BusLimits s'.regs s'.sws) ∧
        ∃ q s', Reaches (clockHardware anyClock)
          (setupSystemConfigRcc (some (pllSystem pll168 (some quarterHalf))) ()) resetState q s' ∧
            ¬BusLimits s'.regs s'.sws := by
  have hexec : ((setupSystemConfigRcc (some (pllSystem pll168 (some quarterHalf))) ()).exec obliging
      resetState).map (fun x => (x.1.1, decide (BusLimits x.2.regs x.2.sws))) =
        some (0, true) := by
    decide +kernel
  rcases Prog.exec_ends (fun s : ClockState => decide (BusLimits s.regs s.sws))
    (obliging_allowed anyClock) hexec with ⟨_, s', hrun, hlimits⟩
  refine ⟨pll168_inRange, ⟨s', hrun, ?_⟩, ?_⟩
  · exact of_decide_eq_true hlimits
  · rcases reaches_undivided pll168_inRange (some quarterHalf) with
      ⟨q, s'', hreach, hsws, hfreq, hhpre, hppre1⟩
    refine ⟨q, s'', hreach, fun h => ?_⟩
    -- The PLL drives APB1 undivided, at 168 MHz.
    have hlimit := h.apb1
    rw [hsws, hhpre, hppre1] at hlimit
    have hpll : s''.regs.freqOf pllSelected = pll168.output := by
      rw [← hfreq]
      rfl
    rw [hpll] at hlimit
    exact absurd hlimit (by decide)

end Core
end SdioFat32
