import SdioFat32.Core.ObligingClock

/-!
# ClockReport — the clocks set up against the clocks reported

`get_clock_frequencies`, `get_pll48clk_freq` and `get_rcc_clock_dividers` decode what
`setup_system_config_rcc` encoded.  The decoder of `HPRE` takes its codes to be consecutive powers
of two, and the enumeration leaves out 32.
-/

namespace SdioFat32
namespace Core

open Effects Cells Proc

/-! ## What the enumerators name -/

def RccAhbPresc.divisor : RccAhbPresc → Nat
  | .notDiv => 1
  | .div2 => 2
  | .div4 => 4
  | .div8 => 8
  | .div16 => 16
  | .div64 => 64
  | .div128 => 128
  | .div256 => 256
  | .div512 => 512

def RccApbPresc.divisor : RccApbPresc → Nat
  | .notDiv => 1
  | .div2 => 2
  | .div4 => 4
  | .div8 => 8
  | .div16 => 16

/-- A bus configuration built from the enumerators. -/
def RccBusConfig.of (ahb : RccAhbPresc) (apb1 apb2 : RccApbPresc) (rtc : RccRtcPresc) :
    RccBusConfig where
  ahbPrescaler := ahb.code
  apb1Prescaler := apb1.code
  apb2Prescaler := apb2.code
  rtcPrescaler := rtc.code

theorem RccAhbPresc.code_lt (ahb : RccAhbPresc) : (ahb.code.setWidth 32).toNat < 2 ^ 4 := by
  cases ahb <;> decide

theorem RccApbPresc.code_lt (apb : RccApbPresc) : (apb.code.setWidth 32).toNat < 2 ^ 3 := by
  cases apb <;> decide

theorem RccRtcPresc.code_lt (rtc : RccRtcPresc) : (rtc.code.setWidth 32).toNat < 2 ^ 5 := by
  rw [BitVec.toNat_setWidth_of_le (by decide)]
  rcases rtc.valid with hzero | ⟨_, hle⟩
  · rw [hzero]
    decide
  · exact Nat.lt_succ_of_le hle

theorem RccBusConfig.fits_of (ahb : RccAhbPresc) (apb1 apb2 : RccApbPresc) (rtc : RccRtcPresc) :
    (RccBusConfig.of ahb apb1 apb2 rtc).Fits :=
  ⟨ahb.code_lt, apb1.code_lt, apb2.code_lt, rtc.code_lt⟩

/-! ## The report -/

structure ClockReport where
  freq : RccFrequencies
  pll48clk : BitVec 32
  dividers : RccBusConfig

/-- Set the clocks up, and read them back if that succeeded. -/
def setupThenReport (config : RccSystemConfig) (freq : RccFrequencies) :
    RccProc (Option ClockReport) := do
  let status ← setupSystemConfigRcc (some config)
  if status ≠ 0 then return none
  let freq ← getClockFrequencies freq
  let pll48clk ← getPll48clkFreq
  let dividers ← getRccClockDividers
  return some { freq := freq, pll48clk := pll48clk, dividers := dividers }

/-- The report says what the configuration names. -/
structure ClockReport.Agrees (r : ClockReport) (pll : RccPllConfig) (ahb : RccAhbPresc)
    (apb1 apb2 : RccApbPresc) (rtc : RccRtcPresc) : Prop where
  sysclk : r.freq.sysclkFreq.toNat = pll.output
  hclk : r.freq.hclkFreq.toNat = pll.output / ahb.divisor
  apb1Freq : r.freq.apb1Freq.toNat = pll.output / ahb.divisor / apb1.divisor
  apb2Freq : r.freq.apb2Freq.toNat = pll.output / ahb.divisor / apb2.divisor
  pll48clk : r.pll48clk.toNat = pll.vco / pll.pllq.toNat
  dividers : r.dividers = RccBusConfig.of ahb apb1 apb2 rtc

/-- `get_pll48clk_freq` on the registers. -/
def ClockRegs.pll48clk (ρ : ClockRegs) : BitVec 32 :=
  if field ρ.pllcfgr 0 6 = 0#32 ∨ field ρ.pllcfgr 24 4 = 0#32 then 0#32
  else (if field ρ.pllcfgr 22 1 = 0#32 then rccHsiFreq else rccHseFreq) / field ρ.pllcfgr 0 6 *
    field ρ.pllcfgr 6 9 / field ρ.pllcfgr 24 4

/-- `get_rcc_clock_dividers` on the registers. -/
def ClockRegs.dividers (ρ : ClockRegs) : RccBusConfig where
  ahbPrescaler := (field ρ.cfgr 4 4).setWidth 8
  apb1Prescaler := (field ρ.cfgr 10 3).setWidth 8
  apb2Prescaler := (field ρ.cfgr 13 3).setWidth 8
  rtcPrescaler := (field ρ.cfgr 16 5).setWidth 8

section Getters

variable {ok : ClockRegs → BitVec 2 → Prop} {D : ClockState → Prop} {s s₁ : ClockState} {g : Unit}

theorem wp_getPll48clkFreq (hok : Allowed ok s) :
    getPll48clkFreq.wp (clockHardware ok) D
      (fun v _ s' => Drift s s' ∧ v = s.regs.pll48clk) g s := by
  unfold getPll48clkFreq
  rw [rccPllcfgrPllmMask_eq, rccPllcfgrPllnMask_eq, rccPllcfgrPllqMask_eq, rccPllcfgrPllsrcMask_eq]
  refine wp_bind.2 (wp_readReg rfl hok fun s₁ h₁ => ?_)
  refine wp_bind.2 (wp_readReg rfl (h₁.quiet.allowed hok) fun s₂ h₂ => ?_)
  have h₂' := h₁.trans h₂
  refine wp_bind.2 (wp_readReg rfl (h₂'.quiet.allowed hok) fun s₃ h₃ => ?_)
  have h₃' := h₂'.trans h₃
  refine wp_bind.2 (wp_readReg rfl (h₃'.quiet.allowed hok) fun s₄ h₄ => ?_)
  have h₄' := h₃'.trans h₄
  rw [h₁.shown_pllcfgr, h₂'.shown_pllcfgr, h₃'.shown_pllcfgr, h₄'.shown_pllcfgr]
  dsimp only
  split
  · next hzero => exact ⟨h₄', (if_pos hzero).symm⟩
  · next hpos => exact ⟨h₄', (if_neg hpos).symm⟩

theorem Drift.field_shown {start len : Nat} (h : Drift s s₁) (hstart : 4 ≤ start)
    (hapart : fieldMask 32 start len &&& swsMask = 0#32) :
    field (s₁.shown .cfgr) start len = field s.regs.cfgr start len := by
  rw [← h.regs]
  exact field_shown_cfgr s₁ hstart hapart

theorem wp_getRccClockDividers (hok : Allowed ok s) :
    getRccClockDividers.wp (clockHardware ok) D
      (fun r _ s' => Drift s s' ∧ r = s.regs.dividers) g s := by
  unfold getRccClockDividers
  rw [rccCfgrHpreMask_eq, rccCfgrPpre1Mask_eq, rccCfgrPpre2Mask_eq, rccCfgrRtcpreMask_eq]
  refine wp_bind.2 (wp_readReg rfl hok fun s₁ h₁ => ?_)
  refine wp_bind.2 (wp_readReg rfl (h₁.quiet.allowed hok) fun s₂ h₂ => ?_)
  have h₂' := h₁.trans h₂
  refine wp_bind.2 (wp_readReg rfl (h₂'.quiet.allowed hok) fun s₃ h₃ => ?_)
  have h₃' := h₂'.trans h₃
  refine wp_bind.2 (wp_readReg rfl (h₃'.quiet.allowed hok) fun s₄ h₄ => ?_)
  have h₄' := h₃'.trans h₄
  refine ⟨h₄', ?_⟩
  unfold ClockRegs.dividers
  rw [← h₁.field_shown (by decide) (by decide), ← h₂'.field_shown (by decide) (by decide),
    ← h₃'.field_shown (by decide) (by decide), ← h₄'.field_shown (by decide) (by decide)]
  rfl

end Getters

/-! ## Decoding -/

/-- The decoder of a prescaler whose first code that divides is `k + 1`. -/
theorem toNat_prescaled {x c : BitVec 32} {k : Nat} (hk : k < 2 ^ 32) :
    (x >>> (if BitVec.ofNat 32 k < c then c - BitVec.ofNat 32 k else 0#32)).toNat =
      x.toNat / 2 ^ (c.toNat - k) := by
  have hknat : (BitVec.ofNat 32 k).toNat = k := (BitVec.toNat_ofNat k 32).trans (Nat.mod_eq_of_lt hk)
  rw [BitVec.ushiftRight_eq', BitVec.toNat_ushiftRight, Nat.shiftRight_eq_div_pow]
  split
  · next hlt =>
    have hle : BitVec.ofNat 32 k ≤ c := BitVec.le_of_lt hlt
    rw [BitVec.toNat_sub_of_le hle, hknat]
  · next hge =>
    have hle : c.toNat ≤ k := by
      rw [BitVec.lt_def, hknat] at hge
      exact Nat.not_lt.1 hge
    rw [Nat.sub_eq_zero_of_le hle]
    rfl

/-- The codes from `DIV64` on name twice the number that they are taken for. -/
theorem RccAhbPresc.decoded (ahb : RccAhbPresc) :
    2 ^ ((ahb.code.setWidth 32).toNat - 7) =
      if ahb.divisor ≤ 16 then ahb.divisor else ahb.divisor / 2 := by
  cases ahb <;> decide

theorem RccApbPresc.decoded (apb : RccApbPresc) :
    2 ^ ((apb.code.setWidth 32).toNat - 3) = apb.divisor := by
  cases apb <;> decide

/-- The slowest PLL is fast enough for a wrong divisor to show. -/
theorem RccPllConfig.InRange.output_ge {pll : RccPllConfig} (h : pll.InRange) :
    2031744 ≤ pll.output := by
  have hinput : 16000000 / 63 ≤
      (if pll.source.toNat = 0 then 16000000 else 25000000) / pll.pllm.toNat := by
    have hpos := h.pllm_pos
    refine Nat.div_le_div ?_ h.pllm_le (by omega)
    split <;> decide
  have hvco : 16253952 ≤ pll.vco := Nat.mul_le_mul hinput h.plln_pos
  have hdiv : 2 * (pll.pllp.toNat + 1) ≤ 8 := by
    have := h.pllp_le
    omega
  rw [RccPllConfig.output_eq]
  exact (Nat.div_le_div hvco hdiv (by omega) : 16253952 / 8 ≤ _)

/-- What a successful setup leaves in the registers. -/
structure ClocksSet (pll : RccPllConfig) (busConf : RccBusConfig) (s : ClockState) : Prop where
  pllcfgr : ∃ v, s.regs.pllcfgr = pll.encode v
  cfgr : ∃ ρ : ClockRegs, s.regs.cfgr = (ρ.divide busConf).cfgr
  sw : s.regs.sw = pllSelected
  sws : s.sws = pllSelected

section Decoding

variable {pll : RccPllConfig} {ahb : RccAhbPresc} {apb1 apb2 : RccApbPresc} {rtc : RccRtcPresc}
  {s : ClockState} {unset : BitVec 32}

theorem ClocksSet.pll48clk (h : ClocksSet pll (RccBusConfig.of ahb apb1 apb2 rtc) s)
    (hin : pll.InRange) (hq : 2 ≤ pll.pllq.toNat) (hq' : pll.pllq.toNat ≤ 15)
    (hfits : pll.vco < 2 ^ 32) : s.regs.pll48clk.toNat = pll.vco / pll.pllq.toNat := by
  rcases h.pllcfgr with ⟨v, hv⟩
  -- Neither divisor is zero: the function does not give up.
  have hm0 : pll.pllm ≠ 0#32 := by
    intro hzero
    have hpos := hin.pllm_pos
    rw [hzero] at hpos
    exact absurd hpos (by decide)
  have hq0 : pll.pllq ≠ 0#32 := by
    intro hzero
    rw [hzero] at hq
    exact absurd hq (by decide)
  have hinput : (if pll.source.setWidth 32 = 0#32 then rccHsiFreq else rccHseFreq).toNat =
      if pll.source.toNat = 0 then 16000000 else 25000000 := by
    rcases hin.source with hsrc | hsrc
    · rw [hsrc]
      rfl
    · rw [hsrc]
      rfl
  unfold ClockRegs.pll48clk
  rw [hv, RccPllConfig.field_pllm_encode hin, RccPllConfig.field_pllq_encode hin (by omega),
    RccPllConfig.field_source_encode hin, RccPllConfig.field_plln_encode hin,
    if_neg (not_or.2 ⟨hm0, hq0⟩), BitVec.toNat_udiv, BitVec.toNat_mul, BitVec.toNat_udiv, hinput]
  show pll.vco % 2 ^ 32 / pll.pllq.toNat = pll.vco / pll.pllq.toNat
  rw [Nat.mod_eq_of_lt hfits]

theorem ClocksSet.dividers (h : ClocksSet pll (RccBusConfig.of ahb apb1 apb2 rtc) s) :
    s.regs.dividers = RccBusConfig.of ahb apb1 apb2 rtc := by
  rcases h.cfgr with ⟨ρ, hρ⟩
  have hfits := RccBusConfig.fits_of ahb apb1 apb2 rtc
  unfold ClockRegs.dividers
  rw [hρ, ClockRegs.field_ahb_divide hfits, ClockRegs.field_apb1_divide hfits,
    ClockRegs.field_apb2_divide hfits, ClockRegs.field_rtc_divide hfits]
  simp

/-- The AHB divisor that the report takes the code for. -/
theorem ClocksSet.report (h : ClocksSet pll (RccBusConfig.of ahb apb1 apb2 rtc) s)
    (hin : pll.InRange) (hfits : pll.vco < 2 ^ 32) {r : RccFrequencies}
    (hr : r = s.regs.report pllSelected unset) :
    r.sysclkFreq.toNat = pll.output ∧
      r.hclkFreq.toNat =
        pll.output / (if ahb.divisor ≤ 16 then ahb.divisor else ahb.divisor / 2) ∧
      r.apb1Freq.toNat = r.hclkFreq.toNat / apb1.divisor ∧
      r.apb2Freq.toNat = r.hclkFreq.toNat / apb2.divisor := by
  rcases h.pllcfgr with ⟨v, hv⟩
  rcases h.cfgr with ⟨ρ, hρ⟩
  have hwide := RccBusConfig.fits_of ahb apb1 apb2 rtc
  have hsysclk : r.sysclkFreq.toNat = pll.output := by
    rw [hr]
    show (s.regs.reportSysclk pllSelected unset).toNat = pll.output
    rw [RccPllConfig.reportSysclk_encode hin hv, toNat_targetSysclk hin hfits]
  -- Every other frequency is a shift of the one it is derived from.
  have hhclk : r.hclkFreq = r.sysclkFreq >>> (if 7#32 < ahb.code.setWidth 32
      then ahb.code.setWidth 32 - 7#32 else 0#32) := by
    rw [hr]
    unfold ClockRegs.report
    rw [hρ, ClockRegs.field_ahb_divide hwide]
    rfl
  have happ1 : r.apb1Freq = r.hclkFreq >>> (if 3#32 < apb1.code.setWidth 32
      then apb1.code.setWidth 32 - 3#32 else 0#32) := by
    rw [hr]
    unfold ClockRegs.report
    rw [hρ, ClockRegs.field_apb1_divide hwide]
    rfl
  have happ2 : r.apb2Freq = r.hclkFreq >>> (if 3#32 < apb2.code.setWidth 32
      then apb2.code.setWidth 32 - 3#32 else 0#32) := by
    rw [hr]
    unfold ClockRegs.report
    rw [hρ, ClockRegs.field_apb2_divide hwide]
    rfl
  refine ⟨hsysclk, ?_, ?_, ?_⟩
  · rw [hhclk, toNat_prescaled (by decide), hsysclk, RccAhbPresc.decoded]
  · rw [happ1, toNat_prescaled (by decide), RccApbPresc.decoded]
  · rw [happ2, toNat_prescaled (by decide), RccApbPresc.decoded]

theorem RccAhbPresc.half_divisor (ahb : RccAhbPresc) (hlarge : ¬ahb.divisor ≤ 16) :
    ahb.divisor = ahb.divisor / 2 * 2 ∧ 0 < ahb.divisor / 2 ∧ ahb.divisor / 2 ≤ 256 := by
  revert hlarge
  cases ahb <;> decide

/-- A divisor from 64 on makes the frequencies come out twice too high. -/
theorem RccAhbPresc.agrees_iff {output : Nat} (houtput : 2031744 ≤ output) :
    output / (if ahb.divisor ≤ 16 then ahb.divisor else ahb.divisor / 2) = output / ahb.divisor ↔
      ahb.divisor ≤ 16 := by
  constructor
  · intro hsame
    by_contra hlarge
    rcases ahb.half_divisor hlarge with ⟨hdouble, hpos, hle⟩
    have hquot : 0 < output / (ahb.divisor / 2) := Nat.div_pos (by omega) hpos
    rw [if_neg hlarge] at hsame
    have hhalf : output / ahb.divisor = output / (ahb.divisor / 2) / 2 := by
      rw [Nat.div_div_eq_div_mul, ← hdouble]
    omega
  · intro hsmall
    rw [if_pos hsmall]

theorem ClocksSet.agrees_iff (h : ClocksSet pll (RccBusConfig.of ahb apb1 apb2 rtc) s)
    (hin : pll.InRange) (hq : 2 ≤ pll.pllq.toNat) (hq' : pll.pllq.toNat ≤ 15)
    (hfits : pll.vco < 2 ^ 32) {r : ClockReport} (hfreq : r.freq = s.regs.report pllSelected unset)
    (hpll48 : r.pll48clk = s.regs.pll48clk) (hdividers : r.dividers = s.regs.dividers) :
    r.Agrees pll ahb apb1 apb2 rtc ↔ ahb.divisor ≤ 16 := by
  rcases h.report hin hfits hfreq with ⟨hsysclk, hhclk, happ1, happ2⟩
  constructor
  · intro hagrees
    rw [hagrees.hclk] at hhclk
    exact (RccAhbPresc.agrees_iff hin.output_ge).1 hhclk.symm
  · intro hsmall
    rw [if_pos hsmall] at hhclk
    refine ⟨hsysclk, hhclk, ?_, ?_, ?_, ?_⟩
    · rw [happ1, hhclk]
    · rw [happ2, hhclk]
    · rw [hpll48, h.pll48clk hin hq hq' hfits]
    · rw [hdividers, h.dividers]

end Decoding

/-! ## Setting up -/

section SettingUp

variable {D : ClockState → Prop} {pll : RccPllConfig} {busConf : RccBusConfig} {s s₁ : ClockState}
  {g : Unit}

theorem wp_setup_clocksSet :
    (setupSystemConfigRcc (some (pllSystem pll (some busConf)))).wp (clockHardware anyClock) D
      (fun status _ s' => status = 0 → ClocksSet pll busConf s') g s := by
  refine wp_setupSystemConfigRcc (Q := fun status s' => status = 0 → ClocksSet pll busConf s')
    (allowed_anyClock s) fun s₀ _ _ hok₀ => ?_
  refine wp_mono (wp_switchToPllRcc hok₀ (switchAllowed_anyClock pll s₀)) ?_
  rintro status _ s₁ ⟨hswitched, _, hok₁⟩
  refine ⟨fun hne hzero => absurd hzero hne, ?_⟩
  rintro rfl
  rcases exists_switched hswitched with ⟨source, current, s₂, -, hregs, hsws⟩
  have hsw : s₁.regs.sw = pllSelected := by
    rw [hregs, ClockRegs.sw_lowered]
    exact ClockRegs.sw_select _ (by decide)
  have hpllcfgr : s₁.regs.pllcfgr = pll.encode s₂.regs.pllcfgr := by
    rw [hregs]
    exact ClockRegs.pllcfgr_switched
  -- The dividers leave `PLLCFGR` and `SW` alone.
  refine wp_mono (wp_setBusDividersRcc hok₁ fun _ _ _ _ _ _ => trivial) ?_
  rintro _ _ s₃ hdivided _
  refine ⟨⟨s₂.regs.pllcfgr, ?_⟩, ⟨s₁.regs, ?_⟩, ?_, ?_⟩
  · rw [hdivided.regs, hdivided.pllcfgr, hpllcfgr]
  · rw [hdivided.regs]
  · rw [hdivided.regs, hdivided.sw, hsw]
  · rcases hdivided.sws with h | h
    · exact h.trans hsws
    · exact h.trans hsw

theorem ClocksSet.drift (h : ClocksSet pll busConf s) (hdrift : Drift s s₁) :
    s₁.regs = s.regs ∧ s₁.sws = pllSelected := by
  refine ⟨hdrift.regs, ?_⟩
  rcases hdrift.sws with hsws | hsws
  · exact hsws.trans h.sws
  · exact hsws.trans h.sw

end SettingUp

/-- After a setup that succeeded, the report agrees with the configuration exactly when the AHB
divisor is at most 16, whatever the registers held before. -/
theorem clock_report_iff {pll : RccPllConfig} {ahb : RccAhbPresc} {apb1 apb2 : RccApbPresc}
    {rtc : RccRtcPresc} (hin : pll.InRange) (hq : 2 ≤ pll.pllq.toNat) (hq' : pll.pllq.toNat ≤ 15)
    (hfits : pll.vco < 2 ^ 32) {freq : RccFrequencies} {s s' : ClockState} {r : ClockReport}
    (hrun : Runs (clockHardware anyClock)
      (setupThenReport (pllSystem pll (some (RccBusConfig.of ahb apb1 apb2 rtc))) freq ()) s
      (some r, ()) s') :
    r.Agrees pll ahb apb1 apb2 rtc ↔ ahb.divisor ≤ 16 := by
  have hwp : (setupThenReport (pllSystem pll (some (RccBusConfig.of ahb apb1 apb2 rtc))) freq).wp
      (clockHardware anyClock) (fun _ => True)
      (fun r _ _ => ∀ x ∈ r, x.Agrees pll ahb apb1 apb2 rtc ↔ ahb.divisor ≤ 16) () s := by
    refine wp_seq wp_setup_clocksSet fun status _ s₁ hset => ?_
    split
    · simp
    next hstatus =>
    have hset₁ := hset (not_not.1 hstatus)
    -- The three reports; the registers stay as they are in between.
    refine wp_seq (wp_getClockFrequencies (allowed_anyClock s₁)) ?_
    rintro f _ s₃ ⟨s₂, hdrift₂, hdrift₃, hf⟩
    rw [(hset₁.drift hdrift₂).2] at hf
    refine wp_seq (wp_getPll48clkFreq (allowed_anyClock s₃)) ?_
    rintro v _ s₄ ⟨hdrift₄, hv⟩
    rw [hdrift₃.regs, hdrift₂.regs] at hv
    refine wp_seq (wp_getRccClockDividers (allowed_anyClock s₄)) ?_
    rintro dividers _ s₅ ⟨hdrift₅, hdividers⟩
    rw [hdrift₄.regs, hdrift₃.regs, hdrift₂.regs] at hdividers
    intro x hx
    cases hx
    exact hset₁.agrees_iff hin hq hq' hfits hf hv hdividers
  exact wp_runs hwp hrun r rfl

/-! ## Runs -/

def noFreq : RccFrequencies where
  sysclkFreq := 0#32
  hclkFreq := 0#32
  apb1Freq := 0#32
  apb2Freq := 0#32

def noRtc : RccRtcPresc := ⟨0#8, Or.inl rfl⟩

/-- The setup and the report with an AHB divisor. -/
def setupWith (ahb : RccAhbPresc) : RccProc (Option ClockReport) :=
  setupThenReport (pllSystem pll168 (some (RccBusConfig.of ahb .div4 .div2 noRtc))) noFreq

theorem setupWith_runs {ahb : RccAhbPresc} {hclk : Nat}
    (h : ((setupWith ahb ()).exec obliging resetState).map
      (fun x => x.1.1.map fun r => r.freq.hclkFreq.toNat) = some (some hclk)) :
    ∃ r s', Runs (clockHardware anyClock) (setupWith ahb ()) resetState (some r, ()) s' ∧
      r.freq.hclkFreq.toNat = hclk := by
  rcases Option.map_eq_some_iff.1 h with ⟨⟨⟨report, _⟩, s'⟩, hexec, hreport⟩
  rcases Option.map_eq_some_iff.1 hreport with ⟨r, hr, hhclk⟩
  have hruns := Prog.exec_runs (obliging_allowed anyClock) hexec
  dsimp only at hr
  subst hr
  exact ⟨r, s', hruns, hhclk⟩

set_option maxRecDepth 10000 in
/-- With `DIV64` the report halves the divisor. -/
theorem clock_report_div64 :
    pll168.InRange ∧ pll168.pllq = 7#32 ∧ pll168.vco < 2 ^ 32 ∧
      ∃ r s', Runs (clockHardware anyClock)
          (setupThenReport (pllSystem pll168 (some (RccBusConfig.of .div64 .div4 .div2 noRtc)))
            noFreq ()) resetState (some r, ()) s' ∧
        ¬r.Agrees pll168 .div64 .div4 .div2 noRtc := by
  have hexec : ((setupWith .div64 ()).exec obliging resetState).map
      (fun x => x.1.1.map fun r => r.freq.hclkFreq.toNat) = some (some 5250000) := by
    decide +kernel
  rcases setupWith_runs hexec with ⟨r, s', hrun, hhclk⟩
  refine ⟨pll168_inRange, rfl, by decide, r, s', hrun, ?_⟩
  intro hagrees
  have hreal : r.freq.hclkFreq.toNat = 2625000 := hagrees.hclk
  omega

set_option maxRecDepth 10000 in
theorem clock_report_div2 :
    ∃ r s', Runs (clockHardware anyClock)
        (setupThenReport (pllSystem pll168 (some (RccBusConfig.of .div2 .div4 .div2 noRtc)))
          noFreq ()) resetState (some r, ()) s' ∧
      r.Agrees pll168 .div2 .div4 .div2 noRtc := by
  have hexec : ((setupWith .div2 ()).exec obliging resetState).map
      (fun x => x.1.1.map fun r => r.freq.hclkFreq.toNat) = some (some 84000000) := by
    decide +kernel
  rcases setupWith_runs hexec with ⟨r, s', hrun, _⟩
  exact ⟨r, s', hrun,
    (clock_report_iff pll168_inRange (by decide) (by decide) (by decide) hrun).2 (by decide)⟩

end Core
end SdioFat32
