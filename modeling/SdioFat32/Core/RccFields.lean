import SdioFat32.Core.RccHardware

/-!
# RccFields — the fields of `CFGR` and `PLLCFGR`

What the clock functions make of the two registers, as functions on registers:

* `RccPllConfig.encode` — `configure_pll_rcc` on `PLLCFGR`;
* `ClockRegs.select` — `select_sys_clock` on `CFGR`;
* `RccBusConfig.encode` — `set_bus_dividers_rcc` on `CFGR`;
* `ClockRegs.report` — what `get_clock_frequencies` computes.

The lemmas say what every field holds afterwards.
-/

namespace SdioFat32
namespace Core

open Cells

/-! ## Masks -/

theorem rccPllcfgrPllmMask_eq : rccPllcfgrPllmMask = fieldMask 32 0 6 := by decide
theorem rccPllcfgrPllnMask_eq : rccPllcfgrPllnMask = fieldMask 32 6 9 := by decide
theorem rccPllcfgrPllpMask_eq : rccPllcfgrPllpMask = fieldMask 32 16 2 := by decide
theorem rccPllcfgrPllsrcMask_eq : rccPllcfgrPllsrcMask = fieldMask 32 22 1 := by decide
theorem rccPllcfgrPllqMask_eq : rccPllcfgrPllqMask = fieldMask 32 24 4 := by decide
theorem rccCfgrHpreMask_eq : rccCfgrHpreMask = fieldMask 32 4 4 := by decide
theorem rccCfgrPpre1Mask_eq : rccCfgrPpre1Mask = fieldMask 32 10 3 := by decide
theorem rccCfgrPpre2Mask_eq : rccCfgrPpre2Mask = fieldMask 32 13 3 := by decide
theorem rccCfgrRtcpreMask_eq : rccCfgrRtcpreMask = fieldMask 32 16 5 := by decide
theorem rccCfgrSws_eq : rccCfgrSws 3#32 = fieldMask 32 2 2 := by decide

/-! ## Reading `CFGR` -/

theorem field_shown_sws (s : ClockState) :
    field (s.shown .cfgr) 2 2 = s.sws.setWidth 32 := by
  have hclear : field (s.regs.cfgr &&& ~~~swsMask) 2 2 = 0#32 := field_clear (by decide)
  have hwrite : field (s.sws.setWidth 32 <<< 2) 2 2 = s.sws.setWidth 32 := by
    apply field_shiftLeft_self
    · rw [BitVec.toNat_setWidth_of_le (by decide)]
      exact s.sws.isLt
    · decide
  unfold ClockState.shown
  rw [field_or, hclear, hwrite, BitVec.zero_or]

/-- The fields above `SWS` read as they were written. -/
theorem field_shown_cfgr (s : ClockState) {start len : Nat} (hstart : 4 ≤ start)
    (hapart : fieldMask 32 start len &&& swsMask = 0#32) :
    field (s.shown .cfgr) start len = field s.regs.cfgr start len := by
  have hclear : field (s.regs.cfgr &&& ~~~swsMask) start len = field s.regs.cfgr start len :=
    field_clear_apart hapart
  have hbelow : field (s.sws.setWidth 32 <<< 2) start len = 0#32 := by
    apply field_shiftLeft_below (m := 2)
    · rw [BitVec.toNat_setWidth_of_le (by decide)]
      exact s.sws.isLt
    · exact hstart
  unfold ClockState.shown
  rw [field_or, hclear, hbelow, BitVec.or_zero]

/-! ## The PLL configuration -/

/-- `configure_pll_rcc` on the value of `PLLCFGR`. -/
def RccPllConfig.encode (config : RccPllConfig) (v : BitVec 32) : BitVec 32 :=
  (v &&& ~~~(rccPllcfgrPllmMask ||| rccPllcfgrPllnMask ||| rccPllcfgrPllqMask |||
      rccPllcfgrPllpMask) ||| config.pllm <<< 0 ||| config.pllq <<< 24 ||| config.plln <<< 6 |||
    config.pllp <<< 16) &&& ~~~rccPllcfgrPllsrcMask ||| config.source.setWidth 32 <<< 22

section PllFields

variable {config : RccPllConfig}

theorem RccPllConfig.InRange.source_lt (h : config.InRange) :
    (config.source.setWidth 32).toNat < 2 ^ 1 := by
  rcases h.source with hsrc | hsrc
  · rw [hsrc]
    decide
  · rw [hsrc]
    decide

theorem RccPllConfig.InRange.pllm_lt (h : config.InRange) : config.pllm.toNat < 2 ^ 6 := by
  have := h.pllm_le
  omega

theorem RccPllConfig.InRange.plln_lt (h : config.InRange) : config.plln.toNat < 2 ^ 9 := by
  have := h.plln_le
  omega

theorem RccPllConfig.InRange.pllp_lt (h : config.InRange) : config.pllp.toNat < 2 ^ 2 := by
  have := h.pllp_le
  omega

theorem RccPllConfig.field_pllm_encode (h : config.InRange) (v : BitVec 32) :
    field (config.encode v) 0 6 = config.pllm := by
  unfold encode
  rw [field_or, field_clear_apart (by decide), field_or, field_or, field_or, field_or,
    field_clear (by decide), field_shiftLeft_self h.pllm_lt (by decide),
    field_shiftLeft_above (by decide),
    field_shiftLeft_above (by decide), field_shiftLeft_above (by decide),
    field_shiftLeft_above (by decide)]
  simp

theorem RccPllConfig.field_plln_encode (h : config.InRange) (v : BitVec 32) :
    field (config.encode v) 6 9 = config.plln := by
  unfold encode
  rw [field_or, field_clear_apart (by decide), field_or, field_or, field_or, field_or,
    field_clear (by decide), field_shiftLeft_below h.pllm_lt (by decide),
    field_shiftLeft_above (by decide), field_shiftLeft_self h.plln_lt (by decide),
    field_shiftLeft_above (by decide), field_shiftLeft_above (by decide)]
  simp

theorem RccPllConfig.field_pllp_encode (h : config.InRange) (v : BitVec 32) :
    field (config.encode v) 16 2 = config.pllp := by
  unfold encode
  rw [field_or, field_clear_apart (by decide), field_or, field_or, field_or, field_or,
    field_clear (by decide), field_shiftLeft_below h.pllm_lt (by decide),
    field_shiftLeft_above (by decide), field_shiftLeft_below h.plln_lt (by decide),
    field_shiftLeft_self h.pllp_lt (by decide), field_shiftLeft_above (by decide)]
  simp

theorem RccPllConfig.field_source_encode (h : config.InRange) (v : BitVec 32) :
    field (config.encode v) 22 1 = config.source.setWidth 32 := by
  unfold encode
  rw [field_or, field_clear (by decide), field_shiftLeft_self h.source_lt (by decide),
    BitVec.zero_or]

/-- `PLLQ` is the one field whose value the other limits do not bound. -/
theorem RccPllConfig.field_pllq_encode (h : config.InRange) (hq : config.pllq.toNat < 2 ^ 4)
    (v : BitVec 32) : field (config.encode v) 24 4 = config.pllq := by
  unfold encode
  rw [field_or, field_clear_apart (by decide), field_or, field_or, field_or, field_or,
    field_clear (by decide), field_shiftLeft_below h.pllm_lt (by decide),
    field_shiftLeft_self hq (by decide), field_shiftLeft_below h.plln_lt (by decide),
    field_shiftLeft_below h.pllp_lt (by decide), field_shiftLeft_below h.source_lt (by decide)]
  simp

end PllFields

/-- `configure_pll_rcc` on the registers. -/
def RccPllConfig.configured (config : RccPllConfig) (ρ : ClockRegs) : ClockRegs :=
  { ρ with pllcfgr := config.encode ρ.pllcfgr }

theorem RccPllConfig.pllFreq_encode {config : RccPllConfig} (h : config.InRange)
    {ρ : ClockRegs} {v : BitVec 32} (hρ : ρ.pllcfgr = config.encode v) :
    ρ.pllFreq = config.output := by
  have hsource : (config.source.setWidth 32).toNat = config.source.toNat :=
    BitVec.toNat_setWidth_of_le (by decide)
  unfold ClockRegs.pllFreq output
  rw [hρ, field_source_encode h, field_pllm_encode h, field_plln_encode h, field_pllp_encode h,
    hsource]

/-! ## Writes to `CFGR` -/

section CfgrFields

variable {ρ : ClockRegs} {mask : BitVec 32} {start len : Nat}

theorem ClockRegs.field_or_cfgr (hsws : fieldMask 32 start len &&& swsMask = 0#32) :
    field (ρ.or .cfgr mask).cfgr start len = field ρ.cfgr start len ||| field mask start len := by
  unfold ClockRegs.or
  dsimp only
  rw [field_clear_apart hsws, field_or]

theorem ClockRegs.field_andNot_cfgr (hsws : fieldMask 32 start len &&& swsMask = 0#32)
    (hmask : fieldMask 32 start len &&& mask = fieldMask 32 start len) :
    field (ρ.andNot .cfgr mask).cfgr start len = 0#32 := by
  unfold ClockRegs.andNot
  dsimp only
  rw [field_clear_apart hsws, field_clear hmask]

theorem ClockRegs.field_andNot_cfgr_apart (hsws : fieldMask 32 start len &&& swsMask = 0#32)
    (hmask : fieldMask 32 start len &&& mask = 0#32) :
    field (ρ.andNot .cfgr mask).cfgr start len = field ρ.cfgr start len := by
  unfold ClockRegs.andNot
  dsimp only
  rw [field_clear_apart hsws, field_clear_apart hmask]

/-! ### The clock selected -/

/-- `select_sys_clock` on the registers. -/
def ClockRegs.select (ρ : ClockRegs) (src : BitVec 32) : ClockRegs :=
  (ρ.andNot .cfgr (rccCfgrSw 3#32)).or .cfgr (rccCfgrSw src)

theorem ClockRegs.sw_andNot (ρ : ClockRegs) : (ρ.andNot .cfgr (rccCfgrSw 3#32)).sw = 0#2 := by
  unfold sw
  rw [field_andNot_cfgr (by decide) (by decide)]
  rfl

theorem ClockRegs.sw_select (ρ : ClockRegs) {src : BitVec 32} (hsrc : src.toNat < 2 ^ 2) :
    (ρ.select src).sw = src.setWidth 2 := by
  have hsw : field (rccCfgrSw src) 0 2 = src := field_shiftLeft_self hsrc (by decide)
  unfold sw select
  rw [field_or_cfgr (by decide), field_andNot_cfgr (by decide) (by decide), hsw, BitVec.zero_or]

/-- The fields above the clock switch are left alone. -/
theorem ClockRegs.field_select {src : BitVec 32} (hsrc : src.toNat < 2 ^ 2) (hstart : 4 ≤ start)
    (hsws : fieldMask 32 start len &&& swsMask = 0#32)
    (hsw : fieldMask 32 start len &&& rccCfgrSw 3#32 = 0#32) :
    field (ρ.select src).cfgr start len = field ρ.cfgr start len := by
  have hbelow : field (rccCfgrSw src) start len = 0#32 :=
    field_shiftLeft_below (k := 0) hsrc (by omega)
  unfold select
  rw [field_or_cfgr hsws, field_andNot_cfgr_apart hsws hsw, hbelow, BitVec.or_zero]

/-! ### The bus dividers -/

/-- `set_bus_dividers_rcc` on the registers. -/
def ClockRegs.divide (ρ : ClockRegs) (busConf : RccBusConfig) : ClockRegs :=
  ((((ρ.andNot .cfgr (rccCfgrPpre1Mask ||| rccCfgrPpre2Mask ||| rccCfgrHpreMask |||
    rccCfgrRtcpreMask)).or .cfgr (busConf.apb1Prescaler.setWidth 32 <<< 10)).or .cfgr
    (busConf.apb2Prescaler.setWidth 32 <<< 13)).or .cfgr
    (busConf.ahbPrescaler.setWidth 32 <<< 4)).or .cfgr (busConf.rtcPrescaler.setWidth 32 <<< 16)

/-- The prescalers have the widths of their fields, as those of the enumerations do. -/
structure RccBusConfig.Fits (busConf : RccBusConfig) : Prop where
  ahb : (busConf.ahbPrescaler.setWidth 32).toNat < 2 ^ 4
  apb1 : (busConf.apb1Prescaler.setWidth 32).toNat < 2 ^ 3
  apb2 : (busConf.apb2Prescaler.setWidth 32).toNat < 2 ^ 3
  rtc : (busConf.rtcPrescaler.setWidth 32).toNat < 2 ^ 5

variable {busConf : RccBusConfig}

theorem ClockRegs.field_ahb_divide (h : busConf.Fits) :
    field (ρ.divide busConf).cfgr 4 4 = busConf.ahbPrescaler.setWidth 32 := by
  unfold divide
  rw [field_or_cfgr (by decide), field_or_cfgr (by decide), field_or_cfgr (by decide),
    field_or_cfgr (by decide), field_andNot_cfgr (by decide) (by decide),
    field_shiftLeft_above (by decide), field_shiftLeft_above (by decide),
    field_shiftLeft_self h.ahb (by decide), field_shiftLeft_above (by decide)]
  simp

theorem ClockRegs.field_apb1_divide (h : busConf.Fits) :
    field (ρ.divide busConf).cfgr 10 3 = busConf.apb1Prescaler.setWidth 32 := by
  unfold divide
  rw [field_or_cfgr (by decide), field_or_cfgr (by decide), field_or_cfgr (by decide),
    field_or_cfgr (by decide), field_andNot_cfgr (by decide) (by decide),
    field_shiftLeft_self h.apb1 (by decide), field_shiftLeft_above (by decide),
    field_shiftLeft_below h.ahb (by decide), field_shiftLeft_above (by decide)]
  simp

theorem ClockRegs.field_apb2_divide (h : busConf.Fits) :
    field (ρ.divide busConf).cfgr 13 3 = busConf.apb2Prescaler.setWidth 32 := by
  unfold divide
  rw [field_or_cfgr (by decide), field_or_cfgr (by decide), field_or_cfgr (by decide),
    field_or_cfgr (by decide), field_andNot_cfgr (by decide) (by decide),
    field_shiftLeft_below h.apb1 (by decide), field_shiftLeft_self h.apb2 (by decide),
    field_shiftLeft_below h.ahb (by decide), field_shiftLeft_above (by decide)]
  simp

theorem ClockRegs.field_rtc_divide (h : busConf.Fits) :
    field (ρ.divide busConf).cfgr 16 5 = busConf.rtcPrescaler.setWidth 32 := by
  unfold divide
  rw [field_or_cfgr (by decide), field_or_cfgr (by decide), field_or_cfgr (by decide),
    field_or_cfgr (by decide), field_andNot_cfgr (by decide) (by decide),
    field_shiftLeft_below h.apb1 (by decide), field_shiftLeft_below h.apb2 (by decide),
    field_shiftLeft_below h.ahb (by decide), field_shiftLeft_self h.rtc (by decide)]
  simp

end CfgrFields

/-! ## The report -/

/-- The PLL output as the source computes it, in 32 bits. -/
def pllBits (source pllm plln pllp : BitVec 32) : BitVec 32 :=
  (if source = rccHsi then rccHsiFreq else rccHseFreq) / pllm * plln / decodePllp pllp

/-- `SYSCLK_Freq` for a clock in use. -/
def ClockRegs.reportSysclk (ρ : ClockRegs) (source : BitVec 2) (unset : BitVec 32) : BitVec 32 :=
  if source = 0#2 then rccHsiFreq
  else if source = 1#2 then rccHseFreq
  else if source = pllSelected then
    pllBits (field ρ.pllcfgr 22 1) (field ρ.pllcfgr 0 6) (field ρ.pllcfgr 6 9)
      (field ρ.pllcfgr 16 2)
  else unset

/-- `get_clock_frequencies` on the registers. -/
def ClockRegs.report (ρ : ClockRegs) (source : BitVec 2) (unset : BitVec 32) : RccFrequencies :=
  let sysclk := ρ.reportSysclk source unset
  let hpre := field ρ.cfgr 4 4
  let hclk := sysclk >>> (if 7#32 < hpre then hpre - 7#32 else 0#32)
  let ppre1 := field ρ.cfgr 10 3
  let ppre2 := field ρ.cfgr 13 3
  { sysclkFreq := sysclk
    hclkFreq := hclk
    apb1Freq := hclk >>> (if 3#32 < ppre1 then ppre1 - 3#32 else 0#32)
    apb2Freq := hclk >>> (if 3#32 < ppre2 then ppre2 - 3#32 else 0#32) }

/-- The product is the one step that may leave 32 bits. -/
theorem toNat_pllBits_mod {source pllm plln pllp : BitVec 32} (hpllp : pllp.toNat ≤ 3) :
    (pllBits source pllm plln pllp).toNat =
      (if source.toNat = 0 then 16000000 else 25000000) / pllm.toNat * plln.toNat % 2 ^ 32 /
        (2 * (pllp.toNat + 1)) := by
  have hinput : (if source = rccHsi then rccHsiFreq else rccHseFreq).toNat =
      if source.toNat = 0 then 16000000 else 25000000 := by
    by_cases hsrc : source = rccHsi
    · have hzero : source.toNat = 0 := by
        rw [hsrc]
        rfl
      rw [if_pos hsrc, if_pos hzero]
      rfl
    · have hzero : source.toNat ≠ 0 := fun h => hsrc (BitVec.eq_of_toNat_eq h)
      rw [if_neg hsrc, if_neg hzero]
      rfl
  have hdecode : (decodePllp pllp).toNat = 2 * (pllp.toNat + 1) := by
    unfold decodePllp
    simp only [BitVec.toNat_mul, BitVec.toNat_add, BitVec.toNat_setWidth, BitVec.toNat_ofNat]
    omega
  unfold pllBits
  rw [BitVec.toNat_udiv, BitVec.toNat_mul, BitVec.toNat_udiv, hinput, hdecode]

/-- The 32 bits do not wrap. -/
theorem toNat_pllBits {source pllm plln pllp : BitVec 32} (hpllp : pllp.toNat ≤ 3)
    (hfits : (if source.toNat = 0 then 16000000 else 25000000) / pllm.toNat * plln.toNat < 2 ^ 32) :
    (pllBits source pllm plln pllp).toNat =
      pllOutput source.toNat pllm.toNat plln.toNat pllp.toNat := by
  rw [toNat_pllBits_mod hpllp, Nat.mod_eq_of_lt hfits]
  rfl

theorem targetSysclk_eq {config : RccPllConfig} (h : config.InRange) :
    targetSysclk config =
      pllBits (config.source.setWidth 32) config.pllm config.plln config.pllp := by
  unfold targetSysclk pllBits
  rcases h.source with hsrc | hsrc
  · rw [hsrc]
    rfl
  · rw [hsrc]
    rfl

/-- The configuration as the report decodes it. -/
theorem RccPllConfig.reportSysclk_encode {config : RccPllConfig} (h : config.InRange)
    {ρ : ClockRegs} {v : BitVec 32} (hρ : ρ.pllcfgr = config.encode v) (unset : BitVec 32) :
    ρ.reportSysclk pllSelected unset = targetSysclk config := by
  rw [targetSysclk_eq h]
  unfold ClockRegs.reportSysclk
  rw [if_neg (by decide), if_neg (by decide), if_pos rfl, hρ, field_source_encode h,
    field_pllm_encode h, field_plln_encode h, field_pllp_encode h]

/-- The frequency of the VCO. -/
def RccPllConfig.vco (config : RccPllConfig) : Nat :=
  (if config.source.toNat = 0 then 16000000 else 25000000) / config.pllm.toNat * config.plln.toNat

theorem RccPllConfig.output_eq (config : RccPllConfig) :
    config.output = config.vco / (2 * (config.pllp.toNat + 1)) := rfl

theorem toNat_targetSysclk {config : RccPllConfig} (h : config.InRange)
    (hfits : config.vco < 2 ^ 32) : (targetSysclk config).toNat = config.output := by
  have hsource : (config.source.setWidth 32).toNat = config.source.toNat :=
    BitVec.toNat_setWidth_of_le (by decide)
  rw [targetSysclk_eq h, toNat_pllBits h.pllp_le]
  · rw [hsource]
    rfl
  · rw [hsource]
    exact hfits

end Core
end SdioFat32
