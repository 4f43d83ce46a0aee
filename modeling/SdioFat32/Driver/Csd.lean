import SdioFat32.Driver.Response
import Mathlib.Data.BitVec

/-!
# Csd — the card-specific data register

`csd_data` holds the 128-bit register with the most significant word first; `csdRegister` is that
register as one bit vector, so that a field is `extractLsb'` at the position the card
specification gives it.  `read_csd_data` picks the fields out of the words with masks and shifts;
`load_csd_sd` derives the capacity and the class of the card from them in 32-bit arithmetic.
-/

namespace SdioFat32
namespace Driver

open Effects Proc

/-- `CSD_Type`. -/
structure CsdType where
  crc : BitVec 8
  fileFormat : BitVec 8
  tmpWriteProtect : BitVec 8
  permWriteProtect : BitVec 8
  copy : BitVec 8
  fileFormatGrp : BitVec 8
  writeBlPartial : BitVec 8
  writeBlLen : BitVec 8
  r2wFactor : BitVec 8
  wpGrpEnable : BitVec 8
  wpGrpSize : BitVec 8
  sectorSize : BitVec 8
  eraseBlkEn : BitVec 8
  cSizeMult : BitVec 8
  vddRCurrMin : BitVec 8
  vddRCurrMax : BitVec 8
  vddWCurrMin : BitVec 8
  vddWCurrMax : BitVec 8
  cSize : BitVec 32
  dsrImp : BitVec 8
  readBlkMisalign : BitVec 8
  writeBlkMisalign : BitVec 8
  readBlPartial : BitVec 8
  readBlLen : BitVec 8
  ccc : BitVec 16
  tranSpeed : BitVec 8
  nsac : BitVec 8
  taac : BitVec 8
  csdStructure : BitVec 8

/-- `CSD_Type csd = {0};` -/
def CsdType.zero : CsdType :=
  ⟨0, 0, 0, 0, 0, 0, 0, 0, 0, 0, 0, 0, 0, 0, 0, 0, 0, 0, 0, 0, 0, 0, 0, 0, 0, 0, 0, 0, 0⟩

/-- `(uint8_t)((word & mask) >> shift)` -/
def csdField (word mask : BitVec 32) (shift : Nat) : BitVec 8 :=
  ((word &&& mask) >>> shift).setWidth 8

/-- Fill `csd` from `csd_data`; no caller passes `NULL`. -/
def readCsdData (d : Vector (BitVec 32) 4) (csd : CsdType) : Int × CsdType :=
  let csd :=
    { csd with
      csdStructure := csdField (d.get 0) 0xc0000000#32 30
      taac := csdField (d.get 0) 0x00FF0000#32 16
      nsac := csdField (d.get 0) 0x0000FF00#32 8
      tranSpeed := csdField (d.get 0) 0x000000FF#32 0
      -- The class bits go through `uint8_t` before they reach the 16-bit field.
      ccc := (csdField (d.get 1) 0xfff00000#32 20).setWidth 16
      readBlLen := csdField (d.get 1) 0xf0000#32 16
      readBlPartial := csdField (d.get 1) 0x8000#32 15
      writeBlkMisalign := csdField (d.get 1) 0x4000#32 14
      readBlkMisalign := csdField (d.get 1) 0x2000#32 13
      dsrImp := csdField (d.get 1) 0x1000#32 12 }
  if csd.csdStructure = 0 then
    -- Version 1 takes its currents and `C_SIZE_MULT` from the first word.
    (0, tail
      { csd with
        cSize := (d.get 1 &&& 0x3FF#32) <<< 2 ||| (d.get 2 &&& 0xC0000000#32) >>> 30
        vddRCurrMin := csdField (d.get 0) 0x38000000#32 27
        vddRCurrMax := csdField (d.get 0) 0x07000000#32 24
        vddWCurrMin := csdField (d.get 0) 0x00E00000#32 21
        vddWCurrMax := csdField (d.get 0) 0x001C0000#32 18
        cSizeMult := csdField (d.get 0) 0x00038000#32 15 })
  else if csd.csdStructure = 1 then
    (0, tail
      { csd with
        cSize := (d.get 1 &&& 0x3F#32) <<< 16 ||| (d.get 2 &&& 0xFFFF0000#32) >>> 16 })
  else (-2, csd)
where
  /-- The fields of the last two words. -/
  tail (csd : CsdType) : CsdType :=
    { csd with
      eraseBlkEn := csdField (d.get 2) 0x4000#32 14
      sectorSize := csdField (d.get 2) 0x3f80#32 7
      wpGrpSize := csdField (d.get 2) 0x007f#32 0
      wpGrpEnable := csdField (d.get 3) 0x80000000#32 31
      r2wFactor := csdField (d.get 3) 0x1c000000#32 26
      writeBlLen := csdField (d.get 3) 0x3c00000#32 22
      writeBlPartial := csdField (d.get 3) 0x200000#32 21
      fileFormatGrp := csdField (d.get 3) 0x00008000#32 15
      copy := csdField (d.get 3) 0x00004000#32 14
      permWriteProtect := csdField (d.get 3) 0x00002000#32 13
      tmpWriteProtect := csdField (d.get 3) 0x00001000#32 12
      fileFormat := csdField (d.get 3) 0x00000C00#32 10
      crc := csdField (d.get 3) 0x000000FE#32 1 }

/-! ## Powers -/

/-- The loop of `math_pow`; 32 shifts bring `exp` to zero. -/
def mathPowLoop : Nat → BitVec 32 → BitVec 32 → BitVec 32 → BitVec 32
  | 0, _, _, result => result
  | steps + 1, value, exp, result =>
      if exp = 0#32 then result
      else
        let result := if hasFlag exp 1#32 then result * value else result
        mathPowLoop steps (value * value) (exp >>> 1) result

def mathPow (value exp : BitVec 32) : BitVec 32 :=
  if exp ≤ 1#32 then (if exp = 0#32 then 1#32 else value)
  else mathPowLoop 32 value exp 1#32

theorem hasFlag_one (w : BitVec 32) : hasFlag w 1#32 = decide (w.toNat % 2 = 1) := by
  have hand : (w &&& 1#32).toNat = w.toNat % 2 := by
    rw [BitVec.toNat_and]
    exact Nat.and_one_is_mod _
  have hlt : w.toNat % 2 < 2 := Nat.mod_lt _ (by decide)
  unfold hasFlag
  rw [Bool.eq_iff_iff, bne_iff_ne, decide_eq_true_iff, ne_eq, ← BitVec.toNat_inj, hand]
  simp only [BitVec.toNat_ofNat, Nat.zero_mod]
  omega

theorem mathPowLoop_eq (steps : Nat) (value exp result : BitVec 32) (h : exp.toNat < 2 ^ steps) :
    mathPowLoop steps value exp result = result * value ^ exp.toNat := by
  induction steps generalizing value exp result with
  | zero =>
      have hzero : exp.toNat = 0 := by omega
      simp [mathPowLoop, hzero]
  | succ steps ih =>
      rw [mathPowLoop]
      by_cases hzero : exp = 0#32
      · simp [hzero]
      · have hhalf : (exp >>> 1).toNat = exp.toNat / 2 := by
          rw [BitVec.toNat_ushiftRight, Nat.shiftRight_one]
        -- The square takes over the higher bits of the exponent, `result` the lowest one.
        have hpow : value ^ exp.toNat =
            value ^ (exp.toNat % 2) * (value * value) ^ (exp.toNat / 2) := by
          rw [← pow_two, ← pow_mul, ← pow_add, Nat.mod_add_div]
        rw [if_neg hzero, ih _ _ _ (by omega), hhalf, hpow, hasFlag_one]
        rcases Nat.mod_two_eq_zero_or_one exp.toNat with heven | hodd
        · simp [heven]
        · simp [hodd, mul_assoc]

theorem mathPow_eq_pow (value exp : BitVec 32) : mathPow value exp = value ^ exp.toNat := by
  unfold mathPow
  by_cases hsmall : exp ≤ 1#32
  · have hle : exp.toNat ≤ 1 := hsmall
    rw [if_pos hsmall]
    by_cases hzero : exp = 0#32
    · simp [hzero]
    · have hne : exp.toNat ≠ 0 := fun h => hzero (BitVec.eq_of_toNat_eq h)
      have hone : exp.toNat = 1 := by omega
      rw [if_neg hzero, hone, pow_one]
  · rw [if_neg hsmall, mathPowLoop_eq 32 _ _ _ exp.isLt]
    exact one_mul _

theorem toNat_pow (value : BitVec 32) (n : Nat) :
    (value ^ n).toNat = value.toNat ^ n % 2 ^ 32 := by
  induction n with
  | zero => rfl
  | succ n ih =>
      have hmul : value.toNat ^ n % 2 ^ 32 * value.toNat % 2 ^ 32 =
          value.toNat ^ n * value.toNat % 2 ^ 32 := Nat.mod_mul_mod _ _ _
      rw [pow_succ, BitVec.toNat_mul, ih, hmul, pow_succ value.toNat]

theorem toNat_mathPow (value exp : BitVec 32) :
    (mathPow value exp).toNat = value.toNat ^ exp.toNat % 2 ^ 32 := by
  rw [mathPow_eq_pow, toNat_pow]

/-- A power of two with an exponent of eight bits, where 32 bits hold it. -/
theorem toNat_mathPow_two {n : BitVec 8} (hfits : 2 ^ n.toNat < 2 ^ 32) :
    (mathPow 2#32 (n.setWidth 32)).toNat = 2 ^ n.toNat := by
  have hexp : (n.setWidth 32).toNat = n.toNat := BitVec.toNat_setWidth_of_le (by decide)
  rw [toNat_mathPow, hexp]
  exact Nat.mod_eq_of_lt hfits

/-! ## Loading the register -/

def loadCsdSd (fuel : Nat) : SdProc Int := do
  let g ← globals
  sendCommandSdio cmdSendCsd (g.sd.rca.setWidth 32 <<< 16) sdioCmdLongResp
  let status ← cmdResp2Error fuel .csd
  if status < 0 then return -1
  let g ← globals
  let (status, csd) := readCsdData g.csdData CsdType.zero
  if status ≠ 0 then return -2
  if csd.csdStructure = 0 then
    let blockLen := mathPow 2#32 (csd.readBlLen.setWidth 32)
    let mult := mathPow 2#32 (csd.cSizeMult.setWidth 32)
    -- All factors have 32 bits, and so has their product.
    assignSd fun sd =>
      { sd with
        maxSize := (((csd.cSize + 1#32) * mult) * blockLen).setWidth 64
        version := .sdsc }
    return 0
  else if csd.csdStructure = 1 then
    assignSd fun sd =>
      { sd with maxSize := ((csd.cSize + 1#32) * (512#32 * 1024#32)).setWidth 64 }
    let g ← globals
    let capacityGb := (g.sd.maxSize / (1024#64 * 1024#64 * 1024#64)).setWidth 32
    assignSd fun sd => { sd with version := if 32#32 < capacityGb then .sdxc else .sdhc }
    return 0
  else
    return 12

end Driver
end SdioFat32
