import SdioFat32.Cells.BitField
import SdioFat32.Driver.Capacity

/-!
# CsdFields — every field `read_csd_data` fills

`CsdDecoded` is the table of the card specification: each field with its own bits of the register.
The driver meets it for most fields.  `CCC` goes through eight bits on its way, and the five fields
of a version 1 register from `VDD_R_CURR_MIN` to `C_SIZE_MULT` are taken from the first word
instead of the third.
-/

namespace SdioFat32
namespace Driver

open Cells

/-! ## The table -/

/-- The fields that both versions have in the same place. -/
structure CommonFields (r : BitVec 128) (csd : CsdType) : Prop where
  csdStructure : csd.csdStructure.toNat = bits r 127 126
  taac : csd.taac.toNat = bits r 119 112
  nsac : csd.nsac.toNat = bits r 111 104
  tranSpeed : csd.tranSpeed.toNat = bits r 103 96
  ccc : csd.ccc.toNat = bits r 95 84
  readBlLen : csd.readBlLen.toNat = bits r 83 80
  readBlPartial : csd.readBlPartial.toNat = bits r 79 79
  writeBlkMisalign : csd.writeBlkMisalign.toNat = bits r 78 78
  readBlkMisalign : csd.readBlkMisalign.toNat = bits r 77 77
  dsrImp : csd.dsrImp.toNat = bits r 76 76
  eraseBlkEn : csd.eraseBlkEn.toNat = bits r 46 46
  sectorSize : csd.sectorSize.toNat = bits r 45 39
  wpGrpSize : csd.wpGrpSize.toNat = bits r 38 32
  wpGrpEnable : csd.wpGrpEnable.toNat = bits r 31 31
  r2wFactor : csd.r2wFactor.toNat = bits r 28 26
  writeBlLen : csd.writeBlLen.toNat = bits r 25 22
  writeBlPartial : csd.writeBlPartial.toNat = bits r 21 21
  fileFormatGrp : csd.fileFormatGrp.toNat = bits r 15 15
  copy : csd.copy.toNat = bits r 14 14
  permWriteProtect : csd.permWriteProtect.toNat = bits r 13 13
  tmpWriteProtect : csd.tmpWriteProtect.toNat = bits r 12 12
  fileFormat : csd.fileFormat.toNat = bits r 11 10
  crc : csd.crc.toNat = bits r 7 1

structure Version1Fields (r : BitVec 128) (csd : CsdType) : Prop where
  cSize : csd.cSize.toNat = bits r 73 62
  vddRCurrMin : csd.vddRCurrMin.toNat = bits r 61 59
  vddRCurrMax : csd.vddRCurrMax.toNat = bits r 58 56
  vddWCurrMin : csd.vddWCurrMin.toNat = bits r 55 53
  vddWCurrMax : csd.vddWCurrMax.toNat = bits r 52 50
  cSizeMult : csd.cSizeMult.toNat = bits r 49 47

structure Version2Fields (r : BitVec 128) (csd : CsdType) : Prop where
  cSize : csd.cSize.toNat = bits r 69 48

/-- What `read_csd_data` is to return for the register, and the structure it is to leave. -/
def CsdDecoded (r : BitVec 128) (result : Int × CsdType) : Prop :=
  if bits r 127 126 = 0 then
    result.1 = 0 ∧ CommonFields r result.2 ∧ Version1Fields r result.2
  else if bits r 127 126 = 1 then
    result.1 = 0 ∧ CommonFields r result.2 ∧ Version2Fields r result.2
  else result.1 = -2

/-- The registers whose misread bits happen to be right. -/
def CsdReadable (r : BitVec 128) : Prop :=
  2 ≤ bits r 127 126 ∨
    bits r 95 92 = 0 ∧ (bits r 127 126 = 0 → bits r 125 111 = bits r 61 47)

instance (r : BitVec 128) : Decidable (CsdReadable r) :=
  inferInstanceAs (Decidable (_ ∨ _))

/-! ## The four words -/

section Words

variable (d : Vector (BitVec 32) 4) {mask : BitVec 32} {shift hi lo : Nat}

/-- A mask that covers the field, which a byte can hold. -/
theorem toNat_csdField {word : BitVec 32} {len : Nat}
    (hmask : mask = (BitVec.allOnes len).setWidth 32 <<< shift) (hlen : len ≤ 8) :
    (csdField word mask shift).toNat = (word.extractLsb' shift len).toNat := by
  rw [csdField_eq hmask, BitVec.toNat_setWidth_of_le hlen]

theorem csdField_word (k : Fin 4)
    (hmask : mask = (BitVec.allOnes (hi + 1 - lo)).setWidth 32 <<< shift)
    (hplace : lo + 32 * k = 96 + shift ∧ lo ≤ hi ∧ hi + 32 * k < 128 ∧ hi < lo + 8) :
    (csdField (d.get k) mask shift).toNat = bits (csdRegister d) hi lo := by
  rcases hplace with ⟨hlo, hle, hword, hbyte⟩
  rw [toNat_csdField hmask (by omega), bits_eq_extract, extract_word d k hlo (by omega)]

/-- Eight of the twelve class bits are left. -/
theorem ccc_word :
    ((csdField (d.get 1) 0xfff00000#32 20).setWidth 16).toNat = bits (csdRegister d) 91 84 := by
  have hmask : (0xfff00000#32) = (BitVec.allOnes 12).setWidth 32 <<< 20 := by decide
  have hword : ((d.get 1).extractLsb' 20 12).toNat = (csdRegister d).toNat >>> 84 % 2 ^ 12 := by
    have hextract : (csdRegister d).extractLsb' 84 12 = (d.get 1).extractLsb' 20 12 :=
      extract_word d 1 (by decide) (by decide)
    rw [← hextract, BitVec.extractLsb'_toNat]
  rw [BitVec.toNat_setWidth_of_le (by decide), csdField_eq hmask, BitVec.toNat_setWidth, hword,
    Nat.mod_mod_of_dvd _ (by decide), bits, Nat.shiftRight_eq_div_pow]

/-- The misread fields lie one behind the other in both words, three bits each. -/
theorem misread_iff (r : BitVec 128) :
    bits r 125 111 = bits r 61 47 ↔
      (((bits r 125 123 = bits r 61 59 ∧ bits r 122 120 = bits r 58 56) ∧
        bits r 119 117 = bits r 55 53) ∧ bits r 116 114 = bits r 52 50) ∧
          bits r 113 111 = bits r 49 47 := by
  rw [@bits_eq_iff _ r r 125 113 111 61 49 47, @bits_eq_iff _ r r 125 116 114 61 52 50,
    @bits_eq_iff _ r r 125 119 117 61 55 53, @bits_eq_iff _ r r 125 122 120 61 58 56]
  all_goals decide

end Words

/-! ## The fields from the words -/

/-- What the first part of `read_csd_data` takes from the first two words. -/
structure HeadWords (d : Vector (BitVec 32) 4) (csd : CsdType) : Prop where
  csdStructure : csd.csdStructure = csdField (d.get 0) 0xc0000000#32 30
  taac : csd.taac = csdField (d.get 0) 0x00FF0000#32 16
  nsac : csd.nsac = csdField (d.get 0) 0x0000FF00#32 8
  tranSpeed : csd.tranSpeed = csdField (d.get 0) 0x000000FF#32 0
  ccc : csd.ccc = (csdField (d.get 1) 0xfff00000#32 20).setWidth 16
  readBlLen : csd.readBlLen = csdField (d.get 1) 0xf0000#32 16
  readBlPartial : csd.readBlPartial = csdField (d.get 1) 0x8000#32 15
  writeBlkMisalign : csd.writeBlkMisalign = csdField (d.get 1) 0x4000#32 14
  readBlkMisalign : csd.readBlkMisalign = csdField (d.get 1) 0x2000#32 13
  dsrImp : csd.dsrImp = csdField (d.get 1) 0x1000#32 12

/-- What it takes for version 1 only, the currents and `C_SIZE_MULT` from the first word. -/
structure Version1Words (d : Vector (BitVec 32) 4) (csd : CsdType) : Prop where
  cSize : csd.cSize = (d.get 1 &&& 0x3FF#32) <<< 2 ||| (d.get 2 &&& 0xC0000000#32) >>> 30
  vddRCurrMin : csd.vddRCurrMin = csdField (d.get 0) 0x38000000#32 27
  vddRCurrMax : csd.vddRCurrMax = csdField (d.get 0) 0x07000000#32 24
  vddWCurrMin : csd.vddWCurrMin = csdField (d.get 0) 0x00E00000#32 21
  vddWCurrMax : csd.vddWCurrMax = csdField (d.get 0) 0x001C0000#32 18
  cSizeMult : csd.cSizeMult = csdField (d.get 0) 0x00038000#32 15

section Fields

variable {d : Vector (BitVec 32) 4} {csd : CsdType}

theorem HeadWords.commonFields_iff (h : HeadWords d csd) :
    CommonFields (csdRegister d) (readCsdData.tail d csd) ↔ bits (csdRegister d) 95 92 = 0 := by
  have hsplit : bits (csdRegister d) 95 84 =
      2 ^ 8 * bits (csdRegister d) 95 92 + bits (csdRegister d) 91 84 :=
    @bits_split _ (csdRegister d) 95 91 84 (by decide) (by decide)
  have hccc : csd.ccc.toNat = bits (csdRegister d) 91 84 := by rw [h.ccc, ccc_word]
  constructor
  · intro hfields
    -- Both values of `CCC` are known, and they differ by its high bits.
    have hwhole : csd.ccc.toNat = bits (csdRegister d) 95 84 := hfields.ccc
    omega
  · intro hzero
    -- The fields from the first two words are given, the others are set by the tail.
    exact
      { csdStructure := (congrArg BitVec.toNat h.csdStructure).trans
          (csdField_word d 0 (by decide) (by decide))
        taac := (congrArg BitVec.toNat h.taac).trans
          (csdField_word d 0 (by decide) (by decide))
        nsac := (congrArg BitVec.toNat h.nsac).trans
          (csdField_word d 0 (by decide) (by decide))
        tranSpeed := (congrArg BitVec.toNat h.tranSpeed).trans
          (csdField_word d 0 (by decide) (by decide))
        ccc := by
          change csd.ccc.toNat = _
          omega
        readBlLen := (congrArg BitVec.toNat h.readBlLen).trans
          (csdField_word d 1 (by decide) (by decide))
        readBlPartial := (congrArg BitVec.toNat h.readBlPartial).trans
          (csdField_word d 1 (by decide) (by decide))
        writeBlkMisalign := (congrArg BitVec.toNat h.writeBlkMisalign).trans
          (csdField_word d 1 (by decide) (by decide))
        readBlkMisalign := (congrArg BitVec.toNat h.readBlkMisalign).trans
          (csdField_word d 1 (by decide) (by decide))
        dsrImp := (congrArg BitVec.toNat h.dsrImp).trans
          (csdField_word d 1 (by decide) (by decide))
        eraseBlkEn := csdField_word d 2 (by decide) (by decide)
        sectorSize := csdField_word d 2 (by decide) (by decide)
        wpGrpSize := csdField_word d 2 (by decide) (by decide)
        wpGrpEnable := csdField_word d 3 (by decide) (by decide)
        r2wFactor := csdField_word d 3 (by decide) (by decide)
        writeBlLen := csdField_word d 3 (by decide) (by decide)
        writeBlPartial := csdField_word d 3 (by decide) (by decide)
        fileFormatGrp := csdField_word d 3 (by decide) (by decide)
        copy := csdField_word d 3 (by decide) (by decide)
        permWriteProtect := csdField_word d 3 (by decide) (by decide)
        tmpWriteProtect := csdField_word d 3 (by decide) (by decide)
        fileFormat := csdField_word d 3 (by decide) (by decide)
        crc := csdField_word d 3 (by decide) (by decide) }

/-- The five fields are three bits each, one behind the other, in both words. -/
theorem Version1Words.version1Fields_iff (h : Version1Words d csd) :
    Version1Fields (csdRegister d) (readCsdData.tail d csd) ↔
      bits (csdRegister d) 125 111 = bits (csdRegister d) 61 47 := by
  have hrMin : csd.vddRCurrMin.toNat = bits (csdRegister d) 125 123 :=
    (congrArg BitVec.toNat h.vddRCurrMin).trans (csdField_word d 0 (by decide) (by decide))
  have hrMax : csd.vddRCurrMax.toNat = bits (csdRegister d) 122 120 :=
    (congrArg BitVec.toNat h.vddRCurrMax).trans (csdField_word d 0 (by decide) (by decide))
  have hwMin : csd.vddWCurrMin.toNat = bits (csdRegister d) 119 117 :=
    (congrArg BitVec.toNat h.vddWCurrMin).trans (csdField_word d 0 (by decide) (by decide))
  have hwMax : csd.vddWCurrMax.toNat = bits (csdRegister d) 116 114 :=
    (congrArg BitVec.toNat h.vddWCurrMax).trans (csdField_word d 0 (by decide) (by decide))
  have hmult : csd.cSizeMult.toNat = bits (csdRegister d) 113 111 :=
    (congrArg BitVec.toNat h.cSizeMult).trans (csdField_word d 0 (by decide) (by decide))
  -- The bits of the first word are now the fields themselves.
  rw [misread_iff, ← hrMin, ← hrMax, ← hwMin, ← hwMax, ← hmult]
  constructor
  · intro hfields
    exact ⟨⟨⟨⟨hfields.vddRCurrMin, hfields.vddRCurrMax⟩, hfields.vddWCurrMin⟩,
      hfields.vddWCurrMax⟩, hfields.cSizeMult⟩
  · rintro ⟨⟨⟨⟨hrMin', hrMax'⟩, hwMin'⟩, hwMax'⟩, hmult'⟩
    have hcSize : csd.cSize.toNat = bits (csdRegister d) 73 62 := by
      rw [h.cSize, cSizeV1_words, BitVec.toNat_setWidth_of_le (by decide), bits_eq_extract,
        CsdSpec.cSizeV1]
    exact ⟨hcSize, hrMin', hrMax', hwMin', hwMax', hmult'⟩

end Fields

/-! ## `read_csd_data` -/

/-- `read_csd_data` decodes exactly the registers without class bits above bit 91 that, in version
1, have the same bits in 125 to 111 as in 61 to 47. -/
theorem csd_decoded_iff (d : Vector (BitVec 32) 4) (csd : CsdType) :
    CsdDecoded (csdRegister d) (readCsdData d csd) ↔ CsdReadable (csdRegister d) := by
  have hword : (csdField (d.get 0) 0xc0000000#32 30).toNat = bits (csdRegister d) 127 126 :=
    csdField_word d 0 (by decide) (by decide)
  unfold CsdDecoded CsdReadable readCsdData
  dsimp only
  by_cases hzero : bits (csdRegister d) 127 126 = 0
  · have hversion : csdField (d.get 0) 0xc0000000#32 30 = 0 :=
      BitVec.eq_of_toNat_eq (hword.trans hzero)
    have hsmall : ¬2 ≤ 0 := by decide
    -- Version 1: the head is right without high class bits, the rest if the misread bits are.
    simp only [if_pos hversion, hzero, if_true, hsmall, false_or, true_and, forall_const]
    refine and_congr ?_ ?_
    · exact HeadWords.commonFields_iff ⟨rfl, rfl, rfl, rfl, rfl, rfl, rfl, rfl, rfl, rfl⟩
    · exact Version1Words.version1Fields_iff ⟨rfl, rfl, rfl, rfl, rfl, rfl⟩
  · have hversion : ¬csdField (d.get 0) 0xc0000000#32 30 = 0 := by
      intro h
      exact hzero (hword.symm.trans (congrArg BitVec.toNat h))
    simp only [if_neg hzero, if_neg hversion]
    by_cases hone : bits (csdRegister d) 127 126 = 1
    · have hversion' : csdField (d.get 0) 0xc0000000#32 30 = 1 :=
        BitVec.eq_of_toNat_eq (hword.trans hone)
      -- Version 2 has no field but `C_SIZE` of its own, and it is read from the right word.
      have hsmall : ¬2 ≤ bits (csdRegister d) 127 126 := by omega
      have hcSize : ((d.get 1 &&& 0x3F#32) <<< 16 ||| (d.get 2 &&& 0xFFFF0000#32) >>> 16).toNat =
          bits (csdRegister d) 69 48 := by
        rw [cSizeV2_words, BitVec.toNat_setWidth_of_le (by decide), bits_eq_extract,
          CsdSpec.cSizeV2]
      simp only [if_pos hone, if_pos hversion', hsmall, false_or, hzero, false_imp_iff, and_true,
        true_and]
      refine (and_iff_left ⟨hcSize⟩).trans ?_
      exact HeadWords.commonFields_iff ⟨rfl, rfl, rfl, rfl, rfl, rfl, rfl, rfl, rfl, rfl⟩
    · have hversion' : ¬csdField (d.get 0) 0xc0000000#32 30 = 1 := by
        intro h
        exact hone (hword.symm.trans (congrArg BitVec.toNat h))
      have hlarge : 2 ≤ bits (csdRegister d) 127 126 := by omega
      simp only [if_neg hone, if_neg hversion', hlarge, true_or]

/-- A structure of version 1 or 2 as the driver reads it. -/
theorem csdStructure_known {d : Vector (BitVec 32) 4}
    (hstructure : bits (csdRegister d) 127 126 ≤ 1) :
    csdField (d.get 0) 0xc0000000#32 30 = 0 ∨ csdField (d.get 0) 0xc0000000#32 30 = 1 := by
  have hword : (csdField (d.get 0) 0xc0000000#32 30).toNat = bits (csdRegister d) 127 126 :=
    csdField_word d 0 (by decide) (by decide)
  rcases Nat.le_one_iff_eq_zero_or_eq_one.1 (hword.trans_le hstructure) with h | h
  · exact Or.inl (BitVec.eq_of_toNat_eq h)
  · exact Or.inr (BitVec.eq_of_toNat_eq h)

/-- Such a register is read, with its structure and the fields an erase depends on. -/
theorem readCsdData_known {d : Vector (BitVec 32) 4} (csd : CsdType)
    (hstructure : bits (csdRegister d) 127 126 ≤ 1) :
    (readCsdData d csd).1 = 0 ∧
      (readCsdData d csd).2.csdStructure = csdField (d.get 0) 0xc0000000#32 30 ∧
      (readCsdData d csd).2.eraseBlkEn = csdField (d.get 2) 0x4000#32 14 ∧
      (readCsdData d csd).2.wpGrpSize = csdField (d.get 2) 0x007f#32 0 := by
  unfold readCsdData
  dsimp only
  rcases csdStructure_known hstructure with hzero | hone
  · rw [if_pos hzero]
    exact ⟨rfl, rfl, rfl, rfl⟩
  · have hzero : ¬csdField (d.get 0) 0xc0000000#32 30 = 0 := by
      rw [hone]
      decide
    rw [if_neg hzero, if_pos hone]
    exact ⟨rfl, rfl, rfl, rfl⟩

/-- A version 1 card of class `0x5B5`, `C_SIZE_MULT` 7. -/
def csdOfClass5B5 : Vector (BitVec 32) 4 :=
  #v[0x00260032#32, 0x5B5A83FF#32, 0xDFFFFF80#32, 0x16800000#32]

/-- Its classes come out as `0xB5` and its `C_SIZE_MULT` as 4. -/
theorem csd_misread :
    ¬CsdDecoded (csdRegister csdOfClass5B5) (readCsdData csdOfClass5B5 CsdType.zero) := by
  rw [CsdDecoded, if_pos (by decide)]
  rintro ⟨_, hcommon, _⟩
  exact absurd hcommon.ccc (by decide)

end Driver
end SdioFat32
