import SdioFat32.Driver.Csd
import Mathlib.Data.Nat.Prime.Basic
import Mathlib.Tactic.IntervalCases

/-!
# Capacity — what `load_csd_sd` reports about the card

The capacity and the class of a card are functions of its 128-bit register, computed here over the
naturals.  The driver computes them in 32 bits and takes `C_SIZE_MULT` from the wrong word, so it
reports them correctly exactly for cards below 4 GiB whose register has the right bits in the
place it looks at.
-/

namespace SdioFat32
namespace Driver

open Effects Proc

/-- The register as one bit vector: the first word is the most significant one. -/
def csdRegister (d : Vector (BitVec 32) 4) : BitVec 128 :=
  d.get 0 ++ d.get 1 ++ d.get 2 ++ d.get 3

/-! ## The specification -/

namespace CsdSpec

def structureBits (r : BitVec 128) : BitVec 2 := r.extractLsb' 126 2
def readBlLen (r : BitVec 128) : BitVec 4 := r.extractLsb' 80 4
def cSizeV1 (r : BitVec 128) : BitVec 12 := r.extractLsb' 62 12
def cSizeMult (r : BitVec 128) : BitVec 3 := r.extractLsb' 47 3
def cSizeV2 (r : BitVec 128) : BitVec 22 := r.extractLsb' 48 22

/-- The capacity in bytes. -/
def capacity (r : BitVec 128) : Nat :=
  if structureBits r = 0 then
    ((cSizeV1 r).toNat + 1) * 2 ^ ((cSizeMult r).toNat + 2) * 2 ^ (readBlLen r).toNat
  else ((cSizeV2 r).toNat + 1) * 512 * 1024

def cardClass (r : BitVec 128) : CardVersion :=
  if structureBits r = 0 then .sdsc
  else if capacity r ≤ 32 * 2 ^ 30 then .sdhc
  else .sdxc

/-- The three bits the driver takes for `C_SIZE_MULT`: the end of `TAAC`, the start of `NSAC`. -/
def misreadMult (r : BitVec 128) : BitVec 3 := r.extractLsb' 111 3

end CsdSpec

/-! ## Fields of the words are fields of the register -/

theorem csdField_eq {word mask : BitVec 32} {shift len : Nat}
    (hmask : mask = (BitVec.allOnes len).setWidth 32 <<< shift) :
    csdField word mask shift = (word.extractLsb' shift len).setWidth 8 := by
  subst hmask
  unfold csdField
  apply BitVec.eq_of_getLsbD_eq
  intro i hi
  simp only [BitVec.getLsbD_setWidth, BitVec.getLsbD_ushiftRight, BitVec.getLsbD_and,
    BitVec.getLsbD_shiftLeft, BitVec.getLsbD_extractLsb', BitVec.getLsbD_allOnes]
  -- Past the field the mask is 0, past the word the word is.
  by_cases hin : i < len
  · by_cases hbit : shift + i < 32
    · simp [hi, hin, hbit, show i < 32 by omega]
    · simp [BitVec.getLsbD_of_ge word (shift + i) (by omega)]
  · simp [hin]

section Words

variable (d : Vector (BitVec 32) 4)

/-- Word `k` lies in the register with its last bit at `96 - 32 * k`. -/
theorem extract_word (k : Fin 4) {first start len : Nat} (hfirst : first + 32 * k = 96 + start)
    (h : start + len ≤ 32) :
    (csdRegister d).extractLsb' first len = (d.get k).extractLsb' start len := by
  have hbit : ∀ (a b c e : BitVec 32) (j : Nat), (a ++ b ++ c ++ e).getLsbD j =
      if j < 32 then e.getLsbD j else if j < 64 then c.getLsbD (j - 32)
      else if j < 96 then b.getLsbD (j - 64) else a.getLsbD (j - 96) := by
    intro a b c e j
    simp only [BitVec.getLsbD_append]
    grind
  apply BitVec.eq_of_getLsbD_eq
  intro i hi
  simp only [csdRegister, BitVec.getLsbD_extractLsb', hbit]
  match k with
  | 0 => grind
  | 1 => grind
  | 2 => grind
  | 3 => grind

/-- Version 1: ten bits of `C_SIZE` in the second word, two in the third. -/
theorem cSizeV1_words :
    (d.get 1 &&& 0x3FF#32) <<< 2 ||| (d.get 2 &&& 0xC0000000#32) >>> 30 =
      (CsdSpec.cSizeV1 (csdRegister d)).setWidth 32 := by
  apply BitVec.eq_of_getLsbD_eq
  intro i hi
  simp only [CsdSpec.cSizeV1, csdRegister, BitVec.getLsbD_or, BitVec.getLsbD_shiftLeft,
    BitVec.getLsbD_and, BitVec.getLsbD_ushiftRight, BitVec.getLsbD_setWidth,
    BitVec.getLsbD_extractLsb', BitVec.getLsbD_append]
  interval_cases i <;> simp

/-- Version 2: six bits of `C_SIZE` in the second word, sixteen in the third. -/
theorem cSizeV2_words :
    (d.get 1 &&& 0x3F#32) <<< 16 ||| (d.get 2 &&& 0xFFFF0000#32) >>> 16 =
      (CsdSpec.cSizeV2 (csdRegister d)).setWidth 32 := by
  apply BitVec.eq_of_getLsbD_eq
  intro i hi
  simp only [CsdSpec.cSizeV2, csdRegister, BitVec.getLsbD_or, BitVec.getLsbD_shiftLeft,
    BitVec.getLsbD_and, BitVec.getLsbD_ushiftRight, BitVec.getLsbD_setWidth,
    BitVec.getLsbD_extractLsb', BitVec.getLsbD_append]
  interval_cases i <;> simp

theorem csdStructure_word :
    csdField (d.get 0) 0xc0000000#32 30 = (CsdSpec.structureBits (csdRegister d)).setWidth 8 := by
  have hmask : (0xc0000000#32) = (BitVec.allOnes 2).setWidth 32 <<< 30 := by decide
  rw [csdField_eq hmask, CsdSpec.structureBits]
  exact congrArg _ (extract_word d 0 (by decide) (by decide)).symm

theorem readBlLen_word :
    csdField (d.get 1) 0xf0000#32 16 = (CsdSpec.readBlLen (csdRegister d)).setWidth 8 := by
  have hmask : (0xf0000#32) = (BitVec.allOnes 4).setWidth 32 <<< 16 := by decide
  rw [csdField_eq hmask, CsdSpec.readBlLen]
  exact congrArg _ (extract_word d 1 (by decide) (by decide)).symm

theorem misreadMult_word :
    csdField (d.get 0) 0x00038000#32 15 = (CsdSpec.misreadMult (csdRegister d)).setWidth 8 := by
  have hmask : (0x00038000#32) = (BitVec.allOnes 3).setWidth 32 <<< 15 := by decide
  rw [csdField_eq hmask, CsdSpec.misreadMult]
  exact congrArg _ (extract_word d 0 (by decide) (by decide)).symm

end Words

/-! ## `read_csd_data` on the register -/

section ReadCsd

variable (d : Vector (BitVec 32) 4) (csd : CsdType)

/-- What `load_csd_sd` uses of a version 1 register. -/
theorem readCsdData_v1 (h : CsdSpec.structureBits (csdRegister d) = 0) :
    ∃ csd', readCsdData d csd = (0, csd') ∧ csd'.csdStructure = 0 ∧
      csd'.cSize = (CsdSpec.cSizeV1 (csdRegister d)).setWidth 32 ∧
      csd'.cSizeMult = (CsdSpec.misreadMult (csdRegister d)).setWidth 8 ∧
      csd'.readBlLen = (CsdSpec.readBlLen (csdRegister d)).setWidth 8 := by
  have hstructure : csdField (d.get 0) 0xc0000000#32 30 = 0 := by
    rw [csdStructure_word, h]
    rfl
  unfold readCsdData
  simp only [hstructure]
  exact ⟨_, rfl, rfl, cSizeV1_words d, misreadMult_word d, readBlLen_word d⟩

/-- What `load_csd_sd` uses of a version 2 register. -/
theorem readCsdData_v2 (h : CsdSpec.structureBits (csdRegister d) = 1) :
    ∃ csd', readCsdData d csd = (0, csd') ∧ csd'.csdStructure = 1 ∧
      csd'.cSize = (CsdSpec.cSizeV2 (csdRegister d)).setWidth 32 := by
  have hstructure : csdField (d.get 0) 0xc0000000#32 30 = 1 := by
    rw [csdStructure_word, h]
    rfl
  have hne : (1 : BitVec 8) ≠ 0 := by decide
  unfold readCsdData
  simp only [hstructure, hne, if_false]
  exact ⟨_, rfl, rfl, cSizeV2_words d⟩

theorem readCsdData_other (h₀ : CsdSpec.structureBits (csdRegister d) ≠ 0)
    (h₁ : CsdSpec.structureBits (csdRegister d) ≠ 1) : (readCsdData d csd).1 = -2 := by
  have hne : ∀ b v : BitVec 2, b ≠ v → b.setWidth 8 ≠ v.setWidth 8 := by decide
  have hstructure := csdStructure_word d
  unfold readCsdData
  simp only
  rw [if_neg, if_neg]
  · rw [hstructure]
    exact hne _ _ h₁
  · rw [hstructure]
    exact hne _ _ h₀

end ReadCsd

/-! ## What the driver reports -/

/-- The capacity in 32-bit arithmetic, from the bits the driver looks at. -/
def reportedCapacity (r : BitVec 128) : Nat :=
  if CsdSpec.structureBits r = 0 then
    ((CsdSpec.cSizeV1 r).toNat + 1) * 2 ^ (CsdSpec.misreadMult r).toNat *
      2 ^ (CsdSpec.readBlLen r).toNat % 2 ^ 32
  else ((CsdSpec.cSizeV2 r).toNat + 1) * 512 * 1024 % 2 ^ 32

/-- Four gigabytes is the most a 32-bit capacity reaches, so no card is reported as `CARD_SDXC`. -/
def reportedClass (r : BitVec 128) : CardVersion :=
  if CsdSpec.structureBits r = 0 then .sdsc else .sdhc

theorem toNat_pow_field {n : Nat} (m : BitVec n) (hn : n ≤ 4) :
    (mathPow 2#32 ((m.setWidth 8).setWidth 32)).toNat = 2 ^ m.toNat := by
  have hm : m.toNat < 2 ^ n := m.isLt
  have hn' : 2 ^ n ≤ 2 ^ 4 := Nat.pow_le_pow_right (by decide) hn
  have hexp : (m.setWidth 8).toNat = m.toNat := BitVec.toNat_setWidth_of_le (by omega)
  have hpow : 2 ^ (m.setWidth 8).toNat < 2 ^ 32 :=
    Nat.pow_lt_pow_right (by decide) (by omega)
  rw [toNat_mathPow_two hpow, hexp]

theorem toNat_succ_field {n : Nat} (c : BitVec n) (hn : n ≤ 31) :
    (c.setWidth 32 + 1#32).toNat = c.toNat + 1 := by
  have hc : c.toNat < 2 ^ n := c.isLt
  have hn' : 2 ^ n ≤ 2 ^ 31 := Nat.pow_le_pow_right (by decide) hn
  rw [BitVec.toNat_add, BitVec.toNat_setWidth]
  simp only [BitVec.toNat_ofNat]
  omega

/-- Version 1: the product the driver stores. -/
theorem toNat_maxSize_v1 (c : BitVec 12) (m : BitVec 3) (b : BitVec 4) :
    (((c.setWidth 32 + 1#32) * mathPow 2#32 ((m.setWidth 8).setWidth 32)) *
      mathPow 2#32 ((b.setWidth 8).setWidth 32)).toNat =
      (c.toNat + 1) * 2 ^ m.toNat * 2 ^ b.toNat % 2 ^ 32 := by
  rw [BitVec.toNat_mul, BitVec.toNat_mul, toNat_succ_field c (by decide),
    toNat_pow_field m (by decide), toNat_pow_field b (by decide), Nat.mod_mul_mod]

/-- Version 2: the product the driver stores. -/
theorem toNat_maxSize_v2 (c : BitVec 22) :
    ((c.setWidth 32 + 1#32) * (512#32 * 1024#32)).toNat =
      (c.toNat + 1) * 512 * 1024 % 2 ^ 32 := by
  rw [BitVec.toNat_mul, toNat_succ_field c (by decide), Nat.mul_assoc]
  rfl

/-- A 32-bit capacity is below 4 GiB, so the driver never sees more than 32. -/
theorem capacityGb_le (n : BitVec 32) :
    ¬ 32#32 < (n.setWidth 64 / (1024#64 * 1024#64 * 1024#64)).setWidth 32 := by
  have hn : n.toNat < 2 ^ 32 := n.isLt
  have hgb : (1024#64 * 1024#64 * 1024#64).toNat = 2 ^ 30 := by decide
  intro h
  have hlt : (32#32).toNat <
      ((n.setWidth 64 / (1024#64 * 1024#64 * 1024#64)).setWidth 32).toNat := h
  rw [BitVec.toNat_setWidth, BitVec.toNat_udiv, hgb, BitVec.toNat_setWidth] at hlt
  simp only [BitVec.toNat_ofNat] at hlt
  omega

section Load

variable {σ : Type} {env : Env SdioEvent SdioEvent.Response σ} {g : SdGlobals} {s : σ}

/-- `load_csd_sd` succeeds only on the two known structures, and then reports from the register
it leaves in `csd_data`. -/
theorem wp_loadCsdSd (fuel : Nat) :
    (loadCsdSd fuel).wp env.lax (fun _ => True)
      (fun status g' _ => status = 0 →
        g'.sd.maxSize.toNat = reportedCapacity (csdRegister g'.csdData) ∧
          g'.sd.version = reportedClass (csdRegister g'.csdData)) g s := by
  unfold loadCsdSd
  refine Proc.wp_bind.2 (Proc.wp_globals.2 ?_)
  refine Proc.wp_seq Proc.wp_lax ?_
  intro _ g₁ s₁ _
  refine Proc.wp_seq Proc.wp_lax ?_
  intro status g₂ s₂ _
  split
  · intro h
    cases h
  · refine Proc.wp_bind.2 (Proc.wp_globals.2 ?_)
    -- By the structure of the register that CMD9 left in `csd_data`.
    by_cases h₀ : CsdSpec.structureBits (csdRegister g₂.csdData) = 0
    · obtain ⟨csd, hread, hstructure, hsize, hmult, hlen⟩ :=
        readCsdData_v1 g₂.csdData CsdType.zero h₀
      have hvalue := toNat_maxSize_v1 (CsdSpec.cSizeV1 (csdRegister g₂.csdData))
        (CsdSpec.misreadMult (csdRegister g₂.csdData))
        (CsdSpec.readBlLen (csdRegister g₂.csdData))
      simp only [hread, hstructure, hsize, hmult, hlen, ne_eq, not_true_eq_false, if_false, if_true,
        Proc.wp_bind, Proc.wp_pure, wp_assignSd]
      intro _
      simp only [reportedCapacity, reportedClass, h₀, if_true, and_true]
      rw [← hvalue]
      exact BitVec.toNat_setWidth_of_le (by decide)
    · by_cases h₁ : CsdSpec.structureBits (csdRegister g₂.csdData) = 1
      · obtain ⟨csd, hread, hstructure, hsize⟩ := readCsdData_v2 g₂.csdData CsdType.zero h₁
        have hne : (1 : BitVec 8) ≠ 0 := by decide
        have hvalue := toNat_maxSize_v2 (CsdSpec.cSizeV2 (csdRegister g₂.csdData))
        have hclass := capacityGb_le
          (((CsdSpec.cSizeV2 (csdRegister g₂.csdData)).setWidth 32 + 1#32) * (512#32 * 1024#32))
        simp only [hread, hstructure, hsize, hne, ne_eq, not_true_eq_false, if_false, if_true,
          Proc.wp_bind, Proc.wp_pure, Proc.wp_globals, wp_assignSd]
        intro _
        simp only [reportedCapacity, reportedClass, h₀, if_false, hclass, and_true]
        rw [← hvalue]
        exact BitVec.toNat_setWidth_of_le (by decide)
      · rcases hread : readCsdData g₂.csdData CsdType.zero with ⟨status, csd⟩
        have hstatus : status = -2 := by
          have hother := readCsdData_other g₂.csdData CsdType.zero h₀ h₁
          rwa [hread] at hother
        subst hstatus
        intro h
        cases h

end Load

/-! ## When the report is right -/

/-- A product that loses no bits modulo `2 ^ 32` fixes the exponent. -/
theorem mul_two_pow_mod_eq_iff {x a b : Nat} (hx : 0 < x) :
    x * 2 ^ a % 2 ^ 32 = x * 2 ^ b ↔ x * 2 ^ b < 2 ^ 32 ∧ a = b := by
  constructor
  · intro h
    have hb : x * 2 ^ b < 2 ^ 32 := by
      rw [← h]
      exact Nat.mod_lt _ (by decide)
    refine ⟨hb, ?_⟩
    rcases Nat.le_total a b with hle | hle
    · -- The left side is the smaller one, so it loses no bits either.
      have hpow : 2 ^ a ≤ 2 ^ b := Nat.pow_le_pow_right (by decide) hle
      have ha : x * 2 ^ a < 2 ^ 32 := Nat.lt_of_le_of_lt (Nat.mul_le_mul_left x hpow) hb
      rw [Nat.mod_eq_of_lt ha] at h
      exact Nat.pow_right_injective (Nat.le_refl 2) (Nat.eq_of_mul_eq_mul_left hx h)
    · -- The rest `2 ^ (a - b) - 1` is odd unless the exponents agree, so `2 ^ 32` divides the rest.
      obtain ⟨k, rfl⟩ := Nat.exists_eq_add_of_le hle
      have hmod : x * 2 ^ b * 1 ≡ x * 2 ^ b * 2 ^ k [MOD 2 ^ 32] := by
        have hself : x * 2 ^ b % 2 ^ 32 = x * 2 ^ b := Nat.mod_eq_of_lt hb
        rw [Nat.ModEq, Nat.mul_one, Nat.mul_assoc, ← pow_add, h, hself]
      by_contra hk
      have hk0 : k ≠ 0 := fun hk0 => hk (by rw [hk0]; rfl)
      have hdvd : 2 ^ 32 ∣ x * 2 ^ b * (2 ^ k - 1) := by
        have hle : x * 2 ^ b * 1 ≤ x * 2 ^ b * 2 ^ k :=
          Nat.mul_le_mul_left _ (Nat.one_le_two_pow)
        have hsub := (Nat.modEq_iff_dvd' hle).1 hmod
        rwa [← Nat.mul_sub] at hsub
      have hcop : Nat.Coprime (2 ^ 32) (2 ^ k - 1) := by
        refine Nat.Coprime.pow_left 32 ?_
        rw [Nat.coprime_two_left]
        exact Nat.Even.sub_odd Nat.one_le_two_pow (Nat.even_pow.2 ⟨even_two, hk0⟩) odd_one
      have hle' := Nat.le_of_dvd (Nat.mul_pos hx (by positivity)) (hcop.dvd_of_dvd_mul_right hdvd)
      exact absurd hb (Nat.not_lt.2 hle')
  · rintro ⟨hb, rfl⟩
    exact Nat.mod_eq_of_lt hb

/-- The driver reports the capacity of exactly the cards below 4 GiB that, if of version 1, have
`C_SIZE_MULT + 2` in the bits it reads. -/
theorem reportedCapacity_eq_iff (r : BitVec 128) :
    reportedCapacity r = CsdSpec.capacity r ↔
      CsdSpec.capacity r < 2 ^ 32 ∧ (CsdSpec.structureBits r = 0 →
        (CsdSpec.misreadMult r).toNat = (CsdSpec.cSizeMult r).toNat + 2) := by
  unfold reportedCapacity CsdSpec.capacity
  by_cases h₀ : CsdSpec.structureBits r = 0
  · have hx : 0 < ((CsdSpec.cSizeV1 r).toNat + 1) * 2 ^ (CsdSpec.readBlLen r).toNat := by
      positivity
    have hiff := mul_two_pow_mod_eq_iff (a := (CsdSpec.misreadMult r).toNat)
      (b := (CsdSpec.cSizeMult r).toNat + 2) hx
    simpa [h₀, Nat.mul_right_comm _ (2 ^ (CsdSpec.readBlLen r).toNat)] using hiff
  · simp only [h₀, if_false, false_implies, and_true]
    omega

theorem reportedClass_eq {r : BitVec 128} (hcap : CsdSpec.capacity r < 2 ^ 32) :
    reportedClass r = CsdSpec.cardClass r := by
  unfold reportedClass CsdSpec.cardClass
  split
  · rfl
  · rw [if_pos (by omega)]

/-- After `load_csd_sd` succeeds, `SD.max_size` and `SD.version` are the capacity and the class of
the register exactly when the capacity is below 4 GiB and, for version 1, the bits 113 to 111 of
the register happen to hold `C_SIZE_MULT + 2`. -/
theorem capacity_reported_iff {σ : Type} {env : Env SdioEvent SdioEvent.Response σ} {fuel : Nat}
    {g g' : SdGlobals} {s s' : σ} (hrun : Runs env (loadCsdSd fuel g) s (0, g') s') :
    (g'.sd.maxSize.toNat = CsdSpec.capacity (csdRegister g'.csdData) ∧
        g'.sd.version = CsdSpec.cardClass (csdRegister g'.csdData)) ↔
      CsdSpec.capacity (csdRegister g'.csdData) < 2 ^ 32 ∧
        (CsdSpec.structureBits (csdRegister g'.csdData) = 0 →
          (CsdSpec.misreadMult (csdRegister g'.csdData)).toNat =
            (CsdSpec.cSizeMult (csdRegister g'.csdData)).toNat + 2) := by
  rcases Proc.wp_runs (wp_loadCsdSd fuel) hrun.lax rfl with ⟨hsize, hversion⟩
  rw [hsize, hversion, ← reportedCapacity_eq_iff]
  constructor
  · rintro ⟨hcap, _⟩
    exact hcap
  · intro hcap
    exact ⟨hcap, reportedClass_eq ((reportedCapacity_eq_iff _).1 hcap).1⟩

/-! ## Two cards -/

/-- A card that answers every command at once and R2 with the given words. -/
def answeringR2 (words : Vector (BitVec 32) 4) (_ : Unit) : (e : SdioEvent) → e.Response × Unit
  | .sta _ => (sdioStaCmdrend, ())
  | .read (.resp i) => (words.get i, ())
  | .read _ => (0#32, ())
  | .write _ _ => ((), ())
  | .load _ => (0#32, ())
  | .store _ _ => ((), ())
  | .memcpy _ _ _ => ((), ())
  | .delayTimer _ => ((), ())
  | .indeterminate => (0#32, ())
  | .setGpioConf _ _ => ((), ())
  | .enableAndResetRcc _ _ => ((), ())
  | .getPll48clkFreq => (48000000#32, ())

/-- An SDHC card with `C_SIZE` 15359, which is 7.5 GiB. -/
def csdOf7680MB : Vector (BitVec 32) 4 :=
  #v[0x400E0032#32, 0x5B590000#32, 0x3BFF7F80#32, 0x0A400000#32]

/-- An SDHC card with `C_SIZE` 3839, which is below 2 GiB. -/
def csdOf1920MB : Vector (BitVec 32) 4 :=
  #v[0x400E0032#32, 0x5B590000#32, 0x0EFF7F80#32, 0x0A400000#32]

/-- The 7.5 GiB card is reported with 3.5 GiB. -/
theorem capacity_wraps_on_7680MB :
    ∃ g', Runs (Env.following (answeringR2 csdOf7680MB)) (loadCsdSd 1 blankGlobals) () (0, g') () ∧
      g'.sd.maxSize.toNat = 3584 * 2 ^ 20 ∧
      CsdSpec.capacity (csdRegister g'.csdData) = 7680 * 2 ^ 20 := by
  refine ⟨_, Env.following_runs rfl, ?_, ?_⟩ <;> decide

/-- The small card is reported as it is. -/
theorem capacity_reported_iff_1920MB :
    ∃ g', Runs (Env.following (answeringR2 csdOf1920MB)) (loadCsdSd 1 blankGlobals) () (0, g') () ∧
      ((g'.sd.maxSize.toNat = CsdSpec.capacity (csdRegister g'.csdData) ∧
          g'.sd.version = CsdSpec.cardClass (csdRegister g'.csdData)) ↔
        CsdSpec.capacity (csdRegister g'.csdData) < 2 ^ 32 ∧
          (CsdSpec.structureBits (csdRegister g'.csdData) = 0 →
            (CsdSpec.misreadMult (csdRegister g'.csdData)).toNat =
              (CsdSpec.cSizeMult (csdRegister g'.csdData)).toNat + 2)) := by
  have hrun : Runs (Env.following (answeringR2 csdOf1920MB)) (loadCsdSd 1 blankGlobals) ()
      (0, _) () := Env.following_runs rfl
  exact ⟨_, hrun, capacity_reported_iff hrun⟩

end Driver
end SdioFat32
