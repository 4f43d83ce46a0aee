import Mathlib.Data.BitVec

/-!
# BitField — the fields of a register

A field is `len` bits from bit `start` on.  `field` is how a program reads one, with a mask and a
shift; the lemmas say what the writes a program makes, `|= x << k` and `&= ~mask`, do to it.
-/

namespace Cells

variable {w : Nat}

/-- Ones in the `len` bits from `start` on. -/
def fieldMask (w start len : Nat) : BitVec w := (BitVec.allOnes len).setWidth w <<< start

/-- `(v & mask) >> start` -/
def field (v : BitVec w) (start len : Nat) : BitVec w := (v &&& fieldMask w start len) >>> start

variable {v x y mask : BitVec w} {start len k m : Nat}

theorem getLsbD_fieldMask (w start len i : Nat) :
    (fieldMask w start len).getLsbD i = decide (i < w ∧ start ≤ i ∧ i < start + len) := by
  unfold fieldMask
  simp only [BitVec.getLsbD_shiftLeft, BitVec.getLsbD_setWidth, BitVec.getLsbD_allOnes]
  rw [Bool.eq_iff_iff]
  simp only [Bool.and_eq_true, decide_eq_true_eq, Bool.not_eq_true', decide_eq_false_iff_not]
  omega

theorem getLsbD_field (v : BitVec w) (start len i : Nat) :
    (field v start len).getLsbD i = (decide (i < len) && v.getLsbD (start + i)) := by
  unfold field
  rw [BitVec.getLsbD_ushiftRight, BitVec.getLsbD_and, getLsbD_fieldMask]
  by_cases hw : start + i < w
  · rw [Bool.and_comm]
    congr 1
    rw [Bool.eq_iff_iff]
    simp only [decide_eq_true_eq]
    omega
  · rw [BitVec.getLsbD_of_ge _ _ (by omega)]
    simp

/-- A value has no bits above its width. -/
theorem getLsbD_of_toNat_lt {i : Nat} (hx : x.toNat < 2 ^ m) (hi : m ≤ i) :
    x.getLsbD i = false := by
  rw [BitVec.getLsbD]
  exact Nat.testBit_lt_two_pow (Nat.lt_of_lt_of_le hx (Nat.pow_le_pow_right (by decide) hi))

/-! ## What a write does to a field -/

@[simp] theorem field_or (x y : BitVec w) (start len : Nat) :
    field (x ||| y) start len = field x start len ||| field y start len := by
  apply BitVec.eq_of_getLsbD_eq
  intro i _
  simp only [getLsbD_field, BitVec.getLsbD_or, Bool.and_or_distrib_left]

/-- The value written at the field. -/
theorem field_shiftLeft_self (hx : x.toNat < 2 ^ len) (hfits : start + len ≤ w) :
    field (x <<< start) start len = x := by
  apply BitVec.eq_of_getLsbD_eq
  intro i hi
  rw [getLsbD_field, BitVec.getLsbD_shiftLeft]
  by_cases hlen : i < len
  · have hin : start + i < w := by omega
    simp [hlen, hin]
  · simp [hlen, getLsbD_of_toNat_lt hx (Nat.not_lt.1 hlen)]

/-- A value written above the field. -/
theorem field_shiftLeft_above (hk : start + len ≤ k) : field (x <<< k) start len = 0#w := by
  apply BitVec.eq_of_getLsbD_eq
  intro i _
  rw [getLsbD_field, BitVec.getLsbD_shiftLeft]
  by_cases hlen : i < len
  · have hlow : start + i < k := by omega
    simp [hlow]
  · simp [hlen]

/-- A value of `m` bits written below the field. -/
theorem field_shiftLeft_below (hx : x.toNat < 2 ^ m) (hk : k + m ≤ start) :
    field (x <<< k) start len = 0#w := by
  apply BitVec.eq_of_getLsbD_eq
  intro i _
  have hhigh : x.getLsbD (start + i - k) = false := getLsbD_of_toNat_lt hx (by omega)
  rw [getLsbD_field, BitVec.getLsbD_shiftLeft, hhigh]
  simp

/-- A field that the cleared bits cover. -/
theorem field_clear (hmask : fieldMask w start len &&& mask = fieldMask w start len) :
    field (v &&& ~~~mask) start len = 0#w := by
  unfold field
  have hzero : v &&& ~~~mask &&& fieldMask w start len = 0#w := by
    calc
      v &&& ~~~mask &&& fieldMask w start len
          = v &&& ~~~mask &&& (fieldMask w start len &&& mask) := by rw [hmask]
      _ = v &&& fieldMask w start len &&& (mask &&& ~~~mask) := by ac_rfl
      _ = 0#w := by
            rw [BitVec.and_not_self]
            exact BitVec.and_zero
  rw [hzero, BitVec.zero_ushiftRight]

/-- A field that the cleared bits do not meet. -/
theorem field_clear_apart (hmask : fieldMask w start len &&& mask = 0#w) :
    field (v &&& ~~~mask) start len = field v start len := by
  unfold field
  congr 1
  apply BitVec.eq_of_getLsbD_eq
  intro i hi
  have hbit := congrArg (fun m => m.getLsbD i) hmask
  simp only [BitVec.getLsbD_and, BitVec.getLsbD_zero] at hbit
  simp only [BitVec.getLsbD_and, BitVec.getLsbD_not, hi, decide_true, Bool.true_and]
  grind

/-- A comparison of a field in place. -/
theorem and_fieldMask_eq_iff (hx : x.toNat < 2 ^ len) (hfits : start + len ≤ w) :
    v &&& fieldMask w start len = x <<< start ↔ field v start len = x := by
  have hself : (x <<< start) &&& fieldMask w start len = x <<< start := by
    apply BitVec.eq_of_getLsbD_eq
    intro i hi
    rw [BitVec.getLsbD_and, getLsbD_fieldMask, BitVec.getLsbD_shiftLeft]
    by_cases hin : start ≤ i ∧ i < start + len
    · simp [hin, hi]
    · by_cases hlow : i < start
      · simp [hlow]
      · have hhigh : x.getLsbD (i - start) = false := getLsbD_of_toNat_lt hx (by omega)
        simp [hhigh]
  constructor
  · intro h
    rw [field, h]
    calc
      (x <<< start) >>> start = field (x <<< start) start len := by rw [field, hself]
      _ = x := field_shiftLeft_self hx hfits
  · -- Below the field both sides are zero; in the field the bits are those of `x`.
    intro h
    apply BitVec.eq_of_getLsbD_eq
    intro i hi
    rw [BitVec.getLsbD_and, getLsbD_fieldMask, BitVec.getLsbD_shiftLeft, ← h, getLsbD_field]
    by_cases hlow : i < start
    · simp [hlow]
    · have hback : start + (i - start) = i := by omega
      have hrange : (start ≤ i ∧ i < start + len) ↔ i - start < len := by omega
      rw [hback, Bool.and_comm]
      simp only [hi, hlow, true_and, hrange, decide_true, decide_false, Bool.not_false,
        Bool.true_and]

theorem field_lt (v : BitVec w) (start len : Nat) : (field v start len).toNat < 2 ^ len := by
  refine Nat.lt_pow_two_of_testBit _ fun i hi => ?_
  have hbit := getLsbD_field v start len i
  rw [BitVec.getLsbD] at hbit
  rw [hbit]
  simp [Nat.not_lt.2 hi]

/-- A field as it is read by a shift and a narrowing. -/
theorem field_eq_setWidth (v : BitVec w) (start len : Nat) :
    field v start len = ((v >>> start).setWidth len).setWidth w := by
  apply BitVec.eq_of_getLsbD_eq
  intro i hi
  rw [getLsbD_field]
  simp [hi]

/-- A field and the one above it, read as one. -/
theorem field_append_eq_iff {n : Nat} (hx : x.toNat < 2 ^ m) :
    field v start (m + n) = x ↔ field v start m = x ∧ field v (start + m) n = 0#w := by
  have hhigh : ∀ i, m ≤ i → x.getLsbD i = false := fun i hi => getLsbD_of_toNat_lt hx hi
  constructor
  · -- The upper part holds the bits of `x` from `m` on.
    rintro rfl
    refine ⟨?_, ?_⟩
    · apply BitVec.eq_of_getLsbD_eq
      intro i _
      by_cases hi : i < m
      · simp [getLsbD_field, hi, Nat.lt_add_right n hi]
      · rw [hhigh i (Nat.not_lt.1 hi), getLsbD_field]
        simp [hi]
    · apply BitVec.eq_of_getLsbD_eq
      intro i _
      have hbit := hhigh (m + i) (Nat.le_add_right m i)
      rw [getLsbD_field, ← Nat.add_assoc] at hbit
      rw [getLsbD_field, BitVec.getLsbD_zero]
      by_cases hi : i < n
      · simpa [hi] using hbit
      · simp [hi]
  · rintro ⟨hlow, hzero⟩
    apply BitVec.eq_of_getLsbD_eq
    intro i _
    by_cases hi : i < m
    · rw [← hlow]
      simp [getLsbD_field, hi, Nat.lt_add_right n hi]
    · have hbit := congrArg (fun y => y.getLsbD (i - m)) hzero
      have hback : start + m + (i - m) = start + i := by omega
      have hrange : i - m < n ↔ i < m + n := by omega
      simp only [getLsbD_field, BitVec.getLsbD_zero, hback, hrange] at hbit
      rw [hhigh i (Nat.not_lt.1 hi), getLsbD_field]
      exact hbit

/-- The lowest bit of a field. -/
theorem field_one (hlen : 0 < len) (v : BitVec w) :
    (field v start 1).toNat = (field v start len).toNat % 2 := by
  have hlow : (field v start 1).getLsbD 0 = (field v start len).getLsbD 0 := by
    simp [getLsbD_field, hlen]
  have hlt := field_lt v start 1
  simp only [BitVec.getLsbD, Nat.testBit_zero] at hlow
  have hparity : (field v start 1).toNat % 2 = (field v start len).toNat % 2 := by
    have := Nat.mod_two_eq_zero_or_one (field v start 1).toNat
    have := Nat.mod_two_eq_zero_or_one (field v start len).toNat
    grind
  omega

/-! ## A field is replaced -/

/-- The field becomes `x`: it is cleared and then written. -/
def putField (v : BitVec w) (start len : Nat) (x : BitVec w) : BitVec w :=
  v &&& ~~~fieldMask w start len ||| x <<< start

theorem field_putField (hx : x.toNat < 2 ^ len) (hfits : start + len ≤ w) :
    field (putField v start len x) start len = x := by
  have hself : fieldMask w start len &&& fieldMask w start len = fieldMask w start len :=
    BitVec.and_self
  rw [putField, field_or, field_clear hself, field_shiftLeft_self hx hfits, BitVec.zero_or]

theorem fieldMask_apart (happart : start + len ≤ k ∨ k + m ≤ start) :
    fieldMask w start len &&& fieldMask w k m = 0#w := by
  apply BitVec.eq_of_getLsbD_eq
  intro i _
  rw [BitVec.getLsbD_and, getLsbD_fieldMask, getLsbD_fieldMask, BitVec.getLsbD_zero,
    ← Bool.decide_and, decide_eq_false_iff_not]
  omega

/-- The other fields stay. -/
theorem field_putField_apart (hx : x.toNat < 2 ^ m) (happart : start + len ≤ k ∨ k + m ≤ start) :
    field (putField v k m x) start len = field v start len := by
  have hwritten : field (x <<< k) start len = 0#w := by
    rcases happart with habove | hbelow
    · exact field_shiftLeft_above habove
    · exact field_shiftLeft_below hx hbelow
  rw [putField, field_or, field_clear_apart (fieldMask_apart happart), hwritten, BitVec.or_zero]

/-! ## Bits as a number -/

/-- The unsigned value of the bits from `hi` down to `lo`. -/
def bits (v : BitVec w) (hi lo : Nat) : Nat := v.toNat / 2 ^ lo % 2 ^ (hi + 1 - lo)

theorem bits_eq_extract (v : BitVec w) (hi lo : Nat) :
    bits v hi lo = (v.extractLsb' lo (hi + 1 - lo)).toNat := by
  rw [bits, BitVec.extractLsb'_toNat, Nat.shiftRight_eq_div_pow]

theorem bits_lt (v : BitVec w) (hi lo : Nat) : bits v hi lo < 2 ^ (hi + 1 - lo) :=
  Nat.mod_lt _ (Nat.two_pow_pos _)

/-- Two ranges of bits, one above the other. -/
theorem bits_split (v : BitVec w) {hi mid lo : Nat} (hlow : lo ≤ mid) (hhigh : mid ≤ hi) :
    bits v hi lo = 2 ^ (mid + 1 - lo) * bits v hi (mid + 1) + bits v mid lo := by
  have hstart : 2 ^ (mid + 1) = 2 ^ lo * 2 ^ (mid + 1 - lo) := by
    rw [← Nat.pow_add]
    congr 1
    omega
  have hwidth : 2 ^ (hi + 1 - lo) = 2 ^ (mid + 1 - lo) * 2 ^ (hi + 1 - (mid + 1)) := by
    rw [← Nat.pow_add]
    congr 1
    omega
  unfold bits
  rw [hwidth, hstart, Nat.mod_mul, ← Nat.div_div_eq_div_mul, Nat.add_comm]

/-- Two ranges of one width are equal when both their parts are. -/
theorem bits_eq_iff (v v' : BitVec w) {hi mid lo hi' mid' lo' : Nat} (hlow : lo ≤ mid)
    (hhigh : mid ≤ hi) (hlow' : lo' ≤ mid') (hhigh' : mid' ≤ hi') (hwidth : mid + lo' = mid' + lo) :
    bits v hi lo = bits v' hi' lo' ↔
      bits v hi (mid + 1) = bits v' hi' (mid' + 1) ∧ bits v mid lo = bits v' mid' lo' := by
  have hsame : mid' + 1 - lo' = mid + 1 - lo := by omega
  have hlt := bits_lt v mid lo
  have hlt' := bits_lt v' mid' lo'
  rw [bits_split v hlow hhigh, bits_split v' hlow' hhigh', hsame]
  rw [hsame] at hlt'
  constructor
  · intro h
    have hdiv := congrArg (fun x => x / 2 ^ (mid + 1 - lo)) h
    have hmod := congrArg (fun x => x % 2 ^ (mid + 1 - lo)) h
    simp only [Nat.mul_add_div (Nat.two_pow_pos _), Nat.div_eq_of_lt hlt, Nat.div_eq_of_lt hlt',
      Nat.add_zero] at hdiv
    simp only [Nat.mul_add_mod, Nat.mod_eq_of_lt hlt, Nat.mod_eq_of_lt hlt'] at hmod
    exact ⟨hdiv, hmod⟩
  · rintro ⟨hupper, hlower⟩
    rw [hupper, hlower]

end Cells
