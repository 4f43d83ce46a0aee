import Mathlib.Data.Nat.Basic

/-!
# PackedBits — a set of flags packed eight to a byte

Flag `i` of a bitmap is bit `i % 8` of byte `i / 8`.  The operations are the byte operations a
program performs; the lemmas describe them flag by flag, so that nothing above this file has to
mention bytes.
-/

namespace Cells

abbrev Bitmap (n : Nat) : Type := Vector (BitVec 8) n

namespace Bitmap

variable {n : Nat}

def byte (b : Bitmap n) (k : Nat) : BitVec 8 :=
  b[k]?.getD 0

def mask (i : Nat) : BitVec 8 :=
  1#8 <<< (i % 8)

def test (b : Bitmap n) (i : Nat) : Bool :=
  b.byte (i / 8) &&& mask i != 0

def mark (b : Bitmap n) (i : Nat) : Bitmap n :=
  b.setIfInBounds (i / 8) (b.byte (i / 8) ||| mask i)

def clear (b : Bitmap n) (i : Nat) : Bitmap n :=
  b.setIfInBounds (i / 8) (b.byte (i / 8) &&& ~~~mask i)

/-- Mark the `len` flags from `first` on, in increasing order. -/
def markFrom (b : Bitmap n) (first : Nat) : Nat → Bitmap n
  | 0 => b
  | len + 1 => (b.mark first).markFrom (first + 1) len

/-! ## Flag by flag -/

theorem test_eq_getLsbD (b : Bitmap n) (i : Nat) :
    b.test i = (b.byte (i / 8)).getLsbD (i % 8) := by
  -- Masking with one bit leaves that bit or nothing.
  have hmask : mask i = BitVec.twoPow 8 (i % 8) := rfl
  have hlt : i % 8 < 8 := Nat.mod_lt _ (by decide)
  have hne : BitVec.twoPow 8 (i % 8) ≠ 0#8 := by
    intro h
    have hbit := congrArg (fun x => x.getLsbD (i % 8)) h
    simp [hlt] at hbit
  unfold test
  rw [hmask, BitVec.and_twoPow]
  by_cases hbit : (b.byte (i / 8)).getLsbD (i % 8) = true
  · simp [hbit, hne]
  · simp [hbit]

theorem byte_set (b : Bitmap n) {k : Nat} (hk : k < n) (v : BitVec 8) (j : Nat) :
    Bitmap.byte (b.setIfInBounds k v) j = if j = k then v else b.byte j := by
  unfold byte
  rw [Vector.getElem?_setIfInBounds]
  by_cases hj : j = k
  · simp [hj, hk]
  · simp [hj, Ne.symm hj]

private theorem same_flag {i j : Nat} (hbyte : j / 8 = i / 8) (hbit : j % 8 = i % 8) :
    j = i := by
  omega

theorem getLsbD_mask {i k : Nat} (hk : k < 8) : (mask i).getLsbD k = decide (k = i % 8) := by
  have hmask : mask i = BitVec.twoPow 8 (i % 8) := rfl
  rw [hmask, BitVec.getLsbD_twoPow]
  by_cases h : i % 8 = k
  · simp [h, hk]
  · simp [h, Ne.symm h]

theorem test_mark {b : Bitmap n} {i : Nat} (hi : i < 8 * n) (j : Nat) :
    (b.mark i).test j = (decide (j = i) || b.test j) := by
  have hk : i / 8 < n := by omega
  have hlt : j % 8 < 8 := Nat.mod_lt _ (by decide)
  rw [test_eq_getLsbD, test_eq_getLsbD, mark, byte_set b hk]
  -- Flags of another byte are untouched; in the same byte only the bit of `i` changes.
  by_cases hbyte : j / 8 = i / 8
  · rw [if_pos hbyte, BitVec.getLsbD_or, getLsbD_mask hlt, hbyte]
    by_cases hbit : j % 8 = i % 8
    · simp [same_flag hbyte hbit]
    · have hne : j ≠ i := fun h => hbit (by rw [h])
      simp [hbit, hne]
  · have hne : j ≠ i := fun h => hbyte (by rw [h])
    simp [hbyte, hne]

theorem test_clear {b : Bitmap n} {i : Nat} (hi : i < 8 * n) (j : Nat) :
    (b.clear i).test j = (!decide (j = i) && b.test j) := by
  have hk : i / 8 < n := by omega
  have hlt : j % 8 < 8 := Nat.mod_lt _ (by decide)
  rw [test_eq_getLsbD, test_eq_getLsbD, clear, byte_set b hk]
  by_cases hbyte : j / 8 = i / 8
  · rw [if_pos hbyte, BitVec.getLsbD_and, BitVec.getLsbD_not, getLsbD_mask hlt, hbyte]
    by_cases hbit : j % 8 = i % 8
    · simp [same_flag hbyte hbit]
    · have hne : j ≠ i := fun h => hbit (by rw [h])
      simp [hbit, hne, hlt]
  · have hne : j ≠ i := fun h => hbyte (by rw [h])
    simp [hbyte, hne]

theorem test_markFrom {b : Bitmap n} {first len : Nat} (h : first + len ≤ 8 * n) (j : Nat) :
    (b.markFrom first len).test j = (decide (first ≤ j ∧ j < first + len) || b.test j) := by
  induction len generalizing b first with
  | zero =>
      have hempty : ¬(first ≤ j ∧ j < first + 0) := by omega
      simp only [markFrom, hempty, decide_false, Bool.false_or]
  | succ len ih =>
      -- The rest of the region is marked from `first + 1` on, the first flag before it.
      rw [markFrom, ih (by omega), test_mark (by omega), ← Bool.or_assoc, ← Bool.decide_or]
      congr 2
      apply propext
      omega

/-- A bitmap is its flags. -/
theorem ext_test {b b' : Bitmap n} (h : ∀ i, i < 8 * n → b.test i = b'.test i) : b = b' := by
  apply Vector.ext
  intro k hk
  have hbyte : ∀ v : Bitmap n, v.byte k = v[k] := fun v => by simp [byte, hk]
  apply BitVec.eq_of_getLsbD_eq
  intro j hj
  have hflag := h (8 * k + j) (by omega)
  have hdiv : (8 * k + j) / 8 = k := by omega
  have hmod : (8 * k + j) % 8 = j := by omega
  rw [test_eq_getLsbD, test_eq_getLsbD, hdiv, hmod, hbyte, hbyte] at hflag
  exact hflag

@[simp] theorem test_replicate_zero (i : Nat) :
    Bitmap.test (Vector.replicate n 0#8) i = false := by
  rw [test_eq_getLsbD]
  unfold byte
  rw [Vector.getElem?_replicate]
  split <;> simp

end Bitmap

end Cells
