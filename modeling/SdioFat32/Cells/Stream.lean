import Mathlib.Data.BitVec
import Mathlib.Data.List.Range

/-!
# Stream — a queue between a producer and a consumer

The producer puts the words of a stream into a queue, the consumer takes them out: what is in the
queue is a slice of the stream.
-/

namespace Cells

variable {α : Type}

/-- The words `k`, …, `n - 1` of a stream. -/
def slice (words : Nat → α) (k n : Nat) : List α := (List.range' k (n - k)).map words

/-- The bytes of a word, the lowest one first. -/
def wordByte (word : BitVec 32) (i : Nat) : BitVec 8 := (word >>> (8 * i)).setWidth 8

/-- The word of four bytes, the lowest one first. -/
def ofBytes (byte : Nat → BitVec 8) : BitVec 32 := byte 3 ++ byte 2 ++ byte 1 ++ byte 0

/-- The bytes of a stream of words. -/
def streamByte (words : Nat → BitVec 32) (i : Nat) : BitVec 8 := wordByte (words (i / 4)) (i % 4)

variable {words : Nat → α} {k n : Nat}

@[simp] theorem length_slice : (slice words k n).length = n - k := by
  simp [slice]

@[simp] theorem slice_self : slice words k k = [] := by
  simp [slice]

/-- One word more. -/
theorem slice_push (hk : k ≤ n) : slice words k n ++ [words n] = slice words k (n + 1) := by
  have hlen : n + 1 - k = n - k + 1 := by omega
  have hlast : k + (n - k) = n := by omega
  rw [slice, slice, hlen, List.range'_1_concat, List.map_append, hlast]
  rfl

/-- The oldest word. -/
theorem slice_pop (hk : k < n) : slice words k n = words k :: slice words (k + 1) n := by
  have hlen : n - k = n - (k + 1) + 1 := by omega
  rw [slice, hlen, List.range'_succ, List.map_cons]
  rfl

theorem wordByte_ofBytes {byte : Nat → BitVec 8} {i : Nat} (hi : i < 4) :
    wordByte (ofBytes byte) i = byte i := by
  ext j hj
  -- Bit `j` of byte `i` is bit `8 * i + j` of the word.
  have hbit : (ofBytes byte).getLsbD (8 * i + j) = (byte i).getLsbD j := by
    unfold ofBytes
    rw [BitVec.getLsbD_append, BitVec.getLsbD_append, BitVec.getLsbD_append]
    obtain rfl | rfl | rfl | rfl : i = 0 ∨ i = 1 ∨ i = 2 ∨ i = 3 := by omega
    · rw [if_pos (by omega)]
      congr 1
      omega
    · rw [if_neg (by omega), if_pos (by omega)]
      congr 1
      omega
    · rw [if_neg (by omega), if_neg (by omega), if_pos (by omega)]
      congr 1
      omega
    · rw [if_neg (by omega), if_neg (by omega), if_neg (by omega)]
      congr 1
      omega
  rw [← BitVec.getLsbD_eq_getElem hj, ← BitVec.getLsbD_eq_getElem hj, ← hbit]
  simp [wordByte, hj]

theorem streamByte_add {words : Nat → BitVec 32} {i : Nat} (hi : i < 4) :
    streamByte words (4 * k + i) = wordByte (words k) i := by
  have hdiv : (4 * k + i) / 4 = k := by omega
  have hmod : (4 * k + i) % 4 = i := by omega
  rw [streamByte, hdiv, hmod]

end Cells
