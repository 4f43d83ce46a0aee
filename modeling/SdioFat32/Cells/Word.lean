import SdioFat32.Cells.Memory
import SdioFat32.Cells.Stream

/-!
# Word — words in a memory of bytes

A word lies in four bytes, the lowest one first.  A region that is copied or filled word by word is
copied or filled as a whole.
-/

namespace Cells

namespace Memory

/-- The word at an address. -/
def word (mem : Memory 32 (BitVec 8)) (addr : BitVec 32) : BitVec 32 :=
  ofBytes fun i => mem (nth addr i)

def storeWord (mem : Memory 32 (BitVec 8)) (addr v : BitVec 32) : Memory 32 (BitVec 8) :=
  mem.store addr 4 (wordByte v)

end Memory

section Pieces

variable {w : Nat} {α : Type} {mem : Memory w α} {p q x : BitVec w} {n m : Nat}

/-- A region in two pieces. -/
theorem inRegion_add (hfits : n + m ≤ 2 ^ w) :
    InRegion p (n + m) x ↔ InRegion p n x ∨ InRegion (nth p n) m x := by
  constructor
  · intro h
    obtain ⟨i, hi, rfl⟩ := h.exists_nth
    by_cases hin : i < n
    · exact Or.inl (inRegion_nth hin (by omega))
    · have hback : n + (i - n) = i := by omega
      rw [← hback, ← nth_nth]
      exact Or.inr (inRegion_nth (by omega) (by omega))
  · rintro (h | h)
    · exact h.mono (Nat.le_add_right n m)
    · exact h.of_nth (Nat.le_refl _) hfits

/-- The pieces of a region do not meet. -/
theorem apart_nth (hfits : n + m ≤ 2 ^ w) : Apart (nth p n) m p n := by
  intro x hx hx'
  obtain ⟨i, hi, rfl⟩ := hx.exists_nth
  obtain ⟨k, hk, heq⟩ := hx'.exists_nth
  rw [nth_nth] at heq
  have := nth_inj (by omega) (by omega) heq
  omega

theorem Memory.store_zero {cells : Nat → α} : mem.store p 0 cells = mem := by
  funext x
  exact Memory.store_outside (Nat.not_lt_zero _)

theorem Memory.copy_zero : mem.copy p q 0 = mem := by
  funext x
  exact Memory.copy_outside (Nat.not_lt_zero _)

theorem Memory.store_append {cells : Nat → α} (hfits : n + m ≤ 2 ^ w) :
    (mem.store p n cells).store (nth p n) m (fun i => cells (n + i)) =
      mem.store p (n + m) cells := by
  funext x
  by_cases hnew : InRegion (nth p n) m x
  · obtain ⟨i, hi, rfl⟩ := hnew.exists_nth
    rw [Memory.store_nth hi (by omega), nth_nth, Memory.store_nth (by omega) hfits]
  · rw [Memory.store_outside hnew]
    by_cases hold : InRegion p n x
    · obtain ⟨i, hi, rfl⟩ := hold.exists_nth
      rw [Memory.store_nth hi (by omega), Memory.store_nth (by omega) hfits]
    · have hout : ¬InRegion p (n + m) x := fun h => ((inRegion_add hfits).1 h).elim hold hnew
      rw [Memory.store_outside hold, Memory.store_outside hout]

/-- Copying goes on, from a region that was not overwritten. -/
theorem Memory.copy_append (hfits : n + m ≤ 2 ^ w) (hsource : q = p ∨ Apart q (n + m) p (n + m)) :
    (mem.copy p q n).copy (nth p n) (nth q n) m = mem.copy p q (n + m) := by
  funext x
  by_cases hnew : InRegion (nth p n) m x
  · obtain ⟨i, hi, rfl⟩ := hnew.exists_nth
    have hkept : ¬InRegion p n (nth q (n + i)) := by
      rcases hsource with rfl | hapart
      · rw [← nth_nth]
        exact apart_nth hfits _ (inRegion_nth hi (by omega))
      · intro hin
        exact hapart _ (inRegion_nth (by omega) hfits) (hin.mono (Nat.le_add_right n m))
    rw [Memory.copy_nth hi (by omega), nth_nth, nth_nth, Memory.copy_outside hkept,
      Memory.copy_nth (by omega) hfits]
  · rw [Memory.copy_outside hnew]
    by_cases hold : InRegion p n x
    · obtain ⟨i, hi, rfl⟩ := hold.exists_nth
      rw [Memory.copy_nth hi (by omega), Memory.copy_nth (by omega) hfits]
    · have hout : ¬InRegion p (n + m) x := fun h => ((inRegion_add hfits).1 h).elim hold hnew
      rw [Memory.copy_outside hold, Memory.copy_outside hout]

end Pieces

variable {mem : Memory 32 (BitVec 8)} {p q : BitVec 32} {n : Nat}

theorem ofBytes_wordByte (v : BitVec 32) : ofBytes (wordByte v) = v := by
  apply BitVec.eq_of_getLsbD_eq
  intro i hi
  simp only [ofBytes, wordByte, BitVec.getLsbD_append, BitVec.getLsbD_setWidth,
    BitVec.getLsbD_ushiftRight]
  by_cases h0 : i < 8
  · simp [h0]
  by_cases h1 : i - 8 < 8
  · have hback : 8 + (i - 8) = i := by omega
    simp [h0, h1, hback]
  by_cases h2 : i - 8 - 8 < 8
  · have hback : 16 + (i - 8 - 8) = i := by omega
    simp [h0, h1, h2, hback]
  · have h3 : i - 8 - 8 - 8 < 8 := by omega
    have hback : 24 + (i - 8 - 8 - 8) = i := by omega
    simp [h0, h1, h2, h3, hback]

theorem ofBytes_congr {byte byte' : Nat → BitVec 8} (h : ∀ i < 4, byte i = byte' i) :
    ofBytes byte = ofBytes byte' := by
  unfold ofBytes
  rw [h 0 (by decide), h 1 (by decide), h 2 (by decide), h 3 (by decide)]

/-- A word that was stored is loaded. -/
theorem Memory.word_storeWord {v : BitVec 32} : (mem.storeWord p v).word p = v := by
  calc (mem.storeWord p v).word p
      = ofBytes (wordByte v) := ofBytes_congr fun i hi => Memory.store_nth hi (by decide)
    _ = v := ofBytes_wordByte v

/-- A word that is loaded and stored is copied. -/
theorem Memory.storeWord_word : mem.storeWord p (mem.word q) = mem.copy p q 4 := by
  funext x
  by_cases hin : InRegion p 4 x
  · obtain ⟨i, hi, rfl⟩ := hin.exists_nth
    rw [Memory.storeWord, Memory.store_nth hi (by decide), Memory.copy_nth hi (by decide)]
    exact wordByte_ofBytes hi
  · rw [Memory.storeWord, Memory.store_outside hin, Memory.copy_outside hin]

/-- A copy goes on by a word. -/
theorem Memory.copy_word (hfits : n + 4 ≤ 2 ^ 32)
    (hsource : q = p ∨ Apart q (n + 4) p (n + 4)) :
    (mem.copy p q n).storeWord (nth p n) ((mem.copy p q n).word (nth q n)) =
      mem.copy p q (n + 4) := by
  rw [Memory.storeWord_word]
  exact Memory.copy_append hfits hsource

theorem wordByte_zero (i : Nat) : wordByte 0#32 i = 0#8 := by
  simp [wordByte]

/-- A region of zeros grows by a word. -/
theorem Memory.zeros_word (hfits : n + 4 ≤ 2 ^ 32) :
    (mem.store p n fun _ => 0#8).storeWord (nth p n) 0#32 =
      mem.store p (n + 4) fun _ => 0#8 := by
  have hzero : wordByte 0#32 = fun _ => 0#8 := funext wordByte_zero
  rw [Memory.storeWord, hzero]
  exact Memory.store_append hfits

end Cells
