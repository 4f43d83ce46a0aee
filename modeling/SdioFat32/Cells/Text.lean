import Mathlib.Data.List.GetD
import SdioFat32.Cells.Memory

/-!
# Text — what a bounded formatter leaves in memory

`print` puts a text down as a formatter with a bound of `n` does: at most `n - 1` cells of it and a
terminator, and nothing at all if the bound is zero.  `bytesAt` reads cells back as a list.  Two
prints in a row, where the second one starts at the end of the first one and has the room it left,
are one print of both texts, as far as the texts go.
-/

namespace Cells

variable {w : Nat} {α : Type} {mem : Memory w α} {p x : BitVec w} {n m : Nat} {nul : α}
  {text more : List α}

/-- The `n` cells from `p` on. -/
def bytesAt (mem : Memory w α) (p : BitVec w) (n : Nat) : List α :=
  (List.range n).map fun i => mem (nth p i)

def Memory.print (mem : Memory w α) (nul : α) (p : BitVec w) (n : Nat) (text : List α) :
    Memory w α :=
  if n = 0 then mem
  else mem.store p (min (n - 1) text.length + 1) fun i => (text.take (n - 1)).getD i nul

@[simp] theorem length_bytesAt : (bytesAt mem p n).length = n := by
  simp [bytesAt]

@[simp] theorem bytesAt_zero : bytesAt mem p 0 = [] := rfl

theorem bytesAt_succ : bytesAt mem p (n + 1) = mem p :: bytesAt mem (nth p 1) n := by
  unfold bytesAt
  rw [List.range_succ_eq_map, List.map_cons, List.map_map, nth_zero]
  congr 1
  apply List.map_congr_left
  intro i _
  rw [Function.comp, nth_nth, Nat.add_comm]

/-- Cells known one by one. -/
theorem bytesAt_eq (h : ∀ i, i < text.length → mem (nth p i) = text.getD i nul) :
    bytesAt mem p text.length = text := by
  apply List.ext_getElem
  · simp
  · intro i hi hi'
    have hcell := h i hi'
    rw [List.getD_eq_getElem text nul hi'] at hcell
    simpa [bytesAt] using hcell

theorem bytesAt_congr {mem' : Memory w α} (h : ∀ i, i < n → mem' (nth p i) = mem (nth p i)) :
    bytesAt mem' p n = bytesAt mem p n := by
  unfold bytesAt
  apply List.map_congr_left
  intro i hi
  exact h i (List.mem_range.1 hi)

theorem bytesAt_add : bytesAt mem p (n + m) = bytesAt mem p n ++ bytesAt mem (nth p n) m := by
  unfold bytesAt
  rw [List.range_add, List.map_append, List.map_map]
  congr 1
  apply List.map_congr_left
  intro i _
  rw [Function.comp, nth_nth]

theorem bytesAt_store {cells : Nat → α} (hm : m ≤ n) (hn : n ≤ 2 ^ w) :
    bytesAt (mem.store p n cells) p m = (List.range m).map cells := by
  unfold bytesAt
  apply List.map_congr_left
  intro i hi
  have hlt := List.mem_range.1 hi
  exact Memory.store_nth (by omega) hn

theorem bytesAt_copy {src : BitVec w} (hn : n ≤ 2 ^ w) :
    bytesAt (mem.copy p src n) p n = bytesAt mem src n := by
  unfold bytesAt
  apply List.map_congr_left
  intro i hi
  exact Memory.copy_nth (List.mem_range.1 hi) hn

/-- A print stays within its bound. -/
theorem Memory.print_outside (hx : ¬InRegion p n x) : mem.print nul p n text x = mem x := by
  unfold Memory.print
  split
  · rfl
  · rename_i hn
    refine Memory.store_outside fun hin => hx (hin.mono ?_)
    omega

theorem Memory.print_nth {i : Nat} (hi : i < text.length) (hn : i + 1 < n) (hfits : n ≤ 2 ^ w) :
    mem.print nul p n text (nth p i) = text.getD i nul := by
  unfold Memory.print
  rw [if_neg (by omega), Memory.store_nth (by omega) (by omega)]
  rw [List.getD_eq_getElem?_getD, List.getD_eq_getElem?_getD,
    List.getElem?_take_of_lt (by omega)]

/-- A cell before the print. -/
theorem Memory.print_before {i k : Nat} (hi : i < k) (hk : k + n ≤ 2 ^ w) :
    mem.print nul (nth p k) n text (nth p i) = mem (nth p i) := by
  refine Memory.print_outside fun hin => ?_
  rcases hin.exists_nth with ⟨j, hj, heq⟩
  rw [nth_nth] at heq
  have hsame := nth_inj (by omega) (by omega) heq
  omega

/-- A text, and another one behind it in the room that is left. -/
theorem bytesAt_print_print (hroom : text.length < n) (hfits : n ≤ 2 ^ w) :
    bytesAt ((mem.print nul p n text).print nul (nth p text.length) (n - text.length) more) p
        ((text ++ more).take (n - 1)).length =
      (text ++ more).take (n - 1) := by
  suffices hcells : ∀ i, i < ((text ++ more).take (n - 1)).length →
      ((mem.print nul p n text).print nul (nth p text.length) (n - text.length) more) (nth p i) =
        ((text ++ more).take (n - 1)).getD i nul from bytesAt_eq hcells
  intro i hi
  rw [List.length_take, List.length_append] at hi
  have hcell : ((text ++ more).take (n - 1)).getD i nul = (text ++ more).getD i nul := by
    rw [List.getD_eq_getElem?_getD, List.getD_eq_getElem?_getD,
      List.getElem?_take_of_lt (by omega)]
  rw [hcell]
  by_cases hold : i < text.length
  · rw [Memory.print_before hold (by omega), Memory.print_nth hold (by omega) hfits,
      List.getD_append _ _ _ _ hold]
  · have hback : text.length + (i - text.length) = i := by omega
    have hnew : nth p i = nth (nth p text.length) (i - text.length) := by
      rw [nth_nth, hback]
    rw [hnew, Memory.print_nth (by omega) (by omega) (by omega),
      List.getD_append_right _ _ _ _ (by omega)]

end Cells
