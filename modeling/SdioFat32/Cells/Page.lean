import Mathlib.Data.List.Basic
import Mathlib.Logic.Function.Basic

/-!
# Page — memory that keeps account of its writes

A page is written to one cell at a time, and remembers where.  `Page.print` puts a text down the
way a bounded formatter does: at most `n - 1` characters, and a terminator behind them.

* `Shows stop nul p text` — the page holds what a sequence of bounded prints leaves of `text` in
  the cells below `stop`;
* `Shows.print`, `Shows.string` — one more print keeps it, and the string read back is the text, cut
  off before the last cell.
-/

namespace Cells

universe u

structure Page (α : Type u) where
  cells : Nat → α
  /-- The cells written to, in order. -/
  writes : List Nat

namespace Page

variable {α : Type u}

def store (p : Page α) (i : Nat) (c : α) : Page α where
  cells := Function.update p.cells i c
  writes := p.writes ++ [i]

/-- One character after the other, from cell `i` on. -/
def storeAll (p : Page α) (i : Nat) : List α → Page α
  | [] => p
  | c :: text => (p.store i c).storeAll (i + 1) text

/-- The effect of a formatter on `n` cells: what does not fit is dropped. -/
def print (nul : α) (p : Page α) (i n : Nat) (text : List α) : Page α :=
  if n = 0 then p else p.storeAll i (text.take (n - 1) ++ [nul])

/-- The characters of the first `size` cells, up to a terminator. -/
def string [DecidableEq α] (nul : α) (p : Page α) (size : Nat) : List α :=
  ((List.range size).map p.cells).takeWhile (· ≠ nul)

theorem writes_storeAll (p : Page α) (i : Nat) (text : List α) :
    (p.storeAll i text).writes = p.writes ++ List.range' i text.length := by
  induction text generalizing p i with
  | nil => simp [storeAll]
  | cons c text ih =>
      rw [storeAll, ih, List.length_cons, List.range'_succ]
      simp [store]

theorem cells_storeAll (p : Page α) (i j : Nat) (text : List α) :
    (p.storeAll i text).cells j =
      if i ≤ j then text[j - i]?.getD (p.cells j) else p.cells j := by
  induction text generalizing p i with
  | nil => simp [storeAll]
  | cons c text ih =>
      rw [storeAll, ih]
      rcases Nat.lt_trichotomy j i with hlt | heq | hgt
      · have hne : j ≠ i := by omega
        rw [if_neg (by omega), if_neg (by omega)]
        simp [store, hne]
      · subst heq
        rw [if_neg (by omega), if_pos (Nat.le_refl _), Nat.sub_self]
        simp [store]
      · have hne : j ≠ i := by omega
        obtain ⟨k, hk⟩ : ∃ k, j - i = k + 1 := ⟨j - i - 1, by omega⟩
        have hk' : j - (i + 1) = k := by omega
        rw [if_pos (by omega), if_pos (by omega), hk, hk', List.getElem?_cons_succ]
        simp [store, hne]

/-- A terminator ends the string. -/
theorem string_eq [DecidableEq α] {nul : α} {p : Page α} {size : Nat} {text : List α}
    (hsize : text.length < size) (htext : ∀ i < text.length, text[i]? = some (p.cells i))
    (hend : p.cells text.length = nul) (hnul : nul ∉ text) : p.string nul size = text := by
  obtain ⟨k, rfl⟩ : ∃ k, size = text.length + (k + 1) := ⟨size - text.length - 1, by omega⟩
  have hfront : (List.range text.length).map p.cells = text := by
    apply List.ext_getElem?
    intro i
    by_cases hi : i < text.length
    · rw [htext i hi]
      simp [hi]
    · have hlen : ((List.range text.length).map p.cells).length ≤ i := by simpa using hi
      rw [List.getElem?_eq_none hlen, List.getElem?_eq_none (by omega)]
  unfold string
  rw [List.range_add, List.map_append, hfront, List.range_succ_eq_map]
  have hkeep : ∀ c ∈ text, (decide (c ≠ nul)) = true := by
    intro c hc
    rw [decide_eq_true_eq]
    rintro rfl
    exact hnul hc
  rw [List.takeWhile_append_of_pos hkeep]
  simp [hend]

/-! ## Printing in a row -/

/-- What the prints of `text` leave below `stop`, where the last cell is kept for a terminator. -/
structure Shows (stop : Nat) (nul : α) (p : Page α) (text : List α) : Prop where
  kept : ∀ i, i < text.length → i + 1 < stop → text[i]? = some (p.cells i)
  cut : stop ≤ text.length → p.cells (stop - 1) = nul
  writes : ∀ i ∈ p.writes, i < stop

section Printing

variable {stop : Nat} {nul : α} {p : Page α} {text more : List α}

theorem Shows.start (hstop : 0 < stop) (cells : Nat → α) : Shows stop nul ⟨cells, []⟩ [] where
  kept := fun _ hi => absurd hi (Nat.not_lt_zero _)
  cut := fun hle => absurd hle (Nat.not_le.mpr hstop)
  writes := fun _ hi => absurd hi List.not_mem_nil

/-- The room left is counted from the untruncated length of what was printed before. -/
theorem Shows.print (h : Shows stop nul p text) (hroom : text.length ≤ stop) :
    Shows stop nul (p.print nul text.length (stop - text.length) more) (text ++ more) := by
  unfold Page.print
  by_cases hfull : stop - text.length = 0
  · -- There is no room left, and nothing is stored.
    rw [if_pos hfull]
    refine ⟨fun i _ hi => ?_, fun _ => h.cut (by omega), h.writes⟩
    rw [List.getElem?_append_left (by omega)]
    exact h.kept i (by omega) hi
  · rw [if_neg hfull]
    obtain ⟨n, hn⟩ : ∃ n, stop - text.length = n + 1 := ⟨stop - text.length - 1, by omega⟩
    rw [hn, Nat.add_sub_cancel]
    refine ⟨fun i hi hstop => ?_, fun hle => ?_, fun i hi => ?_⟩
    · -- A character kept is an old one or a new one.
      rw [cells_storeAll]
      by_cases hold : i < text.length
      · rw [if_neg (by omega), List.getElem?_append_left hold]
        exact h.kept i hold hstop
      · have hnew : i - text.length < more.length := by
          rw [List.length_append] at hi
          omega
        rw [if_pos (by omega), List.getElem?_append_right (by omega),
          List.getElem?_append_left (by rw [List.length_take]; omega),
          List.getElem?_take_of_lt (by omega), List.getElem?_eq_getElem hnew]
        rfl
    · -- The text is cut after `n` characters, and the terminator goes to the last cell.
      have hlong : n ≤ more.length := by
        rw [List.length_append] at hle
        omega
      have hlen : (more.take n).length = n := by
        rw [List.length_take]
        omega
      have hlast : stop - 1 - text.length = n := by omega
      rw [cells_storeAll, if_pos (by omega), hlast, List.getElem?_append_right (by omega), hlen]
      simp
    · rw [writes_storeAll, List.mem_append, List.mem_range'_1, List.length_append,
        List.length_take] at hi
      rcases hi with hi | ⟨_, hi⟩
      · exact h.writes i hi
      · simp only [List.length_singleton] at hi
        omega

/-- A last terminator behind the text, which may be the one cell past `stop`. -/
theorem Shows.string [DecidableEq α] (h : Shows stop nul p text) (hstop : 0 < stop)
    (hroom : text.length ≤ stop) (hnul : nul ∉ text) :
    (p.store text.length nul).string nul (stop + 1) = text.take (stop - 1) := by
  have hlen : (text.take (stop - 1)).length = min (stop - 1) text.length := List.length_take
  refine string_eq (by omega) (fun i hi => ?_) ?_ (fun hmem => hnul (List.mem_of_mem_take hmem))
  · have hne : i ≠ text.length := by omega
    rw [List.getElem?_take_of_lt (by omega), h.kept i (by omega) (by omega)]
    simp [store, hne]
  · rw [hlen]
    rcases Nat.lt_or_ge text.length stop with hlt | hge
    · have hmin : min (stop - 1) text.length = text.length := by omega
      rw [hmin]
      simp [store]
    · have hmin : min (stop - 1) text.length = stop - 1 := by omega
      have hne : stop - 1 ≠ text.length := by omega
      rw [hmin, ← h.cut hge]
      simp [store, hne]

theorem Shows.writes_store (h : Shows stop nul p text) (hroom : text.length ≤ stop) (c : α) :
    ∀ i ∈ (p.store text.length c).writes, i < stop + 1 := by
  intro i hi
  rcases List.mem_append.mp hi with hold | hnew
  · have := h.writes i hold
    omega
  · rw [List.mem_singleton.mp hnew]
    omega

end Printing

end Page
end Cells
