import Mathlib.Data.Set.Lattice
import Mathlib.Data.List.Pairwise
import Mathlib.Order.Interval.Set.Basic
import Mathlib.Order.CompletePartialOrder

/-!
# Regions — disjoint regions of a cell array

A region is a first cell and a length.  An allocator's account is a list of live regions; it is
sound when the regions are pairwise disjoint and stay below the capacity.  Adding a region that
meets none of the others and dropping one keep the account sound and move exactly its cells.
-/

namespace Cells

abbrev Region : Type := Nat × Nat

def Region.cells (r : Region) : Set Nat :=
  Set.Ico r.1 (r.1 + r.2)

/-- The union of the live regions. -/
def occupied (live : List Region) : Set Nat :=
  {i | ∃ r ∈ live, i ∈ Region.cells r}

/-- The live regions are pairwise disjoint and lie below `capacity`. -/
structure Sound (capacity : Nat) (live : List Region) : Prop where
  apart : live.Pairwise (fun r r' => Disjoint (Region.cells r) (Region.cells r'))
  inside : ∀ r ∈ live, r.1 + r.2 ≤ capacity

variable {capacity : Nat} {live : List Region} {r : Region}

@[simp] theorem Region.mem_cells {i : Nat} : i ∈ Region.cells r ↔ r.1 ≤ i ∧ i < r.1 + r.2 :=
  Iff.rfl

@[simp] theorem mem_occupied_nil {i : Nat} : i ∈ occupied [] ↔ False := by
  simp [occupied]

@[simp] theorem mem_occupied_cons {i : Nat} :
    i ∈ occupied (r :: live) ↔ i ∈ Region.cells r ∨ i ∈ occupied live := by
  simp [occupied]

theorem mem_occupied_of_mem {i : Nat} (hr : r ∈ live) (hi : i ∈ Region.cells r) :
    i ∈ occupied live :=
  ⟨r, hr, hi⟩

theorem Sound.nil : Sound capacity [] :=
  ⟨List.Pairwise.nil, by simp⟩

/-- A region clear of everything occupied may be added. -/
theorem Sound.cons (h : Sound capacity live)
    (hclear : ∀ i ∈ Region.cells r, i ∉ occupied live) (hin : r.1 + r.2 ≤ capacity) :
    Sound capacity (r :: live) := by
  refine ⟨List.pairwise_cons.2 ⟨?_, h.apart⟩, ?_⟩
  · intro r' hr'
    refine Set.disjoint_left.2 ?_
    intro i hi hi'
    exact hclear i hi (mem_occupied_of_mem hr' hi')
  · intro r' hr'
    rcases List.mem_cons.1 hr' with rfl | htail
    · exact hin
    · exact h.inside r' htail

theorem Sound.erase (h : Sound capacity live) (r : Region) : Sound capacity (live.erase r) :=
  ⟨h.apart.sublist List.erase_sublist, fun r' hr' => h.inside r' (List.mem_of_mem_erase hr')⟩

/-- Dropping a live region frees exactly its cells. -/
theorem mem_occupied_erase (h : Sound capacity live) (hr : r ∈ live) {i : Nat} :
    i ∈ occupied (live.erase r) ↔ i ∈ occupied live ∧ i ∉ Region.cells r := by
  -- Disjointness does not depend on the order, so the dropped region may be taken to be the first.
  have hperm : live.Perm (r :: live.erase r) := List.perm_cons_erase hr
  have hsym : ∀ a b : Region, Disjoint (Region.cells a) (Region.cells b) →
      Disjoint (Region.cells b) (Region.cells a) := fun _ _ hd => hd.symm
  have hcons : (r :: live.erase r).Pairwise
      (fun a b => Disjoint (Region.cells a) (Region.cells b)) :=
    (hperm.pairwise_iff (fun {a b} => hsym a b)).1 h.apart
  have happart := (List.pairwise_cons.1 hcons).1
  constructor
  · rintro ⟨r', hr', hi⟩
    refine ⟨⟨r', List.mem_of_mem_erase hr', hi⟩, ?_⟩
    intro hir
    exact Set.disjoint_left.1 (happart r' hr') hir hi
  · rintro ⟨⟨r', hr', hi⟩, hnot⟩
    rcases List.mem_cons.1 (hperm.mem_iff.1 hr') with rfl | htail
    · exact absurd hi hnot
    · exact ⟨r', htail, hi⟩

end Cells
