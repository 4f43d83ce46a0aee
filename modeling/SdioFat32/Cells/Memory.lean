import Mathlib.Data.BitVec

/-!
# Memory — cells at machine addresses

Addresses are bit vectors, so a region is a first address and a length and may in principle wrap;
an address lies in it if its distance from the first one is below the length.  `copy` is `memcpy`
between regions that do not meet.
-/

namespace Cells

variable {w : Nat} {α : Type}

abbrev Memory (w : Nat) (α : Type) : Type := BitVec w → α

def InRegion (p : BitVec w) (len : Nat) (x : BitVec w) : Prop := (x - p).toNat < len

instance (p : BitVec w) (len : Nat) (x : BitVec w) : Decidable (InRegion p len x) :=
  inferInstanceAs (Decidable (_ < _))

/-- No address lies in both regions. -/
def Apart (p : BitVec w) (n : Nat) (q : BitVec w) (m : Nat) : Prop :=
  ∀ x, InRegion p n x → ¬InRegion q m x

/-- The `i`-th address of a region. -/
def nth (p : BitVec w) (i : Nat) : BitVec w := p + BitVec.ofNat w i

namespace Memory

/-- The cells of the region become `cells`. -/
def store (mem : Memory w α) (p : BitVec w) (n : Nat) (cells : Nat → α) : Memory w α :=
  fun x => if InRegion p n x then cells (x - p).toNat else mem x

/-- The first `n` cells of the region are those of `cells`. -/
def Filled (mem : Memory w α) (p : BitVec w) (cells : Nat → α) (n : Nat) : Prop :=
  ∀ i < n, mem (nth p i) = cells i

/-- The cells of the first region become those of the second. -/
def copy (mem : Memory w α) (dst src : BitVec w) (n : Nat) : Memory w α :=
  fun x => if InRegion dst n x then mem (src + (x - dst)) else mem x

end Memory

/-! ## Addresses of a region -/

variable {p q x : BitVec w} {n m i k : Nat} {mem : Memory w α}

theorem nth_sub (p : BitVec w) (i : Nat) : nth p i - p = BitVec.ofNat w i := by
  rw [nth, BitVec.add_comm, BitVec.add_sub_cancel]

@[simp] theorem nth_zero (p : BitVec w) : nth p 0 = p := by
  simp [nth]

theorem nth_nth (p : BitVec w) (i k : Nat) : nth (nth p i) k = nth p (i + k) := by
  rw [nth, nth, nth, BitVec.add_assoc, BitVec.ofNat_add]

theorem inRegion_nth (hi : i < n) (hn : n ≤ 2 ^ w) : InRegion p n (nth p i) := by
  rw [InRegion, nth_sub, BitVec.toNat_ofNat, Nat.mod_eq_of_lt (by omega)]
  exact hi

/-- The addresses of a region are numbered. -/
theorem InRegion.exists_nth (h : InRegion p n x) : ∃ i, i < n ∧ x = nth p i := by
  refine ⟨(x - p).toNat, h, ?_⟩
  rw [nth, BitVec.ofNat_toNat, BitVec.setWidth_eq, BitVec.add_comm, BitVec.sub_add_cancel]

/-- A part of a region. -/
theorem InRegion.of_nth (h : InRegion (nth p k) m x) (hkm : k + m ≤ n) (hn : n ≤ 2 ^ w) :
    InRegion p n x := by
  rcases h.exists_nth with ⟨i, hi, rfl⟩
  rw [nth_nth]
  exact inRegion_nth (by omega) hn

theorem InRegion.mono (h : InRegion p m x) (hmn : m ≤ n) : InRegion p n x :=
  Nat.lt_of_lt_of_le h hmn

/-! ## Storing -/

theorem Memory.store_nth {cells : Nat → α} (hi : i < n) (hn : n ≤ 2 ^ w) :
    mem.store p n cells (nth p i) = cells i := by
  rw [Memory.store, if_pos (inRegion_nth hi hn), nth_sub, BitVec.toNat_ofNat,
    Nat.mod_eq_of_lt (by omega)]

theorem Memory.store_outside {cells : Nat → α} (hx : ¬InRegion p n x) :
    mem.store p n cells x = mem x :=
  if_neg hx

theorem nth_inj (hi : i < 2 ^ w) (hk : k < 2 ^ w) (h : nth p i = nth p k) : i = k := by
  have hsub := congrArg (fun y => (y - p).toNat) h
  simp only [nth_sub, BitVec.toNat_ofNat, Nat.mod_eq_of_lt hi, Nat.mod_eq_of_lt hk] at hsub
  exact hsub

/-- Storing the next cells. -/
theorem Memory.Filled.store {cells : Nat → α} (h : mem.Filled p cells n) (hfits : n + m ≤ 2 ^ w) :
    (mem.store (nth p n) m fun i => cells (n + i)).Filled p cells (n + m) := by
  intro i hi
  by_cases hold : i < n
  · have hout : ¬InRegion (nth p n) m (nth p i) := by
      intro hin
      rcases hin.exists_nth with ⟨k, hk, heq⟩
      rw [nth_nth] at heq
      have := nth_inj (by omega) (by omega) heq
      omega
    rw [Memory.store_outside hout]
    exact h i hold
  · have hback : n + (i - n) = i := by omega
    rw [← hback, ← nth_nth, Memory.store_nth (by omega) (by omega)]

/-! ## Copying -/

theorem Memory.copy_nth {dst src : BitVec w} (hi : i < n) (hn : n ≤ 2 ^ w) :
    mem.copy dst src n (nth dst i) = mem (nth src i) := by
  rw [Memory.copy, if_pos (inRegion_nth hi hn), nth_sub]
  rfl

theorem Memory.copy_outside {dst src : BitVec w} (hx : ¬InRegion dst n x) :
    mem.copy dst src n x = mem x :=
  if_neg hx

end Cells
