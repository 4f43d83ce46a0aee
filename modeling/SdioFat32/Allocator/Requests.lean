import SdioFat32.Allocator.PoolRuns

/-!
# Requests — `pool_alloc` and `pool_free_region` for every 32-bit size

Both functions count blocks in a `uint16_t`.  A size that does not fit is narrowed before it is
compared with the size of the pool, and `last_block` is narrowed once more, so requests far larger
than the pool are taken for small ones.  This file says for which sizes that is harmless.
-/

namespace SdioFat32
namespace Allocator

open Cells

/-! ## The states the functions leave -/

/-- The pool after any calls, legal or not. -/
inductive Reached (pl : Placement) : Pool → Prop where
  | static : Reached pl Pool.static
  | init {p : Pool} : Reached pl p → Reached pl (poolInit p)
  | free {p : Pool} : Reached pl p → Reached pl (poolFree p)
  | alloc {p : Pool} (size : BitVec 32) : Reached pl p → Reached pl (poolAlloc pl size p).2
  | freeRegion {p : Pool} (ptr : Nat) (size : BitVec 32) :
      Reached pl p → Reached pl (poolFreeRegion pl ptr size p).2

variable {pl : Placement} {p : Pool} {size : BitVec 32} {ptr : Nat}

theorem poolAlloc_hint (h : p.lastFreeBlock < 4096) :
    (poolAlloc pl size p).2.lastFreeBlock < 4096 := by
  -- Only a search that succeeds moves the hint, to the end of what it has found.
  by_cases hle : size.toNat % 2 ^ 16 ≤ 4096
  · rcases poolAlloc_search pl size hle h with ⟨first, _, _, _, hres⟩ | ⟨_, _, hres⟩
    · rw [hres]
      exact takeRegion_lastFreeBlock
    · rw [hres]
      exact h
  · unfold poolAlloc
    simp only [sizeInBlocks_eq, blocksCount]
    rw [if_pos (by omega)]
    exact h

theorem poolFreeRegion_hint (h : p.lastFreeBlock < 4096) :
    (poolFreeRegion pl ptr size p).2.lastFreeBlock < 4096 := by
  unfold poolFreeRegion
  simp only [poolSize, blocksCount]
  split
  · exact h
  split
  · exact h
  rename_i hrange
  split
  · exact h
  · rcases freeLoop_lastFreeBlock (p := p) (ptr - pl.base) _ _ with hkeep | hmove
    · exact hkeep ▸ h
    · rw [hmove]
      omega

/-- The hint stays inside the pool, whatever is asked for. -/
theorem Reached.hint (h : Reached pl p) : p.lastFreeBlock < 4096 := by
  induction h with
  | static => exact Nat.zero_lt_succ _
  | init _ ih =>
      unfold poolInit
      split
      · exact ih
      · exact Nat.zero_lt_succ _
  | free _ ih =>
      unfold poolFree
      split
      · exact ih
      · exact Nat.zero_lt_succ _
  | alloc size _ ih => exact poolAlloc_hint ih
  | freeRegion ptr size _ ih => exact poolFreeRegion_hint ih

/-! ## Allocation -/

/-- `NULL` and the pool as it was, or `size` bytes that were free and are now in use. -/
def AllocHonoured (pl : Placement) (size : BitVec 32) (p : Pool) (result : Nat × Pool) : Prop :=
  (result.1 = 0 ∧ result.2.bitmap = p.bitmap ∧ result.2.lastFreeBlock = p.lastFreeBlock) ∨
    (1 ≤ size.toNat ∧ size.toNat ≤ 4096 ∧
      ∃ first, result.1 = pl.base + first ∧ first + size.toNat ≤ 4096 ∧
        (∀ i, first ≤ i → i < first + size.toNat → p.used i = false) ∧
        ∀ i, result.2.used i = (decide (first ≤ i ∧ i < first + size.toNat) || p.used i))

/-- Sizes of 1 to 4096 bytes, sizes still too large after the narrowing, and sizes for whose
narrowed value (one byte in place of none) the search finds no room. -/
def AllocSafe (size : BitVec 32) (p : Pool) : Prop :=
  (1 ≤ size.toNat ∧ size.toNat ≤ 4096) ∨ 4096 < size.toNat % 2 ^ 16 ∨
    (¬HasRun p.free (max 1 (size.toNat % 2 ^ 16)) p.lastFreeBlock 4096 ∧
      ¬HasRun p.free (max 1 (size.toNat % 2 ^ 16)) 0 p.lastFreeBlock)

/-- `pool_alloc` honours the size exactly in these cases. -/
theorem alloc_honoured_iff (hhint : p.lastFreeBlock < 4096) :
    AllocHonoured pl size p (poolAlloc pl size p) ↔ AllocSafe size p := by
  have hbase := pl.base_pos
  by_cases hsize : 1 ≤ size.toNat ∧ size.toNat ≤ 4096
  · refine iff_of_true ?_ (Or.inl hsize)
    rcases poolAlloc_cases pl size hsize.1 hsize.2 hhint with
      ⟨first, _, hin, hrun, hres⟩ | ⟨_, _, hres⟩
    · rw [hres]
      refine Or.inr ⟨hsize.1, hsize.2, first, rfl, hin, ?_, takeRegion_used hin⟩
      intro i hlo hhi
      exact Pool.free_eq_true.1 (hrun i hlo hhi)
    · rw [hres]
      exact Or.inl ⟨rfl, rfl, rfl⟩
  -- From here on the size is none that the pool can serve, and `NULL` is the only right answer.
  by_cases hle : size.toNat % 2 ^ 16 ≤ 4096
  · rcases poolAlloc_search pl size hle hhint with
      ⟨first, hside, hin, hrun, hres⟩ | ⟨habove, hbelow, hres⟩
    · -- The search has found room for the narrowed size.
      refine iff_of_false ?_ ?_
      · rw [hres]
        rintro (⟨hnull, _⟩ | ⟨hlow, hhigh, _⟩)
        · have hptr : pl.base + first = 0 := hnull
          omega
        · exact hsize ⟨hlow, hhigh⟩
      · rintro (hsize' | hlarge | ⟨habove, hbelow⟩)
        · exact hsize hsize'
        · omega
        · rcases hside with hlo | hhi
          · exact habove ⟨first, hlo, hin, hrun⟩
          · exact hbelow ⟨first, Nat.zero_le _, hhi, hrun⟩
    · rw [hres]
      exact iff_of_true (Or.inl ⟨rfl, rfl, rfl⟩) (Or.inr (Or.inr ⟨habove, hbelow⟩))
  · -- Still too large after the narrowing.
    refine iff_of_true ?_ (Or.inr (Or.inl (by omega)))
    have hrefused : poolAlloc pl size p = (0, p) := by
      unfold poolAlloc
      simp only [sizeInBlocks_eq, blocksCount]
      rw [if_pos (by omega)]
    rw [hrefused]
    exact Or.inl ⟨rfl, rfl, rfl⟩

/-- One byte of a fresh pool. -/
theorem alloc_honoured_one_byte :
    (poolInit Pool.static).lastFreeBlock < 4096 ∧
      AllocHonoured sramPlacement 1#32 (poolInit Pool.static)
        (poolAlloc sramPlacement 1#32 (poolInit Pool.static)) :=
  ⟨by decide, (alloc_honoured_iff (by decide)).2 (Or.inl (by decide))⟩

/-- A request of 65537 bytes is answered with one byte, a request of none with a pointer. -/
theorem alloc_not_honoured :
    ¬AllocHonoured sramPlacement 65537#32 (poolInit Pool.static)
        (poolAlloc sramPlacement 65537#32 (poolInit Pool.static)) ∧
      ¬AllocHonoured sramPlacement 0#32 (poolInit Pool.static)
        (poolAlloc sramPlacement 0#32 (poolInit Pool.static)) := by
  have hptr : (poolAlloc sramPlacement 65537#32 (poolInit Pool.static)).1 ≠ 0 := by
    decide +kernel
  have hptr' : (poolAlloc sramPlacement 0#32 (poolInit Pool.static)).1 ≠ 0 := by
    decide +kernel
  refine ⟨?_, ?_⟩
  · rintro (⟨hnull, _⟩ | ⟨_, hle, _⟩)
    · exact hptr hnull
    · exact absurd hle (by decide)
  · rintro (⟨hnull, _⟩ | ⟨hpos, _⟩)
    · exact hptr' hnull
    · exact absurd hpos (by decide)

/-! ## Freeing -/

/-- A region of at least one byte that lies in the pool, `off` bytes from its start. -/
def IsRegion (pl : Placement) (ptr : Nat) (size : BitVec 32) (off : Nat) : Prop :=
  ptr = pl.base + off ∧ off < 4096 ∧ 1 ≤ size.toNat ∧ off + size.toNat ≤ 4096

/-- `0` for the regions, whose bits are then clear and in front of which the hint then is; for
everything else an error, and the pool as it was. -/
structure FreesExactly (pl : Placement) (ptr : Nat) (size : BitVec 32) (p : Pool)
    (result : Int × Pool) : Prop where
  status : result.1 = 0 ↔ ∃ off, IsRegion pl ptr size off
  bits : ∀ off, IsRegion pl ptr size off →
    ∀ i, result.2.used i = (!decide (off ≤ i ∧ i < off + size.toNat) && p.used i)
  hint : ∀ off, IsRegion pl ptr size off → result.2.lastFreeBlock = min p.lastFreeBlock off
  refused : (∀ off, ¬IsRegion pl ptr size off) →
    result.1 < 0 ∧ result.2.bitmap = p.bitmap ∧ result.2.lastFreeBlock = p.lastFreeBlock

/-- For a pointer into the pool: the last byte, taken modulo `2 ^ 16`, does not fall into the pool
unless it really lies there. -/
def FreeSafe (pl : Placement) (ptr : Nat) (size : BitVec 32) : Prop :=
  pl.base ≤ ptr → ptr < pl.base + 4096 → 1 ≤ size.toNat →
    (ptr - pl.base + size.toNat - 1) % 2 ^ 16 < 4096 → ptr - pl.base + size.toNat ≤ 4096

/-- The last block as it is compared with the size of the pool. -/
theorem toNat_lastBlock (off : Nat) (hsize : 1 ≤ size.toNat) :
    (BitVec.ofNat 16 off + BitVec.ofNat 16 (sizeInBlocks size) - 1#16).toNat =
      (off + size.toNat - 1) % 2 ^ 16 := by
  rw [sizeInBlocks_eq, BitVec.toNat_sub, BitVec.toNat_add, BitVec.toNat_ofNat, BitVec.toNat_ofNat,
    BitVec.toNat_ofNat]
  omega

/-- A call that is refused is refused properly. -/
theorem freesExactly_of_refused {status : Int} (hstatus : status < 0)
    (hno : ∀ off, ¬IsRegion pl ptr size off) : FreesExactly pl ptr size p (status, p) where
  status := by
    refine iff_of_false ?_ ?_
    · intro hzero
      have hzero' : status = 0 := hzero
      omega
    · rintro ⟨off, hoff⟩
      exact hno off hoff
  bits := fun off hoff => absurd hoff (hno off)
  hint := fun off hoff => absurd hoff (hno off)
  refused := fun _ => ⟨hstatus, rfl, rfl⟩

theorem freesExactly_of_region {off : Nat} (h : IsRegion pl ptr size off) :
    FreesExactly pl ptr size p (poolFreeRegion pl ptr size p) := by
  rcases h with ⟨rfl, hoff, hsize, hin⟩
  rw [poolFreeRegion_region off size hsize hin]
  have hunique : ∀ off', IsRegion pl (pl.base + off) size off' → off' = off := by
    rintro off' ⟨hptr, _⟩
    omega
  refine ⟨iff_of_true rfl ⟨off, rfl, hoff, hsize, hin⟩, ?_, ?_, ?_⟩
  · intro off' hoff' i
    rw [hunique off' hoff']
    exact (freeLoop_spec p off hin i).1
  · intro off' hoff'
    rw [hunique off' hoff']
    exact freeLoop_hint off hsize
  · intro hno
    exact absurd ⟨rfl, hoff, hsize, hin⟩ (hno off)

/-- `pool_free_region` frees exactly or refuses, unless the last byte wraps into the pool. -/
theorem free_exact_iff :
    FreesExactly pl ptr size p (poolFreeRegion pl ptr size p) ↔ FreeSafe pl ptr size := by
  have hbase := pl.base_pos
  by_cases hregion : ∃ off, IsRegion pl ptr size off
  · rcases hregion with ⟨off, hoff⟩
    refine iff_of_true (freesExactly_of_region hoff) ?_
    rcases hoff with ⟨rfl, _, _, hin⟩
    intro _ _ _ _
    omega
  have hno : ∀ off, ¬IsRegion pl ptr size off := fun off hoff => hregion ⟨off, hoff⟩
  -- The checks in the order of the code.
  unfold poolFreeRegion
  by_cases hinvalid : ptr = 0 ∨ size = 0
  · rw [if_pos hinvalid]
    refine iff_of_true (freesExactly_of_refused (by decide) hno) ?_
    intro hlow _ hsize _
    rcases hinvalid with hptr | hzero
    · omega
    · rw [hzero] at hsize
      exact absurd hsize (by decide)
  rw [if_neg hinvalid]
  by_cases houtside : ptr < pl.base ∨ ptr ≥ pl.base + poolSize
  · rw [if_pos houtside]
    refine iff_of_true (freesExactly_of_refused (by decide) hno) ?_
    intro hlow hhigh _ _
    simp only [poolSize] at houtside
    omega
  rw [if_neg houtside]
  simp only [poolSize, not_or, Nat.not_lt, ge_iff_le, Nat.not_le] at houtside
  have hsize : 1 ≤ size.toNat := by
    rw [Nat.one_le_iff_ne_zero]
    intro hzero
    exact hinvalid (Or.inr (BitVec.eq_of_toNat_eq hzero))
  simp only [blocksCount, toNat_lastBlock _ hsize]
  by_cases hlast : (ptr - pl.base + size.toNat - 1) % 2 ^ 16 ≥ 4096
  · rw [if_pos hlast]
    refine iff_of_true (freesExactly_of_refused (by decide) hno) ?_
    intro _ _ _ hwrapped
    exact absurd hwrapped (Nat.not_lt.2 hlast)
  · -- Success is reported for something that is not a region.
    rw [if_neg hlast]
    refine iff_of_false ?_ ?_
    · intro hfrees
      exact hregion (hfrees.status.1 rfl)
    · intro hsafe
      have hin := hsafe houtside.1 houtside.2 hsize (Nat.not_le.1 hlast)
      exact hno (ptr - pl.base) ⟨by omega, by omega, hsize, hin⟩

/-- Freeing 65536 bytes from offset 1 on succeeds and frees nothing. -/
theorem free_not_exact :
    ¬FreesExactly sramPlacement 0x20000001 65536#32 (poolInit Pool.static)
      (poolFreeRegion sramPlacement 0x20000001 65536#32 (poolInit Pool.static)) := by
  intro h
  have hzero : (poolFreeRegion sramPlacement 0x20000001 65536#32 (poolInit Pool.static)).1 = 0 := by
    decide +kernel
  rcases h.status.1 hzero with ⟨off, _, _, _, hin⟩
  have htoNat : (65536#32 : BitVec 32).toNat = 65536 := rfl
  omega

end Allocator
end SdioFat32
