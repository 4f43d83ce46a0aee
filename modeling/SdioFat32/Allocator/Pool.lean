import SdioFat32.Cells.PackedBits
import SdioFat32.Cells.FirstFit
import Mathlib.Algebra.Group.Nat.Defs

/-!
# Pool — the bitmap allocator of `allocator/pool_memory.c`

One bitmap bit stands for one byte of `memory_pool` (`BLOCK_SIZE` is 1).  Pointers are addresses;
where the linker put `memory_pool` is a `Placement`, and `NULL` is the address 0.  The contents of
`memory_pool` are not part of the state: no function of the file reads them.

The `uint16_t` indices of the source are naturals here.  `idxBlock` and `i` stop at or below 4096,
so they do not wrap; the two conversions that can lose bits, of a 32-bit size and of `last_block`,
are written out.
-/

namespace SdioFat32
namespace Allocator

open Cells

abbrev poolSize : Nat := 4096
abbrev blocksCount : Nat := 4096

def poolErrOutOfMemory : Int := -2
def poolErrPointerOutOfRange : Int := -4
def poolErrAllocationFailed : Int := -5
def poolErrInvalidArgument : Int := -6

/-- The address of `memory_pool`: not `NULL`, with room for the pool in 32 bits. -/
structure Placement where
  base : Nat
  base_pos : 0 < base
  fits : base + poolSize ≤ 2 ^ 32

/-- `memory_pool` at the start of the SRAM of the STM32F407. -/
def sramPlacement : Placement :=
  { base := 0x20000000
    base_pos := by decide
    fits := by decide }

structure Pool where
  bitmap : Bitmap 512
  lastFreeBlock : Nat
  initialized : Bool

/-- The zero-initialised statics of the file. -/
def Pool.static : Pool :=
  { bitmap := Vector.replicate 512 0#8
    lastFreeBlock := 0
    initialized := false }

def Pool.used (p : Pool) (i : Nat) : Bool := p.bitmap.test i

def Pool.free (p : Pool) (i : Nat) : Bool := !p.used i

/-! ## Allocation -/

/-- `(size + BLOCK_SIZE - 1) / BLOCK_SIZE`, stored in a `uint16_t`. -/
def sizeInBlocks (size : BitVec 32) : Nat :=
  (((size + 1#32 - 1#32) / 1#32).setWidth 16).toNat

/-- One pass of the search: `idxBlock` from `start` up to `stop`. -/
def searchPass (p : Pool) (blocksNeeded start stop : Nat) : Option Nat :=
  scan p.free blocksNeeded (stop - start) start 0 0

/-- `while (last_free_block < BLOCKS_COUNT && bit set) last_free_block++` -/
def skipUsed (bitmap : Bitmap 512) : Nat → Nat → Nat
  | 0, idx => idx
  | steps + 1, idx => if bitmap.test idx then skipUsed bitmap steps (idx + 1) else idx

/-- The body of the successful branch: mark the region and move the hint behind it. -/
def takeRegion (p : Pool) (first blocksNeeded : Nat) : Pool :=
  let bitmap := p.bitmap.markFrom first blocksNeeded
  let next := first + blocksNeeded
  let hint := skipUsed bitmap (blocksCount - next) next
  { p with
    bitmap := bitmap
    lastFreeBlock := if hint ≥ blocksCount then 0 else hint }

def poolAlloc (pl : Placement) (size : BitVec 32) (p : Pool) : Nat × Pool :=
  let blocksNeeded := sizeInBlocks size
  if blocksNeeded > blocksCount then (0, p)
  else
    -- Pass 0, from `search_start`, which is a `uint16_t`.
    match searchPass p blocksNeeded (p.lastFreeBlock % 2 ^ 16) blocksCount with
    | some first => (pl.base + first, takeRegion p first blocksNeeded)
    | none =>
      -- Pass 1; the run counter is reset in between.
      match searchPass p blocksNeeded 0 p.lastFreeBlock with
      | some first => (pl.base + first, takeRegion p first blocksNeeded)
      | none => (0, p)

/-! ## Initialisation and release -/

def poolInit (p : Pool) : Pool :=
  if p.initialized then p
  else
    { bitmap := Vector.replicate 512 0#8
      lastFreeBlock := 0
      initialized := true }

def poolFree (p : Pool) : Pool :=
  if p.initialized = false then p
  else
    { bitmap := Vector.replicate 512 0#8
      lastFreeBlock := 0
      initialized := false }

/-- The loop of `pool_free_region`: `steps` blocks from `i` on are still to be cleared. -/
def freeLoop (firstBlock : Nat) : Nat → Nat → Pool → Pool
  | 0, _, p => p
  | steps + 1, i, p =>
      let bitmap := if p.bitmap.test i then p.bitmap.clear i else p.bitmap
      -- The hint is tested in every iteration, after a move against its new value.
      let hint := if i < p.lastFreeBlock then firstBlock else p.lastFreeBlock
      freeLoop firstBlock steps (i + 1) { p with bitmap := bitmap, lastFreeBlock := hint }

def poolFreeRegion (pl : Placement) (ptr : Nat) (size : BitVec 32) (p : Pool) : Int × Pool :=
  if ptr = 0 ∨ size = 0 then (poolErrInvalidArgument, p)
  else if ptr < pl.base ∨ ptr ≥ pl.base + poolSize then (poolErrPointerOutOfRange, p)
  else
    let firstBlock := ptr - pl.base
    let blocksToFree := sizeInBlocks size
    -- `last_block` wraps at 16 bits.
    let lastBlock := (BitVec.ofNat 16 firstBlock + BitVec.ofNat 16 blocksToFree - 1#16).toNat
    if lastBlock ≥ blocksCount then (poolErrOutOfMemory, p)
    else (0, freeLoop firstBlock (lastBlock + 1 - firstBlock) firstBlock p)

/-! ## What each operation does, flag by flag -/

variable {p : Pool} {pl : Placement} {n first : Nat}

theorem sizeInBlocks_eq (size : BitVec 32) : sizeInBlocks size = size.toNat % 2 ^ 16 := by
  unfold sizeInBlocks
  have hcancel : size + 1#32 - 1#32 = size := by bv_omega
  rw [hcancel, BitVec.toNat_setWidth, BitVec.toNat_udiv]
  simp

theorem sizeInBlocks_of_le {size : BitVec 32} (h : size.toNat ≤ 4096) :
    sizeInBlocks size = size.toNat := by
  rw [sizeInBlocks_eq]
  exact Nat.mod_eq_of_lt (by omega)

theorem Pool.free_eq_true {i : Nat} : p.free i = true ↔ p.used i = false := by
  simp [Pool.free]

theorem searchPass_some {start stop : Nat} (h : searchPass p n start stop = some first) :
    start ≤ first ∧ first + max 1 n ≤ max start stop ∧ FreeRun p.free first (max 1 n) := by
  unfold searchPass at h
  rw [scan_max_one] at h
  obtain ⟨hlo, hhi, hrun⟩ := scan_some (Or.inl rfl) (by omega) h
  exact ⟨by omega, by omega, hrun⟩

theorem searchPass_eq_none_iff {start stop : Nat} (hle : start ≤ stop) :
    searchPass p n start stop = none ↔ ¬HasRun p.free (max 1 n) start stop := by
  unfold searchPass
  rw [scan_max_one]
  exact scan_eq_none_iff (by omega) hle

theorem takeRegion_lastFreeBlock : (takeRegion p first n).lastFreeBlock < 4096 := by
  unfold takeRegion
  simp only [blocksCount]
  split <;> omega

theorem takeRegion_used (h : first + n ≤ 4096) (i : Nat) :
    (takeRegion p first n).used i = (decide (first ≤ i ∧ i < first + n) || p.used i) :=
  Bitmap.test_markFrom h i

/-- Every answer of `pool_alloc` to a request that is not refused at once. -/
theorem poolAlloc_search (pl : Placement) (size : BitVec 32) (hle : size.toNat % 2 ^ 16 ≤ 4096)
    (hhint : p.lastFreeBlock < 4096) :
    (∃ first, (p.lastFreeBlock ≤ first ∨ first + max 1 (size.toNat % 2 ^ 16) ≤ p.lastFreeBlock) ∧
      first + max 1 (size.toNat % 2 ^ 16) ≤ 4096 ∧
      FreeRun p.free first (max 1 (size.toNat % 2 ^ 16)) ∧
      poolAlloc pl size p = (pl.base + first, takeRegion p first (size.toNat % 2 ^ 16))) ∨
    (¬HasRun p.free (max 1 (size.toNat % 2 ^ 16)) p.lastFreeBlock 4096 ∧
      ¬HasRun p.free (max 1 (size.toNat % 2 ^ 16)) 0 p.lastFreeBlock ∧
      poolAlloc pl size p = (0, p)) := by
  have hmod : p.lastFreeBlock % 2 ^ 16 = p.lastFreeBlock := Nat.mod_eq_of_lt (by omega)
  unfold poolAlloc
  simp only [sizeInBlocks_eq, hmod, blocksCount]
  rw [if_neg (by omega)]
  generalize size.toNat % 2 ^ 16 = n at hle
  -- The two passes in the order of the code.
  cases hfirst : searchPass p n p.lastFreeBlock 4096 with
  | some first =>
      rcases searchPass_some hfirst with ⟨hlo, hhi, hrun⟩
      exact Or.inl ⟨first, Or.inl hlo, by omega, hrun, rfl⟩
  | none =>
      have hnone := (searchPass_eq_none_iff (by omega)).1 hfirst
      cases hsecond : searchPass p n 0 p.lastFreeBlock with
      | some first =>
          rcases searchPass_some hsecond with ⟨_, hhi, hrun⟩
          exact Or.inl ⟨first, Or.inr (by omega), by omega, hrun, rfl⟩
      | none =>
          have hnone' := (searchPass_eq_none_iff (Nat.zero_le _)).1 hsecond
          exact Or.inr ⟨hnone, hnone', rfl⟩

/-- Every answer of `pool_alloc`, with the search that led to it. -/
theorem poolAlloc_cases (pl : Placement) (size : BitVec 32) (hsize : 1 ≤ size.toNat)
    (hle : size.toNat ≤ 4096) (hhint : p.lastFreeBlock < 4096) :
    (∃ first, (p.lastFreeBlock ≤ first ∨ first + size.toNat ≤ p.lastFreeBlock) ∧
      first + size.toNat ≤ 4096 ∧ FreeRun p.free first size.toNat ∧
      poolAlloc pl size p = (pl.base + first, takeRegion p first size.toNat)) ∨
    (¬HasRun p.free size.toNat p.lastFreeBlock 4096 ∧
      ¬HasRun p.free size.toNat 0 p.lastFreeBlock ∧ poolAlloc pl size p = (0, p)) := by
  have hmod : size.toNat % 2 ^ 16 = size.toNat := Nat.mod_eq_of_lt (by omega)
  have hone : max 1 size.toNat = size.toNat := by omega
  have hsearch := poolAlloc_search pl size (by omega) hhint
  rw [hmod, hone] at hsearch
  exact hsearch

theorem freeLoop_spec (p : Pool) (firstBlock : Nat) {steps i : Nat} (h : i + steps ≤ 4096)
    (j : Nat) :
    (freeLoop firstBlock steps i p).used j =
        (!decide (i ≤ j ∧ j < i + steps) && p.used j) ∧
      (freeLoop firstBlock steps i p).initialized = p.initialized := by
  induction steps generalizing i p with
  | zero =>
      have hempty : ¬(i ≤ j ∧ j < i + 0) := by omega
      simp only [freeLoop, hempty, decide_false, Bool.not_false, Bool.true_and, and_self]
  | succ steps ih =>
      -- A bit that is already clear is left alone, which is the same as clearing it.
      have hclear : ∀ q : Pool, q.bitmap =
          (if p.bitmap.test i then p.bitmap.clear i else p.bitmap) →
          q.used j = (!decide (j = i) && p.used j) := by
        intro q hq
        unfold Pool.used
        rw [hq]
        by_cases hset : p.bitmap.test i = true
        · rw [if_pos hset, Bitmap.test_clear (by omega)]
        · rw [if_neg hset]
          by_cases hji : j = i
          · simp [hji, hset]
          · simp [hji]
      rw [freeLoop]
      rcases ih _ (i := i + 1) (by omega) with ⟨hused, hinit⟩
      refine ⟨?_, hinit⟩
      rw [hused, hclear _ rfl, ← Bool.and_assoc, ← Bool.not_or, ← Bool.decide_or]
      -- What is left is `i = j` or `i + 1 ≤ j` in place of `i ≤ j`.
      congr 3
      apply propext
      omega

theorem freeLoop_lastFreeBlock (firstBlock : Nat) (steps i : Nat) :
    (freeLoop firstBlock steps i p).lastFreeBlock = p.lastFreeBlock ∨
      (freeLoop firstBlock steps i p).lastFreeBlock = firstBlock := by
  induction steps generalizing i p with
  | zero => exact Or.inl rfl
  | succ steps ih =>
      rw [freeLoop]
      rcases ih (i := i + 1) (p := _) with h | h
      · rw [h]
        by_cases hlt : i < p.lastFreeBlock
        · exact Or.inr (if_pos hlt)
        · exact Or.inl (if_neg hlt)
      · exact Or.inr h

/-- Behind the hint the loop does not move it. -/
theorem freeLoop_hint_of_le (firstBlock : Nat) {steps i : Nat} (h : p.lastFreeBlock ≤ i) :
    (freeLoop firstBlock steps i p).lastFreeBlock = p.lastFreeBlock := by
  induction steps generalizing i p with
  | zero => rfl
  | succ steps ih =>
      have hstay : (if i < p.lastFreeBlock then firstBlock else p.lastFreeBlock) =
          p.lastFreeBlock := if_neg (by omega)
      rw [freeLoop, hstay, ih]
      exact Nat.le_succ_of_le h

/-- The loop takes the minimum of the hint and its first block. -/
theorem freeLoop_hint (firstBlock : Nat) {steps : Nat} (hsteps : 0 < steps) :
    (freeLoop firstBlock steps firstBlock p).lastFreeBlock = min p.lastFreeBlock firstBlock := by
  cases steps with
  | zero => exact absurd hsteps (Nat.lt_irrefl 0)
  | succ steps =>
      rw [freeLoop]
      by_cases hlt : firstBlock < p.lastFreeBlock
      · rw [if_pos hlt, Nat.min_eq_right (Nat.le_of_lt hlt)]
        exact freeLoop_hint_of_le firstBlock (Nat.le_succ firstBlock)
      · have hle : p.lastFreeBlock ≤ firstBlock := Nat.not_lt.1 hlt
        rw [if_neg hlt, Nat.min_eq_left hle]
        exact freeLoop_hint_of_le firstBlock (Nat.le_succ_of_le hle)

/-- Freeing a region that lies in the pool clears exactly its bits. -/
theorem poolFreeRegion_region (off : Nat) (size : BitVec 32) (hsize : 1 ≤ size.toNat)
    (hin : off + size.toNat ≤ 4096) :
    poolFreeRegion pl (pl.base + off) size p = (0, freeLoop off size.toNat off p) := by
  have hpos := pl.base_pos
  have hne : size ≠ 0 := by
    intro h
    rw [h] at hsize
    exact absurd hsize (by decide)
  have hnull : ¬(pl.base + off = 0 ∨ size = 0) := by
    rintro (h | h)
    · omega
    · exact hne h
  have hrange : ¬(pl.base + off < pl.base ∨ pl.base + off ≥ pl.base + 4096) := by omega
  have hlast : (BitVec.ofNat 16 off + BitVec.ofNat 16 size.toNat - 1#16).toNat =
      off + size.toNat - 1 := by
    rw [BitVec.toNat_sub, BitVec.toNat_add, BitVec.toNat_ofNat, BitVec.toNat_ofNat,
      BitVec.toNat_ofNat]
    omega
  unfold poolFreeRegion
  simp only [poolSize, blocksCount, if_neg hnull, if_neg hrange,
    sizeInBlocks_of_le (show size.toNat ≤ 4096 by omega), Nat.add_sub_cancel_left, hlast]
  have hok : ¬off + size.toNat - 1 ≥ 4096 := by omega
  have hsteps : off + size.toNat - 1 + 1 - off = size.toNat := by omega
  rw [if_neg hok, hsteps]

end Allocator
end SdioFat32
