import SdioFat32.Cells.Memory
import SdioFat32.Allocator.PoolRuns
import SdioFat32.Middleware.BlockDevice

/-!
# LentBlock — a block of the pool between `pool_alloc` and `pool_free_region`

`read_sd` and `write_sd` borrow one block for the rest of a request.  Its bytes were free before,
and giving it back restores the bitmap.
-/

namespace SdioFat32
namespace Middleware

open Effects Allocator Cells Proc
open BlockDevice

/-- A byte of `memory_pool` that is not in use. -/
def FreeByte (pl : Placement) (pool : Pool) (x : BitVec 32) : Prop :=
  ∃ k, k < poolSize ∧ pool.free k = true ∧ x.toNat = pl.base + k

/-- `pool_alloc` finds room for a block. -/
def Available (pool : Pool) : Prop :=
  HasRun pool.free 512 pool.lastFreeBlock 4096 ∨ HasRun pool.free 512 0 pool.lastFreeBlock

/-- `pool₁` is `pool` with the block at `ptr` in use. -/
def Lent (pl : Placement) (pool : Pool) (ptr : BitVec 32) (pool₁ : Pool) : Prop :=
  ∃ first, ptr.toNat = pl.base + first ∧ first + 512 ≤ 4096 ∧ FreeRun pool.free first 512 ∧
    pool₁ = takeRegion pool first 512

/-- All blocks are back. -/
structure Restored (pool pool' : Pool) : Prop where
  bitmap : pool'.bitmap = pool.bitmap
  hint : pool'.lastFreeBlock < 4096
  available : Available pool → Available pool'

theorem Restored.refl {pool : Pool} (h : pool.lastFreeBlock < 4096) : Restored pool pool :=
  ⟨rfl, h, id⟩

variable {pl : Placement} {pool pool₁ : Pool} {ptr : BitVec 32}

/-- Giving the block back clears what taking it has marked. -/
theorem Lent.restored (h : Lent pl pool ptr pool₁) :
    Restored pool (poolFreeRegion pl ptr.toNat blockSize pool₁).2 := by
  rcases h with ⟨first, hptr, hin, hrun, rfl⟩
  have hsize : blockSize.toNat = 512 := rfl
  have hfree : poolFreeRegion pl (pl.base + first) blockSize (takeRegion pool first 512) = _ :=
    poolFreeRegion_region first blockSize (by decide) (by rw [hsize]; exact hin)
  rw [hptr, hfree, hsize]
  have hhint : (freeLoop first 512 first (takeRegion pool first 512)).lastFreeBlock =
      min (takeRegion pool first 512).lastFreeBlock first := freeLoop_hint first (by decide)
  have hbitmap : (freeLoop first 512 first (takeRegion pool first 512)).bitmap = pool.bitmap := by
    refine Bitmap.ext_test fun i _ => ?_
    have hused := (freeLoop_spec (takeRegion pool first 512) first hin i).1
    rw [takeRegion_used hin] at hused
    refine Eq.trans hused ?_
    -- What was marked was free before.
    by_cases hi : first ≤ i ∧ i < first + 512
    · simp only [hi, and_self, decide_true, Bool.not_true, Bool.false_and]
      exact (Pool.free_eq_true.1 (hrun i hi.1 hi.2)).symm
    · simp only [hi, decide_false, Bool.not_false, Bool.true_and, Bool.false_or]
      rfl
  refine ⟨hbitmap, by dsimp only; omega, fun _ => Or.inl ⟨first, ?_, hin, ?_⟩⟩
  · dsimp only
    omega
  · intro i hlo hhi
    have hi := hrun i hlo hhi
    rw [Pool.free_eq_true] at hi ⊢
    rw [Pool.used, hbitmap]
    exact hi

/-- A block that is lent was free. -/
theorem Lent.free_byte (h : Lent pl pool ptr pool₁) :
    ∀ x, InRegion ptr 512 x → FreeByte pl pool x := by
  rcases h with ⟨first, hptr, hin, hrun, _⟩
  have hfits := pl.fits
  simp only [poolSize] at hfits
  intro x hx
  rcases hx.exists_nth with ⟨i, hi, rfl⟩
  refine ⟨first + i, by simp only [poolSize]; omega, hrun _ (by omega) (by omega), ?_⟩
  rw [nth, BitVec.toNat_add, BitVec.toNat_ofNat, hptr]
  omega

variable {σ : Type} {env : Env DeviceEvent DeviceEvent.Response σ} {D : σ → Prop} {s : σ}

theorem wp_allocBlock (hhint : pool.lastFreeBlock < 4096) :
    (allocBlock pl blockSize).wp env D
      (fun ptr pool₁ s' => s' = s ∧
        if ptr = 0#32 then pool₁ = pool ∧ ¬Available pool else Lent pl pool ptr pool₁) pool s := by
  have hbase := pl.base_pos
  have hfits := pl.fits
  simp only [poolSize] at hfits
  have hsize : blockSize.toNat = 512 := rfl
  change s = s ∧ if BitVec.ofNat 32 (poolAlloc pl blockSize pool).1 = 0#32 then
      (poolAlloc pl blockSize pool).2 = pool ∧ ¬Available pool
    else Lent pl pool (BitVec.ofNat 32 (poolAlloc pl blockSize pool).1)
      (poolAlloc pl blockSize pool).2
  refine ⟨rfl, ?_⟩
  rcases poolAlloc_cases pl blockSize (by decide) (by decide) hhint with
    ⟨first, _, hin, hrun, hres⟩ | ⟨habove, hbelow, hres⟩
  · rw [hsize] at hin hrun hres
    -- The pool lies in the address space, and not at 0.
    have hptr : (BitVec.ofNat 32 (pl.base + first)).toNat = pl.base + first := by
      rw [BitVec.toNat_ofNat, Nat.mod_eq_of_lt (by omega)]
    have hne : BitVec.ofNat 32 (pl.base + first) ≠ 0#32 := by
      intro h
      rw [h, BitVec.toNat_ofNat] at hptr
      omega
    rw [hres, if_neg hne]
    exact ⟨first, hptr, hin, hrun, rfl⟩
  · rw [hsize] at habove hbelow
    -- Neither pass found room.
    rw [hres, if_pos rfl]
    refine ⟨rfl, ?_⟩
    rintro (h | h)
    · exact habove h
    · exact hbelow h

end Middleware
end SdioFat32
