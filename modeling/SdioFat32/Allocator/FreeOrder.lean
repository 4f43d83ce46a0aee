import SdioFat32.Allocator.PoolRuns

/-!
# FreeOrder — freeing several regions

Freeing a region clears its flags and takes the minimum of the hint and its first block.  Both
commute, also for regions that share a byte of the bitmap, so a pool does not depend on the order
in which regions were freed.
-/

namespace SdioFat32
namespace Allocator

open Cells

/-- `pool_free_region` for one region after the other. -/
def freeRegions (pl : Placement) (rs : List Region) (p : Pool) : Pool :=
  rs.foldl (fun p r => (poolFreeRegion pl (pl.base + r.1) (BitVec.ofNat 32 r.2) p).2) p

variable {pl : Placement} {p q : Pool} {r r' : Region}

/-- A pool is its flags, its hint and whether it is initialised. -/
theorem Pool.ext_used (hused : ∀ i, p.used i = q.used i)
    (hhint : p.lastFreeBlock = q.lastFreeBlock) (hinit : p.initialized = q.initialized) : p = q := by
  have hbitmap : p.bitmap = q.bitmap := Bitmap.ext_test fun i _ => hused i
  cases p
  cases q
  cases hbitmap
  cases hhint
  cases hinit
  rfl

/-- A region that can be freed: not empty and inside the pool. -/
structure Freeable (r : Region) : Prop where
  nonempty : 1 ≤ r.2
  inside : r.1 + r.2 ≤ 4096

theorem Freeable.toNat_size (h : Freeable r) : (BitVec.ofNat 32 r.2).toNat = r.2 := by
  have hin := h.inside
  rw [BitVec.toNat_ofNat, Nat.mod_eq_of_lt (by omega)]

/-- What freeing a region does. -/
theorem Freeable.freed (h : Freeable r) (pl : Placement) (p : Pool) :
    let p' := (poolFreeRegion pl (pl.base + r.1) (BitVec.ofNat 32 r.2) p).2
    (∀ i, p'.used i = (!decide (r.1 ≤ i ∧ i < r.1 + r.2) && p.used i)) ∧
      p'.lastFreeBlock = min p.lastFreeBlock r.1 ∧ p'.initialized = p.initialized := by
  have hsize := h.toNat_size
  have hregion : poolFreeRegion pl (pl.base + r.1) (BitVec.ofNat 32 r.2) p = _ :=
    poolFreeRegion_region r.1 _ (hsize.symm ▸ h.nonempty) (hsize.symm ▸ h.inside)
  dsimp only
  rw [hregion, hsize]
  refine ⟨fun i => (freeLoop_spec p r.1 h.inside i).1, freeLoop_hint r.1 h.nonempty, ?_⟩
  exact (freeLoop_spec p r.1 h.inside 0).2

/-- Two regions may be freed in either order. -/
theorem free_comm (h : Freeable r) (h' : Freeable r') :
    freeRegions pl [r, r'] p = freeRegions pl [r', r] p := by
  unfold freeRegions
  simp only [List.foldl_cons, List.foldl_nil]
  -- The pool after either free, and then after the other one.
  generalize hp₁ : (poolFreeRegion pl (pl.base + r.1) (BitVec.ofNat 32 r.2) p).2 = p₁
  generalize hp₂ : (poolFreeRegion pl (pl.base + r'.1) (BitVec.ofNat 32 r'.2) p).2 = p₂
  have h₁ := h.freed pl p
  have h₂ := h'.freed pl p
  rw [hp₁] at h₁
  rw [hp₂] at h₂
  rcases h₁ with ⟨hused₁, hhint₁, hinit₁⟩
  rcases h₂ with ⟨hused₂, hhint₂, hinit₂⟩
  rcases h'.freed pl p₁ with ⟨hused₁₂, hhint₁₂, hinit₁₂⟩
  rcases h.freed pl p₂ with ⟨hused₂₁, hhint₂₁, hinit₂₁⟩
  refine Pool.ext_used ?_ ?_ ?_
  · intro i
    rw [hused₁₂, hused₂₁, hused₁, hused₂, Bool.and_left_comm]
  · rw [hhint₁₂, hhint₂₁, hhint₁, hhint₂, Nat.min_right_comm]
  · rw [hinit₁₂, hinit₂₁, hinit₁, hinit₂]

theorem freeRegions_perm {rs rs' : List Region} (hperm : rs.Perm rs')
    (hrs : ∀ r ∈ rs, Freeable r) (pl : Placement) (p : Pool) :
    freeRegions pl rs p = freeRegions pl rs' p :=
  hperm.foldl_eq' (fun r hr r' hr' _ => free_comm (hrs r hr) (hrs r' hr')) p

/-- Live regions may be freed in any order: the bitmap and the hint come out the same, and so does
everything that is asked of the pool later. -/
theorem free_order {cs : List PoolCall} {st : PoolState} {rs rs' : List Region}
    (hrun : runCalls pl cs PoolState.start = some st) (hlive : ∀ r ∈ rs, r ∈ st.live)
    (hperm : rs.Perm rs') :
    (freeRegions pl rs st.pool).bitmap = (freeRegions pl rs' st.pool).bitmap ∧
      (freeRegions pl rs st.pool).lastFreeBlock = (freeRegions pl rs' st.pool).lastFreeBlock ∧
      ∀ size, poolAlloc pl size (freeRegions pl rs st.pool) =
        poolAlloc pl size (freeRegions pl rs' st.pool) := by
  have h : Accounted st := accounted_runCalls accounted_start hrun
  -- Live regions are not empty and lie in the pool, whatever calls have led there.
  have hfreeable : ∀ r ∈ rs, Freeable r := fun r hr =>
    ⟨h.nonempty r (hlive r hr), h.regions.inside r (hlive r hr)⟩
  have hsame := freeRegions_perm hperm hfreeable pl st.pool
  exact ⟨by rw [hsame], by rw [hsame], fun size => by rw [hsame]⟩

/-- Two regions that share a byte of the bitmap. -/
theorem free_order_two_regions :
    ∃ st, runCalls sramPlacement [.alloc 10, .alloc 20] PoolState.start = some st ∧
      (freeRegions sramPlacement [(0, 10), (10, 20)] st.pool).bitmap =
        (freeRegions sramPlacement [(10, 20), (0, 10)] st.pool).bitmap := by
  have hlive : (runCalls sramPlacement [.alloc 10, .alloc 20] PoolState.start).map
      (fun st => st.live) = some [(10, 20), (0, 10)] := by
    decide +kernel
  rcases Option.map_eq_some_iff.1 hlive with ⟨st, hrun, hst⟩
  refine ⟨st, hrun, (free_order hrun ?_ (List.Perm.swap _ _ [])).1⟩
  intro r hr
  rw [hst]
  simpa [or_comm] using hr

end Allocator
end SdioFat32
