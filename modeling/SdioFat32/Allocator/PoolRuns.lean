import SdioFat32.Allocator.Pool
import SdioFat32.Cells.Regions

/-!
# PoolRuns — the allocator over whole runs

A run is a list of calls.  Beside the pool a run keeps the account the callers keep: the live
regions.  `Accounted` says that the bitmap and the account agree; each call preserves it, so it
holds after every run, and every region handed out is clear of all live ones.

Completeness is a different matter.  The two passes of `pool_alloc` meet at `last_free_block`, and
`pool_free_region` moves the hint without looking at the bit before it, so a free run can straddle
the hint.  `pool_alloc` answers `NULL` exactly when neither side of the hint has a long enough run.
-/

namespace SdioFat32
namespace Allocator

open Cells

/-- A pool together with the regions its callers hold. -/
structure PoolState where
  pool : Pool
  live : List Region

inductive PoolCall where
  | alloc (size : BitVec 32)
  | freeRegion (off : Nat) (size : BitVec 32)
  | init
  | free

def PoolState.start : PoolState :=
  { pool := poolInit Pool.static
    live := [] }

/-- One call.  `none`: a call the callers do not make, since the request is not of 1 to 4096
bytes, the region is not live, or the pool has not been initialised again after `pool_free`. -/
def PoolCall.run (pl : Placement) : PoolCall → PoolState → Option PoolState
  | .alloc size, st =>
      if st.pool.initialized = true ∧ 1 ≤ size.toNat ∧ size.toNat ≤ poolSize then
        let (ptr, pool) := poolAlloc pl size st.pool
        some
          { pool := pool
            live := if ptr = 0 then st.live else (ptr - pl.base, size.toNat) :: st.live }
      else none
  | .freeRegion off size, st =>
      if st.pool.initialized = true ∧ (off, size.toNat) ∈ st.live then
        some
          { pool := (poolFreeRegion pl (pl.base + off) size st.pool).2
            live := st.live.erase (off, size.toNat) }
      else none
  | .init, st => some { st with pool := poolInit st.pool }
  | .free, st => some { pool := poolFree st.pool, live := [] }

def runCalls (pl : Placement) : List PoolCall → PoolState → Option PoolState
  | [], st => some st
  | c :: cs, st => (c.run pl st).bind (runCalls pl cs)

/-- The set bits are the live regions, which are sound, and the hint is inside the pool. -/
structure Accounted (st : PoolState) : Prop where
  bits : ∀ i, i < poolSize → (st.pool.used i = true ↔ i ∈ occupied st.live)
  regions : Sound poolSize st.live
  hint : st.pool.lastFreeBlock < blocksCount
  nonempty : ∀ r ∈ st.live, 1 ≤ r.2
  -- Between `pool_free` and the next `pool_init` nothing is live.
  idle : st.pool.initialized = false → st.live = []

variable {pl : Placement} {st st' : PoolState}

/-! ## One call -/

/-- A free run of the bitmap is clear of every live region. -/
theorem Accounted.freeRun_clear (h : Accounted st) {first n : Nat} (hin : first + n ≤ 4096)
    (hrun : FreeRun st.pool.free first n) :
    ∀ i ∈ Region.cells (first, n), i ∉ occupied st.live := by
  intro i hi hocc
  -- The run is free in the bitmap, and a live cell is set there.
  have hfree : st.pool.used i = false := Pool.free_eq_true.1 (hrun i hi.1 hi.2)
  have hlt : i < poolSize := lt_of_lt_of_le hi.2 hin
  simp [(h.bits i hlt).2 hocc] at hfree

theorem Accounted.take (h : Accounted st) {first n : Nat} (hn : 1 ≤ n) (hin : first + n ≤ 4096)
    (hinit : st.pool.initialized = true) (hrun : FreeRun st.pool.free first n) :
    Accounted { pool := takeRegion st.pool first n, live := (first, n) :: st.live } where
  bits := by
    intro i hi
    simp [takeRegion_used hin, h.bits i hi]
  regions := h.regions.cons (h.freeRun_clear hin hrun) hin
  hint := takeRegion_lastFreeBlock
  nonempty := by
    intro r hr
    rcases List.mem_cons.1 hr with rfl | htail
    · exact hn
    · exact h.nonempty r htail
  idle := by
    intro hidle
    have : st.pool.initialized = false := hidle
    simp [hinit] at this

theorem Accounted.release (h : Accounted st) {off : Nat} {size : BitVec 32}
    (hlive : (off, size.toNat) ∈ st.live) :
    Accounted
      { pool := (poolFreeRegion pl (pl.base + off) size st.pool).2
        live := st.live.erase (off, size.toNat) } := by
  have hsize : 1 ≤ size.toNat := h.nonempty _ hlive
  have hin : off + size.toNat ≤ 4096 := h.regions.inside _ hlive
  rw [poolFreeRegion_region off size hsize hin]
  have hspec := fun j => freeLoop_spec st.pool off hin j
  refine ⟨?_, h.regions.erase _, ?_, ?_, ?_⟩
  · intro i hi
    rw [mem_occupied_erase h.regions hlive, ← h.bits i hi, (hspec i).1]
    simp only [Bool.and_eq_true, Bool.not_eq_true', decide_eq_false_iff_not, Region.mem_cells]
    exact and_comm
  · have hoff : off < blocksCount := by
      simp only [blocksCount]
      omega
    rcases freeLoop_lastFreeBlock (p := st.pool) off size.toNat off with hkeep | hmove
    · exact lt_of_eq_of_lt hkeep h.hint
    · exact lt_of_eq_of_lt hmove hoff
  · intro r hr
    exact h.nonempty r (List.mem_of_mem_erase hr)
  · intro hidle
    -- Freeing does not touch `initialized`, and the region was live.
    have hnil : st.live = [] := h.idle ((hspec 0).2 ▸ hidle)
    simp [hnil] at hlive

theorem accounted_of_blank {b : Bool} :
    Accounted
      { pool := { bitmap := Vector.replicate 512 0#8, lastFreeBlock := 0, initialized := b }
        live := [] } where
  bits := by simp [Pool.used]
  regions := Sound.nil
  hint := Nat.zero_lt_succ _
  nonempty := by simp
  idle := fun _ => rfl

theorem Accounted.call (h : Accounted st) {c : PoolCall} (hc : c.run pl st = some st') :
    Accounted st' := by
  cases c with
  | alloc size =>
      simp only [PoolCall.run] at hc
      split at hc
      · rename_i hlegal
        rcases hlegal with ⟨hinit, hsize, hle⟩
        have hbase := pl.base_pos
        rcases poolAlloc_cases pl size hsize hle h.hint with
          ⟨first, _, hin, hrun, hres⟩ | ⟨_, _, hres⟩
        · -- The pool does not start at `NULL`, so the answer is taken for a region.
          have hptr : ¬pl.base + first = 0 := by omega
          have hoff : pl.base + first - pl.base = first := by omega
          simp only [hres, if_neg hptr, hoff, Option.some.injEq] at hc
          exact hc ▸ h.take hsize hin hinit hrun
        · simp only [hres, if_true, Option.some.injEq] at hc
          exact hc ▸ h
      · cases hc
  | freeRegion off size =>
      simp only [PoolCall.run] at hc
      split at hc
      · rename_i hlegal
        exact Option.some.inj hc ▸ h.release hlegal.2
      · cases hc
  | init =>
      simp only [PoolCall.run, Option.some.injEq] at hc
      subst hc
      unfold poolInit
      -- A second `pool_init` does nothing; the first one after `pool_free` finds nothing live.
      by_cases hinit : st.pool.initialized = true
      · simpa only [if_pos hinit] using h
      · simp only [if_neg hinit, h.idle (by simpa using hinit)]
        exact accounted_of_blank
  | free =>
      simp only [PoolCall.run, Option.some.injEq] at hc
      subst hc
      unfold poolFree
      by_cases hinit : st.pool.initialized = false
      · have hnil := h.idle hinit
        simpa only [if_pos hinit, ← hnil] using h
      · simp only [if_neg hinit]
        exact accounted_of_blank

/-! ## Whole runs -/

theorem accounted_runCalls {cs : List PoolCall} (h : Accounted st)
    (hrun : runCalls pl cs st = some st') : Accounted st' := by
  induction cs generalizing st with
  | nil => exact Option.some.inj hrun ▸ h
  | cons c cs ih =>
      rcases Option.bind_eq_some_iff.1 hrun with ⟨st₁, hcall, hrest⟩
      exact ih (h.call hcall) hrest

theorem accounted_start : Accounted PoolState.start := accounted_of_blank

/-- After every run the bitmap is the union of the live regions, these are disjoint and inside
the pool, the hint is inside the pool, and a region handed out next is clear of all live ones. -/
theorem pool_accounting {cs : List PoolCall} (hrun : runCalls pl cs PoolState.start = some st) :
    (∀ i, i < 4096 → (st.pool.used i = true ↔ ∃ r ∈ st.live, r.1 ≤ i ∧ i < r.1 + r.2)) ∧
    st.live.Pairwise (fun r r' => Disjoint (Region.cells r) (Region.cells r')) ∧
    (∀ r ∈ st.live, r.1 + r.2 ≤ 4096) ∧
    st.pool.lastFreeBlock < 4096 ∧
    (∀ size : BitVec 32, 1 ≤ size.toNat → size.toNat ≤ 4096 →
      (poolAlloc pl size st.pool).1 ≠ 0 →
      pl.base ≤ (poolAlloc pl size st.pool).1 ∧
      (poolAlloc pl size st.pool).1 + size.toNat ≤ pl.base + 4096 ∧
      ∀ r ∈ st.live,
        Disjoint (Region.cells ((poolAlloc pl size st.pool).1 - pl.base, size.toNat))
          (Region.cells r)) := by
  have h : Accounted st := accounted_runCalls accounted_start hrun
  refine ⟨h.bits, h.regions.apart, h.regions.inside, h.hint, ?_⟩
  intro size hsize hle hptr
  rcases poolAlloc_cases pl size hsize hle h.hint with
    ⟨first, _, hin, hfree, hres⟩ | ⟨_, _, hres⟩
  · have hoff : pl.base + first - pl.base = first := by omega
    simp only [hres, hoff]
    refine ⟨by omega, by omega, ?_⟩
    intro r hr
    refine Set.disjoint_left.2 ?_
    intro i hi hir
    exact h.freeRun_clear hin hfree i hi (mem_occupied_of_mem hr hir)
  · simp [hres] at hptr

/-- Two requests in a fresh pool. -/
theorem pool_accounting_two_regions :
    ∃ st, runCalls sramPlacement [.alloc 10, .alloc 20] PoolState.start = some st ∧
      (∀ i, i < 4096 → (st.pool.used i = true ↔ ∃ r ∈ st.live, r.1 ≤ i ∧ i < r.1 + r.2)) ∧
      st.live.Pairwise (fun r r' => Disjoint (Region.cells r) (Region.cells r')) := by
  have hrun : (runCalls sramPlacement [.alloc 10, .alloc 20] PoolState.start).isSome := by
    decide +kernel
  rcases Option.isSome_iff_exists.1 hrun with ⟨st, hst⟩
  rcases pool_accounting hst with ⟨hbits, hapart, _⟩
  exact ⟨st, hst, hbits, hapart⟩

/-! ## Completeness of the search -/

/-- `pool_alloc` answers `NULL` exactly when neither side of the hint has a long enough run. -/
theorem poolAlloc_null_iff (h : Accounted st) {size : BitVec 32} (hsize : 1 ≤ size.toNat)
    (hle : size.toNat ≤ 4096) :
    (poolAlloc pl size st.pool).1 = 0 ↔
      ¬HasRun st.pool.free size.toNat st.pool.lastFreeBlock 4096 ∧
        ¬HasRun st.pool.free size.toNat 0 st.pool.lastFreeBlock := by
  have hbase := pl.base_pos
  rcases poolAlloc_cases pl size hsize hle h.hint with
    ⟨first, hside, hin, hrun, hres⟩ | ⟨habove, hbelow, hres⟩
  · have hptr : ¬pl.base + first = 0 := by omega
    simp only [hres, hptr, false_iff, not_and, not_not]
    intro habove
    rcases hside with hlo | hhi
    · exact absurd ⟨first, hlo, hin, hrun⟩ habove
    · exact ⟨first, Nat.zero_le _, hhi, hrun⟩
  · simp only [hres, true_iff]
    exact ⟨habove, hbelow⟩

/-- A `NULL` answer means that the pool has no long enough run exactly when the hint does not cut
every such run. -/
theorem pool_completeness_iff {cs : List PoolCall}
    (hrun : runCalls pl cs PoolState.start = some st) {size : BitVec 32}
    (hsize : 1 ≤ size.toNat) (hle : size.toNat ≤ 4096) :
    ((poolAlloc pl size st.pool).1 = 0 → ¬HasRun st.pool.free size.toNat 0 4096) ↔
      (HasRun st.pool.free size.toNat 0 4096 →
        HasRun st.pool.free size.toNat st.pool.lastFreeBlock 4096 ∨
          HasRun st.pool.free size.toNat 0 st.pool.lastFreeBlock) := by
  have h : Accounted st := accounted_runCalls accounted_start hrun
  rw [poolAlloc_null_iff h hsize hle, ← not_or]
  exact not_imp_not

/-- The hint is right behind the only region, and the request is for more than is left. -/
theorem pool_completeness_iff_after_alloc :
    ∃ st, runCalls sramPlacement [.alloc 10] PoolState.start = some st ∧
      (poolAlloc sramPlacement 4090#32 st.pool).1 = 0 ∧ ¬HasRun st.pool.free 4090 0 4096 := by
  have hexec : (runCalls sramPlacement [.alloc 10] PoolState.start).map
      (fun st => (st.live, st.pool.lastFreeBlock)) = some ([(0, 10)], 10) := by
    decide +kernel
  rcases Option.map_eq_some_iff.1 hexec with ⟨st, hrun, hst⟩
  rcases Prod.mk.inj hst with ⟨hlive, hhint⟩
  have h : Accounted st := accounted_runCalls accounted_start hrun
  have hnull : (poolAlloc sramPlacement 4090#32 st.pool).1 = 0 := by
    refine (poolAlloc_null_iff h (by decide) (by decide)).2 ⟨?_, ?_⟩
    · rintro ⟨first, hlo, hhi, _⟩
      have : first + 4090 ≤ 4096 := hhi
      omega
    · rintro ⟨first, _, hhi, _⟩
      have : first + 4090 ≤ st.pool.lastFreeBlock := hhi
      omega
  refine ⟨st, hrun, hnull, (pool_completeness_iff hrun (by decide) (by decide)).2 ?_ hnull⟩
  -- A free run starts behind the region, and that is at the hint or above it.
  rintro ⟨first, _, hin, hfree⟩
  refine Or.inl ⟨first, ?_, hin, hfree⟩
  by_contra hbelow
  have hinside : first < 0 + 10 := by omega
  have hclear := h.freeRun_clear hin hfree first
    ⟨le_rfl, Nat.lt_add_of_pos_right (Nat.zero_lt_succ _)⟩
  rw [hlive, mem_occupied_cons] at hclear
  exact hclear (Or.inl ⟨Nat.zero_le _, hinside⟩)

/-- With nothing live every bit is clear, wherever the hint is. -/
theorem Accounted.hasRun_of_idle (h : Accounted st) (hlive : st.live = []) :
    HasRun st.pool.free 4096 0 4096 := by
  refine ⟨0, le_rfl, le_rfl, ?_⟩
  intro i _ hi
  refine Pool.free_eq_true.2 ?_
  rw [← Bool.not_eq_true]
  intro hused
  have hocc := (h.bits i (by simpa using hi)).1 hused
  simp [hlive] at hocc

/-- Three requests freed out of order: the hint is left at 10 in an empty pool. -/
def straddlingCalls : List PoolCall :=
  [.alloc 10, .alloc 10, .freeRegion 0 10, .alloc 15, .freeRegion 10 10, .freeRegion 20 15]

theorem straddlingCalls_result :
    (runCalls sramPlacement straddlingCalls PoolState.start).map
      (fun st => (st.live, st.pool.lastFreeBlock)) = some ([], 10) := by
  decide +kernel

/-- After these calls everything has been freed, and a request for the whole pool is refused. -/
theorem pool_refuses_free_pool :
    ∃ st, runCalls sramPlacement straddlingCalls PoolState.start = some st ∧ st.live = [] ∧
      HasRun st.pool.free 4096 0 4096 ∧ (poolAlloc sramPlacement 4096 st.pool).1 = 0 := by
  rcases Option.map_eq_some_iff.1 straddlingCalls_result with ⟨st, hrun, hst⟩
  rcases Prod.mk.inj hst with ⟨hlive, hhint⟩
  have h : Accounted st := accounted_runCalls accounted_start hrun
  refine ⟨st, hrun, hlive, h.hasRun_of_idle hlive, ?_⟩
  refine (poolAlloc_null_iff h (by decide) (by decide)).2 ⟨?_, ?_⟩
  · -- Above the hint only 4086 bytes are left.
    rintro ⟨first, hlo, hhi, _⟩
    have : first + 4096 ≤ 4096 := hhi
    omega
  · -- And 10 below it.
    rintro ⟨first, _, hhi, _⟩
    have : first + 4096 ≤ st.pool.lastFreeBlock := hhi
    omega

end Allocator
end SdioFat32
