import SdioFat32.Middleware.ReadBack

/-!
# BounceBuffer — the block that `read_sd` and `write_sd` borrow from the pool

A request that does not end with a block needs a temporary one.  Whatever the block functions
answer, it is given back: the bitmap is the one before the call, the hint has moved at most to the
front of the block that was lent, so the next call finds room if this one did.
-/

namespace SdioFat32
namespace Middleware

open Effects Allocator Cells Proc
open BlockDevice

variable {pl : Placement} {pool pool₁ : Pool} {ptr : BitVec 32}

/-! ## The block functions in any environment -/

section AnyEnvironment

variable {σ : Type} {env : Env DeviceEvent DeviceEvent.Response σ} {D : σ → Prop} {s : σ}
  {P : Int → Prop} {data buffer fullBlocks remainingBytes blockStart : BitVec 32}

/-- What is known of every answer is known of the last one. -/
theorem wp_retry_status (hreq : ∀ s e, env.req s e) {op : DeviceProc Int} {pause : BitVec 32}
    (hzero : P 0)
    (hop : ∀ {s}, op.wp env D (fun status pool' _ => pool' = pool ∧ P status) pool s)
    (attempts : Nat) {status : Int} (hstatus : P status) :
    (retry op pause attempts status).wp env D (fun status' pool' _ => pool' = pool ∧ P status')
      pool s := by
  induction attempts generalizing status s with
  | zero => exact ⟨rfl, hstatus⟩
  | succ attempts ih =>
      unfold retry
      refine wp_seq hop ?_
      rintro status₁ _ s₁ ⟨rfl, h₁⟩
      split
      · exact ⟨rfl, hzero⟩
      · -- Pause, and try again with the new status.
        refine wp_bind.2 (wp_perform.2 ⟨hreq _ _, ?_⟩)
        intro _ s₂ _
        exact ih h₁

/-- An environment whose block functions answer with a status of `P`; no read asks for more blocks
than an address can reach. -/
structure Answers (env : Env DeviceEvent DeviceEvent.Response σ) (P : Int → Prop) : Prop where
  req : ∀ s e, env.req s e
  zero : P 0
  read : ∀ {s buffer countBlocks address timeout status s'}, 512 * countBlocks.toNat ≤ 2 ^ 32 →
    env.step s (.readMultiBlockSd buffer countBlocks address timeout) status s' → P status
  write : ∀ {s data countBlocks address timeout status s'},
    env.step s (.writeMultiBlockSd data countBlocks address timeout) status s' → P status

theorem Answers.wp_read (h : Answers env P) {count address timeout : BitVec 32}
    (hcount : 512 * count.toNat ≤ 2 ^ 32) :
    (readMultiBlockSd buffer count address timeout).wp env D
      (fun status pool' _ => pool' = pool ∧ P status) pool s :=
  ⟨h.req _ _, fun _ _ hstep => ⟨rfl, h.read hcount hstep⟩⟩

theorem Answers.wp_write (h : Answers env P) {count address timeout : BitVec 32} :
    (writeMultiBlockSd data count address timeout).wp env D
      (fun status pool' _ => pool' = pool ∧ P status) pool s :=
  ⟨h.req _ _, fun _ _ hstep => ⟨rfl, h.write hstep⟩⟩

theorem Answers.wp_readSafe (h : Answers env P) {count address timeout : BitVec 32}
    (hcount : 512 * count.toNat ≤ 2 ^ 32) :
    (readSafeSd buffer count address timeout).wp env D
      (fun status pool' _ => pool' = pool ∧ P status) pool s :=
  wp_retry_status h.req h.zero (h.wp_read hcount) 5 h.zero

theorem Answers.wp_writeSafe (h : Answers env P) {count address timeout : BitVec 32} :
    (writeSafeSd data count address timeout).wp env D
      (fun status pool' _ => pool' = pool ∧ P status) pool s :=
  wp_retry_status h.req h.zero h.wp_write 3 h.zero

theorem Answers.wp_writeRest (h : Answers env P) (hhint : pool.lastFreeBlock < 4096) :
    (writeRest pl data fullBlocks remainingBytes blockStart).wp env D
      (fun status pool' _ => Restored pool pool' ∧ (Available pool → P status)) pool s := by
  unfold writeRest
  split
  · refine wp_seq (wp_allocBlock hhint) ?_
    rintro ptr pool₁ s₁ ⟨rfl, hptr⟩
    split
    · rename_i hnull
      rw [if_pos hnull] at hptr
      rcases hptr with ⟨rfl, hnone⟩
      exact ⟨Restored.refl hhint, fun h => absurd h hnone⟩
    rename_i hnonnull
    rw [if_neg hnonnull] at hptr
    -- From here on every path gives the block back.
    refine wp_seq (h.wp_read (by decide)) ?_
    rintro status _ s₂ ⟨rfl, hstatus⟩
    split
    · exact ⟨hptr.restored, fun _ => hstatus⟩
    refine wp_bind.2 (wp_perform.2 ⟨h.req _ _, ?_⟩)
    intro _ s₃ _
    refine wp_seq h.wp_writeSafe ?_
    rintro status' _ s₄ ⟨rfl, hstatus'⟩
    refine wp_bind.2 ?_
    split
    · exact ⟨hptr.restored, fun _ => hstatus'⟩
    · exact ⟨hptr.restored, fun _ => h.zero⟩
  · exact ⟨Restored.refl hhint, fun _ => h.zero⟩

theorem Answers.wp_readRest (h : Answers env P) (hhint : pool.lastFreeBlock < 4096) :
    (readRest pl buffer fullBlocks remainingBytes blockStart).wp env D
      (fun status pool' _ => Restored pool pool' ∧ (Available pool → P status)) pool s := by
  unfold readRest
  split
  · refine wp_seq (wp_allocBlock hhint) ?_
    rintro ptr pool₁ s₁ ⟨rfl, hptr⟩
    split
    · rename_i hnull
      rw [if_pos hnull] at hptr
      rcases hptr with ⟨rfl, hnone⟩
      exact ⟨Restored.refl hhint, fun h => absurd h hnone⟩
    rename_i hnonnull
    rw [if_neg hnonnull] at hptr
    refine wp_seq (h.wp_readSafe (by decide)) ?_
    rintro status _ s₂ ⟨rfl, hstatus⟩
    split
    · exact ⟨hptr.restored, fun _ => hstatus⟩
    refine wp_bind.2 (wp_perform.2 ⟨h.req _ _, ?_⟩)
    intro _ s₃ _
    exact ⟨hptr.restored, fun _ => h.zero⟩
  · exact ⟨Restored.refl hhint, fun _ => h.zero⟩

variable {sectorCount startSector sectorSize : BitVec 32}

theorem Answers.wp_writeSd (h : Answers env P) (hhint : pool.lastFreeBlock < 4096) :
    (writeSd pl data sectorCount startSector sectorSize).wp env D
      (fun status pool' _ => Restored pool pool' ∧ (Available pool → P status)) pool s := by
  rw [writeSd_eq]
  have hwhole : (writeWhole data (sectorCount * sectorSize / blockSize)
      (startSector * sectorSize / blockSize)).wp env D
        (fun status pool' _ => pool' = pool ∧ P status) pool s := by
    unfold writeWhole
    split
    · exact h.wp_writeSafe
    · exact ⟨rfl, h.zero⟩
  refine wp_seq hwhole ?_
  rintro status _ s₁ ⟨rfl, hstatus⟩
  split
  · exact ⟨Restored.refl hhint, fun _ => hstatus⟩
  · exact h.wp_writeRest hhint

theorem Answers.wp_readSd (h : Answers env P) (hhint : pool.lastFreeBlock < 4096) :
    (readSd pl buffer sectorCount startSector sectorSize).wp env D
      (fun status pool' _ => Restored pool pool' ∧ (Available pool → P status)) pool s := by
  rw [readSd_eq]
  have hwhole : (readWhole buffer (sectorCount * sectorSize / blockSize)
      (startSector * sectorSize / blockSize)).wp env D
        (fun status pool' _ => pool' = pool ∧ P status) pool s := by
    unfold readWhole
    split
    · -- The product is 32 bits wide, so it is no more blocks than the memory has.
      refine h.wp_readSafe ?_
      have hlt := (sectorCount * sectorSize).isLt
      have hsize : blockSize.toNat = 512 := rfl
      rw [BitVec.toNat_udiv, hsize]
      omega
    · exact ⟨rfl, h.zero⟩
  refine wp_seq hwhole ?_
  rintro status _ s₁ ⟨rfl, hstatus⟩
  split
  · exact ⟨Restored.refl hhint, fun _ => hstatus⟩
  · exact h.wp_readRest hhint

/-- Whatever the block functions answer, and whether or not `pool_alloc` finds room, the bitmap
after the call is the bitmap before it. -/
theorem no_pool_leak (hhint : pool.lastFreeBlock < 4096) :
    (∀ status pool' s', Runs env (readSd pl buffer sectorCount startSector sectorSize pool) s
      (status, pool') s' → pool'.bitmap = pool.bitmap) ∧
    ∀ status pool' s', Runs env (writeSd pl data sectorCount startSector sectorSize pool) s
      (status, pool') s' → pool'.bitmap = pool.bitmap := by
  -- For the pool it does not matter what the block functions answer.
  have hany : Answers env.lax fun _ => True :=
    ⟨fun _ _ => trivial, trivial, fun _ _ => trivial, fun _ => trivial⟩
  refine ⟨?_, ?_⟩
  · intro status pool' s' hrun
    have hread : (readSd pl buffer sectorCount startSector sectorSize).wp env.lax (fun _ => True) _
      pool s := hany.wp_readSd hhint
    exact (wp_runs hread hrun.lax).1.bitmap
  · intro status pool' s' hrun
    have hwrite : (writeSd pl data sectorCount startSector sectorSize).wp env.lax (fun _ => True) _
      pool s := hany.wp_writeSd hhint
    exact (wp_runs hwrite hrun.lax).1.bitmap

end AnyEnvironment

/-- Block functions that always fail. -/
def failing (s : Unit) : (e : DeviceEvent) → e.Response × Unit
  | .readMultiBlockSd _ _ _ _ => ((-1 : Int), s)
  | .writeMultiBlockSd _ _ _ _ => ((-1 : Int), s)
  | .eraseSd _ _ => ((-1 : Int), s)
  | .memcpy _ _ _ => ((), s)
  | .delayTimer _ => ((), s)

/-- A sector of 100 bytes that cannot be read, from a fresh pool. -/
theorem no_pool_leak_failing :
    ∃ status pool' s', Runs (Env.following failing)
      (readSd sramPlacement 0x20001000#32 1#32 0#32 100#32 PoolState.start.pool) ()
      (status, pool') s' ∧ status = -1 ∧ pool'.bitmap = PoolState.start.pool.bitmap := by
  have hexec : ((readSd sramPlacement 0x20001000#32 1#32 0#32 100#32 PoolState.start.pool).exec
      failing ()).map (fun x => x.1.1) = some (-1) := by
    decide +kernel
  rcases Prog.exec_returns (Env.following_step failing) hexec with ⟨pool', s', hruns⟩
  exact ⟨-1, pool', s', hruns, rfl,
    (@no_pool_leak sramPlacement _ _ _ _ 0#32 _ _ _ _ (by decide)).1 _ _ _ hruns⟩

end Middleware
end SdioFat32
