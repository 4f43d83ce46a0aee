import SdioFat32.Middleware.BounceBuffer

/-!
# SubBlock — sectors smaller than a block

A sector of fewer than 512 bytes never fills a block, so `read_sd` and `write_sd` handle all of it
as the rest of a transfer, through the bounce buffer.  The rest is placed at the front of its
block: of `start_sector * sector_size` only the block number is kept.  Two sectors that start in
one block therefore share their bytes.
-/

namespace SdioFat32
namespace Middleware

open Effects Allocator Cells Proc
open BlockDevice

/-! ## A card without faults -/

/-- The block functions return 0; a read of more blocks than the memory holds may fail. -/
def Succeeds : (e : DeviceEvent) → e.Response → Prop
  | .readMultiBlockSd _ countBlocks _ _, (status : Int) =>
      512 * countBlocks.toNat ≤ 2 ^ 32 → status = 0
  | .writeMultiBlockSd _ _ _ _, (status : Int) => status = 0
  | _, _ => True

def faultFreeStore : Env DeviceEvent DeviceEvent.Response StoreState where
  req := blockStore.req
  step s e r s' := blockStore.step s e r s' ∧ Succeeds e r

theorem faultless_succeeds (s : StoreState) (e : DeviceEvent) :
    faultFreeStore.step s e (faultless s e).1 (faultless s e).2 := by
  refine ⟨faultless_step s e, ?_⟩
  cases e with
  | readMultiBlockSd buffer countBlocks address timeout =>
      intro hcount
      unfold faultless
      dsimp only
      rw [if_pos hcount]
  | writeMultiBlockSd data countBlocks address timeout => rfl
  | eraseSd addressStart addressEnd => trivial
  | memcpy dst src n => trivial
  | delayTimer ms => trivial

theorem faultFreeStore_answers : Answers faultFreeStore.lax (· = 0) where
  req := fun _ _ => trivial
  zero := rfl
  read := fun hcount hstep => hstep.2 hcount
  write := fun hstep => hstep.2

variable {D : StoreState → Prop} {pl : Placement} {pool pool' : Pool} {s s' : StoreState}
  {data buffer sector size : BitVec 32}

theorem wp_faultFree {α : Type} {p : DeviceProc α} {Q : α → Pool → StoreState → Prop}
    (h : p.wp blockStore D Q pool s) : p.wp faultFreeStore D Q pool s :=
  wp_narrow (fun _ _ _ _ hstep => hstep.1) (fun _ _ hreq => hreq) h

/-! ## What a call leaves alone -/

variable {fullBlocks remainingBytes blockStart : BitVec 32}

/-- A retried write does not touch the memory. -/
theorem wp_writeSafeSd_memory {countBlocks blockStart timeout : BitVec 32} :
    (writeSafeSd data countBlocks blockStart timeout).wp blockStore.lax D
      (fun _ _ s' => s'.memory = s.memory) pool s := by
  refine wp_mono (wp_relax wp_writeSafeSd_store) ?_
  rintro status _ s' ⟨hwrote, _⟩
  exact hwrote.memory

/-- Writing changes the memory in free bytes of the pool at most. -/
theorem wp_writeRest_memory (hrest : remainingBytes.toNat < 512)
    (hhint : pool.lastFreeBlock < blocksCount) :
    (writeRest pl data fullBlocks remainingBytes blockStart).wp blockStore.lax D
      (fun _ _ s' => ∀ x, ¬FreeByte pl pool x → s'.memory x = s.memory x) pool s := by
  unfold writeRest
  split
  · refine wp_seq (wp_relax (wp_allocBlock_store hhint)) ?_
    rintro ptr pool₁ s ⟨rfl, hptr⟩
    split
    · exact fun _ _ => rfl
    rename_i hnonnull
    have hfree := hptr.resolve_left hnonnull
    refine wp_seq (wp_relax wp_readMultiBlockSd_store) ?_
    rintro status _ s₁ ⟨hloaded, rfl⟩
    -- The bounce buffer is filled from the card, then patched; it was free before the call.
    have houtside : ∀ x, ¬FreeByte pl pool x → s₁.memory x = s.memory x := fun x hx =>
      hloaded.outside x fun hin => hx (hfree x hin)
    split
    · exact houtside
    refine wp_bind.2 (wp_perform.2 ⟨trivial, ?_⟩)
    rintro _ _ rfl
    refine wp_seq wp_writeSafeSd_memory ?_
    intro status' pool₂ s₂ hmemory
    have hsame : ∀ x, ¬FreeByte pl pool x → s₂.memory x = s.memory x := by
      intro x hx
      rw [hmemory]
      have hout : ¬InRegion ptr remainingBytes.toNat x := fun hin =>
        hx (hfree x (hin.mono (by omega)))
      exact (Memory.copy_outside hout).trans (houtside x hx)
    refine wp_bind.2 ?_
    split
    · exact hsame
    · exact hsame
  · exact fun _ _ => rfl

theorem PoolReady.restored {len : Nat} {p : BitVec 32} (h : PoolReady pl pool p len)
    (hpool : Restored pool pool') : PoolReady pl pool' p len where
  hint := hpool.hint
  apart := by
    rintro x hx ⟨k, hk, hfree, hxk⟩
    have hfree' : pool.free k = true := by
      rw [Pool.free_eq_true] at hfree ⊢
      rw [Pool.used, ← hpool.bitmap]
      exact hfree
    exact h.apart x hx ⟨k, hk, hfree', hxk⟩

/-! ## One sector -/

/-- The block in which a sector starts. -/
def blockOf (sector size : BitVec 32) : Nat := sector.toNat * size.toNat / 512

theorem one_sector (hsub : size.toNat < 512) :
    1#32 * size / blockSize = 0#32 ∧ 1#32 * size % blockSize = size := by
  have hone : 1#32 * size = size := BitVec.one_mul size
  have hblock : blockSize.toNat = 512 := rfl
  rw [hone]
  refine ⟨BitVec.eq_of_toNat_eq ?_, BitVec.eq_of_toNat_eq ?_⟩
  · rw [BitVec.toNat_udiv, hblock, Nat.div_eq_of_lt hsub]
    rfl
  · rw [BitVec.toNat_umod, hblock, Nat.mod_eq_of_lt hsub]

theorem writeSd_subBlock (hsub : size.toNat < 512) :
    writeSd pl data 1#32 sector size =
      writeRest pl data 0#32 size (sector * size / blockSize) := by
  rw [writeSd_eq, (one_sector hsub).1, (one_sector hsub).2]
  rfl

theorem readSd_subBlock (hsub : size.toNat < 512) :
    readSd pl buffer 1#32 sector size = readRest pl buffer 0#32 size (sector * size / blockSize) := by
  rw [readSd_eq, (one_sector hsub).1, (one_sector hsub).2]
  rfl

/-- The only block of the transfer. -/
theorem subBlock_block (hbelow : (sector.toNat + 1) * size.toNat < 2 ^ 32) :
    (sector * size / blockSize).toNat = blockOf sector size ∧
      (sector * size / blockSize + 0#32).toNat = (sector * size / blockSize).toNat + (0#32).toNat := by
  rw [Nat.add_mul] at hbelow
  refine ⟨(toNat_bytes (by omega)).1, ?_⟩
  rw [BitVec.add_zero]
  rfl

/-- What `write_sd` of one sector does: the sector's bytes get to the front of its block. -/
structure SectorStored (pl : Placement) (data sector size : BitVec 32) (pool pool' : Pool)
    (s s' : StoreState) : Prop where
  restored : Restored pool pool'
  bytes : StoredBytes data (512 * blockOf sector size) size.toNat 0 s s'
  memory : ∀ x, ¬FreeByte pl pool x → s'.memory x = s.memory x

theorem wp_writeSector (hsub : size.toNat < 512)
    (hbelow : (sector.toNat + 1) * size.toNat < 2 ^ 32)
    (hready : PoolReady pl pool data size.toNat) (havail : Available pool) :
    (writeSd pl data 1#32 sector size).wp faultFreeStore D
      (fun status pool' s' => status = 0 ∧ SectorStored pl data sector size pool pool' s s')
      pool s := by
  have hblock := subBlock_block hbelow
  have hfirst : nth data (512 * (0#32).toNat) = data := nth_zero data
  rw [← hfirst] at hready
  -- What a write does to the card, to the memory and to the pool is known from three lemmas.
  have hstored := wp_faultFree (wp_writeRest (D := D) (s := s) hsub hblock.2 hready)
  have hmemory : (writeRest pl data 0#32 size (sector * size / blockSize)).wp faultFreeStore.lax D
      (fun _ _ s' => ∀ x, ¬FreeByte pl pool x → s'.memory x = s.memory x) pool s := by
    refine wp_narrow ?_ ?_ (wp_writeRest_memory hsub hready.hint)
    · exact fun _ _ _ _ hstep => hstep.1
    · exact fun _ _ _ => trivial
  rw [writeSd_subBlock hsub]
  refine wp_mono (wp_and_lax hstored
    (wp_and hmemory (faultFreeStore_answers.wp_writeRest hready.hint))) ?_
  rintro status pool' s' ⟨hbytes, hframe, hpool, hstatus⟩
  rw [hstatus havail, hblock.1, hfirst] at hbytes
  exact ⟨hstatus havail, hpool, hbytes, hframe⟩

theorem wp_readSector (hsub : size.toNat < 512)
    (hbelow : (sector.toNat + 1) * size.toNat < 2 ^ 32)
    (hready : PoolReady pl pool buffer size.toNat) (havail : Available pool) :
    (readSd pl buffer 1#32 sector size).wp faultFreeStore D
      (fun status _ s' => status = 0 ∧ ∀ i, i < size.toNat →
        s'.memory (nth buffer i) = s.card (512 * blockOf sector size + i)) pool s := by
  have hblock := subBlock_block hbelow
  have hfirst : nth buffer (512 * (0#32).toNat) = buffer := nth_zero buffer
  rw [← hfirst] at hready
  have hfetched := wp_faultFree (wp_readRest (D := D) (s := s) hsub hblock.2 hready)
  rw [readSd_subBlock hsub]
  refine wp_mono (wp_and_lax hfetched (faultFreeStore_answers.wp_readRest hready.hint)) ?_
  rintro status pool' s' ⟨hbytes, _, hstatus⟩
  have hwhole := hbytes.whole (hstatus havail)
  rw [hblock.1, hfirst] at hwhole
  exact ⟨hstatus havail, hwhole⟩

/-! ## Two sectors -/

/-- Write one sector, then another one, and read the first one back. -/
def writeTwoReadFirst (pl : Placement) (d₁ d₂ buffer s₁ s₂ size : BitVec 32) :
    DeviceProc (Int × Int × Int) := do
  let status₁ ← writeSd pl d₁ 1#32 s₁ size
  let status₂ ← writeSd pl d₂ 1#32 s₂ size
  let status₃ ← readSd pl buffer 1#32 s₁ size
  return (status₁, status₂, status₃)

variable {d₁ d₂ s₁ s₂ : BitVec 32}

theorem blockOf_apart {first₁ first₂ a : Nat} (hne : first₁ ≠ first₂)
    (ha : 512 * first₁ ≤ a ∧ a < 512 * first₁ + 512) (hsub : size.toNat < 512) :
    ¬(512 * first₂ ≤ a ∧ a < 512 * first₂ + size.toNat) := by
  omega

/-- What the read returns: the first sector's bytes if the second one starts in another block, else
the second one's. -/
theorem wp_writeTwoReadFirst (hsub : size.toNat < 512)
    (h₁ : (s₁.toNat + 1) * size.toNat < 2 ^ 32) (h₂ : (s₂.toNat + 1) * size.toNat < 2 ^ 32)
    (hd₁ : PoolReady pl pool d₁ size.toNat) (hd₂ : PoolReady pl pool d₂ size.toNat)
    (hbuffer : PoolReady pl pool buffer size.toNat) (havail : Available pool) :
    (writeTwoReadFirst pl d₁ d₂ buffer s₁ s₂ size).wp faultFreeStore D
      (fun statuses _ s' => statuses = (0, 0, 0) ∧ ∀ i, i < size.toNat →
        s'.memory (nth buffer i) =
          if blockOf s₁ size = blockOf s₂ size then s.memory (nth d₂ i) else s.memory (nth d₁ i))
      pool s := by
  unfold writeTwoReadFirst
  refine wp_seq (wp_writeSector hsub h₁ hd₁ havail) ?_
  rintro status₁ pool₁ t₁ ⟨rfl, hfirst⟩
  refine wp_seq (wp_writeSector hsub h₂ (hd₂.restored hfirst.restored)
    (hfirst.restored.available havail)) ?_
  rintro status₂ pool₂ t₂ ⟨rfl, hsecond⟩
  have hbuffer₂ := (hbuffer.restored hfirst.restored).restored hsecond.restored
  -- Each call finds the pool as the one before has left it, with room for a block.
  refine wp_seq (wp_readSector hsub h₁ hbuffer₂
    (hsecond.restored.available (hfirst.restored.available havail))) ?_
  rintro status₃ pool₃ t₃ ⟨rfl, hread⟩
  refine ⟨rfl, ?_⟩
  intro i hi
  rw [hread i hi]
  split
  · rename_i hsame
    -- The second sector has replaced the bytes of the first one.
    have hlt := size.isLt
    have hdata : t₁.memory (nth d₂ i) = s.memory (nth d₂ i) :=
      hfirst.memory _ (hd₂.apart _ (inRegion_nth hi (by omega)))
    rw [hsame, hsecond.bytes.whole rfl i hi, hdata]
  · rename_i hother
    -- The second write has left the block of the first one alone.
    have hout := blockOf_apart (a := 512 * blockOf s₁ size + i) hother ⟨by omega, by omega⟩ hsub
    rw [hsecond.bytes.outside _ hout, hfirst.bytes.whole rfl i hi]

/-- A card without faults lets the calls run to their end. -/
theorem exists_run_writeTwoReadFirst (hsub : size.toNat < 512)
    (h₁ : (s₁.toNat + 1) * size.toNat < 2 ^ 32) (h₂ : (s₂.toNat + 1) * size.toNat < 2 ^ 32)
    (hd₁ : PoolReady pl pool d₁ size.toNat) (hd₂ : PoolReady pl pool d₂ size.toNat)
    (hbuffer : PoolReady pl pool buffer size.toNat) (havail : Available pool) :
    ∃ pool' s', Runs faultFreeStore (writeTwoReadFirst pl d₁ d₂ buffer s₁ s₂ size pool) s
        ((0, 0, 0), pool') s' ∧
      ∀ i, i < size.toNat → s'.memory (nth buffer i) =
        if blockOf s₁ size = blockOf s₂ size then s.memory (nth d₂ i)
        else s.memory (nth d₁ i) := by
  have hwp : (writeTwoReadFirst pl d₁ d₂ buffer s₁ s₂ size).wp faultFreeStore (fun _ => False) _
    pool s := wp_writeTwoReadFirst hsub h₁ h₂ hd₁ hd₂ hbuffer havail
  rcases exists_run hwp fun s e => ⟨_, _, faultless_succeeds s e⟩ with
    ⟨_, pool', s', hrun, rfl, hread⟩
  exact ⟨pool', s', hrun, hread⟩

/-- On a card without faults all three calls return 0.  The first sector reads back as it was
written exactly if the sectors start in different blocks, or if their data is the same. -/
theorem sub_block_sector_kept_iff (hsub : size.toNat < 512)
    (h₁ : (s₁.toNat + 1) * size.toNat < 2 ^ 32) (h₂ : (s₂.toNat + 1) * size.toNat < 2 ^ 32)
    (hd₁ : PoolReady pl pool d₁ size.toNat) (hd₂ : PoolReady pl pool d₂ size.toNat)
    (hbuffer : PoolReady pl pool buffer size.toNat) (havail : Available pool)
    {statuses : Int × Int × Int}
    (hrun : Runs faultFreeStore (writeTwoReadFirst pl d₁ d₂ buffer s₁ s₂ size pool) s
      (statuses, pool') s') :
    statuses = (0, 0, 0) ∧
      ((∀ i, i < size.toNat → s'.memory (nth buffer i) = s.memory (nth d₁ i)) ↔
        blockOf s₁ size ≠ blockOf s₂ size ∨
          ∀ i, i < size.toNat → s.memory (nth d₁ i) = s.memory (nth d₂ i)) := by
  have hwp : (writeTwoReadFirst pl d₁ d₂ buffer s₁ s₂ size).wp faultFreeStore (fun _ => False) _
    pool s := wp_writeTwoReadFirst hsub h₁ h₂ hd₁ hd₂ hbuffer havail
  rcases wp_runs hwp hrun with ⟨hstatuses, hread⟩
  refine ⟨hstatuses, ?_⟩
  by_cases hsame : blockOf s₁ size = blockOf s₂ size
  · simp only [if_pos hsame] at hread
    -- In one block the second write is the one that is read back.
    constructor
    · intro hkept
      exact Or.inr fun i hi => (hkept i hi).symm.trans (hread i hi)
    · rintro (hne | hdata) i hi
      · exact absurd hsame hne
      · rw [hread i hi, hdata i hi]
  · simp only [if_neg hsame] at hread
    constructor
    · intro _
      exact Or.inl hsame
    · intro _
      exact hread

/-! ## Sectors of 256 bytes -/

/-- Each page of the memory is filled with its number. -/
def numberedPages : StoreState where
  memory x := (x >>> 12).setWidth 8
  card _ := 0#8

/-- A region behind the pool. -/
theorem poolReady_start {p : BitVec 32} (hp : 0x20001000 ≤ p.toNat) (hp' : p.toNat < 0x30000000) :
    PoolReady sramPlacement PoolState.start.pool p 256 := by
  have hstart : runCalls sramPlacement [] PoolState.start = some PoolState.start := rfl
  refine poolReady_of_runCalls hstart fun x hx => ?_
  rcases hx.exists_nth with ⟨i, hi, rfl⟩
  refine Or.inr (Or.inl ?_)
  rw [nth, BitVec.toNat_add, BitVec.toNat_ofNat]
  simp only [sramPlacement, poolSize]
  omega

theorem available_start : Available PoolState.start.pool := by
  refine Or.inl ⟨0, by decide, by decide, ?_⟩
  intro i _ hi
  rw [Pool.free_eq_true, Bool.eq_false_iff]
  intro hused
  have hpool : i < poolSize := Nat.lt_trans hi (by decide)
  have hlive : i ∈ occupied [] := (accounted_start.bits i hpool).1 hused
  simp [occupied] at hlive

/-- Two sectors and a buffer in pages of their own. -/
def writeTwoPages (s₁ s₂ : BitVec 32) : DeviceProc (Int × Int × Int) :=
  writeTwoReadFirst sramPlacement 0x20001000#32 0x20002000#32 0x20003000#32 s₁ s₂ 256#32

theorem exists_run_writeTwoPages (s₁ s₂ : BitVec 32)
    (h₁ : (s₁.toNat + 1) * (256#32).toNat < 2 ^ 32)
    (h₂ : (s₂.toNat + 1) * (256#32).toNat < 2 ^ 32) :
    ∃ pool' s', Runs faultFreeStore (writeTwoPages s₁ s₂ PoolState.start.pool) numberedPages
        ((0, 0, 0), pool') s' ∧
      ∀ i, i < (256#32).toNat → s'.memory (nth 0x20003000#32 i) =
        if blockOf s₁ 256#32 = blockOf s₂ 256#32 then numberedPages.memory (nth 0x20002000#32 i)
        else numberedPages.memory (nth 0x20001000#32 i) :=
  exists_run_writeTwoReadFirst (by decide) h₁ h₂ (poolReady_start (by decide) (by decide))
    (poolReady_start (by decide) (by decide)) (poolReady_start (by decide) (by decide))
    available_start

/-- Sectors 0 and 2 are in different blocks. -/
theorem sub_block_sector_kept_apart :
    ∃ pool' s', Runs faultFreeStore (writeTwoPages 0#32 2#32 PoolState.start.pool) numberedPages
        ((0, 0, 0), pool') s' ∧
      ∀ i, i < (256#32).toNat →
        s'.memory (nth 0x20003000#32 i) = numberedPages.memory (nth 0x20001000#32 i) := by
  rcases exists_run_writeTwoPages 0#32 2#32 (by decide) (by decide) with ⟨pool', s', hruns, _⟩
  have hkept := sub_block_sector_kept_iff (by decide) (by decide) (by decide)
    (poolReady_start (by decide) (by decide)) (poolReady_start (by decide) (by decide))
    (poolReady_start (by decide) (by decide)) available_start hruns
  exact ⟨pool', s', hruns, hkept.2.2 (Or.inl (by decide))⟩

/-- Sectors 0 and 1 share block 0, and the first one reads back with the bytes of the second one:
a 2 where a 1 was written. -/
theorem sub_block_sector_overwritten :
    ∃ pool' s', Runs faultFreeStore (writeTwoPages 0#32 1#32 PoolState.start.pool) numberedPages
        ((0, 0, 0), pool') s' ∧
      Available PoolState.start.pool ∧
      s'.memory (nth 0x20003000#32 0) ≠ numberedPages.memory (nth 0x20001000#32 0) := by
  rcases exists_run_writeTwoPages 0#32 1#32 (by decide) (by decide) with
    ⟨pool', s', hruns, hread⟩
  refine ⟨pool', s', hruns, available_start, ?_⟩
  rw [hread 0 (by decide)]
  decide

end Middleware
end SdioFat32
