import SdioFat32.Middleware.LentBlock

/-!
# ReadBack — the bytes `write_sd` stores and `read_sd` returns

The card is a map from blocks to bytes.  A block write that fails may have stored any of its
blocks, a block read that fails may have left anything in its buffer; what a transfer did is one
of the relations `Wrote` and `Loaded`, which compose over the retries.  Both functions are then
two transfers: the whole blocks, and the block of the rest through the bounce buffer.
-/

namespace SdioFat32
namespace Middleware

open Effects Allocator Cells Proc
open BlockDevice

/-! ## RAM and the card -/

/-- Byte `i` of block `b` of the card is `card (512 * b + i)`. -/
structure StoreState where
  memory : Memory 32 (BitVec 8)
  card : Nat → BitVec 8

def InBlocks (address count a : Nat) : Prop := 512 * address ≤ a ∧ a < 512 * (address + count)

instance (address count a : Nat) : Decidable (InBlocks address count a) :=
  inferInstanceAs (Decidable (_ ∧ _))

/-- What a block write makes of the card: every addressed block is stored or not, all of them if
it returns 0. -/
def Stores (s : StoreState) (data : BitVec 32) (address count : Nat) (status : Int)
    (card' : Nat → BitVec 8) : Prop :=
  ∃ stored : Nat → Bool, (status = 0 → ∀ b, stored b = true) ∧
    ∀ a, card' a =
      if InBlocks address count a ∧ stored (a / 512) = true then
        s.memory (nth data (a - 512 * address))
      else s.card a

/-- What a block read makes of the memory: the blocks if it returns 0, else anything in `buffer`. -/
def Fills (s : StoreState) (buffer : BitVec 32) (address count : Nat) (status : Int)
    (memory' : Memory 32 (BitVec 8)) : Prop :=
  (∀ x, ¬InRegion buffer (512 * count) x → memory' x = s.memory x) ∧
    (status = 0 → ∀ i, i < 512 * count → memory' (nth buffer i) = s.card (512 * address + i))

/-- The block functions on a card.  `memcpy` is called for regions that do not overlap. -/
def blockStore : Env DeviceEvent DeviceEvent.Response StoreState where
  req _ e :=
    match e with
    | .memcpy dst src n => Apart dst n.toNat src n.toNat
    | _ => True
  step s e r s' :=
    match e, r with
    | .writeMultiBlockSd data count address _, (status : Int) =>
        s'.memory = s.memory ∧ Stores s data address.toNat count.toNat status s'.card
    | .readMultiBlockSd buffer count address _, (status : Int) =>
        s'.card = s.card ∧ Fills s buffer address.toNat count.toNat status s'.memory
    | .memcpy dst src n, _ => s' = { s with memory := s.memory.copy dst src n.toNat }
    | .delayTimer _, _ => s' = s
    -- Nothing is assumed of an erase; neither function makes one.
    | .eraseSd _ _, _ => True

/-! ## Transfers -/

/-- The effect of one or more attempts to write `count` blocks, the last of which returned
`status`. -/
structure Wrote (data : BitVec 32) (address count : Nat) (status : Int) (s s' : StoreState) :
    Prop where
  memory : s'.memory = s.memory
  outside : ∀ a, ¬InBlocks address count a → s'.card a = s.card a
  inside : ∀ a, InBlocks address count a →
    s'.card a = s.card a ∨ s'.card a = s.memory (nth data (a - 512 * address))
  whole : status = 0 → ∀ a, InBlocks address count a →
    s'.card a = s.memory (nth data (a - 512 * address))

structure Loaded (buffer : BitVec 32) (address count : Nat) (status : Int) (s s' : StoreState) :
    Prop where
  card : s'.card = s.card
  outside : ∀ x, ¬InRegion buffer (512 * count) x → s'.memory x = s.memory x
  whole : status = 0 → ∀ i, i < 512 * count → s'.memory (nth buffer i) = s.card (512 * address + i)

variable {D : StoreState → Prop} {pl : Placement} {pool pool' : Pool} {s s' s₁ s₂ : StoreState}
  {data buffer : BitVec 32} {address count : Nat} {status status' : Int}

theorem Wrote.trans (h : Wrote data address count status s s₁)
    (h' : Wrote data address count status' s₁ s₂) : Wrote data address count status' s s₂ where
  memory := h'.memory.trans h.memory
  outside := fun a ha => (h'.outside a ha).trans (h.outside a ha)
  inside := by
    intro a ha
    rcases h'.inside a ha with hold | hnew
    · rw [hold]
      exact h.inside a ha
    · rw [h.memory] at hnew
      exact Or.inr hnew
  whole := by
    intro hstatus a ha
    rw [h'.whole hstatus a ha, h.memory]

theorem Loaded.trans (h : Loaded buffer address count status s s₁)
    (h' : Loaded buffer address count status' s₁ s₂) :
    Loaded buffer address count status' s s₂ where
  card := h'.card.trans h.card
  outside := fun x hx => (h'.outside x hx).trans (h.outside x hx)
  whole := by
    intro hstatus i hi
    rw [h'.whole hstatus i hi, h.card]

theorem Stores.wrote {card' : Nat → BitVec 8} (h : Stores s data address count status card')
    (hmemory : s'.memory = s.memory) (hcard : s'.card = card') :
    Wrote data address count status s s' := by
  rcases h with ⟨stored, hall, hcells⟩
  subst hcard
  refine ⟨hmemory, ?_, ?_, ?_⟩
  · intro a ha
    rw [hcells, if_neg fun hin => ha hin.1]
  · intro a ha
    rw [hcells]
    by_cases hstored : stored (a / 512) = true
    · exact Or.inr (if_pos ⟨ha, hstored⟩)
    · exact Or.inl (if_neg fun hin => hstored hin.2)
  · intro hstatus a ha
    rw [hcells, if_pos ⟨ha, hall hstatus _⟩]

/-- The relation of the last attempt absorbs the attempts before it. -/
theorem wp_retry_store {op : DeviceProc Int} {pause : BitVec 32}
    {T : Int → StoreState → StoreState → Prop}
    (hop : ∀ {pool s}, op.wp blockStore D (fun status pool' s' => T status s s' ∧ pool' = pool)
      pool s)
    (htrans : ∀ {status status' s s₁ s₂}, T status s s₁ → T status' s₁ s₂ → T status' s s₂)
    (attempts : Nat) (hsome : attempts = 0 → T status s s₁)
    (hprior : ∀ {status' s₂}, T status' s₁ s₂ → T status' s s₂) :
    (retry op pause attempts status).wp blockStore D
      (fun status' pool' s' => T status' s s' ∧ pool' = pool) pool s₁ := by
  induction attempts generalizing status s₁ with
  | zero => exact ⟨hsome rfl, rfl⟩
  | succ attempts ih =>
      unfold retry
      refine wp_seq hop ?_
      rintro status₂ _ s₂ ⟨h₂, rfl⟩
      have hnow := hprior h₂
      split
      · rename_i hzero
        exact ⟨hzero ▸ hnow, rfl⟩
      · refine wp_bind.2 (wp_perform.2 ⟨trivial, ?_⟩)
        rintro _ _ rfl
        exact ih (fun _ => hnow) fun h => htrans hnow h

theorem wp_writeMultiBlockSd_store {countBlocks blockStart timeout : BitVec 32} :
    (writeMultiBlockSd data countBlocks blockStart timeout).wp blockStore D
      (fun status pool' s' => Wrote data blockStart.toNat countBlocks.toNat status s s' ∧
        pool' = pool) pool s := by
  refine ⟨trivial, ?_⟩
  rintro status s' ⟨hmemory, hstores⟩
  exact ⟨hstores.wrote hmemory rfl, rfl⟩

theorem wp_readMultiBlockSd_store {countBlocks blockStart timeout : BitVec 32} :
    (readMultiBlockSd buffer countBlocks blockStart timeout).wp blockStore D
      (fun status pool' s' => Loaded buffer blockStart.toNat countBlocks.toNat status s s' ∧
        pool' = pool) pool s := by
  refine ⟨trivial, ?_⟩
  rintro status s' ⟨hcard, houtside, hwhole⟩
  exact ⟨⟨hcard, houtside, hwhole⟩, rfl⟩

theorem wp_writeSafeSd_store {countBlocks blockStart timeout : BitVec 32} :
    (writeSafeSd data countBlocks blockStart timeout).wp blockStore D
      (fun status pool' s' => Wrote data blockStart.toNat countBlocks.toNat status s s' ∧
        pool' = pool) pool s :=
  wp_retry_store wp_writeMultiBlockSd_store (fun h h' => h.trans h') 3
    (fun h => absurd h (by decide)) fun h => h

theorem wp_readSafeSd_store {countBlocks blockStart timeout : BitVec 32} :
    (readSafeSd buffer countBlocks blockStart timeout).wp blockStore D
      (fun status pool' s' => Loaded buffer blockStart.toNat countBlocks.toNat status s s' ∧
        pool' = pool) pool s :=
  wp_retry_store wp_readMultiBlockSd_store (fun h h' => h.trans h') 5
    (fun h => absurd h (by decide)) fun h => h

/-! ## The two parts of a transfer -/

def writeWhole (data fullBlocks blockStart : BitVec 32) : DeviceProc Int :=
  if 0#32 < fullBlocks then writeSafeSd data fullBlocks blockStart defaultTimeout else pure 0

def writeRest (pl : Placement) (data fullBlocks remainingBytes blockStart : BitVec 32) :
    DeviceProc Int := do
  if 0#32 < remainingBytes then
    let tmpBlock ← allocBlock pl blockSize
    if tmpBlock = 0#32 then return -1
    let status ← readMultiBlockSd tmpBlock 1#32 (blockStart + fullBlocks) defaultTimeout
    if status ≠ 0 then
      freeBlock pl tmpBlock blockSize
      return status
    memcpy tmpBlock (data + fullBlocks * blockSize) remainingBytes
    let status ← writeSafeSd tmpBlock 1#32 (blockStart + fullBlocks) defaultTimeout
    freeBlock pl tmpBlock blockSize
    if status ≠ 0 then return status
  return 0

def readWhole (buffer fullBlocks blockStart : BitVec 32) : DeviceProc Int :=
  if 0#32 < fullBlocks then readSafeSd buffer fullBlocks blockStart defaultTimeout else pure 0

def readRest (pl : Placement) (buffer fullBlocks remainingBytes blockStart : BitVec 32) :
    DeviceProc Int := do
  if 0#32 < remainingBytes then
    let tmpBlock ← allocBlock pl blockSize
    if tmpBlock = 0#32 then return poolErrAllocationFailed
    let status ← readSafeSd tmpBlock 1#32 (blockStart + fullBlocks) defaultTimeout
    if status ≠ 0 then
      freeBlock pl tmpBlock blockSize
      return status
    memcpy (buffer + fullBlocks * blockSize) tmpBlock remainingBytes
    freeBlock pl tmpBlock blockSize
  return 0

theorem writeSd_eq (pl : Placement) (data sectorCount startSector sectorSize : BitVec 32) :
    writeSd pl data sectorCount startSector sectorSize = (do
      let blockStart := startSector * sectorSize / blockSize
      let fullBlocks := sectorCount * sectorSize / blockSize
      let status ← writeWhole data fullBlocks blockStart
      if status ≠ 0 then return status
      writeRest pl data fullBlocks (sectorCount * sectorSize % blockSize) blockStart) := by
  unfold writeSd writeWhole
  by_cases hfull : 0#32 < sectorCount * sectorSize / blockSize
  · simp only [if_pos hfull]
    rfl
  · simp only [if_neg hfull]
    rfl

theorem readSd_eq (pl : Placement) (buffer sectorCount startSector sectorSize : BitVec 32) :
    readSd pl buffer sectorCount startSector sectorSize = (do
      let blockStart := startSector * sectorSize / blockSize
      let fullBlocks := sectorCount * sectorSize / blockSize
      let status ← readWhole buffer fullBlocks blockStart
      if status ≠ 0 then return status
      readRest pl buffer fullBlocks (sectorCount * sectorSize % blockSize) blockStart) := by
  unfold readSd readWhole
  by_cases hfull : 0#32 < sectorCount * sectorSize / blockSize
  · simp only [if_pos hfull]
    rfl
  · simp only [if_neg hfull]
    rfl

/-! ## The bounce buffer -/

/-- The allocator works on its pool, and no byte of the caller's region is free in it. -/
structure PoolReady (pl : Placement) (pool : Pool) (p : BitVec 32) (len : Nat) : Prop where
  hint : pool.lastFreeBlock < blocksCount
  apart : ∀ x, InRegion p len x → ¬FreeByte pl pool x

theorem wp_allocBlock_store (hhint : pool.lastFreeBlock < blocksCount) :
    (allocBlock pl blockSize).wp blockStore D
      (fun ptr _ s' => s' = s ∧ (ptr = 0#32 ∨ ∀ x, InRegion ptr 512 x → FreeByte pl pool x))
      pool s := by
  refine wp_mono (wp_allocBlock hhint) ?_
  rintro ptr pool₁ s' ⟨hs, hlent⟩
  refine ⟨hs, ?_⟩
  by_cases hnull : ptr = 0#32
  · exact Or.inl hnull
  · rw [if_neg hnull] at hlent
    exact Or.inr hlent.free_byte

/-! ## Byte ranges -/

/-- Of the card only the bytes `[first, first + len)` may have changed; they are those of `src` if
the status is 0. -/
structure StoredBytes (src : BitVec 32) (first len : Nat) (status : Int) (s s' : StoreState) :
    Prop where
  outside : ∀ a, ¬(first ≤ a ∧ a < first + len) → s'.card a = s.card a
  whole : status = 0 → ∀ i, i < len → s'.card (first + i) = s.memory (nth src i)

/-- Of the memory only the buffer and bytes that are `free` may have changed; the buffer holds the
bytes `[first, first + len)` of the card if the status is 0. -/
structure FetchedBytes (free : BitVec 32 → Prop) (dst : BitVec 32) (first len : Nat) (status : Int)
    (s s' : StoreState) : Prop where
  card : s'.card = s.card
  outside : ∀ x, ¬InRegion dst len x → ¬free x → s'.memory x = s.memory x
  whole : status = 0 → ∀ i, i < len → s'.memory (nth dst i) = s.card (first + i)

variable {src dst : BitVec 32} {free : BitVec 32 → Prop} {first n m : Nat}

theorem Wrote.storedBytes (h : Wrote data address count status s s') :
    StoredBytes data (512 * address) (512 * count) status s s' where
  outside := by
    intro a ha
    refine h.outside a fun hin => ha ⟨hin.1, ?_⟩
    have hlt := hin.2
    omega
  whole := by
    intro hstatus i hi
    have hin : InBlocks address count (512 * address + i) := ⟨by omega, by omega⟩
    rw [h.whole hstatus _ hin, Nat.add_sub_cancel_left]

/-- A range stored after another one, from the next bytes of the same memory. -/
theorem StoredBytes.append (h : StoredBytes src first n 0 s s₁) (hmemory : s₁.memory = s.memory)
    (h' : StoredBytes (nth src n) (first + n) m status s₁ s₂) :
    StoredBytes src first (n + m) status s s₂ where
  outside := by
    intro a ha
    rw [h'.outside a (by omega), h.outside a (by omega)]
  whole := by
    intro hstatus i hi
    by_cases hlow : i < n
    · rw [h'.outside _ (by omega), h.whole rfl i hlow]
    · have hnext := h'.whole hstatus (i - n) (by omega)
      rw [hmemory, nth_nth] at hnext
      have hi' : n + (i - n) = i := by omega
      rwa [Nat.add_assoc, hi'] at hnext

theorem StoredBytes.failed (h : StoredBytes src first n status s s₁) (hstatus : status ≠ 0) :
    StoredBytes src first (n + m) status s s₁ where
  outside := fun a ha => h.outside a (by omega)
  whole := fun hzero => absurd hzero hstatus

theorem Loaded.fetchedBytes (h : Loaded dst address count status s s') :
    FetchedBytes free dst (512 * address) (512 * count) status s s' where
  card := h.card
  outside := fun x hx _ => h.outside x hx
  whole := h.whole

/-- The second range does not disturb the first one, which is not free. -/
theorem FetchedBytes.append (h : FetchedBytes free dst first n 0 s s₁)
    (h' : FetchedBytes free (nth dst n) (first + n) m status s₁ s₂) (hsize : n + m ≤ 2 ^ 32)
    (hclear : ∀ x, InRegion dst (n + m) x → ¬free x) :
    FetchedBytes free dst first (n + m) status s s₂ where
  card := h'.card.trans h.card
  outside := by
    intro x hx hfree
    have hlow : ¬InRegion dst n x := fun hin => hx (hin.mono (Nat.le_add_right _ _))
    have hhigh : ¬InRegion (nth dst n) m x := fun hin => hx (hin.of_nth (Nat.le_refl _) hsize)
    rw [h'.outside x hhigh hfree, h.outside x hlow hfree]
  whole := by
    intro hstatus i hi
    by_cases hlow : i < n
    · -- A byte of the first range is not in the second one.
      have hapart : ¬InRegion (nth dst n) m (nth dst i) := by
        intro hin
        rcases hin.exists_nth with ⟨k, hk, heq⟩
        rw [nth_nth] at heq
        have hdist := congrArg (fun x => (x - dst).toNat) heq
        simp only [nth_sub, BitVec.toNat_ofNat] at hdist
        omega
      have hnot : ¬free (nth dst i) := hclear _ (inRegion_nth hi hsize)
      rw [h'.outside _ hapart hnot, h.whole rfl i hlow]
    · have hnext := h'.whole hstatus (i - n) (by omega)
      have hi' : n + (i - n) = i := by omega
      rw [h.card, nth_nth, Nat.add_assoc, hi'] at hnext
      exact hnext

theorem FetchedBytes.failed (h : FetchedBytes free dst first n status s s₁) (hstatus : status ≠ 0) :
    FetchedBytes free dst first (n + m) status s s₁ where
  card := h.card
  outside := fun x hx hfree =>
    h.outside x (fun hin => hx (hin.mono (Nat.le_add_right _ _))) hfree
  whole := fun hzero => absurd hzero hstatus

/-! ## The whole blocks -/

variable {fullBlocks remainingBytes blockStart : BitVec 32}

theorem not_pos_iff_zero {x : BitVec 32} : ¬0#32 < x ↔ x.toNat = 0 := by
  rw [BitVec.lt_def, BitVec.toNat_ofNat]
  omega

theorem wp_writeWhole :
    (writeWhole data fullBlocks blockStart).wp blockStore D
      (fun status pool' s' => pool' = pool ∧ s'.memory = s.memory ∧
        StoredBytes data (512 * blockStart.toNat) (512 * fullBlocks.toNat) status s s') pool s := by
  unfold writeWhole
  split
  · refine wp_mono wp_writeSafeSd_store ?_
    rintro status _ s' ⟨h, rfl⟩
    exact ⟨rfl, h.memory, h.storedBytes⟩
  · rename_i hnone
    rw [not_pos_iff_zero] at hnone
    exact ⟨rfl, rfl, fun _ _ => rfl, fun _ i hi => absurd hi (by omega)⟩

theorem wp_readWhole :
    (readWhole dst fullBlocks blockStart).wp blockStore D
      (fun status pool' s' => pool' = pool ∧
        FetchedBytes free dst (512 * blockStart.toNat) (512 * fullBlocks.toNat) status s s')
      pool s := by
  unfold readWhole
  split
  · refine wp_mono wp_readSafeSd_store ?_
    rintro status _ s' ⟨h, rfl⟩
    exact ⟨rfl, h.fetchedBytes⟩
  · rename_i hnone
    rw [not_pos_iff_zero] at hnone
    exact ⟨rfl, rfl, fun _ _ _ => rfl, fun _ i hi => absurd hi (by omega)⟩

/-! ## The block of the rest -/

theorem add_mul_blockSize (p x : BitVec 32) : p + x * blockSize = nth p (512 * x.toNat) := by
  have hmul : x * blockSize = BitVec.ofNat 32 (512 * x.toNat) := by
    apply BitVec.eq_of_toNat_eq
    rw [BitVec.toNat_mul, BitVec.toNat_ofNat, Nat.mul_comm]
    rfl
  rw [hmul, nth]

/-- The block of the rest, read into the bounce buffer, patched and written back: the bytes behind
the rest are stored as they were. -/
theorem wp_writeRest (hrest : remainingBytes.toNat < 512)
    (hblock : (blockStart + fullBlocks).toNat = blockStart.toNat + fullBlocks.toNat)
    (hready : PoolReady pl pool (nth data (512 * fullBlocks.toNat)) remainingBytes.toNat) :
    (writeRest pl data fullBlocks remainingBytes blockStart).wp blockStore D
      (fun status _ s' => StoredBytes (nth data (512 * fullBlocks.toNat))
        (512 * blockStart.toNat + 512 * fullBlocks.toNat) remainingBytes.toNat status s s')
      pool s := by
  have hkeep : ∀ {status : Int} {s' : StoreState}, status ≠ 0 → s'.card = s.card →
      StoredBytes (nth data (512 * fullBlocks.toNat))
        (512 * blockStart.toNat + 512 * fullBlocks.toNat) remainingBytes.toNat status s s' := by
    intro status s' hstatus hcard
    exact ⟨fun a _ => by rw [hcard], fun hzero => absurd hzero hstatus⟩
  unfold writeRest
  split
  · refine wp_seq (wp_allocBlock_store hready.hint) ?_
    rintro ptr pool₁ s ⟨rfl, hptr⟩
    split
    · exact hkeep (by decide : (-1 : Int) ≠ 0) rfl
    rename_i hnonnull
    have hfree := hptr.resolve_left hnonnull
    refine wp_seq wp_readMultiBlockSd_store ?_
    rintro status _ s₁ ⟨hloaded, rfl⟩
    rw [hblock] at hloaded
    split
    · rename_i hfailed
      exact hkeep hfailed hloaded.card
    rename_i hok
    have hwhole := hloaded.whole (not_not.1 hok)
    rw [add_mul_blockSize]
    -- The caller's bytes are not in the bounce buffer.
    have hdata : ∀ i, i < remainingBytes.toNat →
        s₁.memory (nth (nth data (512 * fullBlocks.toNat)) i) =
          s.memory (nth (nth data (512 * fullBlocks.toNat)) i) := by
      intro i hi
      refine hloaded.outside _ fun hin => ?_
      exact hready.apart _ (inRegion_nth hi (by omega)) (hfree _ hin)
    have hapart : Apart ptr remainingBytes.toNat (nth data (512 * fullBlocks.toNat))
        remainingBytes.toNat := by
      intro x hx hx'
      exact hready.apart x hx' (hfree x (hx.mono (by omega)))
    refine wp_bind.2 (wp_perform.2 ⟨hapart, ?_⟩)
    rintro _ _ rfl
    refine wp_seq wp_writeSafeSd_store ?_
    rintro status pool₂ s₂ ⟨hwrote, _⟩
    rw [hblock] at hwrote
    have hstored : StoredBytes (nth data (512 * fullBlocks.toNat))
        (512 * blockStart.toNat + 512 * fullBlocks.toNat) remainingBytes.toNat status s s₂ := by
      refine ⟨?_, ?_⟩
      · intro a ha
        rw [← hloaded.card]
        by_cases hin : InBlocks (blockStart.toNat + fullBlocks.toNat) 1 a
        · -- Behind the rest the bounce buffer holds what the card held.
          rcases hwrote.inside a hin with hold | hnew
          · exact hold
          · rcases hin with ⟨hlo, hhi⟩
            rw [hnew]
            have hback : ¬InRegion ptr remainingBytes.toNat
                (nth ptr (a - 512 * (blockStart.toNat + fullBlocks.toNat))) := by
              rw [InRegion, nth_sub, BitVec.toNat_ofNat]
              omega
            refine (Memory.copy_outside hback).trans ?_
            rw [hwhole _ (by rw [BitVec.toNat_ofNat]; omega), ← hloaded.card]
            congr 1
            omega
        · exact hwrote.outside a hin
      · intro hstatus i hi
        have hin : InBlocks (blockStart.toNat + fullBlocks.toNat) 1
            (512 * blockStart.toNat + 512 * fullBlocks.toNat + i) := ⟨by omega, by omega⟩
        have hoff : 512 * blockStart.toNat + 512 * fullBlocks.toNat + i -
            512 * (blockStart.toNat + fullBlocks.toNat) = i := by omega
        rw [hwrote.whole hstatus _ hin, hoff]
        exact (Memory.copy_nth hi (by omega)).trans (hdata i hi)
    split
    · exact hstored
    · rename_i hzero
      exact not_not.1 hzero ▸ hstored
  · rename_i hnone
    rw [not_pos_iff_zero] at hnone
    exact ⟨fun _ _ => rfl, fun _ i hi => absurd hi (by omega)⟩

theorem wp_readRest (hrest : remainingBytes.toNat < 512)
    (hblock : (blockStart + fullBlocks).toNat = blockStart.toNat + fullBlocks.toNat)
    (hready : PoolReady pl pool (nth dst (512 * fullBlocks.toNat)) remainingBytes.toNat) :
    (readRest pl dst fullBlocks remainingBytes blockStart).wp blockStore D
      (fun status _ s' => FetchedBytes (FreeByte pl pool) (nth dst (512 * fullBlocks.toNat))
        (512 * blockStart.toNat + 512 * fullBlocks.toNat) remainingBytes.toNat status s s')
      pool s := by
  unfold readRest
  split
  · refine wp_seq (wp_allocBlock_store hready.hint) ?_
    rintro ptr pool₁ s ⟨rfl, hptr⟩
    split
    · have hnull : poolErrAllocationFailed ≠ 0 := by decide
      exact ⟨rfl, fun _ _ _ => rfl, fun hzero => absurd hzero hnull⟩
    rename_i hnonnull
    have hfree := hptr.resolve_left hnonnull
    refine wp_seq wp_readSafeSd_store ?_
    rintro status _ s₁ ⟨hloaded, rfl⟩
    rw [hblock] at hloaded
    -- The block was loaded into memory of the pool, which the caller does not see.
    have houtside : ∀ x, ¬FreeByte pl pool x → s₁.memory x = s.memory x := fun x hx =>
      hloaded.outside x fun hin => hx (hfree x hin)
    split
    · rename_i hfailed
      exact ⟨hloaded.card, fun x _ hx => houtside x hx, fun hzero => absurd hzero hfailed⟩
    rename_i hok
    have hwhole := hloaded.whole (not_not.1 hok)
    rw [add_mul_blockSize]
    have hapart : Apart (nth dst (512 * fullBlocks.toNat)) remainingBytes.toNat ptr
        remainingBytes.toNat := by
      intro x hx hx'
      exact hready.apart x hx (hfree x (hx'.mono (by omega)))
    refine wp_bind.2 (wp_perform.2 ⟨hapart, ?_⟩)
    rintro _ _ rfl
    refine ⟨hloaded.card, ?_, ?_⟩
    · intro x hx hx'
      exact (Memory.copy_outside hx).trans (houtside x hx')
    · intro _ i hi
      refine (Memory.copy_nth hi (by omega)).trans ?_
      rw [hwhole i (by rw [BitVec.toNat_ofNat]; omega), Nat.mul_add]
  · rename_i hnone
    rw [not_pos_iff_zero] at hnone
    exact ⟨rfl, fun _ _ _ => rfl, fun _ i hi => absurd hi (by omega)⟩

/-! ## Sectors -/

/-- The sectors start at a block and end below 4 GiB. -/
structure SectorRange (sectorCount startSector sectorSize : BitVec 32) : Prop where
  size : 1 ≤ sectorSize.toNat
  aligned : 512 ∣ startSector.toNat * sectorSize.toNat
  below : (startSector.toNat + sectorCount.toNat) * sectorSize.toNat < 2 ^ 32

section Sectors

variable {sectorCount startSector sectorSize : BitVec 32}

theorem toNat_bytes {x : BitVec 32} (h : x.toNat * sectorSize.toNat < 2 ^ 32) :
    (x * sectorSize / blockSize).toNat = x.toNat * sectorSize.toNat / 512 ∧
      (x * sectorSize % blockSize).toNat = x.toNat * sectorSize.toNat % 512 := by
  have hmul : (x * sectorSize).toNat = x.toNat * sectorSize.toNat := by
    rw [BitVec.toNat_mul, Nat.mod_eq_of_lt h]
  rw [BitVec.toNat_udiv, BitVec.toNat_umod, hmul]
  exact ⟨rfl, rfl⟩

/-- The blocks and the rest of the transfer, in bytes. -/
structure Split (sectorCount startSector sectorSize : BitVec 32) : Prop where
  first : 512 * (startSector * sectorSize / blockSize).toNat = startSector.toNat * sectorSize.toNat
  parts : 512 * (sectorCount * sectorSize / blockSize).toNat +
    (sectorCount * sectorSize % blockSize).toNat = sectorCount.toNat * sectorSize.toNat
  rest : (sectorCount * sectorSize % blockSize).toNat < 512
  block : (startSector * sectorSize / blockSize + sectorCount * sectorSize / blockSize).toNat =
    (startSector * sectorSize / blockSize).toNat + (sectorCount * sectorSize / blockSize).toNat
  length : sectorCount.toNat * sectorSize.toNat < 2 ^ 32

theorem SectorRange.split (h : SectorRange sectorCount startSector sectorSize) :
    Split sectorCount startSector sectorSize := by
  have hbelow := h.below
  rw [Nat.add_mul] at hbelow
  have hfirst := toNat_bytes (by omega : startSector.toNat * sectorSize.toNat < 2 ^ 32)
  have hcount := toNat_bytes (by omega : sectorCount.toNat * sectorSize.toNat < 2 ^ 32)
  have haligned := Nat.mul_div_cancel' h.aligned
  refine ⟨?_, ?_, ?_, ?_, by omega⟩
  · rw [hfirst.1, haligned]
  · rw [hcount.1, hcount.2, Nat.div_add_mod]
  · rw [hcount.2]
    exact Nat.mod_lt _ (by decide)
  · rw [BitVec.toNat_add, hfirst.1, hcount.1]
    omega

theorem PoolReady.rest {p : BitVec 32} (h : PoolReady pl pool p (n + m)) (hsize : n + m ≤ 2 ^ 32) :
    PoolReady pl pool (nth p n) m where
  hint := h.hint
  apart := fun x hx => h.apart x (hx.of_nth (Nat.le_refl _) hsize)

theorem wp_writeSd_store (hrange : SectorRange sectorCount startSector sectorSize)
    (hready : PoolReady pl pool data (sectorCount.toNat * sectorSize.toNat)) :
    (writeSd pl data sectorCount startSector sectorSize).wp blockStore D
      (fun status _ s' => StoredBytes data (startSector.toNat * sectorSize.toNat)
        (sectorCount.toNat * sectorSize.toNat) status s s') pool s := by
  have hsplit := hrange.split
  have hlength := hsplit.length
  rw [writeSd_eq, ← hsplit.first, ← hsplit.parts]
  rw [← hsplit.parts] at hready hlength
  refine wp_seq wp_writeWhole ?_
  rintro status pool s₁ ⟨rfl, hmemory, hwhole⟩
  split
  · rename_i hfailed
    exact hwhole.failed hfailed
  · rename_i hok
    rw [not_not.1 hok] at hwhole
    refine wp_mono (wp_writeRest hsplit.rest hsplit.block (hready.rest (by omega))) ?_
    intro status' _ s₂ hrest
    exact hwhole.append hmemory hrest

theorem wp_readSd_store (hrange : SectorRange sectorCount startSector sectorSize)
    (hready : PoolReady pl pool dst (sectorCount.toNat * sectorSize.toNat)) :
    (readSd pl dst sectorCount startSector sectorSize).wp blockStore D
      (fun status _ s' => FetchedBytes (FreeByte pl pool) dst
        (startSector.toNat * sectorSize.toNat) (sectorCount.toNat * sectorSize.toNat) status s s')
      pool s := by
  have hsplit := hrange.split
  have hlength := hsplit.length
  rw [readSd_eq, ← hsplit.first, ← hsplit.parts]
  rw [← hsplit.parts] at hready hlength
  have hread : (readWhole dst (sectorCount * sectorSize / blockSize)
      (startSector * sectorSize / blockSize)).wp blockStore D (fun status pool' s' =>
        pool' = pool ∧ FetchedBytes (FreeByte pl pool) dst
          (512 * (startSector * sectorSize / blockSize).toNat)
          (512 * (sectorCount * sectorSize / blockSize).toNat) status s s') pool s := wp_readWhole
  refine wp_seq hread ?_
  rintro status pool s₁ ⟨rfl, hwhole⟩
  split
  · rename_i hfailed
    exact hwhole.failed hfailed
  · rename_i hok
    rw [not_not.1 hok] at hwhole
    refine wp_mono (wp_readRest hsplit.rest hsplit.block (hready.rest (by omega))) ?_
    intro status' _ s₂ hrest
    exact hwhole.append hrest (by omega) hready.apart

/-- `write_sd` changes no byte of the card outside its sectors, whatever it returns, and stores
`data` if it returns 0.  After that, a `read_sd` of the sectors that returns 0 fills its buffer
with these bytes; of the memory it touches, whatever it returns, nothing else but free bytes of
the pool. -/
theorem write_read_back (hrange : SectorRange sectorCount startSector sectorSize)
    (hready : PoolReady pl pool data (sectorCount.toNat * sectorSize.toNat))
    (hrun : Runs blockStore (writeSd pl data sectorCount startSector sectorSize pool) s
      (status, pool') s') :
    (∀ a, ¬(startSector.toNat * sectorSize.toNat ≤ a ∧
        a < (startSector.toNat + sectorCount.toNat) * sectorSize.toNat) → s'.card a = s.card a) ∧
      (status = 0 → ∀ i, i < sectorCount.toNat * sectorSize.toNat →
        s'.card (startSector.toNat * sectorSize.toNat + i) = s.memory (nth data i)) ∧
      ∀ buffer pool₁ s₁ status₂ pool₂ s₂, s₁.card = s'.card →
        PoolReady pl pool₁ buffer (sectorCount.toNat * sectorSize.toNat) →
        Runs blockStore (readSd pl buffer sectorCount startSector sectorSize pool₁) s₁
          (status₂, pool₂) s₂ →
        (status = 0 → status₂ = 0 → ∀ i, i < sectorCount.toNat * sectorSize.toNat →
          s₂.memory (nth buffer i) = s.memory (nth data i)) ∧
        ∀ x, ¬InRegion buffer (sectorCount.toNat * sectorSize.toNat) x →
          ¬FreeByte pl pool₁ x → s₂.memory x = s₁.memory x := by
  have hwrite : (writeSd pl data sectorCount startSector sectorSize).wp blockStore
      (fun _ => False) _ pool s := wp_writeSd_store hrange hready
  have hstored := wp_runs hwrite hrun
  rw [Nat.add_mul]
  refine ⟨hstored.outside, hstored.whole, ?_⟩
  -- Between the two calls the card is left alone; memory and pool may change.
  intro buffer pool₁ s₁ status₂ pool₂ s₂ hcard hready' hrun'
  have hread : (readSd pl buffer sectorCount startSector sectorSize).wp blockStore
      (fun _ => False) _ pool₁ s₁ := wp_readSd_store hrange hready'
  have hfetched := wp_runs hread hrun'
  refine ⟨?_, hfetched.outside⟩
  intro hstatus hstatus₂ i hi
  rw [hfetched.whole hstatus₂ i hi, hcard, hstored.whole hstatus i hi]

end Sectors

/-- After any calls of the allocator, a caller's region is clear of free bytes if it lies outside
`memory_pool` or in what the allocator handed out. -/
theorem poolReady_of_runCalls {cs : List PoolCall} {st : PoolState}
    (hrun : runCalls pl cs PoolState.start = some st) {p : BitVec 32} {len : Nat}
    (hregion : ∀ x, InRegion p len x →
      x.toNat < pl.base ∨ pl.base + poolSize ≤ x.toNat ∨ x.toNat - pl.base ∈ occupied st.live) :
    PoolReady pl st.pool p len := by
  have h : Allocator.Accounted st := accounted_runCalls accounted_start hrun
  refine ⟨h.hint, ?_⟩
  rintro x hx ⟨k, hk, hfree, hxk⟩
  rcases hregion x hx with hlow | hhigh | hlive
  · omega
  · omega
  · rw [hxk, Nat.add_sub_cancel_left] at hlive
    have hused := (h.bits k hk).2 hlive
    rw [Pool.free_eq_true.1 hfree] at hused
    exact Bool.false_ne_true hused

/-! ## A card without failures -/

def StoreState.writeBlocks (s : StoreState) (data : BitVec 32) (address count : Nat) :
    StoreState where
  memory := s.memory
  card a := if InBlocks address count a then s.memory (nth data (a - 512 * address)) else s.card a

def StoreState.readBlocks (s : StoreState) (buffer : BitVec 32) (address count : Nat) :
    StoreState where
  memory x :=
    if InRegion buffer (512 * count) x then s.card (512 * address + (x - buffer).toNat)
    else s.memory x
  card := s.card

def faultless (s : StoreState) : (e : DeviceEvent) → e.Response × StoreState
  | .writeMultiBlockSd data count address _ =>
      ((0 : Int), s.writeBlocks data address.toNat count.toNat)
  | .readMultiBlockSd buffer count address _ =>
      -- There is no region of more than `2 ^ 32` bytes.
      if 512 * count.toNat ≤ 2 ^ 32 then
        ((0 : Int), s.readBlocks buffer address.toNat count.toNat)
      else ((-1 : Int), s)
  | .eraseSd _ _ => ((0 : Int), s)
  | .memcpy dst src n => ((), { s with memory := s.memory.copy dst src n.toNat })
  | .delayTimer _ => ((), s)

theorem faultless_step (s : StoreState) (e : DeviceEvent) :
    blockStore.step s e (faultless s e).1 (faultless s e).2 := by
  cases e with
  | writeMultiBlockSd data count address timeout =>
      refine ⟨rfl, fun _ => true, fun _ _ => rfl, fun a => ?_⟩
      simp [faultless, StoreState.writeBlocks]
  | readMultiBlockSd buffer count address timeout =>
      unfold faultless
      dsimp only
      split
      · rename_i hcount
        refine ⟨rfl, fun x hx => if_neg hx, fun _ i hi => ?_⟩
        refine (if_pos (inRegion_nth hi hcount)).trans ?_
        rw [nth_sub, BitVec.toNat_ofNat, Nat.mod_eq_of_lt (by omega)]
      · have hfailed : (-1 : Int) ≠ 0 := by decide
        exact ⟨rfl, fun _ _ => rfl, fun hzero => absurd hzero hfailed⟩
  | eraseSd addressStart addressEnd => trivial
  | memcpy dst src n => rfl
  | delayTimer ms => rfl

/-- 600 bytes behind the pool. -/
theorem poolReady_behind {first : BitVec 32} (hbehind : 0x20001000 ≤ first.toNat)
    (hend : first.toNat + 600 ≤ 2 ^ 32) :
    PoolReady sramPlacement PoolState.start.pool first 600 := by
  have hstart : runCalls sramPlacement [] PoolState.start = some PoolState.start := rfl
  refine poolReady_of_runCalls hstart fun x hx => ?_
  rcases hx.exists_nth with ⟨i, hi, rfl⟩
  refine Or.inr (Or.inl ?_)
  rw [nth, BitVec.toNat_add, BitVec.toNat_ofNat]
  simp only [sramPlacement, poolSize]
  omega

theorem sectorRange_one : SectorRange 1#32 0#32 600#32 := ⟨by decide, by decide, by decide⟩

/-- One sector of 600 bytes, the data behind the pool, written and read into another place. -/
theorem write_read_back_one_sector :
    ∃ pool' s' pool₂ s₂, Runs blockStore
        (writeSd sramPlacement 0x20001000#32 1#32 0#32 600#32 PoolState.start.pool)
        { memory := fun x => x.setWidth 8, card := fun _ => 0#8 } (0, pool') s' ∧
      (∀ a, ¬(0 * 600 ≤ a ∧ a < (0 + 1) * 600) → s'.card a = 0#8) ∧
      (∀ i, i < 1 * 600 → s'.card (0 * 600 + i) = (nth 0x20001000#32 i).setWidth 8) ∧
      Runs blockStore (readSd sramPlacement 0x20002000#32 1#32 0#32 600#32 PoolState.start.pool) s'
        (0, pool₂) s₂ ∧
      ∀ i, i < 1 * 600 → s₂.memory (nth 0x20002000#32 i) = (nth 0x20001000#32 i).setWidth 8 := by
  have hexec : (((writeSd sramPlacement 0x20001000#32 1#32 0#32 600#32 PoolState.start.pool).exec
      faultless { memory := fun x => x.setWidth 8, card := fun _ => 0#8 }).bind fun x =>
        ((readSd sramPlacement 0x20002000#32 1#32 0#32 600#32 PoolState.start.pool).exec faultless
          x.2).map fun y => (x.1.1, y.1.1)) = some (0, 0) := by
    decide +kernel
  rcases Option.bind_eq_some_iff.1 hexec with ⟨⟨⟨status, pool'⟩, s'⟩, hwrite, hrest⟩
  rcases Option.map_eq_some_iff.1 hrest with ⟨⟨⟨status₂, pool₂⟩, s₂⟩, hread, hend⟩
  rcases Prod.mk.inj hend with ⟨rfl, rfl⟩
  have hruns := Prog.exec_runs faultless_step hwrite
  have hruns₂ := Prog.exec_runs faultless_step hread
  obtain ⟨houtside, hwhole, hback⟩ :=
    write_read_back sectorRange_one (poolReady_behind (by decide) (by decide)) hruns
  obtain ⟨hsame, -⟩ := hback 0x20002000#32 PoolState.start.pool s' 0 pool₂ s₂ rfl
    (poolReady_behind (by decide) (by decide)) hruns₂
  exact ⟨pool', s', pool₂, s₂, hruns, houtside, hwhole rfl, hruns₂, hsame rfl rfl⟩

end Middleware
end SdioFat32
