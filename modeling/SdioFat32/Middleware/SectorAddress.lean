import SdioFat32.Middleware.BlockDevice

/-!
# SectorAddress — the blocks that `read_sd` and `write_sd` ask the driver for

The byte offset of the first sector is formed in 32 bits before it is divided by the block size.
The driver gets the right blocks exactly if the offset fits, or if no sector is asked for.
-/

namespace SdioFat32
namespace Middleware

open Effects Allocator Proc
open BlockDevice

/-! ## What is passed to the driver -/

/-- The number of blocks and the first block of a transfer. -/
def DeviceEvent.blocks : DeviceEvent → List (BitVec 32 × BitVec 32)
  | .readMultiBlockSd _ countBlocks address _ => [(countBlocks, address)]
  | .writeMultiBlockSd _ countBlocks address _ => [(countBlocks, address)]
  | _ => []

/-- The driver may return anything; its block transfers are recorded. -/
def driverCalls : Env DeviceEvent DeviceEvent.Response (List (BitVec 32 × BitVec 32)) where
  step calls e _ calls' := calls' = calls ++ e.blocks

/-- The driver that returns 0. -/
def DeviceEvent.success : (e : DeviceEvent) → e.Response
  | .readMultiBlockSd _ _ _ _ => (0 : Int)
  | .writeMultiBlockSd _ _ _ _ => (0 : Int)
  | .eraseSd _ _ => (0 : Int)
  | .memcpy _ _ _ => ()
  | .delayTimer _ => ()

inductive SectorAccess where
  | read
  | write

def SectorAccess.run (f : SectorAccess) (pl : Placement)
    (buffer sectorCount startSector sectorSize : BitVec 32) : DeviceProc Int :=
  match f with
  | .read => readSd pl buffer sectorCount startSector sectorSize
  | .write => writeSd pl buffer sectorCount startSector sectorSize

/-- Every transfer is of exactly the blocks of the sectors, and there is one if there are any. -/
structure PassesBlocks (sectorCount startSector sectorSize : BitVec 32)
    (calls : List (BitVec 32 × BitVec 32)) : Prop where
  exact : ∀ c ∈ calls, c.1.toNat = sectorCount.toNat * (sectorSize.toNat / 512) ∧
    c.2.toNat = startSector.toNat * (sectorSize.toNat / 512)
  called : 0 < sectorCount.toNat → calls ≠ []

/-! ## Runs -/

variable {D : List (BitVec 32 × BitVec 32) → Prop} {f : SectorAccess} {pl : Placement}
  {buffer sectorCount startSector sectorSize : BitVec 32} {pool : Pool}
  {calls : List (BitVec 32 × BitVec 32)}

/-- A call is recorded with its blocks, whatever the driver returns. -/
theorem wp_call {e : DeviceEvent} :
    (perform e : DeviceProc e.Response).wp driverCalls D
      (fun _ _ calls' => calls' = calls ++ e.blocks) pool calls :=
  ⟨trivial, fun _ _ hstep => hstep⟩

/-- Every attempt passes the same blocks. -/
theorem wp_retry {op : DeviceProc Int} {pause : BitVec 32} {x : BitVec 32 × BitVec 32}
    (hop : ∀ {pool : Pool} {calls : List (BitVec 32 × BitVec 32)},
      op.wp driverCalls D (fun _ _ calls' => calls' = calls ++ [x]) pool calls)
    (attempts : Nat) (status : Int) (h : ∀ c ∈ calls, c = x) :
    (retry op pause attempts status).wp driverCalls D
      (fun _ _ calls' => (∀ c ∈ calls', c = x) ∧ (0 < attempts ∨ calls ≠ [] → calls' ≠ []))
      pool calls := by
  induction attempts generalizing status pool calls with
  | zero =>
      refine ⟨h, ?_⟩
      rintro (hpos | hne)
      · exact absurd hpos (Nat.lt_irrefl 0)
      · exact hne
  | succ attempts ih =>
      unfold retry
      refine wp_seq hop ?_
      rintro status₁ pool₁ _ rfl
      have hnext : ∀ c ∈ calls ++ [x], c = x := by
        intro c hc
        rcases List.mem_append.1 hc with hold | hnew
        · exact h c hold
        · exact List.mem_singleton.1 hnew
      have hne : calls ++ [x] ≠ [] := by simp
      split
      · exact ⟨hnext, fun _ => hne⟩
      · refine wp_bind.2 (wp_perform.2 ⟨trivial, fun _ calls₂ hpause => ?_⟩)
        have hsame : calls₂ = calls ++ [x] := hpause.trans (List.append_nil _)
        subst hsame
        -- The pause is no call of the driver.
        refine wp_mono (ih status₁ hnext) ?_
        rintro _ _ calls' ⟨hall, hsome⟩
        exact ⟨hall, fun _ => hsome (Or.inr hne)⟩

theorem wp_readSafeSd {countBlocks blockStart timeout : BitVec 32} :
    (readSafeSd buffer countBlocks blockStart timeout).wp driverCalls D
      (fun _ _ calls' => (∀ c ∈ calls', c = (countBlocks, blockStart)) ∧ calls' ≠ []) pool [] := by
  refine wp_mono (wp_retry (x := (countBlocks, blockStart)) wp_call 5 0 (by simp)) ?_
  rintro _ _ calls' ⟨hall, hsome⟩
  exact ⟨hall, hsome (Or.inl (by decide))⟩

theorem wp_writeSafeSd {countBlocks blockStart timeout : BitVec 32} :
    (writeSafeSd buffer countBlocks blockStart timeout).wp driverCalls D
      (fun _ _ calls' => (∀ c ∈ calls', c = (countBlocks, blockStart)) ∧ calls' ≠ []) pool [] := by
  refine wp_mono (wp_retry (x := (countBlocks, blockStart)) wp_call 3 0 (by simp)) ?_
  rintro _ _ calls' ⟨hall, hsome⟩
  exact ⟨hall, hsome (Or.inl (by decide))⟩

/-- The full blocks are transferred if there are any, whatever the driver returns. -/
theorem wp_fullBlocks {p : DeviceProc Int} {fullBlocks : BitVec 32} {x : BitVec 32 × BitVec 32}
    (hp : p.wp driverCalls D (fun _ _ calls' => (∀ c ∈ calls', c = x) ∧ calls' ≠ []) pool []) :
    (if 0#32 < fullBlocks then do
        let status ← p
        if status ≠ 0 then return status
        return 0
      else return 0 : DeviceProc Int).wp driverCalls D
      (fun _ _ calls' => (∀ c ∈ calls', c = x) ∧ (calls' ≠ [] ↔ 0#32 < fullBlocks)) pool [] := by
  split
  · rename_i hfull
    refine wp_seq hp ?_
    rintro status _ calls' ⟨hall, hsome⟩
    split
    · exact ⟨hall, iff_of_true hsome hfull⟩
    · exact ⟨hall, iff_of_true hsome hfull⟩
  · rename_i hnone
    exact ⟨by simp, iff_of_false (by simp) hnone⟩

/-- Without a partial block, all transfers are of the full blocks from the first one on. -/
theorem wp_access (hwhole : sectorCount * sectorSize % blockSize = 0#32) :
    (f.run pl buffer sectorCount startSector sectorSize).wp driverCalls D
      (fun _ _ calls' =>
        (∀ c ∈ calls', c =
          (sectorCount * sectorSize / blockSize, startSector * sectorSize / blockSize)) ∧
        (calls' ≠ [] ↔ 0#32 < sectorCount * sectorSize / blockSize))
      pool [] := by
  -- Without a partial block the bounce buffer is not used.
  have hrest : ¬0#32 < sectorCount * sectorSize % blockSize := by
    rw [hwhole]
    decide
  cases f with
  | read =>
      unfold SectorAccess.run readSd
      simp only [if_neg hrest]
      exact wp_fullBlocks wp_readSafeSd
  | write =>
      unfold SectorAccess.run writeSd
      simp only [if_neg hrest]
      exact wp_fullBlocks wp_writeSafeSd

/-! ## The 32-bit arithmetic -/

/-- The number of bytes of whole blocks. -/
theorem bytes_eq {n size : BitVec 32} (hsize : 512 ∣ size.toNat) :
    n.toNat * size.toNat = 512 * (n.toNat * (size.toNat / 512)) := by
  calc
    n.toNat * size.toNat = n.toNat * (512 * (size.toNat / 512)) := by
      rw [Nat.mul_div_cancel' hsize]
    _ = 512 * (n.toNat * (size.toNat / 512)) := Nat.mul_left_comm _ _ _

/-- A byte offset of whole blocks, divided by the block size, is known modulo `2 ^ 23`. -/
theorem toNat_byteOffset {n size : BitVec 32} (hsize : 512 ∣ size.toNat) :
    (n * size / blockSize).toNat = n.toNat * (size.toNat / 512) % 2 ^ 23 := by
  calc
    (n * size / blockSize).toNat = n.toNat * size.toNat % 2 ^ 32 / 512 := by
      rw [BitVec.toNat_udiv, BitVec.toNat_mul]
      rfl
    _ = n.toNat * (size.toNat / 512) % 2 ^ 23 := by
      rw [bytes_eq hsize]
      omega

theorem toNat_byteOffset_eq_iff {n size : BitVec 32} (hsize : 512 ∣ size.toNat) :
    (n * size / blockSize).toNat = n.toNat * (size.toNat / 512) ↔
      n.toNat * size.toNat < 2 ^ 32 := by
  rw [toNat_byteOffset hsize, bytes_eq hsize]
  omega

theorem bytes_mod_blockSize {n size : BitVec 32} (hsize : 512 ∣ size.toNat) :
    n * size % blockSize = 0#32 := by
  apply BitVec.eq_of_toNat_eq
  calc
    (n * size % blockSize).toNat = n.toNat * size.toNat % 2 ^ 32 % 512 := by
      rw [BitVec.toNat_umod, BitVec.toNat_mul]
      rfl
    _ = 0 := by
      rw [bytes_eq hsize]
      omega

/-! ## When the driver gets the right blocks -/

/-- Some block is transferred exactly if some sector is asked for. -/
theorem fullBlocks_pos_iff (hsize : 512 ∣ sectorSize.toNat) (hpos : 0 < sectorSize.toNat)
    (hlength : sectorCount.toNat * sectorSize.toNat < 2 ^ 32) :
    0#32 < sectorCount * sectorSize / blockSize ↔ 0 < sectorCount.toNat := by
  have hquot : 0 < sectorSize.toNat / 512 :=
    Nat.div_pos (Nat.le_of_dvd hpos hsize) (by decide)
  rw [BitVec.lt_def, (toNat_byteOffset_eq_iff hsize).2 hlength]
  exact Nat.mul_pos_iff_of_pos_right hquot

theorem wp_passesBlocks (hsize : 512 ∣ sectorSize.toNat) (hpos : 0 < sectorSize.toNat)
    (hlength : sectorCount.toNat * sectorSize.toNat < 2 ^ 32)
    (hstart : startSector.toNat * sectorSize.toNat < 2 ^ 32 ∨ sectorCount.toNat = 0) :
    (f.run pl buffer sectorCount startSector sectorSize).wp driverCalls D
      (fun _ _ calls' => PassesBlocks sectorCount startSector sectorSize calls') pool [] := by
  refine wp_mono (wp_access (bytes_mod_blockSize hsize)) ?_
  rintro _ _ calls' ⟨hall, hsome⟩
  rw [fullBlocks_pos_iff hsize hpos hlength] at hsome
  refine ⟨fun c hc => ?_, hsome.2⟩
  -- A transfer happened, so some sector was asked for, and its offset fits.
  have hcount : 0 < sectorCount.toNat := hsome.1 (List.ne_nil_of_mem hc)
  have hfits : startSector.toNat * sectorSize.toNat < 2 ^ 32 :=
    hstart.resolve_right (Nat.ne_of_gt hcount)
  rw [hall c hc]
  exact ⟨(toNat_byteOffset_eq_iff hsize).2 hlength, (toNat_byteOffset_eq_iff hsize).2 hfits⟩

/-- The blocks of two different sectors are apart. -/
theorem PassesBlocks.apart {other : BitVec 32} {calls' : List (BitVec 32 × BitVec 32)}
    (h : PassesBlocks 1#32 startSector sectorSize calls)
    (h' : PassesBlocks 1#32 other sectorSize calls') (hne : other ≠ startSector) :
    ∀ c ∈ calls, ∀ c' ∈ calls',
      c.2.toNat + c.1.toNat ≤ c'.2.toNat ∨ c'.2.toNat + c'.1.toNat ≤ c.2.toNat := by
  intro c hc c' hc'
  rcases h.exact c hc with ⟨hcount, hfirst⟩
  rcases h'.exact c' hc' with ⟨hcount', hfirst'⟩
  have hnat : other.toNat ≠ startSector.toNat := fun heq => hne (BitVec.eq_of_toNat_eq heq)
  rw [hcount, hcount', hfirst, hfirst', ← Nat.add_mul, ← Nat.add_mul]
  -- One of the sectors ends before the other one starts.
  rcases Nat.lt_or_gt_of_ne hnat with hlt | hgt
  · exact Or.inr (Nat.mul_le_mul_right _ hlt)
  · exact Or.inl (Nat.mul_le_mul_right _ hgt)

theorem passesBlocks_of_run (hsize : 512 ∣ sectorSize.toNat) (hpos : 0 < sectorSize.toNat)
    (hlength : sectorCount.toNat * sectorSize.toNat < 2 ^ 32)
    (hstart : startSector.toNat * sectorSize.toNat < 2 ^ 32 ∨ sectorCount.toNat = 0)
    {status : Int} {pool' : Pool}
    (hrun : Runs driverCalls (f.run pl buffer sectorCount startSector sectorSize pool) []
      (status, pool') calls) : PassesBlocks sectorCount startSector sectorSize calls := by
  have hwp : (f.run pl buffer sectorCount startSector sectorSize).wp driverCalls (fun _ => True)
      (fun _ _ calls' => PassesBlocks sectorCount startSector sectorSize calls') pool [] :=
    wp_passesBlocks hsize hpos hlength hstart
  have hpasses := wp_runs hwp hrun
  exact hpasses

/-- For sector sizes of whole blocks and a length that fits in 32 bits, every run of `read_sd` and
of `write_sd` passes exactly the blocks of the sectors if and only if the byte offset of the first
sector fits in 32 bits or there is no sector to transfer.  Two different sectors with such offsets
never share a block. -/
theorem passes_blocks_iff (hsize : 512 ∣ sectorSize.toNat) (hpos : 0 < sectorSize.toNat)
    (hlength : sectorCount.toNat * sectorSize.toNat < 2 ^ 32) :
    ((∀ status pool' calls,
        Runs driverCalls (f.run pl buffer sectorCount startSector sectorSize pool) []
          (status, pool') calls →
        PassesBlocks sectorCount startSector sectorSize calls) ↔
      startSector.toNat * sectorSize.toNat < 2 ^ 32 ∨ sectorCount.toNat = 0) ∧
    ∀ (f' : SectorAccess) (buffer' other : BitVec 32), other ≠ startSector →
      startSector.toNat * sectorSize.toNat < 2 ^ 32 → other.toNat * sectorSize.toNat < 2 ^ 32 →
      ∀ status pool₁ calls status' pool₂ calls',
        Runs driverCalls (f.run pl buffer 1#32 startSector sectorSize pool) [] (status, pool₁)
          calls →
        Runs driverCalls (f'.run pl buffer' 1#32 other sectorSize pool) [] (status', pool₂)
          calls' →
        ∀ c ∈ calls, ∀ c' ∈ calls',
          c.2.toNat + c.1.toNat ≤ c'.2.toNat ∨ c'.2.toNat + c'.1.toNat ≤ c.2.toNat := by
  refine ⟨⟨fun hall => ?_, ?_⟩, ?_⟩
  · -- Some run passes a block number, which tells the offset.
    rcases Nat.eq_zero_or_pos sectorCount.toNat with hzero | hcount
    · exact Or.inr hzero
    · have hlive : ∀ calls (e : DeviceEvent), ∃ r calls', driverCalls.step calls e r calls' :=
        fun _ e => ⟨e.success, _, rfl⟩
      have hwp : (f.run pl buffer sectorCount startSector sectorSize).wp driverCalls
          (fun _ => False) _ pool [] := wp_access (bytes_mod_blockSize hsize)
      rcases Prog.exists_run hwp hlive with ⟨⟨status, pool'⟩, calls, hrun, heach, hsome⟩
      have hpasses := hall status pool' calls hrun
      rcases List.exists_mem_of_ne_nil calls (hpasses.called hcount) with ⟨c, hc⟩
      have hblock := (hpasses.exact c hc).2
      rw [heach c hc] at hblock
      exact Or.inl ((toNat_byteOffset_eq_iff hsize).1 hblock)
  · intro hstart status pool' calls hrun
    exact passesBlocks_of_run hsize hpos hlength hstart hrun
  · intro f' buffer' other hne hstart hother status pool₁ calls status' pool₂ calls' hrun hrun'
    have hone : (1#32).toNat * sectorSize.toNat < 2 ^ 32 := by
      have hlt := sectorSize.isLt
      simpa using hlt
    have hpasses := passesBlocks_of_run hsize hpos hone (Or.inl hstart) hrun
    have hpasses' := passesBlocks_of_run hsize hpos hone (Or.inl hother) hrun'
    exact hpasses.apart hpasses' hne

/-! ## Two cards of 512-byte sectors -/

/-- The sector at 4 GiB is written to block 0. -/
theorem sector_wraps_to_block_zero :
    ∃ pool' calls, Runs driverCalls
        (SectorAccess.write.run sramPlacement 0x20001000#32 1#32 0x800000#32 512#32 Pool.static)
        [] (0, pool') calls ∧
      calls = [(1#32, 0#32)] ∧ ¬PassesBlocks 1#32 0x800000#32 512#32 calls := by
  have hexec : (SectorAccess.write.run sramPlacement 0x20001000#32 1#32 0x800000#32 512#32
      Pool.static).exec (fun calls e => (e.success, calls ++ e.blocks)) [] =
      some ((0, Pool.static), [(1#32, 0#32)]) := rfl
  refine ⟨_, _, Prog.exec_runs (fun _ _ => rfl) hexec, rfl, fun h => ?_⟩
  exact absurd (h.exact (1#32, 0#32) (by simp)).2 (by decide)

/-- Two sectors of 1024 bytes, below 4 GiB. -/
theorem passes_blocks_iff_two_sectors :
    (∀ status pool' calls,
        Runs driverCalls (SectorAccess.read.run sramPlacement 0x20001000#32 2#32 0x3FFFFE#32
          1024#32 Pool.static) [] (status, pool') calls →
        PassesBlocks 2#32 0x3FFFFE#32 1024#32 calls) ↔
      0x3FFFFE * 1024 < 2 ^ 32 ∨ 2 = 0 :=
  (passes_blocks_iff (by decide) (by decide) (by decide)).1

end Middleware
end SdioFat32
