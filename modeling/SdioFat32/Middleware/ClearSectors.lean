import SdioFat32.Driver.Capacity
import SdioFat32.Middleware.SdDevice

/-!
# ClearSectors — the blocks that `clear_sd` erases

`clear_sd` passes the first block and the number of blocks; `erase_sd` takes two block addresses,
puts them in order and erases from the first one to the second one.  The two agree only for a
request that starts at block 1.
-/

namespace SdioFat32
namespace Middleware

open Effects Allocator Proc
open BlockDevice
open Driver

/-! ## What is erased -/

/-- The unit of the addresses the card takes. -/
def blockUnit (g : SdGlobals) : Nat := if g.sd.version = .sdsc then 512 else 1

/-- The range that `CMD32` and `CMD33` set is that of the blocks from `first` to `last`, and it is
set once. -/
structure ErasesExactly (g : SdGlobals) (first last : Nat) (sent : List SentCommand) : Prop where
  start : (sent.filter fun c => c.word = commandWord cmdEraseWrBlkStart sdioCmdShortResp).map
    (fun c => c.arg.toNat) = [blockUnit g * first]
  stop : (sent.filter fun c => c.word = commandWord cmdEraseWrBlkEnd sdioCmdShortResp).map
    (fun c => c.arg.toNat) = [blockUnit g * last]

variable {delay fuel : Nat} {D : TalkState → Prop} {pool : Pool} {g : SdGlobals}
  {sectorNum sectorCount sectorSize : BitVec 32}

theorem erasesExactly_commands_iff {addressStart addressEnd : BitVec 32} {first last : Nat} :
    ErasesExactly g first last (eraseCommands g addressStart addressEnd) ↔
      (cardAddress g addressStart).toNat = blockUnit g * first ∧
        (cardAddress g addressEnd).toNat = blockUnit g * last := by
  have hstart : ((eraseCommands g addressStart addressEnd).filter fun c =>
      c.word = commandWord cmdEraseWrBlkStart sdioCmdShortResp) =
      [⟨commandWord cmdEraseWrBlkStart sdioCmdShortResp, cardAddress g addressStart⟩] := rfl
  have hstop : ((eraseCommands g addressStart addressEnd).filter fun c =>
      c.word = commandWord cmdEraseWrBlkEnd sdioCmdShortResp) =
      [⟨commandWord cmdEraseWrBlkEnd sdioCmdShortResp, cardAddress g addressEnd⟩] := rfl
  constructor
  · rintro ⟨h₁, h₂⟩
    rw [hstart] at h₁
    rw [hstop] at h₂
    exact ⟨List.singleton_inj.1 h₁, List.singleton_inj.1 h₂⟩
  · rintro ⟨h₁, h₂⟩
    refine ⟨?_, ?_⟩
    · rw [hstart]
      exact congrArg (fun n => [n]) h₁
    · rw [hstop]
      exact congrArg (fun n => [n]) h₂

/-- Addresses in bytes do not wrap below `2 ^ 23` blocks. -/
theorem toNat_cardAddress {address : BitVec 32} (h : address.toNat < 2 ^ 23) :
    (cardAddress g address).toNat = blockUnit g * address.toNat := by
  unfold cardAddress blockUnit
  split
  · rw [BitVec.toNat_mul]
    show address.toNat * 512 % 2 ^ 32 = 512 * address.toNat
    omega
  · exact (Nat.one_mul _).symm

/-! ## The request -/

/-- The rounding of `clear_sd` gives the number of blocks. -/
theorem toNat_clearOffset (hsize : 512 ∣ sectorSize.toNat)
    (hend : (sectorNum.toNat + sectorCount.toNat) * sectorSize.toNat < 2 ^ 32) :
    ((sectorCount * sectorSize + blockSize - 1#32) / blockSize).toNat =
      sectorCount.toNat * sectorSize.toNat / 512 := by
  -- The sum may wrap and wrap back.
  have hround : sectorCount * sectorSize + blockSize - 1#32 = sectorCount * sectorSize + 511#32 := by
    unfold blockSize
    bv_omega
  have hlength : sectorCount.toNat * sectorSize.toNat < 2 ^ 32 :=
    Nat.lt_of_le_of_lt (Nat.mul_le_mul_right _ (Nat.le_add_left _ _)) hend
  have hdvd : 512 ∣ sectorCount.toNat * sectorSize.toNat := Dvd.dvd.mul_left hsize _
  calc
    ((sectorCount * sectorSize + blockSize - 1#32) / blockSize).toNat
        = (sectorCount.toNat * sectorSize.toNat + 511) % 2 ^ 32 / 512 := by
          rw [hround, BitVec.toNat_udiv, BitVec.toNat_add, BitVec.toNat_mul,
            Nat.mod_eq_of_lt hlength]
          rfl
    _ = sectorCount.toNat * sectorSize.toNat / 512 := by omega

theorem toNat_clearStart
    (hend : (sectorNum.toNat + sectorCount.toNat) * sectorSize.toNat < 2 ^ 32) :
    (sectorNum * sectorSize / blockSize).toNat = sectorNum.toNat * sectorSize.toNat / 512 := by
  have hoffset : sectorNum.toNat * sectorSize.toNat < 2 ^ 32 :=
    Nat.lt_of_le_of_lt (Nat.mul_le_mul_right _ (Nat.le_add_right _ _)) hend
  rw [BitVec.toNat_udiv, BitVec.toNat_mul, Nat.mod_eq_of_lt hoffset]
  rfl

/-- The range between a first block and a number of blocks is the requested one only for a first
block of 1. -/
theorem orderAddresses_exact_iff {start count : BitVec 32} (hcount : 0 < count.toNat) :
    (orderAddresses start count).1.toNat = start.toNat ∧
        (orderAddresses start count).2.toNat = start.toNat + count.toNat - 1 ↔
      start.toNat = 1 := by
  unfold orderAddresses
  split
  · -- Swapped: the range starts at `count`, below the block asked for.
    rename_i hlt
    have hnat : count.toNat < start.toNat := hlt
    dsimp only
    omega
  · -- In order: the range ends at `count`.
    rename_i hge
    have hnat : ¬count.toNat < start.toNat := hge
    dsimp only
    omega

/-- The commands that `clear_sd` sends to a healthy card. -/
theorem wp_clearSd (hfuel : delay < fuel) (hclass : ErasableCard g) :
    (onDriver fuel (clearSd sectorNum sectorCount sectorSize)).wp
      (answeringCard (healthyCard delay)) D
      (fun status _ s' => status = 0 ∧ s'.sent =
        eraseCommands g
          (orderAddresses (sectorNum * sectorSize / blockSize)
            ((sectorCount * sectorSize + blockSize - 1#32) / blockSize)).1
          (orderAddresses (sectorNum * sectorSize / blockSize)
            ((sectorCount * sectorSize + blockSize - 1#32) / blockSize)).2)
      (pool, g) TalkState.start := by
  refine wp_onDriver_perform.2 (wp_mono (wp_eraseSd_healthy hfuel hclass) ?_)
  rintro status _ s' ⟨hstatus, hsent⟩
  exact ⟨hstatus, hsent.trans (List.append_nil _)⟩

/-- The commands of a range from a first block to a number of blocks set the requested range only
if the first block is 1. -/
theorem erasesExactly_ordered_iff (g : SdGlobals) (start count : BitVec 32)
    (hcount : 0 < count.toNat) (hstart : start.toNat < 2 ^ 23) (hbound : count.toNat < 2 ^ 23) :
    ErasesExactly g start.toNat (start.toNat + count.toNat - 1)
        (eraseCommands g (orderAddresses start count).1 (orderAddresses start count).2) ↔
      start.toNat = 1 := by
  have hordered : (orderAddresses start count).1.toNat < 2 ^ 23 ∧
      (orderAddresses start count).2.toNat < 2 ^ 23 := by
    unfold orderAddresses
    split
    · exact ⟨hbound, hstart⟩
    · exact ⟨hstart, hbound⟩
  have hunit : 0 < blockUnit g := by
    unfold blockUnit
    split <;> decide
  rw [erasesExactly_commands_iff, toNat_cardAddress hordered.1, toNat_cardAddress hordered.2,
    Nat.mul_left_cancel_iff hunit, Nat.mul_left_cancel_iff hunit]
  exact orderAddresses_exact_iff hcount

/-- On a card that answers every command without error, stays ready and allows erases, every run
of `clear_sd` sets exactly the requested range if and only if the request starts at byte 512. -/
theorem clears_exactly_iff (hsize : 512 ∣ sectorSize.toNat) (hpos : 0 < sectorSize.toNat)
    (hcount : 0 < sectorCount.toNat)
    (hend : (sectorNum.toNat + sectorCount.toNat) * sectorSize.toNat < 2 ^ 32)
    (hfuel : delay < fuel) (hclass : ErasableCard g) :
    (∀ status g' s',
        Runs (answeringCard (healthyCard delay))
          (onDriver fuel (clearSd sectorNum sectorCount sectorSize) (pool, g)) TalkState.start
          (status, g') s' →
        ErasesExactly g (sectorNum.toNat * sectorSize.toNat / 512)
          (sectorNum.toNat * sectorSize.toNat / 512 +
            sectorCount.toNat * sectorSize.toNat / 512 - 1) s'.sent) ↔
      sectorNum.toNat * sectorSize.toNat = 512 := by
  have hwp : ∀ D : TalkState → Prop,
      (onDriver fuel (clearSd sectorNum sectorCount sectorSize)).wp
        (answeringCard (healthyCard delay)) D _ (pool, g) TalkState.start :=
    fun _ => wp_clearSd hfuel hclass
  have hblocks : 512 ∣ sectorNum.toNat * sectorSize.toNat := Dvd.dvd.mul_left hsize _
  have hsectors : 512 ∣ sectorCount.toNat * sectorSize.toNat := Dvd.dvd.mul_left hsize _
  have hlength : 0 < sectorCount.toNat * sectorSize.toNat := Nat.mul_pos hcount hpos
  have hstart := toNat_clearStart hend
  have hoffset := toNat_clearOffset hsize hend
  rw [Nat.add_mul] at hend
  have hiff := erasesExactly_ordered_iff g (sectorNum * sectorSize / blockSize)
    ((sectorCount * sectorSize + blockSize - 1#32) / blockSize)
    (by rw [hoffset]; omega) (by rw [hstart]; omega) (by rw [hoffset]; omega)
  rw [hstart, hoffset] at hiff
  constructor
  · intro hall
    rcases Prog.exists_run (hwp (fun _ => False)) healthyCard_live with
      ⟨⟨status, g'⟩, s', hrun, _, hsent⟩
    have herases := hall status g' s' hrun
    rw [hsent] at herases
    -- One run is enough: every run sends the same commands.
    have hone := hiff.1 herases
    omega
  · intro hbyte status g' s' hrun
    rcases wp_runs (hwp fun _ => True) hrun with ⟨_, hsent⟩
    rw [hsent]
    exact hiff.2 (by omega)

/-! ## Two requests to an SDHC card -/

/-- The driver's variables for a card whose classes include the erase commands. -/
def sdhcGlobals : SdGlobals :=
  { blankGlobals with
    sd := { blankGlobals.sd with version := .sdxc, rca := 1#16 }
    csdData := csdOf7680MB }

theorem erasable_sdhcGlobals : ErasableCard sdhcGlobals := by
  unfold ErasableCard
  decide

/-- A request for the blocks 100 to 107 erases the blocks 8 to 100. -/
theorem clear_erases_other_blocks :
    ∃ g' s', Runs (answeringCard (healthyCard 0))
        (onDriver 1 (clearSd 100#32 8#32 512#32) (Pool.static, sdhcGlobals)) TalkState.start
        (0, g') s' ∧
      s'.sent = eraseCommands sdhcGlobals 8#32 100#32 ∧
      ¬ErasesExactly sdhcGlobals 100 107 s'.sent := by
  have hwp : (onDriver 1 (clearSd 100#32 8#32 512#32)).wp (answeringCard (healthyCard 0))
      (fun _ => False) _ (Pool.static, sdhcGlobals) TalkState.start :=
    wp_clearSd (by decide) erasable_sdhcGlobals
  rcases Prog.exists_run hwp healthyCard_live with ⟨⟨status, g'⟩, s', hrun, hstatus, hsent⟩
  have hzero : status = 0 := hstatus
  subst hzero
  have hrange : s'.sent = eraseCommands sdhcGlobals 8#32 100#32 := hsent
  refine ⟨g', s', hrun, hrange, fun h => ?_⟩
  rw [hrange, erasesExactly_commands_iff] at h
  exact absurd h.1 (by decide)

/-- A request that starts at block 1. -/
theorem clears_exactly_iff_from_block_one :
    (∀ status g' s',
        Runs (answeringCard (healthyCard 3))
          (onDriver 4 (clearSd 1#32 8#32 512#32) (Pool.static, sdhcGlobals)) TalkState.start
          (status, g') s' →
        ErasesExactly sdhcGlobals (1 * 512 / 512) (1 * 512 / 512 + 8 * 512 / 512 - 1) s'.sent) ↔
      1 * 512 = 512 :=
  clears_exactly_iff (by decide) (by decide) (by decide) (by decide) (by decide)
    erasable_sdhcGlobals

end Middleware
end SdioFat32
