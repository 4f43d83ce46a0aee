import SdioFat32.Middleware.SdDevice
import SdioFat32.Driver.OpenTransfers

/-!
# ClosedTransfers — multi-block transfers and their retries

The books of `OpenTransfers` balance after every run of the two multi-block functions and of the
two loops that retry them: all transfers are closed, and none was started on top of an open one,
exactly if every test of `DATAEND` saw it.
-/

namespace SdioFat32
namespace Middleware

open Effects Allocator Proc
open Driver

inductive MultiTransfer where
  | readMulti
  | writeMulti
  | readSafe
  | writeSafe

def MultiTransfer.run (f : MultiTransfer) (buffer countBlocks address timeout : BitVec 32) :
    DeviceProc Int :=
  match f with
  | .readMulti => BlockDevice.readMultiBlockSd buffer countBlocks address timeout
  | .writeMulti => BlockDevice.writeMultiBlockSd buffer countBlocks address timeout
  | .readSafe => BlockDevice.readSafeSd buffer countBlocks address timeout
  | .writeSafe => BlockDevice.writeSafeSd buffer countBlocks address timeout

variable {fuel : Nat} {f : MultiTransfer} {buffer countBlocks address timeout : BitVec 32}
  {g g' : Pool × SdGlobals} {s s' : WatchState} {status : Int}

theorem wp_multiTransfer (hcount : 2 ≤ countBlocks.toNat) (h : Balanced s) :
    (onDriver fuel (f.run buffer countBlocks address timeout)).wp watch (fun _ => True)
      (fun _ _ s' => Balanced s') g s := by
  have hread : ∀ {g s}, Balanced s →
      (onDriver fuel (BlockDevice.readMultiBlockSd buffer countBlocks address timeout)).wp watch
        (fun _ => True) (fun _ _ s' => Balanced s') g s :=
    fun h => wp_onDriver_perform.2 (wp_readMultiBlockSd_watch hcount h)
  have hwrite : ∀ {g s}, Balanced s →
      (onDriver fuel (BlockDevice.writeMultiBlockSd buffer countBlocks address timeout)).wp watch
        (fun _ => True) (fun _ _ s' => Balanced s') g s :=
    fun h => wp_onDriver_perform.2 (wp_writeMultiBlockSd_watch hcount h)
  have hpause : ∀ {ms : BitVec 32} {g : SdGlobals} {s : WatchState}, Balanced s →
      (Driver.delayTimer ms).wp watch (fun _ => True) (fun _ _ s' => Balanced s') g s := by
    intro ms g s h
    refine wp_mono (wp_unwatched (emits_perform trivial)) ?_
    rintro _ _ _ rfl
    exact h
  cases f with
  | readMulti => exact hread h
  | writeMulti => exact hwrite h
  | readSafe => exact wp_onDriver_retry hread hpause 5 0 h
  | writeSafe => exact wp_onDriver_retry hwrite hpause 3 0 h

/-- Nothing was sent yet. -/
def WatchState.start : WatchState :=
  { command := 0#32
    opened := false
    clash := false
    dataend := [] }

/-- In every run of a multi-block function, or of one of the loops that retry it, every accepted
transfer is closed when it returns and no transfer command was sent to a card with an open one, if
and only if every read of `STA` that tests `DATAEND` shows it. -/
theorem transfers_closed_iff (hcount : 2 ≤ countBlocks.toNat)
    (hrun : Runs watch (onDriver fuel (f.run buffer countBlocks address timeout) g)
      WatchState.start (status, g') s') :
    (s'.opened = false ∧ s'.clash = false) ↔
      ∀ w ∈ s'.dataend, hasFlag w sdioStaDataend = true := by
  have hwp : (onDriver fuel (f.run buffer countBlocks address timeout)).wp watch (fun _ => True)
      (fun _ _ s' => Balanced s') g WatchState.start := wp_multiTransfer hcount rfl
  have hbalanced := wp_runs hwp hrun
  exact hbalanced.iff

/-! ## A write that ends with a CRC failure -/

/-- What `STA` shows at each place; a data transfer ends as `sta` says. -/
def endingTransfer (sta : BitVec 32) : StaSite → BitVec 32
  | .cmdResp => sdioStaCmdrend
  | _ => sta

/-- Every command is accepted. -/
def endingAnswer (sta : BitVec 32) (s : WatchState) (e : SdioEvent) : e.Response × WatchState :=
  (e.ready (endingTransfer sta), s.next e (e.ready (endingTransfer sta)))

theorem endingAnswer_allowed (sta : BitVec 32) (s : WatchState) (e : SdioEvent) :
    watch.step s e (endingAnswer sta s e).1 (endingAnswer sta s e).2 := rfl

/-- `CMD25` is accepted, `DCRCFAIL` alone ends the loop, and `write_multi_block_sd` returns without
`CMD12`; `write_safe_sd` then sends the next `CMD25` to the card that still receives. -/
theorem crc_failure_leaves_open :
    (∃ g' s', Runs watch
      (onDriver 1 (MultiTransfer.writeMulti.run 0x20001000#32 2#32 0#32 1000000#32)
        (Pool.static, blankGlobals)) WatchState.start (errorDataCrc, g') s' ∧
      s'.opened = true) ∧
    ∃ g' s', Runs watch
      (onDriver 1 (MultiTransfer.writeSafe.run 0x20001000#32 2#32 0#32 1000000#32)
        (Pool.static, blankGlobals)) WatchState.start (errorDataCrc, g') s' ∧
      s'.clash = true := by
  have hmulti : ((onDriver 1 (MultiTransfer.writeMulti.run 0x20001000#32 2#32 0#32 1000000#32)
      (Pool.static, blankGlobals)).exec (endingAnswer sdioStaDcrcfail) WatchState.start).map
      (fun x => (x.1.1, x.2.opened)) = some (errorDataCrc, true) := by
    decide +kernel
  have hsafe : ((onDriver 1 (MultiTransfer.writeSafe.run 0x20001000#32 2#32 0#32 1000000#32)
      (Pool.static, blankGlobals)).exec (endingAnswer sdioStaDcrcfail) WatchState.start).map
      (fun x => (x.1.1, x.2.clash)) = some (errorDataCrc, true) := by
    decide +kernel
  constructor
  · exact Prog.exec_ends (fun s : WatchState => s.opened) (endingAnswer_allowed _) hmulti
  · exact Prog.exec_ends (fun s : WatchState => s.clash) (endingAnswer_allowed _) hsafe

/-- A read that ends with `DATAEND`. -/
theorem transfers_closed_iff_complete_read :
    ∃ g' s', Runs watch
        (onDriver 1 (MultiTransfer.readSafe.run 0x20001000#32 2#32 0#32 1000000#32)
          (Pool.static, blankGlobals)) WatchState.start (0, g') s' ∧
      ((s'.opened = false ∧ s'.clash = false) ↔
        ∀ w ∈ s'.dataend, hasFlag w sdioStaDataend = true) := by
  have hsummary : ((onDriver 1 (MultiTransfer.readSafe.run 0x20001000#32 2#32 0#32 1000000#32)
      (Pool.static, blankGlobals)).exec (endingAnswer sdioStaDataend) WatchState.start).map
      (fun x => x.1.1) = some 0 := by
    decide +kernel
  rcases Prog.exec_returns (endingAnswer_allowed _) hsummary with ⟨g', s', hrun⟩
  exact ⟨g', s', hrun, transfers_closed_iff (by decide) hrun⟩

end Middleware
end SdioFat32
