import SdioFat32.Effects.Refine
import SdioFat32.Driver.Transfer

/-!
# CardVersion — the block functions do not change what the driver knows of the card

The address of a block depends on the version of the card, which only the identification sets: of
the variables of `SD.c` an answer changes the state alone.
-/

namespace SdioFat32
namespace Driver

open Effects Proc

variable {fuel : Nat}

/-- What the driver knows of the card's addressing. -/
abbrev version (g : SdGlobals) : CardVersion := g.sd.version

theorem keeps_answerStatus {onTimeout onCrc : BitVec 32} :
    (answerStatus fuel onTimeout onCrc).Keeps version := by
  have hclear : ∀ (flag : BitVec 32) (code : Int),
      (clearFlagSdio flag >>= fun _ => pure code).Keeps version := by
    intro flag code
    have hflag : (clearFlagSdio flag).Keeps version :=
      (keeps_perform _).bind fun _ => keeps_perform _
    exact hflag.bind fun _ => keeps_pure code
  refine Keeps.bind (keeps_iter (fun _ => (keeps_perform _).bind fun status => ?_) fuel ()) ?_
  · exact keeps_ite (keeps_pure _) (keeps_pure _)
  · intro status
    exact keeps_ite (hclear _ _) (keeps_ite (hclear _ _) (hclear _ _))

theorem keeps_cmdResp1Error {cs : CardStatus} : (cmdResp1Error fuel cs).Keeps version := by
  refine keeps_answerStatus.bind fun status => keeps_ite (keeps_pure _) ?_
  have hassign : ∀ state : SdState,
      (assignSd fun sd => { sd with state := state }).Keeps version := fun _ _ => rfl
  exact (keeps_perform _).bind fun response => (hassign _).bind fun _ => keeps_pure _

theorem keeps_sendCommandSdio {command arg formatResp : BitVec 32} :
    (sendCommandSdio command arg formatResp).Keeps version :=
  (keeps_perform _).bind fun _ => keeps_perform _

theorem keeps_sendStatusSd {cs : CardStatus} : (sendStatusSd fuel cs).Keeps version := by
  refine keeps_globals.bind fun g => keeps_sendCommandSdio.bind fun _ => ?_
  refine keeps_cmdResp1Error.bind ?_
  rintro ⟨status, cs⟩
  exact keeps_ite (keeps_pure _) (keeps_pure _)

theorem keeps_waitCardReady : (waitCardReady fuel).Keeps version := by
  have hloop : ∀ (attempts : Nat) (cs : CardStatus),
      (waitCardReadyLoop fuel attempts cs).Keeps version := by
    intro attempts
    induction attempts with
    | zero => exact fun cs => keeps_pure _
    | succ attempts ih =>
        intro cs
        refine keeps_sendStatusSd.bind ?_
        rintro ⟨status, cs⟩
        refine keeps_ite (keeps_pure _) (keeps_globals.bind fun g => ?_)
        exact keeps_ite (keeps_pure _) ((keeps_perform _).bind fun _ => ih cs)
  exact hloop 500 0#32

theorem keeps_stopTransmission : (stopTransmission fuel).Keeps version := by
  have hanswer : (cmdResp1bError fuel 0#32).Keeps version := by
    refine keeps_cmdResp1Error.bind ?_
    rintro ⟨status, cs⟩
    refine keeps_ite (keeps_pure _) (keeps_ite (keeps_pure _) ?_)
    exact keeps_waitCardReady.bind fun _ => keeps_pure _
  refine (keeps_perform _).bind fun sta => keeps_ite ?_ (keeps_pure _)
  refine keeps_sendCommandSdio.bind fun _ => hanswer.bind ?_
  rintro ⟨status, cs⟩
  exact keeps_ite ((keeps_perform _).bind fun _ => keeps_pure _) (keeps_pure _)

theorem keeps_exitTests : ∀ tests : List (BitVec 32 × Int), (exitTests tests).Keeps version
  | [] => keeps_pure _
  | (flag, error) :: tests => by
      refine (keeps_perform _).bind fun sta => keeps_ite ?_ (keeps_exitTests tests)
      exact (keeps_perform _).bind fun _ => keeps_pure _

theorem keeps_sdioConfigData {dataControl length timeout : BitVec 32} :
    (sdioConfigData dataControl length timeout).Keeps version :=
  (keeps_perform _).bind fun _ => (keeps_perform _).bind fun _ => keeps_perform _

/-! ## The loops -/

theorem keeps_txLoop {data length : BitVec 32} : (txLoop fuel data length).Keeps version := by
  have hburst : ∀ (m : Nat) (st : BitVec 32 × Int), (txBurst m st).Keeps version := by
    intro m
    induction m with
    | zero => exact fun st => keeps_pure _
    | succ m ih =>
        rintro ⟨tempBuff, dataRemaining⟩
        exact (keeps_perform _).bind fun w => (keeps_perform _).bind fun _ => ih _
  refine keeps_iter (fun st => (keeps_perform _).bind fun sta => ?_) fuel _
  refine keeps_ite (keeps_pure _) ((keeps_perform _).bind fun sta => ?_)
  exact keeps_ite ((hburst 8 st).bind fun st => keeps_pure _) (keeps_pure _)

/-- Take a word out of the FIFO and go on. -/
theorem keeps_takeWord {α : Type} {addr : BitVec 32} (a : α) :
    (do
      let w ← readReg .fifo
      storeWord addr w
      return a).Keeps version :=
  (keeps_perform _).bind fun _ => (keeps_perform _).bind fun _ => keeps_pure _

theorem keeps_rxSingle {addr : BitVec 32} : (iter rxSingleStep fuel addr).Keeps version := by
  refine keeps_iter (fun addr => (keeps_perform _).bind fun sta => ?_) fuel _
  refine keeps_ite (keeps_pure _) ((keeps_perform _).bind fun sta => ?_)
  exact keeps_ite (keeps_takeWord _) (keeps_pure _)

theorem keeps_rxSingleDrain {addr : BitVec 32} :
    (iter rxSingleDrainStep fuel addr).Keeps version := by
  refine keeps_iter (fun addr => (keeps_perform _).bind fun sta => ?_) fuel _
  exact keeps_ite (keeps_takeWord _) (keeps_pure _)

theorem keeps_rxMulti {st : BitVec 32 × BitVec 32} : (iter rxMultiStep fuel st).Keeps version := by
  have hburst : ∀ (m : Nat) (st : BitVec 32 × BitVec 32), (rxBurst m st).Keeps version := by
    intro m
    induction m with
    | zero => exact fun st => keeps_pure _
    | succ m ih =>
        rintro ⟨tempBuff, dataRemaining⟩
        exact (keeps_perform _).bind fun w => (keeps_perform _).bind fun _ => ih _
  refine keeps_iter (fun st => (keeps_perform _).bind fun sta => ?_) fuel _
  refine keeps_ite (keeps_pure _) ((keeps_perform _).bind fun sta => ?_)
  exact keeps_ite ((hburst 8 st).bind fun st => keeps_pure _) (keeps_pure _)

theorem keeps_rxMultiDrain {st : BitVec 32 × BitVec 32} :
    (iter rxMultiDrainStep fuel st).Keeps version := by
  refine keeps_iter (fun st => (keeps_perform _).bind fun sta => ?_) fuel _
  exact keeps_ite (keeps_takeWord _) (keeps_pure _)

/-! ## The block functions -/

theorem keeps_txFinish : (txFinish fuel).Keeps version := by
  refine (keeps_exitTests _).bind fun status => keeps_ite (keeps_pure _) ?_
  exact (keeps_perform _).bind fun _ => keeps_waitCardReady

theorem keeps_writeSingleBlockSd {data size address timeout : BitVec 32} :
    (writeSingleBlockSd fuel data size address timeout).Keeps version := by
  refine keeps_ite (keeps_pure _) (keeps_globals.bind fun g => (keeps_perform _).bind fun _ => ?_)
  refine keeps_waitCardReady.bind fun status => keeps_ite (keeps_pure _) ?_
  refine keeps_sdioConfigData.bind fun _ => keeps_sendCommandSdio.bind fun _ => ?_
  refine keeps_cmdResp1Error.bind ?_
  rintro ⟨status, cs⟩
  exact keeps_ite (keeps_pure _) (keeps_txLoop.bind fun _ => keeps_txFinish)

theorem keeps_writeMultiBlockSd {data countBlocks address timeout : BitVec 32} :
    (writeMultiBlockSd fuel data countBlocks address timeout).Keeps version := by
  refine keeps_ite (keeps_ite keeps_writeSingleBlockSd (keeps_pure _)) ?_
  refine keeps_globals.bind fun g => (keeps_perform _).bind fun _ => ?_
  refine keeps_sdioConfigData.bind fun _ => keeps_sendCommandSdio.bind fun _ => ?_
  refine keeps_cmdResp1Error.bind ?_
  rintro ⟨status, cs⟩
  refine keeps_ite ((keeps_perform _).bind fun _ => keeps_pure _) (keeps_txLoop.bind fun _ => ?_)
  exact keeps_stopTransmission.bind fun status => keeps_ite (keeps_pure _) keeps_txFinish

theorem keeps_readSingleBlockSd {buffer size address timeout : BitVec 32} :
    (readSingleBlockSd fuel buffer size address timeout).Keeps version := by
  refine keeps_ite (keeps_pure _) ((keeps_perform _).bind fun _ => keeps_globals.bind fun g => ?_)
  refine keeps_sendCommandSdio.bind fun _ => keeps_cmdResp1Error.bind ?_
  rintro ⟨status, cs⟩
  refine keeps_ite (keeps_pure _) (keeps_sdioConfigData.bind fun _ => keeps_rxSingle.bind ?_)
  refine fun addr => (keeps_exitTests _).bind fun status => keeps_ite (keeps_pure _) ?_
  exact keeps_rxSingleDrain.bind fun _ => (keeps_perform _).bind fun _ => keeps_waitCardReady

theorem keeps_readMultiBlockSd {buffer countBlocks address timeout : BitVec 32} :
    (readMultiBlockSd fuel buffer countBlocks address timeout).Keeps version := by
  refine keeps_ite (keeps_ite keeps_readSingleBlockSd (keeps_pure _)) ?_
  refine keeps_globals.bind fun g => (keeps_perform _).bind fun _ => ?_
  refine keeps_sdioConfigData.bind fun _ => keeps_sendCommandSdio.bind fun _ => ?_
  refine keeps_cmdResp1Error.bind ?_
  rintro ⟨status, cs⟩
  refine keeps_ite (keeps_pure _) (keeps_rxMulti.bind fun st => keeps_stopTransmission.bind ?_)
  refine fun status => keeps_ite (keeps_pure _) ((keeps_exitTests _).bind fun status => ?_)
  refine keeps_ite (keeps_pure _) (keeps_rxMultiDrain.bind fun _ => ?_)
  exact (keeps_perform _).bind fun _ => (keeps_perform _).bind fun _ => keeps_waitCardReady

end Driver
end SdioFat32
