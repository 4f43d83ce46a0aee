import SdioFat32.Driver.Response

/-!
# Transfer — the block functions of `SD.c` that poll the FIFO

The two write functions share their polling loop and the tests after it, and the two read
functions theirs; each function keeps the order in which it arms the data path, sends its command
and treats the answer, since there they differ:

* `write_single_block_sd` waits for the card before it arms the data path;
* `read_single_block_sd` arms it only after the answer to its command;
* the single-block functions go on with any status that is not negative.
-/

namespace SdioFat32
namespace Driver

open Effects Proc

/-! ## Sending words -/

/-- The flags that end the polling loop of a write. -/
def txLoopFlags : BitVec 32 :=
  sdioStaTxunderr ||| sdioStaStbiterr ||| sdioStaDtimeout ||| sdioStaDcrcfail ||| sdioStaDataend

/-- The next `n` words of the buffer; `st` is `temp_buff` and `dataremaining`. -/
def txBurst : Nat → BitVec 32 × Int → SdProc (BitVec 32 × Int)
  | 0, st => return st
  | n + 1, (tempBuff, dataRemaining) => do
      let w ← loadWord tempBuff
      writeReg .fifo w
      txBurst n (tempBuff + 4#32, dataRemaining - 4)

/-- One iteration of the polling loop of a write. -/
def txStep (st : BitVec 32 × Int) : SdProc ((BitVec 32 × Int) ⊕ Unit) := do
  let sta ← readSta (.dataLoop txLoopFlags)
  if hasFlag sta txLoopFlags then return .inr ()
  -- The FIFO is tested on a second read of `STA`.
  let sta ← readSta .fifoTest
  if hasFlag sta sdioStaTxfifohe ∧ 0 < st.2 then
    let st ← txBurst 8 st
    return .inl st
  return .inl st

def txLoop (fuel : Nat) (data length : BitVec 32) : SdProc Unit :=
  iter txStep fuel (data, length.toInt)

/-! ## Receiving words -/

def rxSingleLoopFlags : BitVec 32 :=
  sdioStaDtimeout ||| sdioStaDcrcfail ||| sdioStaStbiterr ||| sdioStaRxoverr ||| sdioStaDbckend

def rxMultiLoopFlags : BitVec 32 :=
  sdioStaDtimeout ||| sdioStaDcrcfail ||| sdioStaStbiterr ||| sdioStaRxoverr ||| sdioStaDataend

/-- One iteration of the polling loop of `read_single_block_sd`; `addr` is `buffer + idx`. -/
def rxSingleStep (addr : BitVec 32) : SdProc (BitVec 32 ⊕ BitVec 32) := do
  let sta ← readSta (.dataLoop rxSingleLoopFlags)
  if hasFlag sta rxSingleLoopFlags then return .inr addr
  let sta ← readSta .fifoTest
  if hasFlag sta sdioStaRxfifof then
    let w ← readReg .fifo
    storeWord addr w
    return .inl (addr + 4#32)
  return .inl addr

/-- One iteration of the loop that empties the FIFO after a single block. -/
def rxSingleDrainStep (addr : BitVec 32) : SdProc (BitVec 32 ⊕ Unit) := do
  let sta ← readSta .drainLoop
  if hasFlag sta sdioStaRxdavl then
    let w ← readReg .fifo
    storeWord addr w
    return .inl (addr + 4#32)
  return .inr ()

/-- The next `n` words from the FIFO; `st` is `temp_buff` and `data_remaining`. -/
def rxBurst : Nat → BitVec 32 × BitVec 32 → SdProc (BitVec 32 × BitVec 32)
  | 0, st => return st
  | n + 1, (tempBuff, dataRemaining) => do
      let w ← readReg .fifo
      storeWord tempBuff w
      rxBurst n (tempBuff + 4#32, dataRemaining - 4#32)

/-- One iteration of the polling loop of `read_multi_block_sd`. -/
def rxMultiStep (st : BitVec 32 × BitVec 32) :
    SdProc ((BitVec 32 × BitVec 32) ⊕ (BitVec 32 × BitVec 32)) := do
  let sta ← readSta (.dataLoop rxMultiLoopFlags)
  if hasFlag sta rxMultiLoopFlags then return .inr st
  let sta ← readSta .fifoTest
  if hasFlag sta sdioStaRxfifohf ∧ 0#32 < st.2 then
    let st ← rxBurst 8 st
    return .inl st
  return .inl st

/-- One iteration of the loop that empties the FIFO after several blocks. -/
def rxMultiDrainStep (st : BitVec 32 × BitVec 32) : SdProc ((BitVec 32 × BitVec 32) ⊕ Unit) := do
  let sta ← readSta .drainLoop
  if hasFlag sta sdioStaRxdavl ∧ 0#32 < st.2 then
    let w ← readReg .fifo
    storeWord st.1 w
    return .inl (st.1 + 4#32, st.2 - 4#32)
  return .inr ()

/-! ## After the polling loop -/

/-- The tests of single flags, in order: the first flag that is set clears the data flags and
gives its error, none gives 0. -/
def exitTests : List (BitVec 32 × Int) → SdProc Int
  | [] => return 0
  | (flag, error) :: tests => do
      let sta ← readSta (.exitTest flag)
      if hasFlag sta flag then
        clearFlagsSdio sdioMaskStaticDataFlags
        return error
      exitTests tests

/-- After a write; there is no test of `STBITERR`. -/
def txExitTests : List (BitVec 32 × Int) :=
  [(sdioStaDcrcfail, errorDataCrc), (sdioStaTxunderr, errorTxunder),
    (sdioStaDtimeout, errorWaitTime)]

/-- After a read. -/
def rxExitTests : List (BitVec 32 × Int) :=
  [(sdioStaDtimeout, errorWaitTime), (sdioStaDcrcfail, errorWaitTime),
    (sdioStaRxoverr, errorRxoverr), (sdioStaStbiterr, errorStartBit)]

/-- `if (SDIO->STA & SDIO_STA_DATAEND)` and its block, 0 if the function goes on. -/
def stopTransmission (fuel : Nat) : SdProc Int := do
  let sta ← readSta (.exitTest sdioStaDataend)
  if hasFlag sta sdioStaDataend then
    sendCommandSdio cmdStopTransmission 0#32 sdioCmdShortResp
    -- Only the two copied fields of `cs` change, and nothing reads them.
    let (status, _) ← cmdResp1bError fuel 0#32
    if status ≠ 0 then
      clearFlagsSdio sdioMaskStaticDataFlags
      return -1
  return 0

/-- The end of both write functions. -/
def txFinish (fuel : Nat) : SdProc Int := do
  let status ← exitTests txExitTests
  if status ≠ 0 then return status
  clearFlagsSdio sdioMaskStaticDataFlags
  waitCardReady fuel

/-! ## The block functions -/

/-- `if (SD.version == CARD_SDSC) address *= 512;` -/
def cardAddress (g : SdGlobals) (address : BitVec 32) : BitVec 32 :=
  if g.sd.version = .sdsc then address * 512#32 else address

def writeSingleBlockSd (fuel : Nat) (data size address timeout : BitVec 32) : SdProc Int := do
  if size ≠ 512#32 then return -10
  let g ← globals
  writeReg .dctrl 0#32
  -- Only this function waits for the card before it arms the data path.
  let status ← waitCardReady fuel
  if status ≠ 0 then return status
  sdioConfigData (sdioDctrlDblocksize blockSize512B ||| sdioDctrlDten) size timeout
  sendCommandSdio cmdWriteBlock (cardAddress g address) sdioCmdShortResp
  let (status, _) ← cmdResp1Error fuel 0#32
  if status < 0 then return -1
  txLoop fuel data size
  txFinish fuel

def writeMultiBlockSd (fuel : Nat) (data countBlocks address timeout : BitVec 32) :
    SdProc Int := do
  let length := 512#32 * countBlocks
  if countBlocks ≤ 1#32 then
    if countBlocks = 1#32 then
      writeSingleBlockSd fuel data length address timeout
    else
      return 0
  else
    let g ← globals
    writeReg .dctrl 0#32
    sdioConfigData (sdioDctrlDblocksize blockSize512B ||| sdioDctrlDten) length timeout
    sendCommandSdio cmdWriteMultipleBlock (cardAddress g address) sdioCmdShortResp
    let (status, _) ← cmdResp1Error fuel 0#32
    if status ≠ 0 then
      -- The command flags, not the data flags; the data path stays armed.
      clearFlagsSdio sdioMaskStaticCmdFlags
      return -1
    txLoop fuel data length
    let status ← stopTransmission fuel
    if status ≠ 0 then return status
    txFinish fuel

def readSingleBlockSd (fuel : Nat) (buffer sizeBuff address timeout : BitVec 32) : SdProc Int := do
  if sizeBuff ≠ 512#32 then return -1
  writeReg .dctrl 0#32
  let g ← globals
  sendCommandSdio cmdReadSingleBlock (cardAddress g address) sdioCmdShortResp
  -- `cs_pattern` is a `Card_Status` here, which is large enough for the two copied fields.
  let (status, _) ← cmdResp1Error fuel 0#32
  if status < 0 then return status
  sdioConfigData (sdioDctrlDblocksize blockSize512B ||| sdioDctrlDtdir ||| sdioDctrlDten) 512#32
    timeout
  let addr ← iter rxSingleStep fuel buffer
  let status ← exitTests rxExitTests
  if status ≠ 0 then return status
  iter rxSingleDrainStep fuel addr
  clearFlagsSdio sdioMaskStaticDataFlags
  waitCardReady fuel

def readMultiBlockSd (fuel : Nat) (buffer countBlocks address timeout : BitVec 32) :
    SdProc Int := do
  let length := countBlocks * 512#32
  if countBlocks ≤ 1#32 then
    if countBlocks = 1#32 then
      readSingleBlockSd fuel buffer length address timeout
    else
      return 0
  else
    let g ← globals
    writeReg .dctrl 0#32
    sdioConfigData (sdioDctrlDblocksize blockSize512B ||| sdioDctrlDtdir ||| sdioDctrlDten) length
      timeout
    sendCommandSdio cmdReadMultipleBlock (cardAddress g address) sdioCmdShortResp
    let (status, _) ← cmdResp1Error fuel 0#32
    if status ≠ 0 then return -1
    -- Words that are still in the FIFO when the loop ends are read after the tests.
    let st ← iter rxMultiStep fuel (buffer, length)
    let status ← stopTransmission fuel
    if status ≠ 0 then return status
    let status ← exitTests rxExitTests
    if status ≠ 0 then return status
    iter rxMultiDrainStep fuel st
    clearFlagsSdio sdioMaskStaticDataFlags
    delayTimer 100#32
    waitCardReady fuel

/-- From two blocks on the functions do not fall back on those for a single block. -/
theorem not_le_one {count : BitVec 32} (hcount : 2 ≤ count.toNat) : ¬count ≤ 1#32 := by
  rw [BitVec.le_def]
  exact Nat.not_le_of_lt hcount

/-! ## The events of the loops -/

/-- The events of the polling loops and of the loops that empty the FIFO. -/
def Polling : SdioEvent → Prop
  | .sta (.dataLoop _) => True
  | .sta .fifoTest => True
  | .sta .drainLoop => True
  | .read .fifo => True
  | .write .fifo _ => True
  | .load _ => True
  | .store _ _ => True
  | _ => False

section Emits

variable {fuel : Nat}

theorem emits_txLoop {data length : BitVec 32} : (txLoop fuel data length).Emits Polling True := by
  have hburst : ∀ (m : Nat) (st : BitVec 32 × Int), (txBurst m st).Emits Polling True := by
    intro m
    induction m with
    | zero =>
        intro st
        exact emits_pure _
    | succ m ih =>
        rintro ⟨tempBuff, dataRemaining⟩
        exact (emits_perform trivial).bind fun w => (emits_perform trivial).bind fun _ => ih _
  refine emits_iter (fun st => (emits_perform trivial).bind fun sta => ?_) fuel _
  refine emits_ite (emits_pure _) ((emits_perform trivial).bind fun sta => ?_)
  exact emits_ite ((hburst 8 st).bind fun st => emits_pure _) (emits_pure _)

theorem emits_rxSingle {buffer : BitVec 32} :
    (iter rxSingleStep fuel buffer).Emits Polling True := by
  refine emits_iter (fun addr => (emits_perform trivial).bind fun sta => ?_) fuel _
  refine emits_ite (emits_pure _) ((emits_perform trivial).bind fun sta => ?_)
  refine emits_ite ?_ (emits_pure _)
  exact (emits_perform trivial).bind fun w => (emits_perform trivial).bind fun _ => emits_pure _

theorem emits_rxSingleDrain {addr : BitVec 32} :
    (iter rxSingleDrainStep fuel addr).Emits Polling True := by
  refine emits_iter (fun addr => (emits_perform trivial).bind fun sta => ?_) fuel _
  refine emits_ite ?_ (emits_pure _)
  exact (emits_perform trivial).bind fun w => (emits_perform trivial).bind fun _ => emits_pure _

theorem emits_rxMulti {st : BitVec 32 × BitVec 32} :
    (iter rxMultiStep fuel st).Emits Polling True := by
  have hburst : ∀ (m : Nat) (st : BitVec 32 × BitVec 32), (rxBurst m st).Emits Polling True := by
    intro m
    induction m with
    | zero =>
        intro st
        exact emits_pure _
    | succ m ih =>
        rintro ⟨tempBuff, dataRemaining⟩
        exact (emits_perform trivial).bind fun w => (emits_perform trivial).bind fun _ => ih _
  refine emits_iter (fun st => (emits_perform trivial).bind fun sta => ?_) fuel _
  refine emits_ite (emits_pure _) ((emits_perform trivial).bind fun sta => ?_)
  exact emits_ite ((hburst 8 st).bind fun st => emits_pure _) (emits_pure _)

theorem emits_rxMultiDrain {st : BitVec 32 × BitVec 32} :
    (iter rxMultiDrainStep fuel st).Emits Polling True := by
  refine emits_iter (fun st => (emits_perform trivial).bind fun sta => ?_) fuel _
  refine emits_ite ?_ (emits_pure _)
  exact (emits_perform trivial).bind fun w => (emits_perform trivial).bind fun _ => emits_pure _

end Emits

end Driver
end SdioFat32
