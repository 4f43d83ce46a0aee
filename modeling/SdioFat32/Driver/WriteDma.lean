import SdioFat32.Driver.Transfer
import SdioFat32.Effects.Interp

/-!
# WriteDma — `write_blocks_dma` and the functions of `drivers/core/dma.c` it calls

The registers of `DMA2` are events beside those of the peripheral.  `TCIFx`, `TEIFx`, `FEIFx` and
`DMEIFx`, which the function uses and nothing defines, are taken for the flags that `dma.h` calls
`DMA_ISR_TCIFx` and so on.  The address of the parameter `data` is an argument of the model.
-/

namespace SdioFat32
namespace Driver

open Effects Proc

/-! ## `DMA2` -/

inductive StreamReg where
  | ccr
  | cndtr
  | cpar
  | cmar0
  | fcr
  deriving DecidableEq, Repr

/-- There are eight streams. -/
instance neZero_eight : NeZero 8 := ⟨by decide⟩

inductive DmaReg where
  | lisr
  | hisr
  | lifcr
  | hifcr
  | streams (stream : Fin 8) (r : StreamReg)
  deriving DecidableEq, Repr

inductive DmaEvent where
  | sdio (e : SdioEvent)
  | readDma (r : DmaReg)
  | writeDma (r : DmaReg) (v : BitVec 32)

def DmaEvent.Response : DmaEvent → Type
  | .sdio e => e.Response
  | .readDma _ => BitVec 32
  | .writeDma _ _ => Unit

abbrev DmaProc (α : Type) : Type := Proc SdGlobals DmaEvent DmaEvent.Response α

def readDma (r : DmaReg) : DmaProc (BitVec 32) := perform (DmaEvent.readDma r)
def writeDma (r : DmaReg) (v : BitVec 32) : DmaProc Unit := perform (DmaEvent.writeDma r v)

/-- A procedure of the driver among those that use the controller. -/
def sdio {α : Type} (p : SdProc α) : DmaProc α :=
  p.embed DmaEvent.sdio fun _ r => r

def dmaEn : BitVec 32 := 1#32 <<< 0
def dmaChsel (channel : BitVec 32) : BitVec 32 := channel <<< 25
def dmaMemToPeriph : BitVec 32 := 1#32 <<< 6
def dmaMinc : BitVec 32 := 1#32 <<< 10
/-- `0x10`, not `0b10`. -/
def dmaPsize32Bits : BitVec 32 := 0x10#32 <<< 11
def dmaMsize32Bits : BitVec 32 := 0x10#32 <<< 13
def dmaPlHigh : BitVec 32 := 2#32 <<< 16
def dmaFcrDmdis : BitVec 32 := 1#32 <<< 2
def dmaFcrFth (threshold : BitVec 32) : BitVec 32 := threshold <<< 0

/-- A flag of `stream`; `DMA_IFSR_` has the same positions. -/
def dmaIsr (stream : Fin 8) (offset : Nat) : BitVec 32 :=
  1#32 <<< (stream.val * 6 + stream.val / 2 * 4 + offset)

def dmaIsrFeifx (stream : Fin 8) : BitVec 32 := dmaIsr stream 0
def dmaIsrDmeifx (stream : Fin 8) : BitVec 32 := dmaIsr stream 2
def dmaIsrTeifx (stream : Fin 8) : BitVec 32 := dmaIsr stream 3
def dmaIsrHtifx (stream : Fin 8) : BitVec 32 := dmaIsr stream 4
def dmaIsrTcifx (stream : Fin 8) : BitVec 32 := dmaIsr stream 5

/-! ## `dma.c` -/

def resetFlagsDma (stream : Fin 8) : DmaProc Unit :=
  writeDma (if 4 ≤ stream.val then .hifcr else .lifcr)
    (dmaIsrFeifx stream ||| dmaIsrDmeifx stream ||| dmaIsrTeifx stream ||| dmaIsrHtifx stream |||
      dmaIsrTcifx stream)

/-- The loop of `set_enabled_dma` that waits until `EN` is as asked for. -/
def enabledLoop (fuel : Nat) (stream : Fin 8) (enable : Bool) : DmaProc Unit :=
  iter (fun _ => do
    let ccr ← readDma (.streams stream .ccr)
    if hasFlag ccr dmaEn = enable then return .inr () else return .inl ()) fuel ()

def setEnabledDma (fuel : Nat) (stream : Fin 8) (enable : Bool) : DmaProc Unit := do
  let ccr ← readDma (.streams stream .ccr)
  writeDma (.streams stream .ccr) (if enable then ccr ||| dmaEn else ccr &&& ~~~dmaEn)
  enabledLoop fuel stream enable

/-! ## `write_blocks_dma` -/

def sdioDctrlDmaen : BitVec 32 := 1#32 <<< 3

/-- `&SDIO->FIFO` -/
def sdioFifoAddress : BitVec 32 := 0x40012C80#32

def stream3 : Fin 8 := 3

/-- What is written to `CCR` and `FCR` of the stream. -/
def writeCcr : BitVec 32 :=
  dmaChsel 4#32 ||| dmaMemToPeriph ||| dmaMinc ||| dmaPsize32Bits ||| dmaMsize32Bits ||| dmaPlHigh

def writeFcr : BitVec 32 := dmaFcrDmdis ||| dmaFcrFth 2#32

def streamEndFlags : BitVec 32 :=
  dmaIsrTcifx stream3 ||| dmaIsrTeifx stream3 ||| dmaIsrFeifx stream3 ||| dmaIsrDmeifx stream3

/-- The loop that waits for the end of the data transfer. -/
def dataEndLoop (fuel : Nat) : SdProc Unit :=
  iter (fun _ => do
    let sta ← readSta (.dataLoop txLoopFlags)
    if hasFlag sta txLoopFlags then return .inr () else return .inl ()) fuel ()

/-- The loop that waits for the end of the stream. -/
def streamEndLoop (fuel : Nat) : DmaProc Unit :=
  iter (fun _ => do
    let lisr ← readDma .lisr
    if hasFlag lisr streamEndFlags then return .inr () else return .inl ()) fuel ()

/-- The stream is set up while it is disabled. -/
def startStream (fuel : Nat) (dataAddr countBlocks : BitVec 32) : DmaProc Unit := do
  setEnabledDma fuel stream3 false
  writeDma (.streams stream3 .ccr) writeCcr
  writeDma (.streams stream3 .cndtr) (countBlocks * 512#32 / 4#32)
  writeDma (.streams stream3 .cpar) sdioFifoAddress
  -- The address of the parameter, not the address that it holds.
  writeDma (.streams stream3 .cmar0) dataAddr
  writeDma (.streams stream3 .fcr) writeFcr
  setEnabledDma fuel stream3 true

/-- Return an error that the function was left with, with the flags of the stream reset. -/
def leaveDma (status : Int) : DmaProc Int := do
  resetFlagsDma stream3
  return status

/-- `if (SD.version != CARD_SDXC) address *= 512;` -/
def dmaAddress (g : SdGlobals) (address : BitVec 32) : BitVec 32 :=
  if g.sd.version ≠ .sdxc then address * 512#32 else address

/-- After the two loops. -/
def finishDma (fuel : Nat) : DmaProc Int := do
  let status ← sdio (stopTransmission fuel)
  if status ≠ 0 then leaveDma status
  else
    let status ← sdio (exitTests txExitTests)
    if status ≠ 0 then leaveDma status
    else
      sdio (clearFlagsSdio sdioMaskStaticDataFlags)
      leaveDma 0

/-- `dataAddr` is `&data`. -/
def writeBlocksDma (fuel : Nat) (dataAddr data countBlocks address timeout : BitVec 32) :
    DmaProc Int := do
  let length := 512#32 * countBlocks
  if countBlocks ≤ 1#32 then
    if countBlocks = 1#32 then sdio (writeSingleBlockSd fuel data length address timeout)
    else return 0
  else
    let g ← globals
    sdio (writeReg .dctrl 0#32)
    sdio (sdioConfigData (sdioDctrlDblocksize blockSize512B ||| sdioDctrlDten) length timeout)
    sdio (sendCommandSdio cmdWriteMultipleBlock (dmaAddress g address) sdioCmdShortResp)
    let (status, _) ← sdio (cmdResp1Error fuel 0#32)
    if status ≠ 0 then
      sdio (clearFlagsSdio sdioMaskStaticCmdFlags)
      return -1
    else
      let dctrl ← sdio (readReg .dctrl)
      sdio (writeReg .dctrl (dctrl ||| sdioDctrlDmaen))
      startStream fuel dataAddr countBlocks
      sdio (dataEndLoop fuel)
      streamEndLoop fuel
      finishDma fuel

end Driver
end SdioFat32
