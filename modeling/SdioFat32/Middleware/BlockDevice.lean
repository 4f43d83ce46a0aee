import SdioFat32.Effects.Wp
import SdioFat32.Allocator.Pool

/-!
# BlockDevice — `sd_device` of `middleware/sd_fat32.c`

`read_sd`, `write_sd` and `clear_sd` translate sectors into blocks of 512 bytes and call the block
functions of the SD driver, which are events here.  The allocator of the bounce buffer is called
on its own state, the globals of these procedures.
-/

namespace SdioFat32
namespace Middleware

open Effects Allocator

/-! ## Calls into the driver -/

inductive DeviceEvent where
  | readMultiBlockSd (buffer countBlocks address timeout : BitVec 32)
  | writeMultiBlockSd (data countBlocks address timeout : BitVec 32)
  | eraseSd (addressStart addressEnd : BitVec 32)
  | memcpy (dst src n : BitVec 32)
  | delayTimer (ms : BitVec 32)
  deriving DecidableEq

def DeviceEvent.Response : DeviceEvent → Type
  | .readMultiBlockSd _ _ _ _ => Int
  | .writeMultiBlockSd _ _ _ _ => Int
  | .eraseSd _ _ => Int
  | .memcpy _ _ _ => Unit
  | .delayTimer _ => Unit

abbrev DeviceProc (α : Type) : Type := Proc Pool DeviceEvent DeviceEvent.Response α

namespace BlockDevice

open Proc

def defaultTimeout : BitVec 32 := 1000000#32

/-- `sd_device.block_size`. -/
def blockSize : BitVec 32 := 512#32

def readMultiBlockSd (buffer countBlocks address timeout : BitVec 32) : DeviceProc Int :=
  perform (DeviceEvent.readMultiBlockSd buffer countBlocks address timeout)

def writeMultiBlockSd (data countBlocks address timeout : BitVec 32) : DeviceProc Int :=
  perform (DeviceEvent.writeMultiBlockSd data countBlocks address timeout)

def eraseSd (addressStart addressEnd : BitVec 32) : DeviceProc Int :=
  perform (DeviceEvent.eraseSd addressStart addressEnd)

def memcpy (dst src n : BitVec 32) : DeviceProc Unit := perform (DeviceEvent.memcpy dst src n)

def delayTimer (ms : BitVec 32) : DeviceProc Unit := perform (DeviceEvent.delayTimer ms)

/-! ## Retries -/

/-- `while (attempts--)`: call `op` until it returns 0, with a pause after every failure.
`status` is what the last attempt returned. -/
def retry (op : DeviceProc Int) (pause : BitVec 32) : Nat → Int → DeviceProc Int
  | 0, status => return status
  | attempts + 1, _ => do
      let status ← op
      if status = 0 then return 0
      delayTimer pause
      retry op pause attempts status

-- `status` has no initial value in the source; with at least one attempt it is never read.
def readSafeSd (buffer countBlocks blockStart timeout : BitVec 32) : DeviceProc Int :=
  retry (readMultiBlockSd buffer countBlocks blockStart timeout) 20#32 5 0

def writeSafeSd (data countBlocks blockStart timeout : BitVec 32) : DeviceProc Int :=
  retry (writeMultiBlockSd data countBlocks blockStart timeout) 100#32 3 0

/-! ## The bounce buffer -/

/-- `pool_alloc` as a pointer. -/
def allocBlock (pl : Placement) (size : BitVec 32) : DeviceProc (BitVec 32) := do
  let pool ← globals
  let (ptr, pool) := poolAlloc pl size pool
  assign fun _ => pool
  return BitVec.ofNat 32 ptr

def freeBlock (pl : Placement) (ptr size : BitVec 32) : DeviceProc Unit :=
  assign fun pool => (poolFreeRegion pl ptr.toNat size pool).2

/-! ## Reading and writing sectors -/

def readSd (pl : Placement) (buffer sectorCount startSector sectorSize : BitVec 32) :
    DeviceProc Int := do
  -- All of this is `uint32_t` arithmetic.
  let blockStart := startSector * sectorSize / blockSize
  let totalBytes := sectorCount * sectorSize
  let fullBlocks := totalBytes / blockSize
  let remainingBytes := totalBytes % blockSize
  if 0#32 < fullBlocks then
    let status ← readSafeSd buffer fullBlocks blockStart defaultTimeout
    if status ≠ 0 then return status
  if 0#32 < remainingBytes then
    let tmpBlock ← allocBlock pl blockSize
    if tmpBlock = 0#32 then return poolErrAllocationFailed
    let status ← readSafeSd tmpBlock 1#32 (blockStart + fullBlocks) defaultTimeout
    if status ≠ 0 then
      freeBlock pl tmpBlock blockSize
      return status
    memcpy (buffer + fullBlocks * blockSize) tmpBlock remainingBytes
    freeBlock pl tmpBlock blockSize
  return 0

def writeSd (pl : Placement) (data sectorCount startSector sectorSize : BitVec 32) :
    DeviceProc Int := do
  let blockStart := startSector * sectorSize / blockSize
  let totalBytes := sectorCount * sectorSize
  let fullBlocks := totalBytes / blockSize
  let remainingBytes := totalBytes % blockSize
  if 0#32 < fullBlocks then
    let status ← writeSafeSd data fullBlocks blockStart defaultTimeout
    if status ≠ 0 then return status
  if 0#32 < remainingBytes then
    let tmpBlock ← allocBlock pl blockSize
    if tmpBlock = 0#32 then return -1
    -- The rest of the block is read first, without the retries of `read_safe_sd`.
    let status ← readMultiBlockSd tmpBlock 1#32 (blockStart + fullBlocks) defaultTimeout
    if status ≠ 0 then
      freeBlock pl tmpBlock blockSize
      return status
    memcpy tmpBlock (data + fullBlocks * blockSize) remainingBytes
    let status ← writeSafeSd tmpBlock 1#32 (blockStart + fullBlocks) defaultTimeout
    freeBlock pl tmpBlock blockSize
    if status ≠ 0 then return status
  return 0

def clearSd (sectorNum sectorCount sectorSize : BitVec 32) : DeviceProc Int :=
  let blockStart := sectorNum * sectorSize / blockSize
  -- A number of blocks, passed where `erase_sd` takes the last address.
  let offset := (sectorCount * sectorSize + blockSize - 1#32) / blockSize
  eraseSd blockStart offset

end BlockDevice

end Middleware
end SdioFat32
