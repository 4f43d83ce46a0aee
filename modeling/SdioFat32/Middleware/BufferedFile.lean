import SdioFat32.Effects.Watched
import SdioFat32.Cells.Buffer
import Mathlib.Algebra.Group.Nat.Defs

/-!
# BufferedFile — the write buffer of `middleware/sd_fat32.c`

`SD_FAT32_File` collects small writes in a RAM buffer of 2560 bytes.  The FAT32 library it calls
is not part of the repository: its functions are events, answered by the environment.  The handle
is the global state of these procedures, since every function takes a pointer to it.
-/

namespace SdioFat32
namespace Middleware

open Effects Cells

abbrev Byte : Type := BitVec 8

def sdFat32BufferSize : BitVec 32 := 2560#32

/-- Calls into the FAT32 library; a file is the `FAT32_File *` it handed out. -/
inductive FatEvent where
  | openFile (path : String) (mode : Int)
  | writeFile (file : Nat) (bytes : List Byte)
  | closeFile (file : Nat)

/-- `open` and `close` also write the caller's file pointer. -/
def FatEvent.Response : FatEvent → Type
  | .openFile _ _ => Int × Nat
  | .writeFile _ _ => Int
  | .closeFile _ => Int × Nat

structure SdFat32File where
  file : Nat
  buffer : Vector Byte 2560
  index : BitVec 32

abbrev FileProc (α : Type) : Type := Proc SdFat32File FatEvent FatEvent.Response α

namespace BufferedFile

open Proc

def openFileFat32 (path : String) (mode : Int) : FileProc (Int × Nat) :=
  perform (FatEvent.openFile path mode)

def writeFileFat32 (file : Nat) (bytes : List Byte) : FileProc Int :=
  perform (FatEvent.writeFile file bytes)

def closeFileFat32 (file : Nat) : FileProc (Int × Nat) :=
  perform (FatEvent.closeFile file)

def sdFat32Open (path : String) (mode : Int) : FileProc Int := do
  assign fun f => { f with file := 0, index := 0#32 }
  let (status, file) ← openFileFat32 path mode
  assign fun f => { f with file := file }
  return status

/-- One iteration of the `while (remaining > 0)` loop; `inr` leaves the function. -/
def writeStep : BitVec 32 × List Byte → FileProc ((BitVec 32 × List Byte) ⊕ Int)
  | (remaining, ptr) => do
    if 0#32 < remaining then
      let f ← globals
      let space := sdFat32BufferSize - f.index
      let toCopy := if remaining < space then remaining else space
      assign fun f =>
        { f with
          buffer := copyInto f.buffer f.index.toNat (ptr.take toCopy.toNat)
          index := f.index + toCopy }
      let f ← globals
      if f.index = sdFat32BufferSize then
        let status ← writeFileFat32 f.file (front f.buffer 2560)
        if status ≠ 0 then
          -- `index` stays at the end of the full buffer.
          return .inr status
        assign fun f => { f with index := 0#32 }
        return .inl (remaining - toCopy, ptr.drop toCopy.toNat)
      else
        return .inl (remaining - toCopy, ptr.drop toCopy.toNat)
    else
      return .inr 0

def sdFat32Write (fuel : Nat) (data : List Byte) (len : BitVec 32) : FileProc Int :=
  iter writeStep fuel (len, data)

def sdFat32Flush : FileProc Int := do
  let f ← globals
  if 0#32 < f.index then
    let status ← writeFileFat32 f.file (front f.buffer f.index.toNat)
    if status ≠ 0 then
      return status
    assign fun f => { f with index := 0#32 }
    return 0
  else
    return 0

/-- The status of the flush is not looked at. -/
def sdFat32Close : FileProc Int := do
  let _ ← sdFat32Flush
  let f ← globals
  let (status, file) ← closeFileFat32 f.file
  assign fun f => { f with file := file }
  return status

/-! ## The accesses to `buffer` -/

/-- `len` bytes of `buffer` from `off` on are read or written. -/
structure BufferAccess where
  off : Nat
  len : Nat

abbrev WatchedFileProc (α : Type) : Type :=
  Proc SdFat32File (Watched FatEvent BufferAccess) (Watched.Response FatEvent.Response) α

/-- The library reads `len` bytes at the front of `buffer`. -/
def watchedWriteFile (f : SdFat32File) (len : Nat) : WatchedFileProc Int := do
  note { off := 0, len := len }
  call (FatEvent.writeFile f.file (front f.buffer len))

@[simp] theorem unwatch_watchedWriteFile (f : SdFat32File) (len : Nat) :
    (watchedWriteFile f len).unwatch = writeFileFat32 f.file (front f.buffer len) := rfl

/-- `writeStep` with its accesses: the `memcpy`, and the bytes the library reads. -/
def watchedWriteStep : BitVec 32 × List Byte → WatchedFileProc ((BitVec 32 × List Byte) ⊕ Int)
  | (remaining, ptr) => do
    if 0#32 < remaining then
      let f ← globals
      let space := sdFat32BufferSize - f.index
      let toCopy := if remaining < space then remaining else space
      note { off := f.index.toNat, len := toCopy.toNat }
      assign fun f =>
        { f with
          buffer := copyInto f.buffer f.index.toNat (ptr.take toCopy.toNat)
          index := f.index + toCopy }
      let f ← globals
      if f.index = sdFat32BufferSize then
        let status ← watchedWriteFile f 2560
        if status ≠ 0 then
          return .inr status
        assign fun f => { f with index := 0#32 }
        return .inl (remaining - toCopy, ptr.drop toCopy.toNat)
      else
        return .inl (remaining - toCopy, ptr.drop toCopy.toNat)
    else
      return .inr 0

def watchedWrite (fuel : Nat) (data : List Byte) (len : BitVec 32) : WatchedFileProc Int :=
  iter watchedWriteStep fuel (len, data)

def watchedFlush : WatchedFileProc Int := do
  let f ← globals
  if 0#32 < f.index then
    let status ← watchedWriteFile f f.index.toNat
    if status ≠ 0 then
      return status
    assign fun f => { f with index := 0#32 }
    return 0
  else
    return 0

theorem unwatch_writeStep (rest : BitVec 32 × List Byte) :
    (watchedWriteStep rest).unwatch = writeStep rest := by
  rcases rest with ⟨remaining, ptr⟩
  unfold watchedWriteStep writeStep
  simp only [apply_ite Proc.unwatch, unwatch_bind, unwatch_globals, unwatch_note, unwatch_assign,
    unwatch_watchedWriteFile, unwatch_pure, ret_bind]

theorem unwatch_write (fuel : Nat) (data : List Byte) (len : BitVec 32) :
    (watchedWrite fuel data len).unwatch = sdFat32Write fuel data len :=
  unwatch_iter unwatch_writeStep fuel (len, data)

theorem unwatch_flush : watchedFlush.unwatch = sdFat32Flush := by
  unfold watchedFlush sdFat32Flush
  simp [apply_ite Proc.unwatch]

end BufferedFile

end Middleware
end SdioFat32
