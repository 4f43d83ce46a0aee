import SdioFat32.Effects.Wp
import Mathlib.Algebra.Ring.Nat

/-!
# Sdio — the peripheral as `drivers/core/sdio.c` and `sdio.h` see it

Everything the driver does outside its own variables is an event: a register access, an access to
the caller's memory, a delay, a call into the GPIO and clock drivers.  A read of `STA` carries the
place it is made at; the peripheral does not see the place, the assumptions about a transfer and
its results do.  Logging is left out.
-/

namespace SdioFat32
namespace Driver

open Effects

/-! ## Registers and flags -/

/-- There are four response registers. -/
instance neZero_four : NeZero 4 := ⟨by decide⟩

inductive Reg where
  | power
  | clkcr
  | arg
  | cmd
  | resp (i : Fin 4)
  | dtimer
  | dlen
  | dctrl
  | icr
  | fifo
  deriving DecidableEq, Repr

def sdioStaRxdavl : BitVec 32 := 1#32 <<< 21
def sdioStaRxfifof : BitVec 32 := 1#32 <<< 17
def sdioStaRxfifohf : BitVec 32 := 1#32 <<< 15
def sdioStaTxfifohe : BitVec 32 := 1#32 <<< 14
def sdioStaDbckend : BitVec 32 := 1#32 <<< 10
def sdioStaStbiterr : BitVec 32 := 1#32 <<< 9
def sdioStaDataend : BitVec 32 := 1#32 <<< 8
def sdioStaCmdsent : BitVec 32 := 1#32 <<< 7
def sdioStaCmdrend : BitVec 32 := 1#32 <<< 6
def sdioStaRxoverr : BitVec 32 := 1#32 <<< 5
def sdioStaTxunderr : BitVec 32 := 1#32 <<< 4
def sdioStaDtimeout : BitVec 32 := 1#32 <<< 3
def sdioStaCtimeout : BitVec 32 := 1#32 <<< 2
def sdioStaDcrcfail : BitVec 32 := 1#32 <<< 1
def sdioStaCcrcfail : BitVec 32 := 1#32 <<< 0

/-- `SDIO_MASK_STATIC_DATA_FLAGS`: `STBITERR` is not among them. -/
def sdioMaskStaticDataFlags : BitVec 32 :=
  sdioStaDcrcfail ||| sdioStaDtimeout ||| sdioStaTxunderr ||| sdioStaRxoverr |||
    sdioStaDataend ||| sdioStaDbckend

def sdioMaskStaticCmdFlags : BitVec 32 :=
  sdioStaCcrcfail ||| sdioStaCtimeout ||| sdioStaCmdrend ||| sdioStaCmdsent

def sdioCmdNoResp : BitVec 32 := 0#32 <<< 6
def sdioCmdShortResp : BitVec 32 := 1#32 <<< 6
def sdioCmdLongResp : BitVec 32 := 3#32 <<< 6
def sdioCmdCpsmen : BitVec 32 := 1#32 <<< 10

def sdioDctrlDten : BitVec 32 := 1#32 <<< 0
def sdioDctrlDtdir : BitVec 32 := 1#32 <<< 1
def sdioDctrlDblocksize (size : BitVec 32) : BitVec 32 := size <<< 4
def blockSize512B : BitVec 32 := 9#32

def sdioPwrctrlOn : BitVec 32 := 3#32
def sdioPwrctrlOff : BitVec 32 := 0#32
def sdioClkcrClken : BitVec 32 := 1#32 <<< 8
def sdioMaskClkdiv : BitVec 32 := 0xFF#32
def sdioMaskBuswidth : BitVec 32 := 3#32 <<< 11
def wideBus1BitMode : BitVec 32 := 0#32
def wideBus4BitMode : BitVec 32 := 1#32

/-- `status & mask` as a condition. -/
def hasFlag (status mask : BitVec 32) : Bool := status &&& mask != 0#32

theorem hasFlag_or (status m m' : BitVec 32) :
    hasFlag status (m ||| m') = (hasFlag status m || hasFlag status m') := by
  have hdistrib : status &&& (m ||| m') = (status &&& m) ||| (status &&& m') := by
    ext i
    simp [Bool.and_or_distrib_left]
  unfold hasFlag
  rw [hdistrib, Bool.eq_iff_iff]
  simp only [bne_iff_ne, ne_eq, Bool.or_eq_true, BitVec.or_eq_zero_iff]
  exact not_and_or

theorem hasFlag_left_or (x y m : BitVec 32) :
    hasFlag (x ||| y) m = (hasFlag x m || hasFlag y m) := by
  have hcomm : ∀ a b : BitVec 32, hasFlag a b = hasFlag b a := fun a b => by
    rw [hasFlag, hasFlag, BitVec.and_comm]
  rw [hcomm, hasFlag_or, hcomm m x, hcomm m y]

/-- Clearing does not touch the flags of `kept` if it names none of them. -/
theorem hasFlag_clear {kept v m : BitVec 32} (hv : v &&& kept = 0#32) (hm : kept &&& m = m)
    (flags : BitVec 32) : hasFlag (flags &&& ~~~v) m = hasFlag flags m := by
  have hapart : ~~~v &&& m = m := by
    ext i hi
    have hbit := congrArg (fun x => x.getLsbD i) hv
    have hpart := congrArg (fun x => x.getLsbD i) hm
    simp [hi] at hbit hpart ⊢
    grind
  rw [hasFlag, hasFlag, BitVec.and_assoc, hapart]

theorem hasFlag_of_part {x part mask : BitVec 32} (hpart : mask &&& part = part)
    (h : hasFlag x part = true) : hasFlag x mask = true := by
  have hsplit : mask ||| part = mask := by
    ext i hi
    have hbit := congrArg (fun y => y.getLsbD i) hpart
    simp only [BitVec.getLsbD_eq_getElem hi] at hbit
    simp only [BitVec.getElem_or]
    grind
  rw [← hsplit, hasFlag_or, h, Bool.or_true]

theorem hasFlag_part_false {x part mask : BitVec 32} (hpart : mask &&& part = part)
    (h : hasFlag x mask = false) : hasFlag x part = false := by
  cases hflag : hasFlag x part with
  | true =>
      rw [hasFlag_of_part hpart hflag] at h
      cases h
  | false => rfl

/-! ## Events -/

/-- The places of the driver that read `STA`. -/
inductive StaSite where
  /-- `CmdNoRespError` waits for `CMDSENT`. -/
  | cmdSent
  /-- A `CmdRespN` function waits for the end of a command. -/
  | cmdResp
  /-- The condition of a data polling loop, with the flags that end the loop. -/
  | dataLoop (flags : BitVec 32)
  /-- The FIFO test inside a data polling loop. -/
  | fifoTest
  /-- A test of one flag after the loop. -/
  | exitTest (flag : BitVec 32)
  /-- The condition of the loop that empties the receive FIFO. -/
  | drainLoop
  deriving DecidableEq, Repr

inductive GpioPort where
  | gpioc
  | gpiod
  deriving DecidableEq, Repr

inductive RccBus where
  | ahb1
  | apb2
  deriving DecidableEq, Repr

inductive SdioEvent where
  | sta (site : StaSite)
  | read (r : Reg)
  | write (r : Reg) (v : BitVec 32)
  | load (addr : BitVec 32)
  | store (addr w : BitVec 32)
  | memcpy (dst src n : BitVec 32)
  | delayTimer (ms : BitVec 32)
  /-- Read a local variable that was never written. -/
  | indeterminate
  | setGpioConf (port : GpioPort) (pin : BitVec 16)
  | enableAndResetRcc (bus : RccBus) (mask : BitVec 32)
  | getPll48clkFreq
  deriving DecidableEq

def SdioEvent.Response : SdioEvent → Type
  | .sta _ => BitVec 32
  | .read _ => BitVec 32
  | .write _ _ => Unit
  | .load _ => BitVec 32
  | .store _ _ => Unit
  | .memcpy _ _ _ => Unit
  | .delayTimer _ => Unit
  | .indeterminate => BitVec 32
  | .setGpioConf _ _ => Unit
  | .enableAndResetRcc _ _ => Unit
  | .getPll48clkFreq => BitVec 32

/-- Responses without an error: `STA` as given for each place, and in the response registers a
card that is ready for data in the state `TRAN`. -/
def SdioEvent.ready (sta : StaSite → BitVec 32) : (e : SdioEvent) → e.Response
  | .sta site => sta site
  | .read _ => 0x900#32
  | .write _ _ => ()
  | .load _ => 0#32
  | .store _ _ => ()
  | .memcpy _ _ _ => ()
  | .delayTimer _ => ()
  | .indeterminate => 0#32
  | .setGpioConf _ _ => ()
  | .enableAndResetRcc _ _ => ()
  | .getPll48clkFreq => 0#32

/-- The events of commands and their answers, with the words written to `CMD` among `cmds`. -/
def Dialogue (cmds : BitVec 32 → Prop) : SdioEvent → Prop
  | .sta .cmdResp => True
  | .read _ => True
  | .write .arg _ => True
  | .write .cmd v => cmds v
  | .write .icr _ => True
  | .delayTimer _ => True
  | _ => False

/-- A word for `CMD` that asks for a response, short or long. -/
def expectsReply (word : BitVec 32) : Bool := hasFlag word sdioCmdShortResp

/-- Events without an answer of the card: no wait for one, and only commands that have none. -/
def Mute : SdioEvent → Prop
  | .sta .cmdResp => False
  | .write .cmd v => expectsReply v = false
  | .indeterminate => False
  | _ => True

/-! ## Globals of the SD driver -/

inductive CardVersion where
  | unknown
  | v1x
  | v2x
  | sdsc
  | sdhc
  | sdxc
  deriving DecidableEq, Repr

/-- `SD_State` as the four bits the card reports; 10 to 15 have no enumerator. -/
abbrev SdState : Type := BitVec 4

def idleState : SdState := 0
def readyState : SdState := 1
def tranState : SdState := 4

/-- `SD_Data_Type`. -/
structure SdData where
  state : SdState
  voltage : BitVec 32
  version : CardVersion
  rca : BitVec 16
  maxSize : BitVec 64

/-- The variables of `SD.c`; `sd_cid` as the four words it is filled with. -/
structure SdGlobals where
  sd : SdData
  csdData : Vector (BitVec 32) 4
  sdCid : Vector (BitVec 32) 4

/-- The variables as the program starts with them. -/
def blankGlobals : SdGlobals :=
  { sd :=
      { state := idleState
        voltage := 0#32
        version := .unknown
        rca := 0#16
        maxSize := 0#64 }
    csdData := Vector.replicate 4 0#32
    sdCid := Vector.replicate 4 0#32 }

abbrev SdProc (α : Type) : Type := Proc SdGlobals SdioEvent SdioEvent.Response α

/-! ## One event -/

section Events

open Proc

def readSta (site : StaSite) : SdProc (BitVec 32) := perform (SdioEvent.sta site)
def readReg (r : Reg) : SdProc (BitVec 32) := perform (SdioEvent.read r)
def writeReg (r : Reg) (v : BitVec 32) : SdProc Unit := perform (SdioEvent.write r v)
def loadWord (addr : BitVec 32) : SdProc (BitVec 32) := perform (SdioEvent.load addr)
def storeWord (addr w : BitVec 32) : SdProc Unit := perform (SdioEvent.store addr w)
def memcpy (dst src n : BitVec 32) : SdProc Unit := perform (SdioEvent.memcpy dst src n)
def delayTimer (ms : BitVec 32) : SdProc Unit := perform (SdioEvent.delayTimer ms)
def indeterminate : SdProc (BitVec 32) := perform SdioEvent.indeterminate
def setGpioConf (port : GpioPort) (pin : BitVec 16) : SdProc Unit :=
  perform (SdioEvent.setGpioConf port pin)
def enableAndResetRcc (bus : RccBus) (mask : BitVec 32) : SdProc Unit :=
  perform (SdioEvent.enableAndResetRcc bus mask)
def getPll48clkFreq : SdProc (BitVec 32) := perform SdioEvent.getPll48clkFreq

/-- Assign to fields of `SD`. -/
def assignSd (f : SdData → SdData) : SdProc Unit :=
  assign fun g => { g with sd := f g.sd }

@[simp] theorem wp_assignSd {σ : Type} {env : Env SdioEvent SdioEvent.Response σ} {D : σ → Prop}
    {f : SdData → SdData} {Q : Unit → SdGlobals → σ → Prop} {g : SdGlobals} {s : σ} :
    (assignSd f).wp env D Q g s ↔ Q () { g with sd := f g.sd } s := Iff.rfl

end Events

/-! ## `sdio.c` -/

open Proc

/-- What `send_command_sdio` writes to `CMD`. -/
def commandWord (command formatResp : BitVec 32) : BitVec 32 :=
  command ||| formatResp ||| sdioCmdCpsmen

def sendCommandSdio (command arg formatResp : BitVec 32) : SdProc Unit := do
  writeReg .arg arg
  writeReg .cmd (commandWord command formatResp)

def clearFlagsSdio (mask : BitVec 32) : SdProc Unit :=
  writeReg .icr mask

/-- `SDIO->ICR |= flag` -/
def clearFlagSdio (flag : BitVec 32) : SdProc Unit := do
  let icr ← readReg .icr
  writeReg .icr (icr ||| flag)

section Emits

variable {cmds : BitVec 32 → Prop} {cut : Prop}

theorem emits_sendCommandSdio {command arg formatResp : BitVec 32}
    (h : cmds (commandWord command formatResp)) :
    (sendCommandSdio command arg formatResp).Emits (Dialogue cmds) cut :=
  (emits_perform trivial).bind (fun _ => emits_perform h)

theorem emits_clearFlagsSdio {mask : BitVec 32} :
    (clearFlagsSdio mask).Emits (Dialogue cmds) cut :=
  emits_perform trivial

theorem emits_clearFlagSdio {flag : BitVec 32} :
    (clearFlagSdio flag).Emits (Dialogue cmds) cut :=
  (emits_perform trivial).bind (fun _ => emits_perform trivial)

end Emits

def sdioReadLongResp (data : Vector (BitVec 32) 4) (size : BitVec 16) :
    SdProc (Vector (BitVec 32) 4) := do
  if size < 4#16 then return data
  let r0 ← readReg (.resp 0)
  let r1 ← readReg (.resp 1)
  let r2 ← readReg (.resp 2)
  let r3 ← readReg (.resp 3)
  return #v[r0, r1, r2, r3]

def sdioConfigData (dataControl length timeout : BitVec 32) : SdProc Unit := do
  writeReg .dtimer timeout
  writeReg .dlen length
  writeReg .dctrl dataControl

def setBusWidthSdio (wideBus : BitVec 32) : SdProc Unit := do
  let clkcr ← readReg .clkcr
  writeReg .clkcr (clkcr &&& ~~~sdioMaskBuswidth)
  let clkcr ← readReg .clkcr
  writeReg .clkcr (clkcr ||| wideBus <<< 11)

def setClockFrequencySdio (div : BitVec 8) : SdProc Unit := do
  let clkcr ← readReg .clkcr
  writeReg .clkcr (clkcr &&& ~~~sdioClkcrClken)
  let clkcr ← readReg .clkcr
  writeReg .clkcr (clkcr &&& ~~~sdioMaskClkdiv)
  let clkcr ← readReg .clkcr
  writeReg .clkcr (clkcr ||| div.setWidth 32)
  let clkcr ← readReg .clkcr
  writeReg .clkcr (clkcr ||| sdioClkcrClken)

/-- The loop that waits for the power-on state, at most `timeout` polls. -/
def powerOnLoop : Nat → SdProc Int
  | 0 => return -1
  | timeout + 1 => do
      let power ← readReg .power
      if power &&& sdioPwrctrlOn = sdioPwrctrlOn then return 0
      powerOnLoop timeout

/-- `configure_power_SDIO(POWER_ON)` if `on`, else `configure_power_SDIO(POWER_OFF)`. -/
def configurePowerSdio (on : Bool) : SdProc Int := do
  if on then
    writeReg .power sdioPwrctrlOn
    let status ← powerOnLoop 10000
    if status ≠ 0 then return -1
    delayTimer 1000#32
    return 0
  else
    writeReg .power sdioPwrctrlOff
    delayTimer 1000#32
    return 0

def sdioCalcClkcrDiv (apb2FreqHz targetFreqHz : BitVec 32) : BitVec 8 :=
  if targetFreqHz = 0#32 then 0#8
  else
    -- The quotient is unsigned, `div` is an `int32_t`.
    let div : Int := (apb2FreqHz / targetFreqHz).toInt - 2
    if div < 0 then 0#8
    else if div > 0xFF then 0xFF#8
    else BitVec.ofInt 8 div

def initSdio : SdProc Int := do
  setGpioConf .gpioc 0#16
  enableAndResetRcc .ahb1 (1#32 <<< 2 ||| 1#32 <<< 3)
  enableAndResetRcc .apb2 (1#32 <<< 11)
  -- PC8 to PC11: data, PC12: clock, PD2: command.
  setGpioConf .gpioc 8#16
  setGpioConf .gpioc 9#16
  setGpioConf .gpioc 10#16
  setGpioConf .gpioc 11#16
  setGpioConf .gpioc 12#16
  setGpioConf .gpiod 2#16
  let _ ← configurePowerSdio false
  delayTimer 10#32
  let status ← configurePowerSdio true
  if status ≠ 0 then return -1
  delayTimer 10#32
  writeReg .clkcr 0#32
  setBusWidthSdio wideBus1BitMode
  let freq ← getPll48clkFreq
  setClockFrequencySdio (sdioCalcClkcrDiv freq 400000#32)
  delayTimer 10#32
  return 0

end Driver
end SdioFat32
