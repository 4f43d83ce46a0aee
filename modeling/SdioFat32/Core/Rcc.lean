import SdioFat32.Effects.Wp

/-!
# Rcc — the clock setup of `drivers/core/rcc.c`

The registers are those of the RCC that the clock functions use, and `ACR` of the flash interface;
every access is an event.  The waits are bounded in the source, so they are recursion on their
counters.  A pointer that may be `NULL` is an `Option`.
-/

namespace SdioFat32
namespace Core

open Effects

/-! ## Registers -/

inductive RccReg where
  | cr
  | pllcfgr
  | cfgr
  | ahb1enr
  | ahb2enr
  | ahb3enr
  | apb1enr
  | apb2enr
  /-- `ACR` of the flash interface. -/
  | flashAcr
  deriving DecidableEq, Repr

inductive RccEvent where
  | read (r : RccReg)
  | write (r : RccReg) (v : BitVec 32)
  /-- Read a local variable that was never written. -/
  | indeterminate

def RccEvent.Response : RccEvent → Type
  | .read _ => BitVec 32
  | .write _ _ => Unit
  | .indeterminate => BitVec 32

abbrev RccProc (α : Type) : Type := Proc Unit RccEvent RccEvent.Response α

def rccCrPllrdy : BitVec 32 := 1#32 <<< 25
def rccCrPllon : BitVec 32 := 1#32 <<< 24
def rccCrCsson : BitVec 32 := 1#32 <<< 19
def rccCrHserdy : BitVec 32 := 1#32 <<< 17
def rccCrHseon : BitVec 32 := 1#32 <<< 16
def rccCrHsirdy : BitVec 32 := 1#32 <<< 1
def rccCrHsion : BitVec 32 := 1#32 <<< 0

def rccPllcfgrPllqMask : BitVec 32 := 0xF#32 <<< 24
def rccPllcfgrPllsrcMask : BitVec 32 := 0x1#32 <<< 22
def rccPllcfgrPllpMask : BitVec 32 := 0x3#32 <<< 16
def rccPllcfgrPllnMask : BitVec 32 := 0x1FF#32 <<< 6
def rccPllcfgrPllmMask : BitVec 32 := 0x3F#32 <<< 0

def rccCfgrRtcpreMask : BitVec 32 := 0x1F#32 <<< 16
def rccCfgrPpre2Mask : BitVec 32 := 0x7#32 <<< 13
def rccCfgrPpre1Mask : BitVec 32 := 0x7#32 <<< 10
def rccCfgrHpreMask : BitVec 32 := 0xF#32 <<< 4
def rccCfgrSws (source : BitVec 32) : BitVec 32 := source <<< 2
def rccCfgrSw (source : BitVec 32) : BitVec 32 := source <<< 0

/-- `RCC_ClockSource`; the fields that hold one are wider than the enumeration. -/
def rccHsi : BitVec 32 := 0#32
def rccHse : BitVec 32 := 1#32
def rccPll : BitVec 32 := 2#32

def rccHsiFreq : BitVec 32 := 16000000#32
def rccHseFreq : BitVec 32 := 25000000#32

/-! ## Configurations -/

inductive RccAhbPresc where
  | notDiv
  | div2
  | div4
  | div8
  | div16
  | div64
  | div128
  | div256
  | div512
  deriving DecidableEq, Repr

def RccAhbPresc.code : RccAhbPresc → BitVec 8
  | .notDiv => 0x0#8
  | .div2 => 0x8#8
  | .div4 => 0x9#8
  | .div8 => 0xA#8
  | .div16 => 0xB#8
  | .div64 => 0xC#8
  | .div128 => 0xD#8
  | .div256 => 0xE#8
  | .div512 => 0xF#8

inductive RccApbPresc where
  | notDiv
  | div2
  | div4
  | div8
  | div16
  deriving DecidableEq, Repr

def RccApbPresc.code : RccApbPresc → BitVec 8
  | .notDiv => 0x0#8
  | .div2 => 0x4#8
  | .div4 => 0x5#8
  | .div8 => 0x6#8
  | .div16 => 0x7#8

/-- The enumerators are no clock and a division by each number from 2 to 31, which is its code. -/
structure RccRtcPresc where
  code : BitVec 8
  valid : code = 0#8 ∨ 2 ≤ code.toNat ∧ code.toNat ≤ 31

structure RccPllConfig where
  pllm : BitVec 32
  plln : BitVec 32
  pllp : BitVec 32
  pllq : BitVec 32
  source : BitVec 8

structure RccBusConfig where
  ahbPrescaler : BitVec 8
  apb1Prescaler : BitVec 8
  apb2Prescaler : BitVec 8
  rtcPrescaler : BitVec 8

structure RccSystemConfig where
  source : BitVec 32
  pllConfig : Option RccPllConfig
  busConfig : Option RccBusConfig

structure RccFrequencies where
  sysclkFreq : BitVec 32
  hclkFreq : BitVec 32
  apb1Freq : BitVec 32
  apb2Freq : BitVec 32

open Proc

/-! ## Register accesses -/

def readReg (r : RccReg) : RccProc (BitVec 32) := perform (RccEvent.read r)
def writeReg (r : RccReg) (v : BitVec 32) : RccProc Unit := perform (RccEvent.write r v)
def indeterminate : RccProc (BitVec 32) := perform RccEvent.indeterminate

/-- `reg |= mask` -/
def setBits (r : RccReg) (mask : BitVec 32) : RccProc Unit := do
  let v ← readReg r
  writeReg r (v ||| mask)

/-- `reg &= ~mask` -/
def clearBits (r : RccReg) (mask : BitVec 32) : RccProc Unit := do
  let v ← readReg r
  writeReg r (v &&& ~~~mask)

/-- `wait_for_flags` of `utils.c`, with `timeout` polls left. -/
def waitForFlags (r : RccReg) (flags : BitVec 32) : Nat → RccProc Int
  | 0 => return -1
  | timeout + 1 => do
      let v ← readReg r
      if v &&& flags = flags then return 0
      waitForFlags r flags timeout

/-! ## The flash interface -/

/-- The wait states for a clock of `hclk` Hz; the table ends at 180 MHz. -/
def flashLatency (hclk : Nat) : Option Nat :=
  if hclk ≤ 30000000 then some 0
  else if hclk ≤ 60000000 then some 1
  else if hclk ≤ 90000000 then some 2
  else if hclk ≤ 120000000 then some 3
  else if hclk ≤ 150000000 then some 4
  else if hclk ≤ 168000000 then some 5
  else if hclk ≤ 180000000 then some 6
  else none

def setFlashLatency (hclkFreq : BitVec 32) : RccProc Unit := do
  clearBits .flashAcr 0x7#32
  match flashLatency hclkFreq.toNat with
  | some cycles => setBits .flashAcr (BitVec.ofNat 32 cycles &&& 0x7#32)
  | none => return ()

/-! ## The system clock -/

def disableAllGpioClocksRcc : RccProc Unit := do
  writeReg .ahb1enr 0#32
  writeReg .ahb2enr 0#32
  writeReg .ahb3enr 0#32
  writeReg .apb1enr 0#32
  writeReg .apb2enr 0#32

def setBusDividersRcc (busConf : RccBusConfig) : RccProc Unit := do
  clearBits .cfgr
    (rccCfgrPpre1Mask ||| rccCfgrPpre2Mask ||| rccCfgrHpreMask ||| rccCfgrRtcpreMask)
  setBits .cfgr (busConf.apb1Prescaler.setWidth 32 <<< 10)
  setBits .cfgr (busConf.apb2Prescaler.setWidth 32 <<< 13)
  setBits .cfgr (busConf.ahbPrescaler.setWidth 32 <<< 4)
  setBits .cfgr (busConf.rtcPrescaler.setWidth 32 <<< 16)

def checkReady (flag : BitVec 32) (error : Int) : RccProc Int := do
  let cr ← readReg .cr
  if cr &&& flag = 0#32 then return error
  return 0

/-- A loop that waits for `SWS`, with `counter` polls left. -/
def waitSws (src : BitVec 32) (error : Int) : Nat → RccProc Int
  | 0 => return error
  | counter + 1 => do
      let cfgr ← readReg .cfgr
      if cfgr &&& rccCfgrSws 3#32 = rccCfgrSws src then return 0
      waitSws src error counter

/-- The tests of `select_sys_clock`. -/
def sourceReady (src : BitVec 32) : RccProc Int :=
  if src = rccHsi then checkReady rccCrHsirdy (-1)
  else if src = rccHse then checkReady rccCrHserdy (-2)
  else if src = rccPll then checkReady rccCrPllrdy (-3)
  else pure (-4)

def selectSysClock (src : BitVec 32) : RccProc Int := do
  let status ← sourceReady src
  if status ≠ 0 then return status
  clearBits .cfgr (rccCfgrSw 3#32)
  setBits .cfgr (rccCfgrSw src)
  -- `int counter = 10000000000`, converted to 32 bits.
  waitSws src (-5) 1410065408

/-- Switch an oscillator on unless it is on, and wait for its ready flag. -/
def startOscillator (on ready : BitVec 32) (timeout : Nat) (error : Int) : RccProc Int := do
  let cr ← readReg .cr
  if cr &&& on = 0#32 then
    setBits .cr on
    let status ← waitForFlags .cr ready timeout
    if status ≠ 0 then return error
  return 0

/-- `if (RCC->CR & on) RCC->CR &= ~on` -/
def stopOscillator (on : BitVec 32) : RccProc Unit := do
  let cr ← readReg .cr
  if cr &&& on ≠ 0#32 then
    clearBits .cr on

def switchToHsiRcc : RccProc Int := do
  let status ← startOscillator rccCrHsion rccCrHsirdy 100000000 (-1)
  if status ≠ 0 then return status
  let status ← selectSysClock rccHsi
  if status ≠ 0 then return -2
  stopOscillator rccCrHseon
  stopOscillator rccCrPllon
  return 0

def switchToHseRcc : RccProc Int := do
  let status ← startOscillator rccCrHseon rccCrHserdy 100000000 (-1)
  if status ≠ 0 then return status
  let status ← selectSysClock rccHse
  if status ≠ 0 then return -2
  stopOscillator rccCrPllon
  stopOscillator rccCrHsion
  return 0

/-! ## Frequencies -/

/-- `decode_pllp`; its parameter is a `uint8_t`. -/
def decodePllp (pllpCode : BitVec 32) : BitVec 32 :=
  ((pllpCode.setWidth 8).setWidth 32 + 1#32) * 2#32

/-- The PLL output, from `PLLCFGR`. -/
def readPllFreq : RccProc (BitVec 32) := do
  let v ← readReg .pllcfgr
  let pllm := (v &&& rccPllcfgrPllmMask) >>> 0
  let v ← readReg .pllcfgr
  let plln := (v &&& rccPllcfgrPllnMask) >>> 6
  let v ← readReg .pllcfgr
  let pllp := decodePllp ((v &&& rccPllcfgrPllpMask) >>> 16)
  let v ← readReg .pllcfgr
  let pllSrc := (v &&& rccPllcfgrPllsrcMask) >>> 22
  let pllInputFreq := if pllSrc = rccHsi then rccHsiFreq else rccHseFreq
  return pllInputFreq / pllm * plln / pllp

/-- `SYSCLK_Freq`; no case assigns it for a fourth source, so that `unset` stays. -/
def readSysclk (clockSource unset : BitVec 32) : RccProc (BitVec 32) :=
  if clockSource = rccHsi then pure rccHsiFreq
  else if clockSource = rccHse then pure rccHseFreq
  else if clockSource = rccPll then readPllFreq
  else pure unset

/-- `freq` is what the structure held before. -/
def getClockFrequencies (freq : RccFrequencies) : RccProc RccFrequencies := do
  let cfgr ← readReg .cfgr
  let clockSource := (cfgr &&& rccCfgrSws 3#32) >>> 2
  let sysclk ← readSysclk clockSource freq.sysclkFreq
  let v ← readReg .cfgr
  let hpre := (v &&& rccCfgrHpreMask) >>> 4
  let hclk := sysclk >>> (if 7#32 < hpre then hpre - 7#32 else 0#32)
  let v ← readReg .cfgr
  let ppre1 := (v &&& rccCfgrPpre1Mask) >>> 10
  let apb1 := hclk >>> (if 3#32 < ppre1 then ppre1 - 3#32 else 0#32)
  let v ← readReg .cfgr
  let ppre2 := (v &&& rccCfgrPpre2Mask) >>> 13
  let apb2 := hclk >>> (if 3#32 < ppre2 then ppre2 - 3#32 else 0#32)
  return { sysclkFreq := sysclk, hclkFreq := hclk, apb1Freq := apb1, apb2Freq := apb2 }

def getPll48clkFreq : RccProc (BitVec 32) := do
  let v ← readReg .pllcfgr
  let pllSrcFreq :=
    if (v &&& rccPllcfgrPllsrcMask) >>> 22 = 0#32 then rccHsiFreq else rccHseFreq
  let v ← readReg .pllcfgr
  let pllm := (v &&& rccPllcfgrPllmMask) >>> 0
  let v ← readReg .pllcfgr
  let plln := (v &&& rccPllcfgrPllnMask) >>> 6
  let v ← readReg .pllcfgr
  let pllq := (v &&& rccPllcfgrPllqMask) >>> 24
  if pllm = 0#32 ∨ pllq = 0#32 then return 0#32
  return pllSrcFreq / pllm * plln / pllq

def getRccClockDividers : RccProc RccBusConfig := do
  let v ← readReg .cfgr
  let ahb := ((v &&& rccCfgrHpreMask) >>> 4).setWidth 8
  let v ← readReg .cfgr
  let apb1 := ((v &&& rccCfgrPpre1Mask) >>> 10).setWidth 8
  let v ← readReg .cfgr
  let apb2 := ((v &&& rccCfgrPpre2Mask) >>> 13).setWidth 8
  let v ← readReg .cfgr
  let rtc := ((v &&& rccCfgrRtcpreMask) >>> 16).setWidth 8
  return { ahbPrescaler := ahb, apb1Prescaler := apb1, apb2Prescaler := apb2, rtcPrescaler := rtc }

/-! ## The PLL -/

/-- The tests of `configure_pll_rcc` that are left for a configuration that is not `NULL`. -/
def configurePllRcc (config : RccPllConfig) : RccProc Int := do
  let cr ← readReg .cr
  if cr &&& rccCrPllon ≠ 0#32 then return -2
  if config.source.setWidth 32 ≠ rccHse ∧ config.source.setWidth 32 ≠ rccHsi then return -3
  clearBits .pllcfgr
    (rccPllcfgrPllmMask ||| rccPllcfgrPllnMask ||| rccPllcfgrPllqMask ||| rccPllcfgrPllpMask)
  setBits .pllcfgr (config.pllm <<< 0)
  setBits .pllcfgr (config.pllq <<< 24)
  setBits .pllcfgr (config.plln <<< 6)
  setBits .pllcfgr (config.pllp <<< 16)
  clearBits .pllcfgr rccPllcfgrPllsrcMask
  setBits .pllcfgr (config.source.setWidth 32 <<< 22)
  return 0

/-- `TIMEOUT` of `switch_to_pll_rcc`. -/
def pllTimeout : Nat := 1000000

def startPllSource (config : RccPllConfig) : RccProc Int :=
  if config.source.setWidth 32 = rccHse then startOscillator rccCrHseon rccCrHserdy pllTimeout (-2)
  else startOscillator rccCrHsion rccCrHsirdy pllTimeout (-3)

/-- `target_sysclk`, in 32 bits. -/
def targetSysclk (config : RccPllConfig) : BitVec 32 :=
  let inputFreq := if config.source.setWidth 32 = rccHse then rccHseFreq else rccHsiFreq
  inputFreq / config.pllm * config.plln / decodePllp config.pllp

/-- Before the switch. -/
def raiseFlashLatency (currentFreq target : BitVec 32) : RccProc Unit :=
  if currentFreq < target then setFlashLatency target else pure ()

/-- After the switch. -/
def lowerFlashLatency (currentFreq target : BitVec 32) : RccProc Unit :=
  if target < currentFreq then setFlashLatency target else pure ()

/-- The loop that waits for the PLL to stop, with `timeout` polls left. -/
def pllOffLoop : Nat → RccProc Int
  | 0 => return -4
  | timeout + 1 => do
      let cr ← readReg .cr
      if cr &&& rccCrPllrdy = 0#32 then return 0
      pllOffLoop timeout

def stopPll : RccProc Int := do
  let cr ← readReg .cr
  if cr &&& rccCrPllon ≠ 0#32 then
    clearBits .cr rccCrPllon
    pllOffLoop pllTimeout
  else return 0

/-- From the PLL configuration to the switch. -/
def startPll (config : RccPllConfig) : RccProc Int := do
  let status ← configurePllRcc config
  if status ≠ 0 then return -5
  setBits .cr rccCrPllon
  let status ← waitForFlags .cr rccCrPllrdy pllTimeout
  if status ≠ 0 then return -6
  let status ← selectSysClock rccPll
  if status ≠ 0 then return -7
  waitSws rccPll (-8) pllTimeout

def switchToPllRcc (pllConfig : Option RccPllConfig) : RccProc Int := do
  match pllConfig with
  | none => return -1
  | some config =>
      let status ← startPllSource config
      if status ≠ 0 then return status
      -- `current_freq` is not initialised.
      let unset ← indeterminate
      let currentFreq ← getClockFrequencies
        { sysclkFreq := unset, hclkFreq := unset, apb1Freq := unset, apb2Freq := unset }
      raiseFlashLatency currentFreq.sysclkFreq (targetSysclk config)
      let status ← stopPll
      if status ≠ 0 then return status
      let status ← startPll config
      if status ≠ 0 then return status
      lowerFlashLatency currentFreq.sysclkFreq (targetSysclk config)
      return 0

/-! ## `setup_system_config_rcc` -/

def switchClock (config : RccSystemConfig) : RccProc Int :=
  if config.source = rccHse then switchToHseRcc
  else if config.source = rccHsi then switchToHsiRcc
  else if config.source = rccPll then switchToPllRcc config.pllConfig
  else pure (-3)

def setBusDividersIfAny : Option RccBusConfig → RccProc Unit
  | some busConfig => setBusDividersRcc busConfig
  | none => pure ()

def setupSystemConfigRcc (config : Option RccSystemConfig) : RccProc Int := do
  match config with
  | none => return -1
  | some config =>
      disableAllGpioClocksRcc
      setBits .cr rccCrCsson
      let status ← switchClock config
      if status ≠ 0 then return status
      setBusDividersIfAny config.busConfig
      return 0

end Core
end SdioFat32
