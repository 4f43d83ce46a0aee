import SdioFat32.Core.Rtc
import SdioFat32.Core.Rcc
import SdioFat32.Effects.Interp
import Mathlib.Algebra.Group.Nat.Defs

/-!
# RtcClock — the clock of the RTC, and `init_rtc`

`configure_rtc_clock_rcc` resets the backup domain, waits for the oscillator that was asked for and
switches the RTC to it.  Its waits count an unsigned `timeout` down and are judged by what is left
of it.  A read that tests a ready flag is an event of its own, and a read like any other.
-/

namespace SdioFat32
namespace Core

open Effects Proc

/-! ## Registers -/

inductive ClockSourceReg where
  | bdcr
  | csr
  | cr
  | cfgr
  /-- `CR` of the power control. -/
  | pwrCr
  deriving DecidableEq, Repr

inductive ClockSourceEvent where
  | read (r : ClockSourceReg)
  | write (r : ClockSourceReg) (v : BitVec 32)
  /-- Read a register to test its ready flag. -/
  | poll (r : ClockSourceReg)

def ClockSourceEvent.Response : ClockSourceEvent → Type
  | .read _ => BitVec 32
  | .write _ _ => Unit
  | .poll _ => BitVec 32

abbrev ClockSourceProc (α : Type) : Type := Proc Unit ClockSourceEvent ClockSourceEvent.Response α

def rccBdcrBdrst : BitVec 32 := 1#32 <<< 16
def rccBdcrRtcen : BitVec 32 := 1#32 <<< 15
def rccBdcrRtcsel (val : BitVec 32) : BitVec 32 := val <<< 8
def rccBdcrRtcselMask : BitVec 32 := rccBdcrRtcsel 0x3#32
def rccBdcrLserdy : BitVec 32 := 1#32 <<< 1
def rccCsrLsirdy : BitVec 32 := 1#32 <<< 1
def rccCsrLsion : BitVec 32 := 1#32 <<< 0
def powerCrDbp : BitVec 32 := 1#32 <<< 8

/-- `RCC_RTCClockSource` -/
def rtcSrcLse : BitVec 32 := 1#32
def rtcSrcLsi : BitVec 32 := 2#32
def rtcSrcHse : BitVec 32 := 3#32

def rccRtcpreDiv2 : BitVec 32 := 0x2#32
def rccRtcpreDiv25 : BitVec 32 := 0x19#32

def rccLseFreq : BitVec 32 := 32768#32
def rccLsiFreq : BitVec 32 := 32000#32

def readSource (r : ClockSourceReg) : ClockSourceProc (BitVec 32) :=
  perform (ClockSourceEvent.read r)

def writeSource (r : ClockSourceReg) (v : BitVec 32) : ClockSourceProc Unit :=
  perform (ClockSourceEvent.write r v)

def pollSource (r : ClockSourceReg) : ClockSourceProc (BitVec 32) :=
  perform (ClockSourceEvent.poll r)

/-- `reg |= mask` -/
def setSource (r : ClockSourceReg) (mask : BitVec 32) : ClockSourceProc Unit := do
  let v ← readSource r
  writeSource r (v ||| mask)

/-- `reg &= ~mask` -/
def clearSource (r : ClockSourceReg) (mask : BitVec 32) : ClockSourceProc Unit := do
  let v ← readSource r
  writeSource r (v &&& ~~~mask)

/-! ## The clock -/

/-- `while (!(reg & flag) && timeout--);`, and what is left of `timeout`. -/
def waitSource (r : ClockSourceReg) (flag : BitVec 32) : Nat → ClockSourceProc (BitVec 32)
  | 0 => do
      let v ← pollSource r
      if v &&& flag ≠ 0#32 then return 0#32
      -- The loop is left, and the counter goes down all the same.
      return 0#32 - 1#32
  | timeout + 1 => do
      let v ← pollSource r
      if v &&& flag ≠ 0#32 then return BitVec.ofNat 32 (timeout + 1)
      waitSource r flag timeout

/-- The wait of each `case`, with its verdict. -/
def awaitSource (r : ClockSourceReg) (flag : BitVec 32) : ClockSourceProc Int := do
  let timeout ← waitSource r flag 100000
  if timeout = 0#32 then return -1
  return 0

/-- `if (!(RCC->CR & RCC_CR_HSERDY))` and what depends on it. -/
def awaitHse : ClockSourceProc Int := do
  let cr ← pollSource .cr
  if cr &&& rccCrHserdy = 0#32 then
    setSource .cr rccCrHseon
    awaitSource .cr rccCrHserdy
  else
    return 0

/-- While the RTC is off its clock is divided to 1 MHz. -/
def divideHse : ClockSourceProc Unit := do
  let bdcr ← readSource .bdcr
  if bdcr &&& rccBdcrRtcen = 0#32 then
    clearSource .cfgr rccCfgrRtcpreMask
    setSource .cfgr (rccRtcpreDiv25 <<< 16)

/-- The `switch`; no `case` switches the LSE on. -/
def startSource (rtcsel : BitVec 32) : ClockSourceProc Int :=
  if rtcsel = rtcSrcLse then
    awaitSource .bdcr rccBdcrLserdy
  else if rtcsel = rtcSrcLsi then do
    setSource .csr rccCsrLsion
    awaitSource .csr rccCsrLsirdy
  else if rtcsel = rtcSrcHse then do
    let status ← awaitHse
    if status ≠ 0 then return status
    divideHse
    return 0
  else
    pure 0

/-- Allow writes to the backup domain and reset it; the loop between them does nothing. -/
def resetBackupDomain : ClockSourceProc Unit := do
  setSource .pwrCr powerCrDbp
  setSource .bdcr rccBdcrBdrst
  clearSource .bdcr rccBdcrBdrst

def selectSource (rtcsel : BitVec 32) : ClockSourceProc Unit := do
  clearSource .bdcr rccBdcrRtcselMask
  setSource .bdcr (rccBdcrRtcsel rtcsel)
  setSource .bdcr rccBdcrRtcen

def configureRtcClockRcc (rtcsel : BitVec 32) : ClockSourceProc Int := do
  resetBackupDomain
  let status ← startSource rtcsel
  if status ≠ 0 then return status
  selectSource rtcsel
  return 0

def getRtcClockFreq : ClockSourceProc (BitVec 32) := do
  let bdcr ← readSource .bdcr
  let rtcsel := bdcr >>> 8 &&& 0x3#32
  if rtcsel = rtcSrcLse then return rccLseFreq
  if rtcsel = rtcSrcLsi then return rccLsiFreq
  if rtcsel = rtcSrcHse then
    let cfgr ← readSource .cfgr
    let rtcpre := (cfgr &&& rccCfgrRtcpreMask) >>> 16
    return if rccRtcpreDiv2 ≤ rtcpre then rccHseFreq / rtcpre else rccHseFreq
  return 0#32

/-! ## The prescalers -/

/-- The loop of `calculate_prescalers_rtc` from `a` on, with its last iterations left. -/
def prescalersFrom (fCkRtc : BitVec 32) : Nat → BitVec 32 → BitVec 32 × BitVec 32
  | 0, _ => (127#32, 0x7FFF#32)
  | left + 1, a =>
      let s := fCkRtc / (a + 1#32) - 1#32
      if s ≤ 0x7FFF#32 then (a, s) else prescalersFrom fCkRtc left (a + 1#32)

/-- `*prediv_a` and `*prediv_s` -/
def calculatePrescalersRtc (fCkRtc : BitVec 32) : BitVec 32 × BitVec 32 :=
  prescalersFrom fCkRtc 128 0#32

theorem prescalersFrom_le (fCkRtc : BitVec 32) (left : Nat) (a : BitVec 32)
    (ha : a.toNat + left ≤ 128) :
    (prescalersFrom fCkRtc left a).1.toNat ≤ 127 ∧
      (prescalersFrom fCkRtc left a).2.toNat ≤ 0x7FFF := by
  induction left generalizing a with
  | zero => exact ⟨Nat.le_refl _, Nat.le_refl _⟩
  | succ left ih =>
      unfold prescalersFrom
      dsimp only
      split
      · rename_i hfits
        have hsmall : a.toNat ≤ 127 := by omega
        exact ⟨hsmall, hfits⟩
      · apply ih
        rw [BitVec.toNat_add]
        simp only [BitVec.toNat_ofNat]
        omega

/-- Both prescalers fit their fields, of 7 and 15 bits. -/
theorem calculatePrescalersRtc_le (fCkRtc : BitVec 32) :
    (calculatePrescalersRtc fCkRtc).1.toNat ≤ 127 ∧
      (calculatePrescalersRtc fCkRtc).2.toNat ≤ 0x7FFF :=
  prescalersFrom_le fCkRtc 128 0#32 (Nat.le_refl _)

def rtcGetPrerValue : ClockSourceProc (BitVec 32) := do
  let f ← getRtcClockFreq
  let (predivA, predivS) := calculatePrescalersRtc f
  return predivA <<< 16 ||| predivS <<< 0

/-! ## The RTC -/

/-- Accesses to the registers of the RTC, among them `PRER`, and to those of its clock. -/
inductive RtcInitEvent where
  | rtc (e : RtcEvent)
  | writePrer (v : BitVec 32)
  | clock (e : ClockSourceEvent)

def RtcInitEvent.Response : RtcInitEvent → Type
  | .rtc e => e.Response
  | .writePrer _ => Unit
  | .clock e => e.Response

abbrev RtcInitProc (α : Type) : Type := Proc RtcGlobals RtcInitEvent RtcInitEvent.Response α

def callRtc {α : Type} (p : RtcProc α) : RtcInitProc α := p.embed RtcInitEvent.rtc fun _ r => r

def callClock {α : Type} (p : ClockSourceProc α) : RtcInitProc α :=
  p.aside RtcInitEvent.clock fun _ r => r

def initRtc (fuel : Nat) : RtcInitProc Int := do
  let status ← callClock (configureRtcClockRcc rtcSrcHse)
  if status ≠ 0 then return -1
  callRtc (enterInit fuel)
  let prer ← callClock rtcGetPrerValue
  perform (RtcInitEvent.writePrer prer)
  callRtc do
    clearIsr rtcIsrInit
    clearIsr rtcIsrRsf
    waitIsr fuel rtcIsrRsf
    rtcWaitSync fuel
    writeRtc .wpr 0xFF#32
    assign fun g => { g with rtcInitialized := 1#32 }
  return 0

end Core
end SdioFat32
