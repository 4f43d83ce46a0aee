import SdioFat32.Effects.Wp

/-!
# Rtc — the calendar functions of `drivers/core/RTC.c`

`TR` and `DR` hold two-digit numbers as BCD tens and units, packed and unpacked by the macros of
`RTC.h`.  A read of `ISR` in a loop that waits for one of its flags is an event of its own, so that
an environment can say how long the wait takes; it is a read of `ISR` like any other.
-/

namespace SdioFat32
namespace Core

open Effects

/-! ## Registers -/

inductive RtcReg where
  | tr
  | dr
  | isr
  | wpr
  deriving DecidableEq, Repr

inductive RtcEvent where
  | read (r : RtcReg)
  | write (r : RtcReg) (v : BitVec 32)
  /-- Read `ISR`, waiting for `flag`. -/
  | poll (flag : BitVec 32)

def RtcEvent.Response : RtcEvent → Type
  | .read _ => BitVec 32
  | .write _ _ => Unit
  | .poll _ => BitVec 32

/-- `is_sync_date_rtc` and `rtc_initialized`. -/
structure RtcGlobals where
  isSyncDateRtc : BitVec 8
  rtcInitialized : BitVec 32

abbrev RtcProc (α : Type) : Type := Proc RtcGlobals RtcEvent RtcEvent.Response α

open Proc

def rtcIsrInit : BitVec 32 := 1#32 <<< 7
def rtcIsrInitf : BitVec 32 := 1#32 <<< 6
def rtcIsrRsf : BitVec 32 := 1#32 <<< 5

def readRtc (r : RtcReg) : RtcProc (BitVec 32) := perform (RtcEvent.read r)
def writeRtc (r : RtcReg) (v : BitVec 32) : RtcProc Unit := perform (RtcEvent.write r v)
def pollRtc (flag : BitVec 32) : RtcProc (BitVec 32) := perform (RtcEvent.poll flag)

/-! ## Dates and times -/

@[ext]
structure RtcTime where
  hour : BitVec 8
  minute : BitVec 8
  seconds : BitVec 8
  deriving DecidableEq

@[ext]
structure RtcDate where
  day : BitVec 8
  month : BitVec 8
  year : BitVec 16
  week : BitVec 8
  deriving DecidableEq

@[ext]
structure RtcDateTime where
  date : RtcDate
  time : RtcTime
  deriving DecidableEq

def bsdStartYear : BitVec 32 := 1980#32
def bsdMaxYear : BitVec 8 := 99#8

/-- `SET_RTS_value` -/
def setRtsValue (value : BitVec 8) (posTens : Nat) (maskTens : BitVec 32) (posUnits : Nat)
    (maskUnits : BitVec 32) : BitVec 32 :=
  (value.setWidth 32 / 10#32 &&& maskTens) <<< posTens |||
    (value.setWidth 32 % 10#32 &&& maskUnits) <<< posUnits

def setRtsHour (hour : BitVec 8) : BitVec 32 := setRtsValue hour 20 0x3#32 16 0xF#32
def setRtsMinute (min : BitVec 8) : BitVec 32 := setRtsValue min 12 0x7#32 8 0xF#32
def setRtsSecond (sec : BitVec 8) : BitVec 32 := setRtsValue sec 4 0x7#32 0 0xF#32
def setRtsYear (year : BitVec 8) : BitVec 32 := setRtsValue year 20 0xF#32 16 0xF#32
def setRtsWdu (value : BitVec 8) : BitVec 32 := value.setWidth 32 <<< 13
def setRtsMonth (month : BitVec 8) : BitVec 32 := setRtsValue month 12 0x1#32 8 0xF#32
def setRtsDay (day : BitVec 8) : BitVec 32 := setRtsValue day 4 0x3#32 0 0xF#32

/-- `GET_RTS_BITFIELD` -/
def getRtsBitfield (value : BitVec 32) (pos : Nat) (mask : BitVec 32) : BitVec 32 :=
  (mask <<< pos &&& value) >>> pos

/-- `GET_RTS_value` of a register, which the macro reads twice. -/
def getRtsValue (r : RtcReg) (posTens : Nat) (maskTens : BitVec 32) (posUnits : Nat)
    (maskUnits : BitVec 32) : RtcProc (BitVec 32) := do
  let v ← readRtc r
  let w ← readRtc r
  return getRtsBitfield v posTens maskTens * 10#32 + getRtsBitfield w posUnits maskUnits

def getRtsHour : RtcProc (BitVec 32) := getRtsValue .tr 20 0x3#32 16 0xF#32
def getRtsMinute : RtcProc (BitVec 32) := getRtsValue .tr 12 0x7#32 8 0xF#32
def getRtsSecond : RtcProc (BitVec 32) := getRtsValue .tr 4 0x7#32 0 0xF#32
def getRtsYear : RtcProc (BitVec 32) := getRtsValue .dr 20 0xF#32 16 0xF#32
def getRtsMonth : RtcProc (BitVec 32) := getRtsValue .dr 12 0x1#32 8 0xF#32
def getRtsDay : RtcProc (BitVec 32) := getRtsValue .dr 4 0x3#32 0 0xF#32

/-- `GET_RTS_WDU` shifts and does not mask. -/
def getRtsWdu : RtcProc (BitVec 32) := do
  let v ← readRtc .dr
  return v >>> 13

/-! ## The functions -/

/-- `RTC->ISR |= mask` -/
def setIsr (mask : BitVec 32) : RtcProc Unit := do
  let v ← readRtc .isr
  writeRtc .isr (v ||| mask)

/-- `RTC->ISR &= ~mask` -/
def clearIsr (mask : BitVec 32) : RtcProc Unit := do
  let v ← readRtc .isr
  writeRtc .isr (v &&& ~~~mask)

/-- `while (!(RTC->ISR & flag));` -/
def waitIsr (fuel : Nat) (flag : BitVec 32) : RtcProc Unit :=
  iter (fun _ => do
    let v ← pollRtc flag
    if v &&& flag = 0#32 then return .inl () else return .inr ()) fuel ()

def rtcWaitSync (fuel : Nat) : RtcProc Unit := do
  clearIsr rtcIsrRsf
  waitIsr fuel rtcIsrRsf
  assign fun g => { g with isSyncDateRtc := 1#8 }

/-- Unlock the registers and enter the initialisation mode. -/
def enterInit (fuel : Nat) : RtcProc Unit := do
  writeRtc .wpr 0xCA#32
  writeRtc .wpr 0x53#32
  setIsr rtcIsrInit
  waitIsr fuel rtcIsrInitf

/-- Leave the initialisation mode and lock the registers. -/
def leaveInit (fuel : Nat) : RtcProc Unit := do
  clearIsr rtcIsrInit
  writeRtc .wpr 0xFF#32
  rtcWaitSync fuel

/-- The year as the registers count it; the subtraction is in `int`, the result a `uint8_t`. -/
def bsdYear (year : BitVec 16) : BitVec 8 := (year.setWidth 32 - bsdStartYear).setWidth 8

/-- The comparison of the unsigned year with zero is never true. -/
def setDatetimeRtc (fuel : Nat) (datetime : Option RtcDateTime) : RtcProc Int := do
  match datetime with
  | none => return -1
  | some datetime =>
      let year := bsdYear datetime.date.year
      if bsdMaxYear < year then return -2
      enterInit fuel
      writeRtc .tr (setRtsHour datetime.time.hour ||| setRtsMinute datetime.time.minute |||
        setRtsSecond datetime.time.seconds)
      writeRtc .dr (setRtsYear year ||| setRtsWdu datetime.date.week |||
        setRtsMonth datetime.date.month ||| setRtsDay datetime.date.day)
      leaveInit fuel
      return 0

/-- `if (!is_sync_date_rtc) rtc_wait_sync();` -/
def syncIfNeeded (fuel : Nat) : RtcProc Unit := do
  let g ← globals
  if g.isSyncDateRtc = 0#8 then rtcWaitSync fuel else return ()

/-- The result is the status and what `*datetime` holds afterwards. -/
def getDatetimeRtc (fuel : Nat) (datetime : Option RtcDateTime) :
    RtcProc (Int × Option RtcDateTime) := do
  let g ← globals
  if datetime = none ∨ g.rtcInitialized = 0#32 then return (-1, datetime)
  syncIfNeeded fuel
  let hour ← getRtsHour
  let minute ← getRtsMinute
  let seconds ← getRtsSecond
  let day ← getRtsDay
  let month ← getRtsMonth
  let week ← getRtsWdu
  let year ← getRtsYear
  return (0, some
    { date :=
        { day := day.setWidth 8
          month := month.setWidth 8
          year := (year + bsdStartYear).setWidth 16
          week := week.setWidth 8 }
      time :=
        { hour := hour.setWidth 8
          minute := minute.setWidth 8
          seconds := seconds.setWidth 8 } })

end Core
end SdioFat32
