import SdioFat32.Core.RtcDevice

/-!
# RtcCalls — the calls an application makes to a clock that is set up

* `RtcCall.run` — the calls, as the code has them;
* `ClockRuns` — what they do to a calendar that counts between them;
* `wp_runRtcCalls` — every sequence of calls on the device is such a run of the calendar.
-/

namespace SdioFat32
namespace Core

open Effects Proc Relation

/-! ## The calls -/

/-- `blank` is what the local `datetime` holds before it is set. -/
def getDateRts (fuel : Nat) (blank : RtcDateTime) (date : Option RtcDate) :
    RtcProc (Int × Option RtcDate) := do
  let g ← globals
  if date = none ∨ g.rtcInitialized = 0#32 then return (-1, date)
  let (status, datetime) ← getDatetimeRtc fuel (some blank)
  if status ≠ 0 then return (-1, date)
  return (0, datetime.map RtcDateTime.date)

def getTimeRts (fuel : Nat) (blank : RtcDateTime) (time : Option RtcTime) :
    RtcProc (Int × Option RtcTime) := do
  let g ← globals
  if time = none ∨ g.rtcInitialized = 0#32 then return (-1, time)
  let (status, datetime) ← getDatetimeRtc fuel (some blank)
  if status ≠ 0 then return (-1, time)
  return (0, datetime.map RtcDateTime.time)

inductive RtcCall where
  | setDatetimeRtc (datetime : Option RtcDateTime)
  | setDateRtc (date : Option RtcDate)
  | setTimeRtc (time : Option RtcTime)
  | getDatetimeRtc (datetime : Option RtcDateTime)
  | getDateRts (blank : RtcDateTime) (date : Option RtcDate)
  | getTimeRts (blank : RtcDateTime) (time : Option RtcTime)

/-- The status of a call. -/
def RtcCall.run (fuel : Nat) : RtcCall → RtcSessionProc Int
  | .setDatetimeRtc datetime => onUnit (Core.setDatetimeRtc fuel datetime)
  | .setDateRtc date => onBoard (Core.setDateRtc fuel date)
  | .setTimeRtc time => onUnit (Core.setTimeRtc fuel time)
  | .getDatetimeRtc datetime => onUnit do
      let result ← Core.getDatetimeRtc fuel datetime
      return result.1
  | .getDateRts blank date => onUnit do
      let result ← Core.getDateRts fuel blank date
      return result.1
  | .getTimeRts blank time => onUnit do
      let result ← Core.getTimeRts fuel blank time
      return result.1

def runRtcCalls (fuel : Nat) : List RtcCall → RtcSessionProc (List Int)
  | [] => return []
  | call :: calls => do
      let status ← call.run fuel
      let statuses ← runRtcCalls fuel calls
      return status :: statuses

/-! ## A calendar that counts -/

def RtcCall.status : RtcCall → Int
  | .setDatetimeRtc none => -1
  | .setDatetimeRtc (some datetime) =>
      if 99 < (bsdYear datetime.date.year).toNat then -2 else 0
  | .setDateRtc none => -1
  | .setDateRtc (some date) => if InCalendar date.year.toNat then 0 else -2
  | .setTimeRtc none => -1
  | .setTimeRtc (some _) => 0
  | .getDatetimeRtc datetime => if datetime.isSome then 0 else -1
  | .getDateRts _ date => if date.isSome then 0 else -1
  | .getTimeRts _ time => if time.isSome then 0 else -1

def RtcCall.effect : RtcCall → CalendarValue → CalendarValue
  | .setDatetimeRtc (some datetime), c =>
      if 99 < (bsdYear datetime.date.year).toNat then c
      else (trBits datetime.time, drBits datetime.date)
  | .setDateRtc (some date), c =>
      if InCalendar date.year.toNat then (c.1, drBitsWide date) else c
  | .setTimeRtc (some time), c => (trBits time, c.2)
  | _, c => c

/-- The calendar counts, and each call sets it at once. -/
inductive ClockRuns (advance : CalendarValue → CalendarValue → Prop) :
    List RtcCall → CalendarValue → CalendarValue → Prop where
  | nil {c c' : CalendarValue} : ReflTransGen advance c c' → ClockRuns advance [] c c'
  | cons {call : RtcCall} {calls : List RtcCall} {c c₁ c' : CalendarValue} :
      ReflTransGen advance c c₁ → ClockRuns advance calls (call.effect c₁) c' →
      ClockRuns advance (call :: calls) c c'

/-! ## On the device -/

section Calls

variable {advance : CalendarValue → CalendarValue → Prop} {delay fuel : Nat} {osc : HseFact}
  {prer : BitVec 32} {c : CalendarValue} {g : RtcGlobals} {s : RtcDevice} {D : RtcDevice → Prop}

theorem wp_onUnit {α : Type} {p : RtcProc α} {Q : α → RtcGlobals → RtcDevice → Prop}
    (h : p.wp (rtcAlone advance delay) D Q g s) :
    (onUnit p).wp (rtcDevice advance delay) D Q g s := by
  refine wp_embed ?_ ?_ h
  · exact fun _ _ hreq => hreq
  · exact fun _ _ _ _ hstep => hstep

/-- Between two calls the device is locked, and the calendar counts. -/
abbrev CountsLocked (advance : CalendarValue → CalendarValue → Prop) (delay : Nat) (osc : HseFact)
    (prer : BitVec 32) (c : CalendarValue) (s : RtcDevice) : Prop :=
  In advance delay osc prer .locked .counting c s

/-- What a call leaves behind. -/
def Called (advance : CalendarValue → CalendarValue → Prop) (delay : Nat) (osc : HseFact)
    (prer : BitVec 32) (c : CalendarValue) (call : RtcCall) (status : Int) (g' : RtcGlobals)
    (s' : RtcDevice) : Prop :=
  status = call.status ∧ g'.rtcInitialized ≠ 0#32 ∧
    ∃ c₁, ReflTransGen advance c c₁ ∧ CountsLocked advance delay osc prer (call.effect c₁) s'

theorem wp_setDatetimeRtc_device {datetime : Option RtcDateTime} (hwaits : Waits D delay fuel osc)
    (hinit : g.rtcInitialized ≠ 0#32) (h : CountsLocked advance delay osc prer c s) :
    (setDatetimeRtc fuel datetime).wp (rtcAlone advance delay) D
      (Called advance delay osc prer c (.setDatetimeRtc datetime)) g s := by
  cases datetime with
  | none => exact ⟨rfl, hinit, c, .refl, h⟩
  | some datetime =>
      unfold setDatetimeRtc Called RtcCall.status RtcCall.effect
      dsimp only
      by_cases hyear : 99 < (bsdYear datetime.date.year).toNat
      · have hrefused : bsdMaxYear < bsdYear datetime.date.year := hyear
        rw [if_pos hrefused]
        simp only [if_pos hyear]
        exact ⟨rfl, hinit, c, .refl, h⟩
      · have haccepted : ¬bsdMaxYear < bsdYear datetime.date.year := hyear
        rw [if_neg haccepted]
        simp only [if_neg hyear]
        refine wp_seq (wp_enterInit_device hwaits h) ?_
        rintro _ _ s₁ ⟨rfl, c₁, hcounted, h₁⟩
        refine wp_seq (wp_writeTr_device h₁) ?_
        rintro _ _ s₂ ⟨rfl, h₂⟩
        refine wp_seq (wp_writeDr_device h₂) ?_
        rintro _ _ s₃ ⟨rfl, h₃⟩
        refine wp_seq (wp_leaveInit_device hwaits h₃) ?_
        rintro _ _ s₄ ⟨rfl, h₄⟩
        exact ⟨rfl, hinit, c₁, hcounted, h₄⟩

theorem wp_setTimeRtc_device {time : Option RtcTime} (hwaits : Waits D delay fuel osc)
    (hinit : g.rtcInitialized ≠ 0#32) (h : CountsLocked advance delay osc prer c s) :
    (setTimeRtc fuel time).wp (rtcAlone advance delay) D
      (Called advance delay osc prer c (.setTimeRtc time)) g s := by
  cases time with
  | none => exact ⟨rfl, hinit, c, .refl, h⟩
  | some time =>
      refine wp_seq (wp_enterInit_device hwaits h) ?_
      rintro _ _ s₁ ⟨rfl, c₁, hcounted, h₁⟩
      refine wp_seq (wp_writeTr_device h₁) ?_
      rintro _ _ s₂ ⟨rfl, h₂⟩
      refine wp_seq (wp_leaveInit_device hwaits h₂) ?_
      rintro _ _ s₃ ⟨rfl, h₃⟩
      exact ⟨rfl, hinit, c₁, hcounted, h₃⟩

/-- The board, for `set_date_rtc`. -/
def boardAlone (advance : CalendarValue → CalendarValue → Prop) (delay : Nat) :
    Env BoardEvent BoardEvent.Response RtcDevice where
  req s e := (rtcDevice advance delay).req s (boardAccess e)
  step s e r s' :=
    match e, r with
    | .rtc e, r => (rtcDevice advance delay).step s (.unit (.rtc e)) r s'
    | .rcc e, r => (rtcDevice advance delay).step s (.rcc e) r s'

theorem wp_onBoard {α : Type} {p : BoardProc α} {Q : α → RtcGlobals → RtcDevice → Prop}
    (h : p.wp (boardAlone advance delay) D Q g s) :
    (onBoard p).wp (rtcDevice advance delay) D Q g s := by
  refine wp_embed ?_ ?_ h
  · exact fun _ _ hreq => hreq
  · intro s e r s' hstep
    cases e with
    | rtc e => exact hstep
    | rcc e => exact hstep

theorem wp_onRtc_device {α : Type} {p : RtcProc α} {Q : α → RtcGlobals → RtcDevice → Prop}
    (h : p.wp (rtcAlone advance delay) D Q g s) :
    (onRtc p).wp (boardAlone advance delay) D Q g s := by
  refine wp_embed ?_ ?_ h
  · exact fun _ _ hreq => hreq
  · exact fun _ _ _ _ hstep => hstep

def rccAlone (advance : CalendarValue → CalendarValue → Prop) (delay : Nat) :
    Env RccEvent RccEvent.Response RtcDevice where
  step s e r s' := (rtcDevice advance delay).step s (.rcc e) r s'

theorem wp_readReg_device {r : RccReg} {u : Unit} (h : CountsLocked advance delay osc prer c s) :
    (readReg r).wp (rccAlone advance delay) D
      (fun _ _ s' => CountsLocked advance delay osc prer c s') u s := by
  refine wp_perform.2 ⟨trivial, ?_⟩
  rintro _ _ ⟨s₁, hmoves, rfl⟩
  exact ((stable_in s.quiet).turns hmoves ⟨h, rfl⟩).1

/-- Time passes while the dividers are read. -/
theorem wp_dividers_device (h : CountsLocked advance delay osc prer c s) :
    (onRcc getRccClockDividers).wp (boardAlone advance delay) D
      (fun _ g' s' => g' = g ∧ CountsLocked advance delay osc prer c s') g s := by
  have hreads : getRccClockDividers.wp (rccAlone advance delay) D
      (fun _ _ s' => CountsLocked advance delay osc prer c s') () s := by
    unfold getRccClockDividers
    refine wp_seq (wp_readReg_device h) fun _ _ s₁ h₁ => ?_
    refine wp_seq (wp_readReg_device h₁) fun _ _ s₂ h₂ => ?_
    refine wp_seq (wp_readReg_device h₂) fun _ _ s₃ h₃ => ?_
    refine wp_seq (wp_readReg_device h₃) fun _ _ s₄ h₄ => ?_
    exact h₄
  refine wp_aside ?_ ?_ hreads
  · exact fun _ _ _ _ _ => trivial
  · exact fun _ _ _ _ hstep => hstep

theorem wp_setDateRtc_device {date : Option RtcDate} (hwaits : Waits D delay fuel osc)
    (hinit : g.rtcInitialized ≠ 0#32) (h : CountsLocked advance delay osc prer c s) :
    (setDateRtc fuel date).wp (boardAlone advance delay) D
      (Called advance delay osc prer c (.setDateRtc date)) g s := by
  cases date with
  | none => exact ⟨rfl, hinit, c, .refl, h⟩
  | some date =>
      unfold setDateRtc Called RtcCall.status RtcCall.effect
      dsimp only
      by_cases hyear : InCalendar date.year.toNat
      · have haccepted : ¬((date.year.toNat : Int) - 1980 > 99 ∨
            (date.year.toNat : Int) - 1980 < 0) := by
          obtain ⟨hlow, hhigh⟩ := hyear
          omega
        rw [if_neg haccepted]
        simp only [if_pos hyear]
        refine wp_seq (wp_dividers_device h) ?_
        rintro _ _ s₁ ⟨rfl, h₁⟩
        refine wp_onRtc_device (wp_seq (wp_enterInit_device hwaits h₁) ?_)
        rintro _ _ s₂ ⟨rfl, c₁, hcounted, h₂⟩
        refine wp_seq (wp_writeDr_device h₂) ?_
        rintro _ _ s₃ ⟨rfl, h₃⟩
        refine wp_seq (wp_leaveInit_device hwaits h₃) ?_
        rintro _ _ s₄ ⟨rfl, h₄⟩
        exact ⟨rfl, hinit, c₁, hcounted, h₄⟩
      · have hrefused : (date.year.toNat : Int) - 1980 > 99 ∨
            (date.year.toNat : Int) - 1980 < 0 := by
          rw [InCalendar] at hyear
          omega
        rw [if_pos hrefused]
        simp only [if_neg hyear]
        exact ⟨rfl, hinit, c, .refl, h⟩

theorem wp_getRtsValue_device {r : RtcReg} {posTens posUnits : Nat}
    {maskTens maskUnits : BitVec 32} (h : CountsLocked advance delay osc prer c s) :
    (getRtsValue r posTens maskTens posUnits maskUnits).wp (rtcAlone advance delay) D
      (fun _ g' s' => g' = g ∧ CountsLocked advance delay osc prer c s') g s := by
  refine wp_seq (wp_readRtc_device h) ?_
  rintro _ _ s₁ ⟨rfl, h₁⟩
  refine wp_seq (wp_readRtc_device h₁) ?_
  rintro _ _ s₂ ⟨rfl, h₂⟩
  exact ⟨rfl, h₂⟩

theorem wp_getRtsWdu_device (h : CountsLocked advance delay osc prer c s) :
    getRtsWdu.wp (rtcAlone advance delay) D
      (fun _ g' s' => g' = g ∧ CountsLocked advance delay osc prer c s') g s := by
  refine wp_seq (wp_readRtc_device h) ?_
  rintro _ _ s₁ ⟨rfl, h₁⟩
  exact ⟨rfl, h₁⟩

theorem wp_syncIfNeeded_device (hwaits : Waits D delay fuel osc)
    (h : CountsLocked advance delay osc prer c s) :
    (syncIfNeeded fuel).wp (rtcAlone advance delay) D
      (fun _ g' s' => g'.rtcInitialized = g.rtcInitialized ∧
        CountsLocked advance delay osc prer c s') g s := by
  unfold syncIfNeeded
  rw [wp_bind, wp_globals]
  split
  · refine wp_mono (wp_rtcWaitSync_device hwaits h) ?_
    rintro _ _ s' ⟨rfl, h'⟩
    exact ⟨rfl, h'⟩
  · exact ⟨rfl, h⟩

/-- A read succeeds, and the calendar is not touched by it. -/
theorem wp_getDatetimeRtc_device {datetime : Option RtcDateTime} (hwaits : Waits D delay fuel osc)
    (hinit : g.rtcInitialized ≠ 0#32) (h : CountsLocked advance delay osc prer c s) :
    (getDatetimeRtc fuel datetime).wp (rtcAlone advance delay) D
      (fun result g' s' => result.1 = (if datetime.isSome then 0 else -1) ∧
        g'.rtcInitialized ≠ 0#32 ∧ CountsLocked advance delay osc prer c s') g s := by
  unfold getDatetimeRtc
  rw [wp_bind, wp_globals]
  cases datetime with
  | none => exact ⟨rfl, hinit, h⟩
  | some datetime =>
      rw [if_neg (by simp [hinit])]
      refine wp_seq (wp_syncIfNeeded_device hwaits h) ?_
      rintro _ g₁ s₁ ⟨hinit₁, h₁⟩
      refine wp_seq (wp_getRtsValue_device h₁) ?_
      rintro _ _ s₂ ⟨rfl, h₂⟩
      refine wp_seq (wp_getRtsValue_device h₂) ?_
      rintro _ _ s₃ ⟨rfl, h₃⟩
      refine wp_seq (wp_getRtsValue_device h₃) ?_
      rintro _ _ s₄ ⟨rfl, h₄⟩
      refine wp_seq (wp_getRtsValue_device h₄) ?_
      rintro _ _ s₅ ⟨rfl, h₅⟩
      refine wp_seq (wp_getRtsValue_device h₅) ?_
      rintro _ _ s₆ ⟨rfl, h₆⟩
      refine wp_seq (wp_getRtsWdu_device h₆) ?_
      rintro _ _ s₇ ⟨rfl, h₇⟩
      refine wp_seq (wp_getRtsValue_device h₇) ?_
      rintro _ _ s₈ ⟨rfl, h₈⟩
      exact ⟨rfl, hinit₁ ▸ hinit, h₈⟩

theorem wp_getDateRts_device {blank : RtcDateTime} {date : Option RtcDate}
    (hwaits : Waits D delay fuel osc) (hinit : g.rtcInitialized ≠ 0#32)
    (h : CountsLocked advance delay osc prer c s) :
    (getDateRts fuel blank date).wp (rtcAlone advance delay) D
      (fun result g' s' => result.1 = (if date.isSome then 0 else -1) ∧
        g'.rtcInitialized ≠ 0#32 ∧ CountsLocked advance delay osc prer c s') g s := by
  unfold getDateRts
  rw [wp_bind, wp_globals]
  cases date with
  | none => exact ⟨rfl, hinit, h⟩
  | some date =>
      rw [if_neg (by simp [hinit])]
      refine wp_seq (wp_getDatetimeRtc_device hwaits hinit h) ?_
      rintro ⟨status, _⟩ g₁ s₁ ⟨rfl, hinit₁, h₁⟩
      exact ⟨rfl, hinit₁, h₁⟩

theorem wp_getTimeRts_device {blank : RtcDateTime} {time : Option RtcTime}
    (hwaits : Waits D delay fuel osc) (hinit : g.rtcInitialized ≠ 0#32)
    (h : CountsLocked advance delay osc prer c s) :
    (getTimeRts fuel blank time).wp (rtcAlone advance delay) D
      (fun result g' s' => result.1 = (if time.isSome then 0 else -1) ∧
        g'.rtcInitialized ≠ 0#32 ∧ CountsLocked advance delay osc prer c s') g s := by
  unfold getTimeRts
  rw [wp_bind, wp_globals]
  cases time with
  | none => exact ⟨rfl, hinit, h⟩
  | some time =>
      rw [if_neg (by simp [hinit])]
      refine wp_seq (wp_getDatetimeRtc_device hwaits hinit h) ?_
      rintro ⟨status, _⟩ g₁ s₁ ⟨rfl, hinit₁, h₁⟩
      exact ⟨rfl, hinit₁, h₁⟩

theorem wp_rtcCall {call : RtcCall} (hwaits : Waits D delay fuel osc)
    (hinit : g.rtcInitialized ≠ 0#32) (h : CountsLocked advance delay osc prer c s) :
    (call.run fuel).wp (rtcDevice advance delay) D (Called advance delay osc prer c call) g s := by
  cases call with
  | setDatetimeRtc datetime => exact wp_onUnit (wp_setDatetimeRtc_device hwaits hinit h)
  | setDateRtc date => exact wp_onBoard (wp_setDateRtc_device hwaits hinit h)
  | setTimeRtc time => exact wp_onUnit (wp_setTimeRtc_device hwaits hinit h)
  | getDatetimeRtc datetime =>
      refine wp_onUnit (wp_seq (wp_getDatetimeRtc_device hwaits hinit h) ?_)
      rintro _ g₁ s₁ ⟨hstatus, hinit₁, h₁⟩
      exact ⟨hstatus, hinit₁, c, .refl, h₁⟩
  | getDateRts blank date =>
      refine wp_onUnit (wp_seq (wp_getDateRts_device hwaits hinit h) ?_)
      rintro _ g₁ s₁ ⟨hstatus, hinit₁, h₁⟩
      exact ⟨hstatus, hinit₁, c, .refl, h₁⟩
  | getTimeRts blank time =>
      refine wp_onUnit (wp_seq (wp_getTimeRts_device hwaits hinit h) ?_)
      rintro _ g₁ s₁ ⟨hstatus, hinit₁, h₁⟩
      exact ⟨hstatus, hinit₁, c, .refl, h₁⟩

theorem wp_runRtcCalls {calls : List RtcCall} (hwaits : Waits D delay fuel osc)
    (hinit : g.rtcInitialized ≠ 0#32) (h : CountsLocked advance delay osc prer c s) :
    (runRtcCalls fuel calls).wp (rtcDevice advance delay) D
      (fun statuses _ s' => statuses = calls.map RtcCall.status ∧
        ClockRuns advance calls c s'.calendar ∧
        CountsLocked advance delay osc prer s'.calendar s') g s := by
  induction calls generalizing c g s with
  | nil =>
      refine ⟨rfl, .nil h.mode.2.2, ?_⟩
      exact ⟨h.dbp, h.clock, h.hse, h.key, h.prer, h.quiet, h.mode.1, h.mode.2.1, .refl⟩
  | cons call calls ih =>
      refine wp_seq (wp_rtcCall hwaits hinit h) ?_
      rintro _ g₁ s₁ ⟨rfl, hinit₁, c₁, hcounted, h₁⟩
      refine wp_seq (ih hinit₁ h₁) ?_
      rintro _ g₂ s₂ ⟨rfl, hruns, h₂⟩
      exact ⟨rfl, .cons hcounted hruns, h₂⟩

end Calls

end Core
end SdioFat32
