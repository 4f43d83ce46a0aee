import Mathlib.Logic.Relation
import SdioFat32.Core.RtcClockReady
import SdioFat32.Core.RtcSetters
import SdioFat32.Effects.Interference

/-!
# RtcDevice — the RTC, its protection and its initialisation mode

The calendar counts while its clock is on, and stands still in the initialisation mode.  Its
registers are written through two locks: `DBP` of the power control, and the keys of `WPR`.  The
clock is an oscillator that may never start; without it the initialisation mode is not entered.

* `rtcDevice` — the device, which goes on by itself between any two accesses; the calendar may be
  written only while it is unlocked and stands still;
* `HseFact` — what is known of the oscillator;
* `In` — where the device is in the protocol, and what its calendar has come from.
-/

namespace SdioFat32
namespace Core

open Effects Proc Relation

/-! ## Accesses -/

inductive RtcSessionEvent where
  | unit (e : RtcInitEvent)
  | rcc (e : RccEvent)

def RtcSessionEvent.Response : RtcSessionEvent → Type
  | .unit e => e.Response
  | .rcc e => e.Response

abbrev RtcSessionProc (α : Type) : Type :=
  Proc RtcGlobals RtcSessionEvent RtcSessionEvent.Response α

/-! ## The device -/

/-- How much of the key has been written. -/
inductive WprKey where
  | locked
  | half
  | unlocked
  deriving DecidableEq

/-- Any other value than the next of the key locks. -/
def WprKey.next (key : WprKey) (v : BitVec 32) : WprKey :=
  if v = 0xCA#32 then .half
  else if key = .half ∧ v = 0x53#32 then .unlocked
  else .locked

/-- The values of `TR` and `DR`. -/
abbrev CalendarValue : Type := BitVec 32 × BitVec 32

structure RtcDevice where
  dbp : Bool
  /-- The bits of `BDCR` in `domainMask`. -/
  domain : BitVec 32
  /-- The prescaler in `CFGR`. -/
  rtcpre : BitVec 32
  /-- The HSE starts once it is switched on. -/
  crystal : Bool
  hseon : Bool
  hserdy : Bool
  key : WprKey
  init : Bool
  initf : Bool
  prer : BitVec 32
  calendar : CalendarValue
  /-- For how many more polls a flag may be down. -/
  quiet : Nat

/-- A first of January in the year 0, a Monday. -/
def resetCalendar : CalendarValue := (0#32, 0x2101#32)

namespace RtcDevice

/-- The RTC is on, and so is the HSE if that is its clock; the LSE and the LSI always run. -/
def Clocked (s : RtcDevice) : Prop :=
  s.domain &&& rccBdcrRtcen ≠ 0#32 ∧
    (s.domain &&& rccBdcrRtcselMask = rccBdcrRtcsel rtcSrcHse → s.hserdy = true)

instance (s : RtcDevice) : Decidable s.Clocked := inferInstanceAs (Decidable (_ ∧ (_ → _)))

def writable (s : RtcDevice) : Bool := s.dbp && s.key = .unlocked

/-- The calendar may be written. -/
def Stopped (s : RtcDevice) : Prop := s.writable = true ∧ s.initf = true

/-- The flag comes up by itself. -/
def Due (s : RtcDevice) (flag : BitVec 32) : Prop :=
  s.Clocked ∧ (flag = rtcIsrInitf ∧ s.init = true ∨ flag = rtcIsrRsf ∧ s.init = false)

/-- The HSE comes up by itself. -/
def Starting (s : RtcDevice) : Prop := s.hseon = true ∧ s.crystal = true

/-- What `CR` shows of the HSE. -/
def ShowsCr (s : RtcDevice) (v : BitVec 32) : Prop :=
  v.getLsbD 16 = s.hseon ∧ v.getLsbD 17 = s.hserdy

/-- What `ISR` shows. -/
def ShowsIsr (s : RtcDevice) (v : BitVec 32) : Prop :=
  v.getLsbD 7 = s.init ∧ v.getLsbD 6 = s.initf

/-- With the initialisation mode the flag of it goes. -/
def writeIsr (s : RtcDevice) (delay : Nat) (v : BitVec 32) : RtcDevice :=
  if s.writable then
    { s with init := v.getLsbD 7, initf := s.initf && v.getLsbD 7, quiet := delay }
  else s

def writeWpr (s : RtcDevice) (v : BitVec 32) : RtcDevice :=
  if s.dbp then { s with key := s.key.next v } else s

def writeCr (s : RtcDevice) (delay : Nat) (v : BitVec 32) : RtcDevice :=
  { s with hseon := v.getLsbD 16, hserdy := s.hserdy && v.getLsbD 16, quiet := delay }

/-- A reset of the backup domain. -/
def reset (s : RtcDevice) (delay : Nat) : RtcDevice :=
  { s with
    domain := rccBdcrBdrst
    key := .locked
    init := false
    initf := false
    prer := 0x7F00FF#32
    calendar := resetCalendar
    quiet := delay }

def writeBdcr (s : RtcDevice) (delay : Nat) (v : BitVec 32) : RtcDevice :=
  if s.dbp then
    if v &&& rccBdcrBdrst ≠ 0#32 then s.reset delay else { s with domain := v &&& domainMask }
  else s

/-- The clock is the HSE, divided to 1 MHz. -/
def OnHse (s : RtcDevice) : Prop :=
  s.domain = rccBdcrRtcsel rtcSrcHse ||| rccBdcrRtcen ∧ s.rtcpre = rccRtcpreDiv25 <<< 16

/-- The RTC has a clock exactly if the HSE runs. -/
theorem OnHse.clocked_iff {s : RtcDevice} (h : s.OnHse) : s.Clocked ↔ s.hserdy = true := by
  rw [Clocked, h.1]
  constructor
  · intro hclocked
    exact hclocked.2 (by decide)
  · intro hready
    exact ⟨by decide, fun _ => hready⟩

/-- What the device does by itself.  `advance` is a second of the calendar. -/
inductive Moves (advance : CalendarValue → CalendarValue → Prop) :
    RtcDevice → RtcDevice → Prop where
  | second {s : RtcDevice} {c : CalendarValue} :
      s.Clocked → s.initf = false → advance s.calendar c → Moves advance s { s with calendar := c }
  | stop {s : RtcDevice} :
      s.Clocked → s.init = true → Moves advance s { s with initf := true }
  | start {s : RtcDevice} : s.Starting → Moves advance s { s with hserdy := true }

end RtcDevice

def rtcStep (delay : Nat) (s : RtcDevice) (e : RtcEvent) (r : e.Response) (s' : RtcDevice) : Prop :=
  match e, r with
  | .read .isr, (v : BitVec 32) => s.ShowsIsr v ∧ s' = s
  | .read _, _ => s' = s
  | .poll flag, (v : BitVec 32) =>
      s.ShowsIsr v ∧
        (v &&& flag ≠ 0#32 ∧ s' = s ∨
          v &&& flag = 0#32 ∧ (s.Due flag → s.quiet ≠ 0) ∧ s' = { s with quiet := s.quiet - 1 })
  | .write .tr v, _ =>
      s' = if s.writable && s.initf then { s with calendar := (v, s.calendar.2) } else s
  | .write .dr v, _ =>
      s' = if s.writable && s.initf then { s with calendar := (s.calendar.1, v) } else s
  | .write .isr v, _ => s' = s.writeIsr delay v
  | .write .wpr v, _ => s' = s.writeWpr v

def clockStep (delay : Nat) (s : RtcDevice) (e : ClockSourceEvent) (r : e.Response)
    (s' : RtcDevice) : Prop :=
  match e, r with
  | .read .pwrCr, (v : BitVec 32) => v.getLsbD 8 = s.dbp ∧ s' = s
  | .read .bdcr, (v : BitVec 32) => v &&& domainMask = s.domain &&& domainMask ∧ s' = s
  | .read .cfgr, (v : BitVec 32) =>
      v &&& rccCfgrRtcpreMask = s.rtcpre &&& rccCfgrRtcpreMask ∧ s' = s
  | .read .cr, (v : BitVec 32) => s.ShowsCr v ∧ s' = s
  | .read .csr, _ => s' = s
  | .poll .cr, (v : BitVec 32) =>
      s.ShowsCr v ∧
        (s.hserdy = true ∧ s' = s ∨
          s.hserdy = false ∧ (s.Starting → s.quiet ≠ 0) ∧ s' = { s with quiet := s.quiet - 1 })
  | .poll _, _ => s' = s
  | .write .cr v, _ => s' = s.writeCr delay v
  | .write .pwrCr v, _ => s' = { s with dbp := v.getLsbD 8 }
  | .write .bdcr v, _ => s' = s.writeBdcr delay v
  | .write .cfgr v, _ => s' = { s with rtcpre := v &&& rccCfgrRtcpreMask }
  | .write .csr _, _ => s' = s

/-- Writes to the calendar and its prescalers. -/
inductive RtcSessionEvent.SetsCalendar : RtcSessionEvent → Prop where
  | tr (v : BitVec 32) : SetsCalendar (.unit (.rtc (.write .tr v)))
  | dr (v : BitVec 32) : SetsCalendar (.unit (.rtc (.write .dr v)))
  | prer (v : BitVec 32) : SetsCalendar (.unit (.writePrer v))

/-- What is written to the calendar has to take effect. -/
def sessionUnit (delay : Nat) : Env RtcSessionEvent RtcSessionEvent.Response RtcDevice where
  req s e :=
    match e with
    | .unit (.rtc (.write .tr _)) => s.Stopped
    | .unit (.rtc (.write .dr _)) => s.Stopped
    | .unit (.writePrer _) => s.Stopped
    | _ => True
  step s e r s' :=
    match e, r with
    | .unit (.rtc e), r => rtcStep delay s e r s'
    | .unit (.clock e), r => clockStep delay s e r s'
    | .unit (.writePrer v), _ => s' = if s.writable && s.initf then { s with prer := v } else s
    | .rcc _, _ => s' = s

def rtcDevice (advance : CalendarValue → CalendarValue → Prop) (delay : Nat) :
    Env RtcSessionEvent RtcSessionEvent.Response RtcDevice :=
  (sessionUnit delay).amid (RtcDevice.Moves advance)

/-! ## The functions on the device -/

def onUnit {α : Type} (p : RtcProc α) : RtcSessionProc α :=
  p.embed (fun e => RtcSessionEvent.unit (.rtc e)) fun _ r => r

def onInit {α : Type} (p : RtcInitProc α) : RtcSessionProc α :=
  p.embed RtcSessionEvent.unit fun _ r => r

def boardAccess : BoardEvent → RtcSessionEvent
  | .rtc e => .unit (.rtc e)
  | .rcc e => .rcc e

def boardAnswer : (e : BoardEvent) → (boardAccess e).Response → e.Response
  | .rtc _, r => r
  | .rcc _, r => r

def onBoard {α : Type} (p : BoardProc α) : RtcSessionProc α := p.embed boardAccess boardAnswer

/-- The RTC alone, and its clock alone. -/
def rtcAlone (advance : CalendarValue → CalendarValue → Prop) (delay : Nat) :
    Env RtcEvent RtcEvent.Response RtcDevice where
  req s e := (rtcDevice advance delay).req s (.unit (.rtc e))
  step s e r s' := (rtcDevice advance delay).step s (.unit (.rtc e)) r s'

def clockAlone (advance : CalendarValue → CalendarValue → Prop) (delay : Nat) :
    Env ClockSourceEvent ClockSourceEvent.Response RtcDevice where
  req s e := (rtcDevice advance delay).req s (.unit (.clock e))
  step s e r s' := (rtcDevice advance delay).step s (.unit (.clock e)) r s'

/-! ## The protocol -/

inductive RtcMode where
  | counting
  /-- The initialisation mode was asked for; the calendar may still count. -/
  | entering
  | stopped

/-- A flag that is down. -/
theorem and_one_shiftLeft_eq_zero {v : BitVec 32} {i : Nat} (h : v.getLsbD i = false) :
    v &&& 1#32 <<< i = 0#32 := by
  apply BitVec.eq_of_getLsbD_eq
  intro k hk
  by_cases hki : k = i
  · simp [hki, h]
  · have hne : k - i ≠ 0 ∨ k < i := by omega
    rcases hne with hne | hlt
    · simp [hne]
    · simp [hlt]

/-- What is known of the oscillator. -/
inductive HseFact where
  | unknown
  | starts
  | runs
  | dead

/-- Whether it has a crystal, and whether it runs. -/
def HseFact.Holds : HseFact → Bool → Bool → Prop
  | .unknown, _, _ => True
  | .starts, crystal, _ => crystal = true
  | .runs, _, hserdy => hserdy = true
  | .dead, crystal, hserdy => crystal = false ∧ hserdy = false

/-- Where the device is in the protocol.  The calendar has come from `c`, or is `c` if it stands
still. -/
structure In (advance : CalendarValue → CalendarValue → Prop) (delay : Nat) (osc : HseFact)
    (prer : BitVec 32) (key : WprKey) (mode : RtcMode) (c : CalendarValue) (s : RtcDevice) :
    Prop where
  dbp : s.dbp = true
  clock : s.OnHse
  hse : osc.Holds s.crystal s.hserdy
  key : s.key = key
  prer : s.prer = prer
  quiet : s.quiet ≤ delay
  mode :
    match mode with
    | .counting => s.init = false ∧ s.initf = false ∧ ReflTransGen advance c s.calendar
    | .entering => s.init = true ∧ ReflTransGen advance c s.calendar
    | .stopped => s.init = true ∧ s.initf = true ∧ s.calendar = c

section Protocol

variable {advance : CalendarValue → CalendarValue → Prop} {delay fuel : Nat}
  {osc : HseFact} {prer mask v : BitVec 32} {key : WprKey} {mode : RtcMode} {c : CalendarValue}
  {g : RtcGlobals}
  {s : RtcDevice} {D : RtcDevice → Prop}

/-- An oscillator that runs does not stop by itself. -/
theorem stable_holds :
    Stable (RtcDevice.Moves advance) (fun s => osc.Holds s.crystal s.hserdy) := by
  rintro s _ hmove h
  cases hmove with
  | second => exact h
  | stop => exact h
  | start hstarting =>
      cases osc with
      | unknown => trivial
      | starts => exact h
      | runs => exact rfl
      | dead => exact absurd (h.1.symm.trans hstarting.2) (by decide)

/-- What the device does by itself does not take it elsewhere, and no poll is used up by it. -/
theorem stable_in (q : Nat) :
    Stable (RtcDevice.Moves advance)
      (fun s => In advance delay osc prer key mode c s ∧ s.quiet = q) := by
  rintro s _ hmove ⟨h, hq⟩
  have hmode := h.mode
  have hhse := stable_holds _ _ hmove h.hse
  cases hmove with
  | second hclocked hcounts hnext =>
      refine ⟨⟨h.dbp, h.clock, hhse, h.key, h.prer, h.quiet, ?_⟩, hq⟩
      cases mode with
      | counting => exact ⟨hmode.1, hmode.2.1, hmode.2.2.tail hnext⟩
      | entering => exact ⟨hmode.1, hmode.2.tail hnext⟩
      | stopped => exact absurd (hmode.2.1.symm.trans hcounts) (by decide)
  | stop hclocked hinit =>
      refine ⟨⟨h.dbp, h.clock, hhse, h.key, h.prer, h.quiet, ?_⟩, hq⟩
      cases mode with
      | counting => exact absurd (hmode.1.symm.trans hinit) (by decide)
      | entering => exact hmode
      | stopped => exact ⟨hmode.1, rfl, hmode.2.2⟩
  | start hstarting =>
      exact ⟨⟨h.dbp, h.clock, hhse, h.key, h.prer, h.quiet, hmode⟩, hq⟩

/-- The calendar has come from further back. -/
theorem In.since {c₁ : CalendarValue} (h : In advance delay osc prer key .counting c₁ s)
    (hcounted : ReflTransGen advance c c₁) : In advance delay osc prer key .counting c s :=
  ⟨h.dbp, h.clock, h.hse, h.key, h.prer, h.quiet, h.mode.1, h.mode.2.1, hcounted.trans h.mode.2.2⟩

/-- One access to the RTC. -/
theorem wp_rtcAccess {e : RtcEvent} {Q : e.Response → RtcGlobals → RtcDevice → Prop}
    (h : In advance delay osc prer key mode c s)
    (hreq : ∀ s₁, In advance delay osc prer key mode c s₁ →
      (sessionUnit delay).req s₁ (.unit (.rtc e)))
    (hstep : ∀ s₁ r s', In advance delay osc prer key mode c s₁ → s₁.quiet = s.quiet →
      rtcStep delay s₁ e r s' → Q r g s') :
    (perform e : RtcProc e.Response).wp (rtcAlone advance delay) D Q g s := by
  refine wp_perform.2 ⟨fun s₁ hmoves => ?_, ?_⟩
  · exact hreq s₁ ((stable_in s.quiet).turns hmoves ⟨h, rfl⟩).1
  · rintro r s' ⟨s₁, hmoves, hr⟩
    obtain ⟨h₁, hquiet⟩ := (stable_in s.quiet).turns hmoves ⟨h, rfl⟩
    exact hstep s₁ r s' h₁ hquiet hr

theorem In.writable (h : In advance delay osc prer .unlocked mode c s) : s.writable = true := by
  simp [RtcDevice.writable, h.dbp, h.key]

theorem In.stopped (h : In advance delay osc prer .unlocked .stopped c s) : s.Stopped :=
  ⟨h.writable, h.mode.2.1⟩

theorem In.effective (h : In advance delay osc prer .unlocked .stopped c s) :
    (s.writable && s.initf) = true := by
  rw [h.writable, h.mode.2.1]
  rfl

theorem wp_writeWpr_device (h : In advance delay osc prer key mode c s) :
    (writeRtc .wpr v).wp (rtcAlone advance delay) D
      (fun _ g' s' => g' = g ∧ In advance delay osc prer (key.next v) mode c s') g s := by
  refine wp_rtcAccess h (fun _ _ => trivial) ?_
  rintro s₁ _ _ h₁ - rfl
  rw [RtcDevice.writeWpr, if_pos h₁.dbp]
  exact ⟨rfl, h₁.dbp, h₁.clock, h₁.hse, congrArg (WprKey.next · v) h₁.key, h₁.prer, h₁.quiet,
    h₁.mode⟩

/-- The initialisation mode is asked for. -/
theorem wp_setIsr_init (h : In advance delay osc prer .unlocked .counting c s) :
    (setIsr rtcIsrInit).wp (rtcAlone advance delay) D
      (fun _ g' s' => g' = g ∧ In advance delay osc prer .unlocked .entering c s') g s := by
  refine wp_bind.2 (wp_rtcAccess h (fun _ _ => trivial) ?_)
  rintro s₁ (v : BitVec 32) _ h₁ - ⟨-, rfl⟩
  refine wp_rtcAccess h₁ (fun _ _ => trivial) ?_
  rintro s₂ _ _ h₂ - rfl
  have hinit : (v ||| rtcIsrInit).getLsbD 7 = true := by
    simp [rtcIsrInit]
  rw [RtcDevice.writeIsr, if_pos h₂.writable]
  exact ⟨rfl, h₂.dbp, h₂.clock, h₂.hse, h₂.key, h₂.prer, Nat.le_refl _, hinit, h₂.mode.2.2⟩

/-- The initialisation mode is left. -/
theorem wp_clearIsr_init (h : In advance delay osc prer .unlocked .stopped c s) :
    (clearIsr rtcIsrInit).wp (rtcAlone advance delay) D
      (fun _ g' s' => g' = g ∧ In advance delay osc prer .unlocked .counting c s') g s := by
  refine wp_bind.2 (wp_rtcAccess h (fun _ _ => trivial) ?_)
  rintro s₁ (v : BitVec 32) _ h₁ - ⟨-, rfl⟩
  refine wp_rtcAccess h₁ (fun _ _ => trivial) ?_
  rintro s₂ _ _ h₂ - rfl
  have hinit : (v &&& ~~~rtcIsrInit).getLsbD 7 = false := by
    simp [rtcIsrInit]
  have hcalendar : ReflTransGen advance c s₂.calendar := by
    rw [h₂.mode.2.2]
  rw [RtcDevice.writeIsr, if_pos h₂.writable]
  refine ⟨rfl, h₂.dbp, h₂.clock, h₂.hse, h₂.key, h₂.prer, Nat.le_refl _, hinit, ?_, hcalendar⟩
  show (s₂.initf && _) = false
  rw [hinit, Bool.and_false]

/-- `RSF` is cleared, or is not because the device is locked. -/
theorem wp_clearIsr_rsf (h : In advance delay osc prer key .counting c s) :
    (clearIsr rtcIsrRsf).wp (rtcAlone advance delay) D
      (fun _ g' s' => g' = g ∧ In advance delay osc prer key .counting c s') g s := by
  refine wp_bind.2 (wp_rtcAccess h (fun _ _ => trivial) ?_)
  rintro s₁ (v : BitVec 32) _ h₁ - ⟨hisr, rfl⟩
  refine wp_rtcAccess h₁ (fun _ _ => trivial) ?_
  rintro s₂ _ _ h₂ - rfl
  refine ⟨rfl, ?_⟩
  unfold RtcDevice.writeIsr
  split
  · have hkept : (v &&& ~~~rtcIsrRsf).getLsbD 7 = v.getLsbD 7 := by
      simp [rtcIsrRsf]
    have hinit : (v &&& ~~~rtcIsrRsf).getLsbD 7 = false :=
      hkept.trans (hisr.1.trans h₁.mode.1)
    refine ⟨h₂.dbp, h₂.clock, h₂.hse, h₂.key, h₂.prer, Nat.le_refl _, hinit, ?_, h₂.mode.2.2⟩
    show (s₂.initf && _) = false
    rw [hinit, Bool.and_false]
  · exact h₂

/-- Where it is not shown that the waits end, a session may be cut off in any of them. -/
def Waits (D : RtcDevice → Prop) (delay fuel : Nat) (osc : HseFact) : Prop :=
  (∀ s, D s) ∨ osc = .runs ∧ delay < fuel

theorem In.clocked (h : In advance delay osc prer key mode c s) (hruns : osc = .runs) :
    s.Clocked := by
  subst hruns
  exact h.clock.clocked_iff.2 h.hse

/-- A wait for a flag that comes up by itself once there is a clock. -/
theorem wp_waitIsr_device {flag : BitVec 32} (hwaits : Waits D delay fuel osc)
    (hdue : ∀ s₁, In advance delay osc prer key mode c s₁ → s₁.Clocked → s₁.Due flag)
    (h : In advance delay osc prer key mode c s) :
    (waitIsr fuel flag).wp (rtcAlone advance delay) D
      (fun _ g' s' => g' = g ∧ In advance delay osc prer key mode c s' ∧
        ∃ v, s'.ShowsIsr v ∧ v &&& flag ≠ 0#32) g s := by
  have hlive : (∀ s, D s) ∨ osc = .runs ∧ s.quiet < fuel :=
    hwaits.imp_right fun hruns => ⟨hruns.1, Nat.lt_of_le_of_lt h.quiet hruns.2⟩
  refine wp_iter_live (fun _ g' s' => g' = g ∧ In advance delay osc prer key mode c s')
    (fun _ _ s' => s'.quiet) ?_ fuel ⟨rfl, h⟩ hlive
  rintro _ _ s₁ ⟨rfl, h₁⟩
  refine wp_bind.2 (wp_rtcAccess h₁ (fun _ _ => trivial) ?_)
  rintro s₂ (v : BitVec 32) s' h₂ hquiet ⟨hisr, ⟨hup, rfl⟩ | ⟨hdown, hleft, rfl⟩⟩
  · rw [if_neg hup]
    exact ⟨rfl, h₂, v, hisr, hup⟩
  · rw [if_pos hdown]
    have hle : s₂.quiet - 1 ≤ delay := by
      have := h₁.quiet
      omega
    refine ⟨⟨rfl, h₂.dbp, h₂.clock, h₂.hse, h₂.key, h₂.prer, hle, h₂.mode⟩, fun hruns => ?_⟩
    have hpos := hleft (hdue s₂ h₂ (h₂.clocked hruns))
    show s₂.quiet - 1 < s₁.quiet
    omega

/-- The wait for the initialisation mode, in which the calendar stands still. -/
theorem wp_waitIsr_initf (hwaits : Waits D delay fuel osc)
    (h : In advance delay osc prer .unlocked .entering c s) :
    (waitIsr fuel rtcIsrInitf).wp (rtcAlone advance delay) D
      (fun _ g' s' => g' = g ∧ ∃ c', ReflTransGen advance c c' ∧
        In advance delay osc prer .unlocked .stopped c' s') g s := by
  have hdue : ∀ s₁, In advance delay osc prer .unlocked .entering c s₁ → s₁.Clocked →
      s₁.Due rtcIsrInitf := fun _ h₁ hclocked => ⟨hclocked, Or.inl ⟨rfl, h₁.mode.1⟩⟩
  refine wp_mono (wp_waitIsr_device hwaits hdue h) ?_
  rintro _ _ s' ⟨rfl, h', v, hisr, hup⟩
  have hinitf : s'.initf = true := by
    rw [← hisr.2]
    by_contra hdown
    refine hup ?_
    rw [Bool.not_eq_true] at hdown
    exact and_one_shiftLeft_eq_zero hdown
  exact ⟨rfl, s'.calendar, h'.mode.2,
    h'.dbp, h'.clock, h'.hse, h'.key, h'.prer, h'.quiet, h'.mode.1, hinitf, rfl⟩

theorem wp_waitIsr_rsf (hwaits : Waits D delay fuel osc)
    (h : In advance delay osc prer key .counting c s) :
    (waitIsr fuel rtcIsrRsf).wp (rtcAlone advance delay) D
      (fun _ g' s' => g' = g ∧ In advance delay osc prer key .counting c s') g s := by
  have hdue : ∀ s₁, In advance delay osc prer key .counting c s₁ → s₁.Clocked →
      s₁.Due rtcIsrRsf := fun _ h₁ hclocked => ⟨hclocked, Or.inr ⟨rfl, h₁.mode.1⟩⟩
  refine wp_mono (wp_waitIsr_device hwaits hdue h) ?_
  rintro _ _ s' ⟨rfl, h', -⟩
  exact ⟨rfl, h'⟩

theorem wp_rtcWaitSync_device (hwaits : Waits D delay fuel osc)
    (h : In advance delay osc prer key .counting c s) :
    (rtcWaitSync fuel).wp (rtcAlone advance delay) D
      (fun _ g' s' => g' = { g with isSyncDateRtc := 1#8 } ∧
        In advance delay osc prer key .counting c s') g s := by
  unfold rtcWaitSync
  refine wp_seq (wp_clearIsr_rsf h) ?_
  rintro _ _ s₁ ⟨rfl, h₁⟩
  refine wp_seq (wp_waitIsr_rsf hwaits h₁) ?_
  rintro _ _ s₂ ⟨rfl, h₂⟩
  exact ⟨rfl, h₂⟩

theorem wp_enterInit_device (hwaits : Waits D delay fuel osc)
    (h : In advance delay osc prer .locked .counting c s) :
    (enterInit fuel).wp (rtcAlone advance delay) D
      (fun _ g' s' => g' = g ∧ ∃ c', ReflTransGen advance c c' ∧
        In advance delay osc prer .unlocked .stopped c' s') g s := by
  unfold enterInit
  refine wp_seq (wp_writeWpr_device h) ?_
  rintro _ _ s₁ ⟨rfl, h₁⟩
  refine wp_seq (wp_writeWpr_device h₁) ?_
  rintro _ _ s₂ ⟨rfl, h₂⟩
  refine wp_seq (wp_setIsr_init h₂) ?_
  rintro _ _ s₃ ⟨rfl, h₃⟩
  exact wp_waitIsr_initf hwaits h₃

theorem wp_leaveInit_device (hwaits : Waits D delay fuel osc)
    (h : In advance delay osc prer .unlocked .stopped c s) :
    (leaveInit fuel).wp (rtcAlone advance delay) D
      (fun _ g' s' => g' = { g with isSyncDateRtc := 1#8 } ∧
        In advance delay osc prer .locked .counting c s') g s := by
  unfold leaveInit
  refine wp_seq (wp_clearIsr_init h) ?_
  rintro _ _ s₁ ⟨rfl, h₁⟩
  refine wp_seq (wp_writeWpr_device h₁) ?_
  rintro _ _ s₂ ⟨rfl, h₂⟩
  exact wp_rtcWaitSync_device hwaits h₂

theorem wp_writeTr_device (h : In advance delay osc prer .unlocked .stopped c s) :
    (writeRtc .tr v).wp (rtcAlone advance delay) D
      (fun _ g' s' => g' = g ∧ In advance delay osc prer .unlocked .stopped (v, c.2) s') g s := by
  refine wp_rtcAccess h (fun _ h₁ => h₁.stopped) ?_
  rintro s₁ _ _ h₁ - rfl
  rw [if_pos h₁.effective]
  refine ⟨rfl, h₁.dbp, h₁.clock, h₁.hse, h₁.key, h₁.prer, h₁.quiet, h₁.mode.1, h₁.mode.2.1, ?_⟩
  show (v, s₁.calendar.2) = _
  rw [h₁.mode.2.2]

theorem wp_writeDr_device (h : In advance delay osc prer .unlocked .stopped c s) :
    (writeRtc .dr v).wp (rtcAlone advance delay) D
      (fun _ g' s' => g' = g ∧ In advance delay osc prer .unlocked .stopped (c.1, v) s') g s := by
  refine wp_rtcAccess h (fun _ h₁ => h₁.stopped) ?_
  rintro s₁ _ _ h₁ - rfl
  rw [if_pos h₁.effective]
  refine ⟨rfl, h₁.dbp, h₁.clock, h₁.hse, h₁.key, h₁.prer, h₁.quiet, h₁.mode.1, h₁.mode.2.1, ?_⟩
  show (s₁.calendar.1, v) = _
  rw [h₁.mode.2.2]

theorem wp_readRtc_device {r : RtcReg} (h : In advance delay osc prer key mode c s) :
    (readRtc r).wp (rtcAlone advance delay) D
      (fun _ g' s' => g' = g ∧ In advance delay osc prer key mode c s') g s := by
  refine wp_rtcAccess h (fun _ _ => trivial) ?_
  rintro s₁ _ s' h₁ - hstep
  cases r with
  | isr => exact ⟨rfl, hstep.2 ▸ h₁⟩
  | tr => exact ⟨rfl, (show s' = s₁ from hstep) ▸ h₁⟩
  | dr => exact ⟨rfl, (show s' = s₁ from hstep) ▸ h₁⟩
  | wpr => exact ⟨rfl, (show s' = s₁ from hstep) ▸ h₁⟩

/-! ## Where the calendar does not stop -/

/-- Whatever is done about it, the calendar does not stop. -/
structure NeverStops (advance : CalendarValue → CalendarValue → Prop) (delay : Nat)
    (I : RtcDevice → Prop) : Prop where
  moves : Stable (RtcDevice.Moves advance) I
  initf : ∀ s, I s → s.initf = false
  writeWpr : ∀ s v, I s → I (s.writeWpr v)
  writeIsr : ∀ s v, I s → I (s.writeIsr delay v)
  waits : ∀ s q, I s → I { s with quiet := q }

/-- Then the wait for the initialisation mode does not end. -/
theorem NeverStops.wp_enterInit {I : RtcDevice → Prop} (hI : NeverStops advance delay I)
    (h : I s) :
    (enterInit fuel).wp (rtcAlone advance delay) (fun _ => True) (fun _ _ _ => False) g s := by
  have hwpr : ∀ v g s, I s → (writeRtc .wpr v).wp (rtcAlone advance delay) (fun _ => True)
      (fun _ _ s' => I s') g s := by
    intro v g s h
    refine wp_perform.2 ⟨fun _ _ => trivial, ?_⟩
    rintro _ _ ⟨s₁, hmoves, rfl⟩
    exact hI.writeWpr s₁ v (hI.moves.turns hmoves h)
  unfold enterInit
  refine wp_seq (hwpr _ _ _ h) fun _ _ s₁ h₁ => ?_
  refine wp_seq (hwpr _ _ _ h₁) fun _ _ s₂ h₂ => ?_
  refine wp_seq (P := fun _ _ s' => I s') ?_ fun _ _ s₃ h₃ => ?_
  · refine wp_bind.2 (wp_perform.2 ⟨fun _ _ => trivial, ?_⟩)
    rintro (v : BitVec 32) _ ⟨s₄, hmoves, -, rfl⟩
    have h₄ := hI.moves.turns hmoves h₂
    refine wp_perform.2 ⟨fun _ _ => trivial, ?_⟩
    rintro _ _ ⟨s₅, hmoves', rfl⟩
    exact hI.writeIsr s₅ _ (hI.moves.turns hmoves' h₄)
  · refine wp_iter (fun _ _ s' => I s') ?_ (fun _ _ _ _ => trivial) fuel h₃
    intro _ _ s₄ h₄
    refine wp_bind.2 (wp_perform.2 ⟨fun _ _ => trivial, ?_⟩)
    rintro (v : BitVec 32) s₅ ⟨s₆, hmoves, hisr, hpoll⟩
    have h₆ := hI.moves.turns hmoves h₄
    have hdown : v &&& rtcIsrInitf = 0#32 :=
      and_one_shiftLeft_eq_zero (hisr.2.trans (hI.initf s₆ h₆))
    rcases hpoll with ⟨hup, -⟩ | ⟨-, -, rfl⟩
    · exact absurd hdown hup
    · rw [if_pos hdown]
      exact hI.waits s₆ _ h₆

end Protocol

end Core
end SdioFat32
