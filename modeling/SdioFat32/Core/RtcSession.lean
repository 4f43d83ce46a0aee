import SdioFat32.Core.RtcSetup

/-!
# RtcSession — `init_rtc` and every sequence of calls after it

* `rtc_session_runs` — after `init_rtc` the calls are a run of a calendar that counts, if the
  oscillator starts; if it never does, `init_rtc` does not return;
* `calendar_written_stopped` — the calendar is never written while it counts or is locked;
* `calls_before_init` — without `init_rtc` a setter that accepts its argument does not return.
-/

namespace SdioFat32
namespace Core

open Effects Proc Relation

/-! ## Sessions -/

/-- `init_rtc`, and the calls if it succeeds. -/
def rtcSession (fuel : Nat) (calls : List RtcCall) : RtcSessionProc (List Int) := do
  let status ← onInit (initRtc fuel)
  if status ≠ 0 then return [status]
  let statuses ← runRtcCalls fuel calls
  return status :: statuses

section Sessions

variable {advance : CalendarValue → CalendarValue → Prop} {delay fuel : Nat} {osc : HseFact}
  {calls : List RtcCall} {g : RtcGlobals} {s : RtcDevice} {D : RtcDevice → Prop}

/-- Every call had its effect on a calendar that counts. -/
def Counted (advance : CalendarValue → CalendarValue → Prop) (delay : Nat) (osc : HseFact)
    (calls : List RtcCall) (statuses : List Int) (s' : RtcDevice) : Prop :=
  statuses = 0 :: calls.map RtcCall.status ∧ ClockRuns advance calls resetCalendar s'.calendar ∧
    CountsLocked advance delay osc hsePrer s'.calendar s'

/-- Where a session ends, if it does. -/
def SessionEnd (advance : CalendarValue → CalendarValue → Prop) (delay : Nat)
    (calls : List RtcCall) (statuses : List Int) (s' : RtcDevice) : Prop :=
  (statuses = [-1] ∧ Asleep delay .unknown 0#32 s') ∨
    Counted advance delay .unknown calls statuses s'

theorem wp_rtcSession (hdelay : osc = .starts → delay < 100000)
    (hhse : osc.Holds s.crystal s.hserdy) (hwaits : Waits D delay fuel osc.awaited) :
    (rtcSession fuel calls).wp (rtcDevice advance delay) D
      (fun statuses _ s' =>
        (statuses = [-1] ∧ ¬osc.Reported ∧ Asleep delay osc.awaited 0#32 s') ∨
        Counted advance delay osc.awaited calls statuses s') g s := by
  refine wp_seq (wp_onInit (wp_initRtc_device hdelay hhse hwaits)) ?_
  rintro _ g₁ s₁ (⟨rfl, hreported, rfl, h₁⟩ | ⟨rfl, hinit, h₁⟩)
  · exact Or.inl ⟨rfl, hreported, h₁⟩
  · have hset : g₁.rtcInitialized ≠ 0#32 := by
      rw [hinit]
      decide
    refine wp_seq (wp_runRtcCalls hwaits hset h₁) ?_
    rintro _ g₂ s₂ ⟨rfl, hruns, h₂⟩
    exact Or.inr ⟨rfl, hruns, h₂⟩

/-- Of any oscillator, without a word on whether the session ends. -/
theorem wp_rtcSession_any :
    (rtcSession fuel calls).wp (rtcDevice advance delay) (fun _ => True)
      (fun statuses _ s' => SessionEnd advance delay calls statuses s') g s := by
  have hdelay : HseFact.unknown = .starts → delay < 100000 := fun hstarts => nomatch hstarts
  refine wp_mono (wp_rtcSession hdelay trivial (Or.inl fun _ => trivial)) ?_
  rintro statuses _ s' (⟨hfailed, -, hasleep⟩ | hcounted)
  · exact Or.inl ⟨hfailed, hasleep⟩
  · exact Or.inr hcounted

/-- From any state of the device, a session that returns has reported a failed start, or leaves a
calendar that has counted and was set as the calls say, and a locked device.  With an oscillator
that comes up in time it returns, and nothing has failed; with one that never does it does not. -/
theorem rtc_session_runs :
    (∀ statuses g' s',
      Runs (rtcDevice advance delay) (rtcSession fuel calls g) s (statuses, g') s' →
      SessionEnd advance delay calls statuses s') ∧
    (s.crystal = true → delay < fuel → delay < 100000 →
      (∀ s', ¬Reaches (rtcDevice advance delay) (rtcSession fuel calls g) s .spin s') ∧
      ∀ statuses g' s',
        Runs (rtcDevice advance delay) (rtcSession fuel calls g) s (statuses, g') s' →
        Counted advance delay .runs calls statuses s') ∧
    (s.crystal = false → s.hserdy = false →
      ∀ statuses g' s',
        ¬Runs (rtcDevice advance delay) (rtcSession fuel calls g) s (statuses, g') s') := by
  refine ⟨?_, ?_, ?_⟩
  · intro statuses g' s' hrun
    have hend := wp_runs wp_rtcSession_any hrun
    exact hend
  · intro hcrystal hfuel hdelay
    have hsession : (rtcSession fuel calls).wp (rtcDevice advance delay) (fun _ => False)
        (fun statuses _ s' => Counted advance delay .runs calls statuses s') g s := by
      have hstarts : HseFact.starts.Holds s.crystal s.hserdy := hcrystal
      refine wp_mono (wp_rtcSession (fun _ => hdelay) hstarts (Or.inr ⟨rfl, hfuel⟩)) ?_
      rintro statuses _ s' (⟨-, hreported, -⟩ | hcounted)
      · exact absurd (Or.inl rfl) hreported
      · exact hcounted
    refine ⟨fun s' => Prog.wp_not_spin hsession, ?_⟩
    intro statuses g' s' hrun
    have hend := wp_runs hsession hrun
    exact hend
  · intro hcrystal hready statuses g' s' hrun
    have hsession : (rtcSession fuel calls).wp (rtcDevice advance delay) (fun _ => True)
        (fun _ _ _ => False) g s :=
      wp_seq (wp_onInit (wp_initRtc_lifeless ⟨hcrystal, hready⟩))
        fun _ _ _ hreturned => hreturned.elim
    exact wp_runs hsession hrun

/-- The calendar is only ever written while it stands still and the device is unlocked. -/
theorem calendar_written_stopped {e : RtcSessionEvent}
    {k : e.Response → Prog RtcSessionEvent RtcSessionEvent.Response _} {s' : RtcDevice}
    (hreach : Reaches (rtcDevice advance delay) (rtcSession fuel calls g) s (.op e k) s')
    (hsets : e.SetsCalendar) : s'.Stopped := by
  have hreq : (sessionUnit delay).req s' e :=
    Prog.wp_req wp_rtcSession_any hreach s' .refl
  cases hsets with
  | tr v => exact hreq
  | dr v => exact hreq
  | prer v => exact hreq

end Sessions

/-! ## A session -/

/-- `ISR` with `RSF` up. -/
def isrOf (init initf : Bool) : BitVec 32 :=
  (if init then rtcIsrInit else 0#32) ||| (if initf then rtcIsrInitf else 0#32) ||| rtcIsrRsf

theorem isrOf_init : ∀ init initf, (isrOf init initf).getLsbD 7 = init := by decide
theorem isrOf_initf : ∀ init initf, (isrOf init initf).getLsbD 6 = initf := by decide
theorem isrOf_rsf_up : ∀ init initf, isrOf init initf &&& rtcIsrRsf ≠ 0#32 := by decide
theorem isrOf_initf_up : ∀ init, isrOf init true &&& rtcIsrInitf ≠ 0#32 := by decide

def RtcDevice.isr (s : RtcDevice) : BitVec 32 := isrOf s.init s.initf

theorem RtcDevice.shows_isr (s : RtcDevice) : s.ShowsIsr s.isr :=
  ⟨isrOf_init s.init s.initf, isrOf_initf s.init s.initf⟩

/-- The calendar stops when it is asked for. -/
def RtcDevice.settled (s : RtcDevice) (flag : BitVec 32) : RtcDevice :=
  if s.Clocked ∧ s.init ∧ flag = rtcIsrInitf then { s with initf := true } else s

/-- The oscillator starts when it is waited for. -/
def RtcDevice.warm (s : RtcDevice) : RtcDevice :=
  if s.hseon ∧ s.crystal then { s with hserdy := true } else s

/-- `CR` with the two bits of the HSE. -/
def crOf (hseon hserdy : Bool) : BitVec 32 :=
  (if hseon then rccCrHseon else 0#32) ||| (if hserdy then rccCrHserdy else 0#32)

theorem crOf_shows : ∀ hseon hserdy, (crOf hseon hserdy).getLsbD 16 = hseon ∧
    (crOf hseon hserdy).getLsbD 17 = hserdy := by decide

/-- A strategy of the device: it stops at once and no second passes. -/
def promptRtc (s : RtcDevice) : (e : RtcEvent) → e.Response × RtcDevice
  | .read .isr => (s.isr, s)
  | .read _ => (0#32, s)
  | .poll flag =>
      let s₁ := s.settled flag
      (s₁.isr, if s₁.isr &&& flag ≠ 0#32 then s₁ else { s₁ with quiet := s₁.quiet - 1 })
  | .write .tr v =>
      ((), if s.writable && s.initf then { s with calendar := (v, s.calendar.2) } else s)
  | .write .dr v =>
      ((), if s.writable && s.initf then { s with calendar := (s.calendar.1, v) } else s)
  | .write .isr v => ((), s.writeIsr 0 v)
  | .write .wpr v => ((), s.writeWpr v)

def promptClock (s : RtcDevice) : (e : ClockSourceEvent) → e.Response × RtcDevice
  | .read .pwrCr => (if s.dbp then powerCrDbp else 0#32, s)
  | .read .bdcr => (s.domain, s)
  | .read .cfgr => (s.rtcpre, s)
  | .read .cr => (crOf s.hseon s.hserdy, s)
  | .read .csr => (0#32, s)
  | .poll .cr =>
      let s₁ := s.warm
      (crOf s₁.hseon s₁.hserdy, if s₁.hserdy then s₁ else { s₁ with quiet := s₁.quiet - 1 })
  | .poll _ => (0#32, s)
  | .write .cr v => ((), s.writeCr 0 v)
  | .write .pwrCr v => ((), { s with dbp := v.getLsbD 8 })
  | .write .bdcr v => ((), s.writeBdcr 0 v)
  | .write .cfgr v => ((), { s with rtcpre := v &&& rccCfgrRtcpreMask })
  | .write .csr _ => ((), s)

def promptSession (s : RtcDevice) : (e : RtcSessionEvent) → e.Response × RtcDevice
  | .unit (.rtc e) => promptRtc s e
  | .unit (.clock e) => promptClock s e
  | .unit (.writePrer v) => ((), if s.writable && s.initf then { s with prer := v } else s)
  | .rcc (.read _) => (0#32, s)
  | .rcc (.write _ _) => ((), s)
  | .rcc .indeterminate => (0#32, s)

theorem settled_moves {advance : CalendarValue → CalendarValue → Prop} (s : RtcDevice)
    (flag : BitVec 32) : ReflTransGen (RtcDevice.Moves advance) s (s.settled flag) := by
  unfold RtcDevice.settled
  split
  · rename_i h
    exact .single (.stop h.1 h.2.1)
  · exact .refl

theorem warm_moves {advance : CalendarValue → CalendarValue → Prop} (s : RtcDevice) :
    ReflTransGen (RtcDevice.Moves advance) s s.warm := by
  unfold RtcDevice.warm
  split
  · rename_i h
    exact .single (.start ⟨h.1, h.2⟩)
  · exact .refl

/-- Where it could start, the oscillator runs. -/
theorem warm_up {s : RtcDevice} (hstarting : s.warm.Starting) : s.warm.hserdy = true := by
  unfold RtcDevice.warm at hstarting ⊢
  split
  · rfl
  · rename_i h
    rw [if_neg h] at hstarting
    exact absurd ⟨hstarting.1, hstarting.2⟩ h

/-- Where it is due, a flag is up. -/
theorem settled_up {s : RtcDevice} {flag : BitVec 32} (hdue : (s.settled flag).Due flag) :
    (s.settled flag).isr &&& flag ≠ 0#32 := by
  obtain ⟨hclocked, ⟨rfl, hinit⟩ | ⟨rfl, -⟩⟩ := hdue
  · have hasked : s.Clocked ∧ s.init = true := by
      unfold RtcDevice.settled at hclocked hinit
      split at hclocked
      · rename_i h
        exact ⟨h.1, h.2.1⟩
      · rename_i h
        rw [if_neg h] at hinit
        exact ⟨hclocked, hinit⟩
    rw [RtcDevice.settled, if_pos ⟨hasked.1, hasked.2, rfl⟩]
    exact isrOf_initf_up _
  · exact isrOf_rsf_up _ _

theorem promptRtc_allowed (advance : CalendarValue → CalendarValue → Prop) (s : RtcDevice)
    (e : RtcEvent) : (rtcAlone advance 0).step s e (promptRtc s e).1 (promptRtc s e).2 := by
  cases e with
  | read r =>
      cases r with
      | isr => exact ⟨s, .refl, s.shows_isr, rfl⟩
      | _ => exact ⟨s, .refl, rfl⟩
  | poll flag =>
      refine ⟨s.settled flag, settled_moves s flag, (s.settled flag).shows_isr, ?_⟩
      by_cases hup : (s.settled flag).isr &&& flag = 0#32
      · refine Or.inr ⟨hup, fun hdue => absurd hup (settled_up hdue), ?_⟩
        exact if_neg (not_not.2 hup)
      · exact Or.inl ⟨hup, if_pos hup⟩
  | write r v => cases r <;> exact ⟨s, .refl, rfl⟩

theorem promptClock_allowed (advance : CalendarValue → CalendarValue → Prop) (s : RtcDevice)
    (e : ClockSourceEvent) :
    (clockAlone advance 0).step s e (promptClock s e).1 (promptClock s e).2 := by
  cases e with
  | read r =>
      cases r with
      | pwrCr =>
          refine ⟨s, .refl, ?_, rfl⟩
          show (if s.dbp then powerCrDbp else 0#32).getLsbD 8 = s.dbp
          cases s.dbp with
          | false => rfl
          | true => decide
      | bdcr => exact ⟨s, .refl, rfl, rfl⟩
      | cfgr => exact ⟨s, .refl, rfl, rfl⟩
      | csr => exact ⟨s, .refl, rfl⟩
      | cr => exact ⟨s, .refl, crOf_shows _ _, rfl⟩
  | poll r =>
      cases r with
      | cr =>
          refine ⟨s.warm, warm_moves s, crOf_shows _ _, ?_⟩
          by_cases hready : s.warm.hserdy = true
          · exact Or.inl ⟨hready, if_pos hready⟩
          · refine Or.inr ⟨Bool.eq_false_iff.2 hready, fun hstarting => ?_, if_neg hready⟩
            exact absurd (warm_up hstarting) hready
      | _ => exact ⟨s, .refl, rfl⟩
  | write r v => cases r <;> exact ⟨s, .refl, rfl⟩

theorem promptSession_allowed (advance : CalendarValue → CalendarValue → Prop) (s : RtcDevice)
    (e : RtcSessionEvent) :
    (rtcDevice advance 0).step s e (promptSession s e).1 (promptSession s e).2 := by
  cases e with
  | unit e =>
      cases e with
      | rtc e => exact promptRtc_allowed advance s e
      | clock e => exact promptClock_allowed advance s e
      | writePrer v => exact ⟨s, .refl, rfl⟩
  | rcc e => cases e <;> exact ⟨s, .refl, rfl⟩

/-- A device that was left in the initialisation mode; its oscillator is off, and starts. -/
def leftStopped : RtcDevice where
  dbp := false
  domain := rccBdcrRtcsel rtcSrcHse ||| rccBdcrRtcen
  rtcpre := 0#32
  crystal := true
  hseon := false
  hserdy := false
  key := .unlocked
  init := true
  initf := true
  prer := 0#32
  calendar := resetCalendar
  quiet := 0

/-- A device that was just powered up, on a board without a crystal. -/
def coldDevice : RtcDevice where
  dbp := false
  domain := 0#32
  rtcpre := 0#32
  crystal := false
  hseon := false
  hserdy := false
  key := .locked
  init := false
  initf := false
  prer := 0x7F00FF#32
  calendar := resetCalendar
  quiet := 0

def setThenRead : List RtcCall :=
  [.setDatetimeRtc (some (noon 2024#16 6#8)), .getDatetimeRtc (some (noon 1980#16 1#8)),
    .setDateRtc none]

def coldGlobals : RtcGlobals := { isSyncDateRtc := 0#8, rtcInitialized := 0#32 }

/-- The clock is set and read; on the board without a crystal nothing returns. -/
theorem rtc_session_runs_set :
    (∃ g' s', Runs (rtcDevice (fun _ _ => False) 0) (rtcSession 1 setThenRead coldGlobals)
        leftStopped ([0, 0, 0, -1], g') s' ∧
      Counted (fun _ _ => False) 0 .runs setThenRead [0, 0, 0, -1] s') ∧
    ∀ statuses g' s', ¬Runs (rtcDevice (fun _ _ => False) 0)
      (rtcSession 1 setThenRead coldGlobals) coldDevice (statuses, g') s' := by
  have hexec : ((rtcSession 1 setThenRead coldGlobals).exec promptSession leftStopped).map
      (fun x => x.1.1) = some [0, 0, 0, -1] := by
    decide +kernel
  obtain ⟨g', s', hrun⟩ := Prog.exec_returns (promptSession_allowed _) hexec
  refine ⟨⟨g', s', hrun, ?_⟩, rtc_session_runs.2.2 rfl rfl⟩
  exact (rtc_session_runs.2.1 rfl (by decide) (by decide)).2 _ _ _ hrun

def RtcSessionEvent.setsTr : RtcSessionEvent → Bool
  | .unit (.rtc (.write .tr _)) => true
  | _ => false

/-- The time is about to be written. -/
theorem calendar_written_stopped_tr :
    ∃ (e : RtcSessionEvent) (k : e.Response → Prog _ _ (List Int × RtcGlobals)) (s' : RtcDevice),
      Reaches (rtcDevice (fun _ _ => False) 0) (rtcSession 1 setThenRead coldGlobals) leftStopped
        (.op e k) s' ∧
      e.SetsCalendar ∧ s'.Stopped := by
  have hnext : ((rtcSession 1 setThenRead coldGlobals).after promptSession 43
      leftStopped).1.next?.any RtcSessionEvent.setsTr = true := by
    decide +kernel
  obtain ⟨e, he, htr⟩ := (Option.any_eq_true _ _).1 hnext
  obtain ⟨k, hreach⟩ := Prog.after_op (promptSession_allowed (fun _ _ => False)) 43 he
  have hsets : e.SetsCalendar := by
    unfold RtcSessionEvent.setsTr at htr
    split at htr
    · exact .tr _
    · exact absurd htr Bool.false_ne_true
  exact ⟨e, k, _, hreach, hsets, calendar_written_stopped hreach hsets⟩

/-! ## Before `init_rtc` -/

/-- The setters whose argument is not refused. -/
def RtcCall.Accepted : RtcCall → Prop
  | .setDatetimeRtc (some datetime) => ¬99 < (bsdYear datetime.date.year).toNat
  | .setDateRtc (some date) => InCalendar date.year.toNat
  | .setTimeRtc (some _) => True
  | _ => False

/-- The status of a call before `init_rtc`, for those that return. -/
def RtcCall.earlyStatus : RtcCall → Int
  | .setDatetimeRtc none => -1
  | .setDatetimeRtc (some _) => -2
  | .setDateRtc none => -1
  | .setDateRtc (some _) => -2
  | _ => -1

/-- The power control still protects the device, which counts. -/
def Shut (s : RtcDevice) : Prop := s.dbp = false ∧ s.init = false ∧ s.initf = false

section Before

variable {advance : CalendarValue → CalendarValue → Prop} {delay fuel : Nat}
  {call : RtcCall} {calls : List RtcCall} {g g' : RtcGlobals} {s s' : RtcDevice}

theorem stable_shut : Stable (RtcDevice.Moves advance) Shut := by
  rintro s _ hmove ⟨hdbp, hinit, hinitf⟩
  cases hmove with
  | second => exact ⟨hdbp, hinit, hinitf⟩
  | stop _ hasked => exact absurd (hinit.symm.trans hasked) (by decide)
  | start => exact ⟨hdbp, hinit, hinitf⟩

theorem shut_neverStops : NeverStops advance delay Shut where
  moves := stable_shut
  initf _ h := h.2.2
  writeWpr s v h := by
    rw [RtcDevice.writeWpr, h.1, if_neg Bool.false_ne_true]
    exact h
  writeIsr s v h := by
    have hlocked : s.writable = false := by
      rw [RtcDevice.writable, h.1, Bool.false_and]
    rw [RtcDevice.writeIsr, hlocked, if_neg Bool.false_ne_true]
    exact h
  waits _ _ h := h

theorem wp_dividers_shut (h : Shut s) :
    (onRcc getRccClockDividers).wp (boardAlone advance delay) (fun _ => True)
      (fun _ _ s' => Shut s') g s := by
  have hread : ∀ (r : RccReg) (s₁ : RtcDevice), Shut s₁ →
      (readReg r).wp (rccAlone advance delay) (fun _ => True) (fun _ _ s' => Shut s') () s₁ := by
    intro r s₁ h₁
    refine wp_perform.2 ⟨trivial, ?_⟩
    rintro _ _ ⟨s₂, hmoves, rfl⟩
    exact stable_shut.turns hmoves h₁
  have hreads : getRccClockDividers.wp (rccAlone advance delay) (fun _ => True)
      (fun _ _ s' => Shut s') () s := by
    unfold getRccClockDividers
    refine wp_seq (hread _ _ h) fun _ _ s₁ h₁ => ?_
    refine wp_seq (hread _ _ h₁) fun _ _ s₂ h₂ => ?_
    refine wp_seq (hread _ _ h₂) fun _ _ s₃ h₃ => ?_
    refine wp_seq (hread _ _ h₃) fun _ _ s₄ h₄ => ?_
    exact h₄
  have haside : (onRcc getRccClockDividers).wp (boardAlone advance delay) (fun _ => True)
      (fun _ g' s' => g' = g ∧ Shut s') g s := by
    refine wp_aside ?_ ?_ hreads
    · exact fun _ _ _ _ _ => trivial
    · exact fun _ _ _ _ hstep => hstep
  exact wp_mono haside fun _ _ _ h => h.2

/-- A setter that accepts its argument never returns. -/
theorem wp_accepted_shut (hcall : call.Accepted) (h : Shut s) :
    (call.run fuel).wp (rtcDevice advance delay) (fun _ => True) (fun _ _ _ => False) g s := by
  cases call with
  | setDatetimeRtc datetime =>
      cases datetime with
      | none => exact hcall.elim
      | some datetime =>
          have haccepted : ¬bsdMaxYear < bsdYear datetime.date.year := hcall
          refine wp_onUnit ?_
          unfold setDatetimeRtc
          dsimp only
          rw [if_neg haccepted]
          exact wp_seq (shut_neverStops.wp_enterInit h) fun _ _ _ hreturned => hreturned.elim
  | setDateRtc date =>
      cases date with
      | none => exact hcall.elim
      | some date =>
          have haccepted : ¬((date.year.toNat : Int) - 1980 > 99 ∨
              (date.year.toNat : Int) - 1980 < 0) := by
            obtain ⟨hlow, hhigh⟩ := hcall
            omega
          refine wp_onBoard ?_
          unfold setDateRtc
          dsimp only
          rw [if_neg haccepted]
          refine wp_seq (wp_dividers_shut h) fun _ _ s₁ h₁ => ?_
          refine wp_onRtc_device ?_
          exact wp_seq (shut_neverStops.wp_enterInit h₁) fun _ _ _ hreturned => hreturned.elim
  | setTimeRtc time =>
      cases time with
      | none => exact hcall.elim
      | some time =>
          refine wp_onUnit ?_
          exact wp_seq (shut_neverStops.wp_enterInit h) fun _ _ _ hreturned => hreturned.elim
  | getDatetimeRtc datetime => exact hcall.elim
  | getDateRts blank date => exact hcall.elim
  | getTimeRts blank time => exact hcall.elim

theorem getDatetimeRtc_early {datetime : Option RtcDateTime} (hg : g.rtcInitialized = 0#32) :
    getDatetimeRtc fuel datetime g = .ret ((-1, datetime), g) := by
  show (if datetime = none ∨ g.rtcInitialized = 0#32 then _ else _ : RtcProc _) g = _
  rw [if_pos (Or.inr hg)]
  rfl

theorem getDateRts_early {blank : RtcDateTime} {date : Option RtcDate}
    (hg : g.rtcInitialized = 0#32) : getDateRts fuel blank date g = .ret ((-1, date), g) := by
  show (if date = none ∨ g.rtcInitialized = 0#32 then _ else _ : RtcProc _) g = _
  rw [if_pos (Or.inr hg)]
  rfl

theorem getTimeRts_early {blank : RtcDateTime} {time : Option RtcTime}
    (hg : g.rtcInitialized = 0#32) : getTimeRts fuel blank time g = .ret ((-1, time), g) := by
  show (if time = none ∨ g.rtcInitialized = 0#32 then _ else _ : RtcProc _) g = _
  rw [if_pos (Or.inr hg)]
  rfl

/-- Where a read returns without an access, so does its status. -/
theorem onUnit_status {α : Type} {p : RtcProc (Int × α)} {status : Int} {a : α}
    (hp : p g = .ret ((status, a), g)) :
    onUnit (p >>= fun result => pure result.1) g = .ret (status, g) := by
  show Prog.embed _ _ ((p g).bind _) = _
  rw [hp]
  rfl

/-- Any other call returns without an access. -/
theorem run_early (hg : g.rtcInitialized = 0#32) (hcall : ¬call.Accepted) :
    call.run fuel g = .ret (call.earlyStatus, g) := by
  cases call with
  | setDatetimeRtc datetime =>
      cases datetime with
      | none => rfl
      | some datetime =>
          have hrefused : bsdMaxYear < bsdYear datetime.date.year := not_not.1 hcall
          show onUnit (setDatetimeRtc fuel (some datetime)) g = _
          unfold setDatetimeRtc
          dsimp only
          rw [if_pos hrefused]
          rfl
  | setDateRtc date =>
      cases date with
      | none => rfl
      | some date =>
          have hrefused : (date.year.toNat : Int) - 1980 > 99 ∨
              (date.year.toNat : Int) - 1980 < 0 := by
            rw [RtcCall.Accepted, InCalendar] at hcall
            omega
          show onBoard (setDateRtc fuel (some date)) g = _
          unfold setDateRtc
          dsimp only
          rw [if_pos hrefused]
          rfl
  | setTimeRtc time =>
      cases time with
      | none => rfl
      | some time => exact absurd trivial hcall
  | getDatetimeRtc datetime => exact onUnit_status (getDatetimeRtc_early hg)
  | getDateRts blank date => exact onUnit_status (getDateRts_early hg)
  | getTimeRts blank time => exact onUnit_status (getTimeRts_early hg)

/-- Before `init_rtc`, calls return exactly if no setter among them accepts its argument; they fail
then, and change nothing. -/
theorem calls_before_init {statuses : List Int} (hg : g.rtcInitialized = 0#32) (h : Shut s) :
    Runs (rtcDevice advance delay) (runRtcCalls fuel calls g) s (statuses, g') s' ↔
      (∀ call ∈ calls, ¬call.Accepted) ∧ statuses = calls.map RtcCall.earlyStatus ∧
        g' = g ∧ s' = s := by
  induction calls generalizing statuses with
  | nil =>
      constructor
      · intro hrun
        cases hrun
        exact ⟨fun _ hmem => absurd hmem List.not_mem_nil, rfl, rfl, rfl⟩
      · rintro ⟨-, rfl, rfl, rfl⟩
        exact .ret _ _
  | cons call calls ih =>
      by_cases hcall : call.Accepted
      · constructor
        · intro hrun
          obtain ⟨_, _, _, hfirst, -⟩ := Proc.runs_bind_iff.1 hrun
          exact (wp_runs (wp_accepted_shut hcall h) hfirst).elim
        · rintro ⟨hnone, -⟩
          exact absurd hcall (hnone call List.mem_cons_self)
      · have hcalls : (∀ other ∈ call :: calls, ¬other.Accepted) ↔
            ∀ other ∈ calls, ¬other.Accepted := by
          simp [hcall]
        have hrest : runRtcCalls fuel (call :: calls) g =
            (runRtcCalls fuel calls >>= fun rest => pure (call.earlyStatus :: rest)) g := by
          show (call.run fuel g).bind _ = _
          rw [run_early hg hcall]
          rfl
        rw [hrest, hcalls, Proc.runs_bind_iff]
        constructor
        · rintro ⟨rest, g₁, s₁, hrun, hlast⟩
          cases hlast
          obtain ⟨hnone, rfl, rfl, rfl⟩ := ih.1 hrun
          exact ⟨hnone, rfl, rfl, rfl⟩
        · rintro ⟨hnone, rfl, rfl, rfl⟩
          exact ⟨_, _, _, ih.2 ⟨hnone, rfl, rfl, rfl⟩, .ret _ _⟩

end Before

/-- The time is not read, and the call that sets it does not return. -/
theorem calls_before_init_cold :
    Runs (rtcDevice (fun _ _ => True) 0) (runRtcCalls 3 [.getTimeRts (noon 1980#16 1#8) none]
        coldGlobals) coldDevice ([-1], coldGlobals) coldDevice ∧
      ¬∃ statuses g' s', Runs (rtcDevice (fun _ _ => True) 0)
        (runRtcCalls 3 [.setTimeRtc (some (noon 1980#16 1#8).time)] coldGlobals) coldDevice
        (statuses, g') s' := by
  have hshut : Shut coldDevice := ⟨rfl, rfl, rfl⟩
  constructor
  · refine (calls_before_init rfl hshut).2 ⟨?_, rfl, rfl, rfl⟩
    intro call hmem hcall
    rw [List.mem_singleton.1 hmem] at hcall
    exact hcall
  · rintro ⟨statuses, g', s', hrun⟩
    exact ((calls_before_init rfl hshut).1 hrun).1 _ (List.mem_singleton.2 rfl) trivial

end Core
end SdioFat32
